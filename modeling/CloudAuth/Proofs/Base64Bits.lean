import CloudAuth.Proofs.Base64Reading

/-!
# Base64 regroups bits

Base64 says the bits of some bytes again, six in each character instead of eight in each byte, and fills
the last character up with zeros. `HoldsBits` is that relation, told from the table of the alphabet and
without the encoder or the decoder. The encoder writes the one text that is so related to the bytes, and
the decoder reads no other text, so without padding the two are inverse to each other.
-/

namespace CloudAuth.Base64

/-- The last `width` bits of a number, the most significant one first. -/
def bits : (width n : Nat) → List Bool
  | 0, _ => []
  | width + 1, n => bits width (n / 2) ++ [n % 2 == 1]

/-- There are as many bits as are asked for. -/
@[simp]
theorem length_bits (width n : Nat) : (bits width n).length = width := by
  induction width generalizing n with
  | zero => rfl
  | succ width ih => simp [bits, ih]

/-- The bits of a number are those in front of the last few, and then these. -/
theorem bits_add (width few n : Nat) : bits (width + few) n = bits width (n / 2 ^ few) ++ bits few n := by
  induction few generalizing n with
  | zero => simp [bits]
  | succ few ih =>
    rw [← Nat.add_assoc, bits, ih, bits, List.append_assoc, Nat.div_div_eq_div_mul, Nat.pow_succ']

/-- The last bits of a number are those of its remainder. -/
theorem bits_mod (width n : Nat) : bits width (n % 2 ^ width) = bits width n := by
  induction width generalizing n with
  | zero => rfl
  | succ width ih =>
    have hhalf : n % 2 ^ (width + 1) / 2 = n / 2 % 2 ^ width := by
      rw [Nat.pow_succ', Nat.mod_mul_right_div_self]
    have hlast : n % 2 ^ (width + 1) % 2 = n % 2 :=
      Nat.mod_mod_of_dvd n (Dvd.intro_left (2 ^ width) rfl)
    rw [bits, bits, hhalf, hlast, ih]

/-- The bits of a number are those of its quotient, and then those of its remainder. -/
theorem bits_append_mod (width few n : Nat) :
    bits width (n / 2 ^ few) ++ bits few (n % 2 ^ few) = bits (width + few) n := by
  rw [bits_mod, bits_add]

/-- The bits of zero are zeros. -/
theorem bits_zero (width : Nat) : bits width 0 = List.replicate width false := by
  induction width with
  | zero => rfl
  | succ width ih =>
    rw [bits, Nat.zero_div, ih, List.replicate_succ']
    rfl

/-- A number that is shifted has its bits in front of zeros. -/
theorem bits_mul_pow (width few n : Nat) :
    bits (width + few) (n * 2 ^ few) = bits width n ++ List.replicate few false := by
  rw [← bits_append_mod, Nat.mul_div_cancel _ (Nat.two_pow_pos few), Nat.mul_mod_left, bits_zero]

/-- A number that its bits have room for is known from them. -/
theorem eq_of_bits_eq {width n m : Nat} (hbits : bits width n = bits width m) (hn : n < 2 ^ width)
    (hm : m < 2 ^ width) : n = m := by
  induction width generalizing n m with
  | zero =>
    rw [Nat.lt_one_iff.mp hn, Nat.lt_one_iff.mp hm]
  | succ width ih =>
    obtain ⟨hfront, hlast⟩ := List.append_inj' hbits rfl
    have hhalf : n / 2 = m / 2 := by
      refine ih hfront ?_ ?_
      · rw [Nat.pow_succ'] at hn
        omega
      · rw [Nat.pow_succ'] at hm
        omega
    have hparity : n % 2 = 1 ↔ m % 2 = 1 := by simpa using List.singleton_inj.mp hlast
    omega

/-- Pieces of one length are known from what they are together. -/
theorem eq_of_flatMap_eq {α β : Type} {f : α → List β} {size : Nat} (hsize : 0 < size)
    (hlength : ∀ a, (f a).length = size) {as bs : List α}
    (hinjective : ∀ a ∈ as, ∀ b ∈ bs, f a = f b → a = b) (hjoined : as.flatMap f = bs.flatMap f) :
    as = bs := by
  induction as generalizing bs with
  | nil =>
    cases bs with
    | nil => rfl
    | cons b bs =>
      have hnone : (f b).length = 0 := by
        rw [(List.append_eq_nil_iff.mp hjoined.symm).1, List.length_nil]
      rw [hlength] at hnone
      omega
  | cons a as ih =>
    cases bs with
    | nil =>
      have hnone : (f a).length = 0 := by
        rw [(List.append_eq_nil_iff.mp hjoined).1, List.length_nil]
      rw [hlength] at hnone
      omega
    | cons b bs =>
      obtain ⟨hfirst, hrest⟩ := List.append_inj hjoined ((hlength a).trans (hlength b).symm)
      rw [hinjective a List.mem_cons_self b List.mem_cons_self hfirst]
      refine congrArg (b :: ·) (ih (fun a ha b hb => ?_) hrest)
      exact hinjective a (List.mem_cons_of_mem _ ha) b (List.mem_cons_of_mem _ hb)

/-- The bits of some bytes. -/
def byteBits (bytes : Bytes) : List Bool := bytes.flatMap fun b => bits 8 b.toNat

/-- A byte has eight bits. -/
theorem length_byteBits (bytes : Bytes) : (byteBits bytes).length = 8 * bytes.length := by
  rw [byteBits, List.length_flatMap]
  simp [Nat.mul_comm]

/-- The bits of some bytes are those of their number. -/
theorem byteBits_eq (bytes : Bytes) : byteBits bytes = bits (8 * bytes.length) (Bytes.toNat bytes) := by
  -- A number is made from the left, so the induction takes the bytes from the right.
  induction bytes using List.reverseRecOn with
  | nil => rfl
  | append_singleton init last ih =>
    have hlast := last.toNat_lt
    have hquotient : (Bytes.toNat init * 256 + last.toNat) / 2 ^ 8 = Bytes.toNat init := by omega
    have hremainder : (Bytes.toNat init * 256 + last.toNat) % 2 ^ 8 = last.toNat := by omega
    rw [List.length_append, List.length_singleton, Nat.mul_add, Bytes.toNat_concat, Nat.mul_one,
      ← bits_append_mod, hquotient, hremainder, ← ih, byteBits, List.flatMap_append,
      List.flatMap_singleton, byteBits]

/-- Bytes are known from their bits. -/
theorem eq_of_byteBits_eq {bytes others : Bytes} (hbits : byteBits bytes = byteBits others) :
    bytes = others := by
  have hlength (b : UInt8) : (bits 8 b.toNat).length = 8 := length_bits 8 b.toNat
  refine eq_of_flatMap_eq (by decide) hlength (fun a _ b _ hsame => ?_) hbits
  have hnumber : a.toNat = b.toNat := eq_of_bits_eq hsame a.toNat_lt b.toNat_lt
  exact UInt8.toNat_inj.mp hnumber

namespace Alphabet

/-- The characters of the alphabet in the order of their numbers. -/
def symbols : Alphabet → List Char
  | standard => "ABCDEFGHIJKLMNOPQRSTUVWXYZabcdefghijklmnopqrstuvwxyz0123456789+/".toList
  | urlSafe => "ABCDEFGHIJKLMNOPQRSTUVWXYZabcdefghijklmnopqrstuvwxyz0123456789-_".toList

/-- The character of a number below 64 stands at its place. -/
theorem idxOf_symbol (alphabet : Alphabet) {n : Nat} (hn : n < 64) :
    alphabet.symbols.idxOf (alphabet.symbol n) = n := by
  revert n
  cases alphabet <;> decide +kernel

/-- The alphabet has the character of a number below 64. -/
theorem symbol_mem_symbols (alphabet : Alphabet) {n : Nat} (hn : n < 64) :
    alphabet.symbol n ∈ alphabet.symbols := by
  rw [← List.idxOf_lt_length_iff, alphabet.idxOf_symbol hn]
  cases alphabet <;> exact hn

/-- A character with a number is the one of that number, which is below 64. -/
theorem symbol_of_value? {alphabet : Alphabet} {c : Char} {n : Nat} (hvalue : alphabet.value? c = some n) :
    n < 64 ∧ alphabet.symbol n = c := by
  unfold value? at hvalue
  split at hvalue
  · next hupper =>
    have hfirst : 65 ≤ c.toNat := hupper.1
    have hlast : c.toNat ≤ 90 := hupper.2
    cases hvalue
    have hnumber : 65 + (c.toNat - 65) = c.toNat := by omega
    refine ⟨by omega, ?_⟩
    rw [symbol, if_pos (by omega), hnumber, Char.ofNat_toNat]
  · split at hvalue
    · next hlower =>
      have hfirst : 97 ≤ c.toNat := hlower.1
      have hlast : c.toNat ≤ 122 := hlower.2
      cases hvalue
      have hnumber : 71 + (c.toNat - 71) = c.toNat := by omega
      refine ⟨by omega, ?_⟩
      rw [symbol, if_neg (by omega), if_pos (by omega), hnumber, Char.ofNat_toNat]
    · split at hvalue
      · next hdigit =>
        have hfirst : 48 ≤ c.toNat := hdigit.1
        have hlast : c.toNat ≤ 57 := hdigit.2
        cases hvalue
        have hnumber : c.toNat + 4 - 4 = c.toNat := by omega
        refine ⟨by omega, ?_⟩
        rw [symbol, if_neg (by omega), if_neg (by omega), if_pos (by omega), hnumber, Char.ofNat_toNat]
      · split at hvalue
        · next h62 =>
          cases hvalue
          exact ⟨by decide, h62.symm⟩
        · split at hvalue
          · next h63 =>
            cases hvalue
            exact ⟨by decide, h63.symm⟩
          · contradiction

end Alphabet

variable (alphabet : Alphabet)

/-- The bits that the characters of a text stand for. -/
def textBits (cs : List Char) : List Bool := cs.flatMap fun c => bits 6 (alphabet.symbols.idxOf c)

/-- A text holds the bits of some bytes: its characters are of the alphabet, and its last one is filled up
with zeros. -/
structure HoldsBits (cs : List Char) (bytes : Bytes) : Prop where
  /-- The characters are of the alphabet. -/
  symbols : ∀ c ∈ cs, c ∈ alphabet.symbols
  /-- The bits of the bytes come first, and then fewer than another character would hold. -/
  bits : ∃ spare < 6, textBits alphabet cs = byteBits bytes ++ List.replicate spare false

variable {alphabet}

/-- A character has six bits. -/
theorem length_textBits (cs : List Char) : (textBits alphabet cs).length = 6 * cs.length := by
  rw [textBits, List.length_flatMap]
  simp [Nat.mul_comm]

/-- A text is known from its bits. -/
theorem eq_of_textBits_eq {cs others : List Char} (hcs : ∀ c ∈ cs, c ∈ alphabet.symbols)
    (hothers : ∀ c ∈ others, c ∈ alphabet.symbols)
    (hbits : textBits alphabet cs = textBits alphabet others) : cs = others := by
  have hroom (c : Char) (hc : c ∈ alphabet.symbols) : alphabet.symbols.idxOf c < 2 ^ 6 := by
    have hlt := List.idxOf_lt_length_iff.mpr hc
    have hlength : alphabet.symbols.length = 2 ^ 6 := by cases alphabet <;> decide +kernel
    rwa [hlength] at hlt
  refine eq_of_flatMap_eq (by decide) (fun c => length_bits 6 _) (fun c hc d hd hsame => ?_) hbits
  have hplace := eq_of_bits_eq hsame (hroom c (hcs c hc)) (hroom d (hothers d hd))
  exact (List.idxOf_inj (hcs c hc)).mp hplace

namespace HoldsBits

/-- The length of a text that holds the bits of some bytes. -/
theorem length_bounds {cs : List Char} {bytes : Bytes} (hholds : HoldsBits alphabet cs bytes) :
    8 * bytes.length ≤ 6 * cs.length ∧ 6 * cs.length < 8 * bytes.length + 6 := by
  obtain ⟨spare, hspare, hbits⟩ := hholds.bits
  have hlength := congrArg List.length hbits
  rw [length_textBits, List.length_append, length_byteBits, List.length_replicate] at hlength
  omega

/-- One text alone holds the bits of some bytes. -/
theorem text_unique {cs others : List Char} {bytes : Bytes} (hholds : HoldsBits alphabet cs bytes)
    (hothers : HoldsBits alphabet others bytes) : cs = others := by
  have hbounds := hholds.length_bounds
  have hotherBounds := hothers.length_bounds
  obtain ⟨spare, hspare, hbits⟩ := hholds.bits
  obtain ⟨otherSpare, hotherSpare, hotherBits⟩ := hothers.bits
  have hlengths : cs.length = others.length := by omega
  have hspares : spare = otherSpare := by
    have hlength := congrArg List.length hbits
    have hotherLength := congrArg List.length hotherBits
    rw [length_textBits, List.length_append, List.length_replicate] at hlength hotherLength
    omega
  refine eq_of_textBits_eq hholds.symbols hothers.symbols ?_
  rw [hbits, hotherBits, hspares]

/-- A text holds the bits of no other bytes. -/
theorem bytes_unique {cs : List Char} {bytes others : Bytes} (hholds : HoldsBits alphabet cs bytes)
    (hothers : HoldsBits alphabet cs others) : bytes = others := by
  have hbounds := hholds.length_bounds
  have hotherBounds := hothers.length_bounds
  obtain ⟨spare, -, hbits⟩ := hholds.bits
  obtain ⟨otherSpare, -, hotherBits⟩ := hothers.bits
  -- A whole byte does not fit into the spare bits, so the bytes are as many.
  have hlengths : (byteBits bytes).length = (byteBits others).length := by
    rw [length_byteBits, length_byteBits]
    omega
  exact eq_of_byteBits_eq (List.append_inj (hbits.symm.trans hotherBits) hlengths).1

end HoldsBits

variable (alphabet)

/-- The bits of a text, one character after the other. -/
theorem textBits_symbol_cons {n : Nat} (hn : n < 64) (cs : List Char) :
    textBits alphabet (alphabet.symbol n :: cs) = bits 6 n ++ textBits alphabet cs := by
  rw [textBits, List.flatMap_cons, alphabet.idxOf_symbol hn]
  rfl

/-- Two characters hold the bits of a number of twelve. -/
theorem bits_two (n : Nat) : bits 6 (n / 64) ++ bits 6 (n % 64) = bits 12 n := bits_append_mod 6 6 n

/-- Three characters hold the bits of a number of eighteen. -/
theorem bits_three (n : Nat) :
    bits 6 (n / 4096) ++ (bits 6 (n / 64 % 64) ++ bits 6 (n % 64)) = bits 18 n := by
  have hdiv : n / 4096 = n / 64 / 64 := by omega
  rw [hdiv, ← List.append_assoc, bits_two]
  exact bits_append_mod 12 6 n

/-- Four characters hold the bits of a number of twenty-four. -/
theorem bits_four (n : Nat) :
    bits 6 (n / 262144) ++ (bits 6 (n / 4096 % 64) ++ (bits 6 (n / 64 % 64) ++ bits 6 (n % 64))) =
      bits 24 n := by
  have hdiv : n / 262144 = n / 64 / 4096 := by omega
  have hmiddle : n / 4096 = n / 64 / 64 := by omega
  rw [hdiv, hmiddle, ← List.append_assoc (bits 6 (n / 64 / 64 % 64)), ← List.append_assoc, bits_three]
  exact bits_append_mod 18 6 n

/-- The text that the encoder writes holds the bits of the bytes, and then zeros. -/
theorem exists_textBits_encodeBare (bytes : Bytes) : ∃ spare < 6,
    textBits alphabet (encodeBare alphabet bytes) = byteBits bytes ++ List.replicate spare false := by
  fun_induction encode alphabet bytes with
  | case1 =>
    rw [encodeBare_nil]
    exact ⟨0, by decide, rfl⟩
  | case2 a n =>
    have ha := a.toNat_lt
    have hnumber : Bytes.toNat [a] = a.toNat := by simp [Bytes.toNat]
    refine ⟨4, by decide, ?_⟩
    rw [encodeBare_one alphabet a rfl, textBits_symbol_cons alphabet (by omega),
      textBits_symbol_cons alphabet (by omega), byteBits_eq, hnumber]
    calc bits 6 (n / 64) ++ (bits 6 (n % 64) ++ [])
      _ = bits 12 n := by rw [List.append_nil, bits_two]
      _ = bits 8 a.toNat ++ List.replicate 4 false := bits_mul_pow 8 4 _
  | case3 a b n =>
    have ha := a.toNat_lt
    have hb := b.toNat_lt
    have hnumber : Bytes.toNat [a, b] = a.toNat * 256 + b.toNat := by simp [Bytes.toNat]
    refine ⟨2, by decide, ?_⟩
    rw [encodeBare_two alphabet a b rfl, textBits_symbol_cons alphabet (by omega),
      textBits_symbol_cons alphabet (by omega), textBits_symbol_cons alphabet (by omega), byteBits_eq,
      hnumber]
    calc bits 6 (n / 4096) ++ (bits 6 (n / 64 % 64) ++ (bits 6 (n % 64) ++ []))
      _ = bits 18 n := by rw [List.append_nil, bits_three]
      _ = bits 16 (a.toNat * 256 + b.toNat) ++ List.replicate 2 false := bits_mul_pow 16 2 _
  | case4 a b c rest n ih =>
    have ha := a.toNat_lt
    have hb := b.toNat_lt
    have hc := c.toNat_lt
    have hnumber : Bytes.toNat [a, b, c] = n := by simp [Bytes.toNat, n]
    obtain ⟨spare, hspare, hrest⟩ := ih
    refine ⟨spare, hspare, ?_⟩
    rw [encodeBare_cons_three alphabet a b c rest rfl, textBits_symbol_cons alphabet (by omega),
      textBits_symbol_cons alphabet (by omega), textBits_symbol_cons alphabet (by omega),
      textBits_symbol_cons alphabet (by omega), hrest]
    calc bits 6 (n / 262144) ++ (bits 6 (n / 4096 % 64) ++ (bits 6 (n / 64 % 64) ++
          (bits 6 (n % 64) ++ (byteBits rest ++ List.replicate spare false))))
      _ = bits 24 n ++ (byteBits rest ++ List.replicate spare false) := by
        rw [← bits_four]
        simp only [List.append_assoc]
      _ = byteBits [a, b, c] ++ (byteBits rest ++ List.replicate spare false) := by
        rw [byteBits_eq [a, b, c], hnumber]
        rfl
      _ = byteBits (a :: b :: c :: rest) ++ List.replicate spare false := by
        rw [← List.append_assoc, byteBits, byteBits, ← List.flatMap_append]
        rfl

/-- The text that the encoder writes holds the bits of the bytes. -/
theorem holdsBits_encodeBare (bytes : Bytes) : HoldsBits alphabet (encodeBare alphabet bytes) bytes where
  symbols c hc := by
    obtain ⟨n, hvalue⟩ := Option.isSome_iff_exists.mp (contains_of_mem_encodeBare alphabet hc)
    obtain ⟨hn, hsymbol⟩ := Alphabet.symbol_of_value? hvalue
    exact hsymbol ▸ alphabet.symbol_mem_symbols hn
  bits := exists_textBits_encodeBare alphabet bytes

/-- The text that holds the bits of some bytes is the one that the encoder writes. -/
theorem holdsBits_iff (cs : List Char) (bytes : Bytes) :
    HoldsBits alphabet cs bytes ↔ encodeBare alphabet bytes = cs := by
  constructor
  · exact fun hholds => (holdsBits_encodeBare alphabet bytes).text_unique hholds
  · rintro rfl
    exact holdsBits_encodeBare alphabet bytes

variable {alphabet}

/-- A last group of two characters is read as what is written with them. -/
theorem encode_of_decodeTwo {a b : Char} {bytes : Bytes} (hread : decodeTwo alphabet a b = some bytes) :
    encode alphabet bytes = [a, b, '=', '='] := by
  simp only [decodeTwo, Option.bind_eq_bind, Option.bind_eq_some_iff] at hread
  obtain ⟨x, hx, y, hy, hread⟩ := hread
  obtain ⟨hxroom, rfl⟩ := Alphabet.symbol_of_value? hx
  obtain ⟨hyroom, rfl⟩ := Alphabet.symbol_of_value? hy
  split at hread
  · next hspare =>
    cases hread
    have hbyte : (UInt8.ofNat ((x * 64 + y) / 16)).toNat * 16 = x * 64 + y := by
      rw [UInt8.toNat_ofNat']
      omega
    have hfirst : (x * 64 + y) / 64 = x := by omega
    have hsecond : (x * 64 + y) % 64 = y := by omega
    rw [encode]
    simp only [hbyte, hfirst, hsecond]
  · contradiction

/-- A last group of three characters is read as what is written with them. -/
theorem encode_of_decodeThree {a b c : Char} {bytes : Bytes}
    (hread : decodeThree alphabet a b c = some bytes) : encode alphabet bytes = [a, b, c, '='] := by
  simp only [decodeThree, Option.bind_eq_bind, Option.bind_eq_some_iff] at hread
  obtain ⟨x, hx, y, hy, z, hz, hread⟩ := hread
  obtain ⟨hxroom, rfl⟩ := Alphabet.symbol_of_value? hx
  obtain ⟨hyroom, rfl⟩ := Alphabet.symbol_of_value? hy
  obtain ⟨hzroom, rfl⟩ := Alphabet.symbol_of_value? hz
  split at hread
  · next hspare =>
    cases hread
    have hbytes : ((UInt8.ofNat (((x * 64 + y) * 64 + z) / 1024)).toNat * 256 +
        (UInt8.ofNat (((x * 64 + y) * 64 + z) / 4)).toNat) * 4 = (x * 64 + y) * 64 + z := by
      rw [UInt8.toNat_ofNat', UInt8.toNat_ofNat']
      omega
    have hfirst : ((x * 64 + y) * 64 + z) / 4096 = x := by omega
    have hsecond : ((x * 64 + y) * 64 + z) / 64 % 64 = y := by omega
    have hthird : ((x * 64 + y) * 64 + z) % 64 = z := by omega
    rw [encode]
    simp only [hbytes, hfirst, hsecond, hthird]
  · contradiction

/-- A group of four characters is read as what is written with them, in front of any rest. -/
theorem encode_of_decodeFour {a b c d : Char} {bytes : Bytes}
    (hread : decodeFour alphabet a b c d = some bytes) (rest : Bytes) :
    encode alphabet (bytes ++ rest) = a :: b :: c :: d :: encode alphabet rest := by
  simp only [decodeFour, Option.bind_eq_bind, Option.bind_eq_some_iff] at hread
  obtain ⟨x, hx, y, hy, z, hz, w, hw, hread⟩ := hread
  obtain ⟨hxroom, rfl⟩ := Alphabet.symbol_of_value? hx
  obtain ⟨hyroom, rfl⟩ := Alphabet.symbol_of_value? hy
  obtain ⟨hzroom, rfl⟩ := Alphabet.symbol_of_value? hz
  obtain ⟨hwroom, rfl⟩ := Alphabet.symbol_of_value? hw
  cases hread
  have hbytes : ((UInt8.ofNat ((((x * 64 + y) * 64 + z) * 64 + w) / 65536)).toNat * 256 +
      (UInt8.ofNat ((((x * 64 + y) * 64 + z) * 64 + w) / 256)).toNat) * 256 +
        (UInt8.ofNat (((x * 64 + y) * 64 + z) * 64 + w)).toNat = ((x * 64 + y) * 64 + z) * 64 + w := by
    rw [UInt8.toNat_ofNat', UInt8.toNat_ofNat', UInt8.toNat_ofNat']
    omega
  have hfirst : (((x * 64 + y) * 64 + z) * 64 + w) / 262144 = x := by omega
  have hsecond : (((x * 64 + y) * 64 + z) * 64 + w) / 4096 % 64 = y := by omega
  have hthird : (((x * 64 + y) * 64 + z) * 64 + w) / 64 % 64 = z := by omega
  have hfourth : (((x * 64 + y) * 64 + z) * 64 + w) % 64 = w := by omega
  rw [List.cons_append, List.cons_append, List.cons_append, List.nil_append, encode]
  simp only [hbytes, hfirst, hsecond, hthird, hfourth]

/-- A padded text that is read is the one of what is read. -/
theorem encode_of_decode? {cs : List Char} {bytes : Bytes} (hread : decode? alphabet cs = some bytes) :
    encode alphabet bytes = cs := by
  fun_induction decode? alphabet cs generalizing bytes with
  | case1 =>
    cases hread
    rw [encode]
  | case2 a b => exact encode_of_decodeTwo hread
  | case3 a b c hc => exact encode_of_decodeThree hread
  | case4 a b c d rest hc hd ih =>
    obtain ⟨first, hfirst, hread⟩ := Option.bind_eq_some_iff.mp hread
    obtain ⟨others, hothers, hread⟩ := Option.bind_eq_some_iff.mp hread
    cases hread
    rw [encode_of_decodeFour hfirst, ih hothers]
  | case5 => contradiction

/-- A text without the padding character is the same when it is padded and trimmed again. -/
theorem trimPadding_addPadding {cs : List Char} (hcs : '=' ∉ cs) : trimPadding (addPadding cs) = cs := by
  rw [addPadding]
  generalize (4 - cs.length % 4) % 4 = count
  induction cs with
  | nil => simp [trimPadding]
  | cons c cs ih =>
    rw [List.mem_cons, not_or] at hcs
    rw [List.cons_append, trimPadding_cons (Ne.symm hcs.1), ih hcs.2]

variable (alphabet)

/-- A text without padding is read as some bytes exactly when it is the one that the encoder writes. -/
theorem decodeBare?_eq_some_iff (cs : List Char) (bytes : Bytes) :
    decodeBare? alphabet cs = some bytes ↔ encodeBare alphabet bytes = cs := by
  constructor
  · intro hread
    unfold decodeBare? at hread
    split at hread
    · contradiction
    · next hbare =>
      rw [List.contains_iff_mem] at hbare
      rw [encodeBare, encode_of_decode? hread, trimPadding_addPadding hbare]
  · rintro rfl
    exact decodeBare?_encodeBare alphabet bytes

end CloudAuth.Base64
