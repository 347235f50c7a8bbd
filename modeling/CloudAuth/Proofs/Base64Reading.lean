import CloudAuth.Codec.Base64
import CloudAuth.Proofs.BigEndian

/-!
# Base64 is read back

The texts that the encoder writes are made of the characters of the alphabet, with padding at the end or
without it, and the decoder gives the bytes back from either.
-/

namespace CloudAuth.Base64

namespace Alphabet

/-- The character is one of the alphabet's. -/
def Contains (alphabet : Alphabet) (c : Char) : Prop := (alphabet.value? c).isSome = true

instance (alphabet : Alphabet) (c : Char) : Decidable (alphabet.Contains c) :=
  inferInstanceAs (Decidable (_ = true))

/-- The character of a number below 64 has that number. -/
theorem value?_symbol (alphabet : Alphabet) {n : Nat} (hn : n < 64) :
    alphabet.value? (alphabet.symbol n) = some n := by
  revert n
  cases alphabet <;> decide

/-- The character of a number below 64 is one of the alphabet's. -/
theorem contains_symbol (alphabet : Alphabet) {n : Nat} (hn : n < 64) :
    alphabet.Contains (alphabet.symbol n) := by
  rw [Contains, alphabet.value?_symbol hn, Option.isSome_some]

/-- The character for padding is none of the alphabet's. -/
theorem not_contains_padding (alphabet : Alphabet) : ¬ alphabet.Contains '=' := by
  cases alphabet <;> decide

/-- The character of a number below 64 is not the one for padding. -/
theorem symbol_ne_padding (alphabet : Alphabet) {n : Nat} (hn : n < 64) :
    alphabet.symbol n ≠ '=' := by
  intro hpadding
  apply alphabet.not_contains_padding
  rw [← hpadding]
  exact alphabet.contains_symbol hn

/-- The alphabet for addresses is made of letters, digits, the hyphen and the underscore. -/
theorem contains_urlSafe_iff (c : Char) :
    urlSafe.Contains c ↔ c.isAlphanum = true ∨ c = '-' ∨ c = '_' := by
  have hcases : c.isAlphanum = true ↔
      ('A' ≤ c ∧ c ≤ 'Z') ∨ ('a' ≤ c ∧ c ≤ 'z') ∨ ('0' ≤ c ∧ c ≤ '9') := by
    simp only [Char.isAlphanum, Char.isAlpha, Char.isUpper, Char.isLower, Char.isDigit,
      Bool.or_eq_true, Bool.and_eq_true, decide_eq_true_eq, or_assoc]
    exact Iff.rfl
  rw [hcases]
  unfold Contains value? symbol62 symbol63
  dsimp only
  split
  · next h => simp [h]
  · next hupper =>
    split
    · next h => simp [h]
    · next hlower =>
      split
      · next h => simp [h]
      · next hdigit =>
        simp only [hupper, hlower, hdigit, false_or]
        split
        · next h => simp [h]
        · next hhyphen =>
          split
          · next h => simp [h]
          · next hunderscore => simp [hhyphen, hunderscore]

end Alphabet

variable (alphabet : Alphabet)

/-- A last group of one byte is read back. -/
theorem decodeTwo_symbols (a : UInt8) {n : Nat} (hn : n = a.toNat * 16) :
    decodeTwo alphabet (alphabet.symbol (n / 64)) (alphabet.symbol (n % 64)) = some [a] := by
  have ha := a.toNat_lt
  have hjoined : n / 64 * 64 + n % 64 = n := by omega
  have hbyte : UInt8.ofNat (n / 16) = a := Bytes.byte_eq_of_mod (by omega)
  unfold decodeTwo
  rw [alphabet.value?_symbol (by omega), alphabet.value?_symbol (by omega)]
  dsimp only [bind, Option.bind]
  rw [hjoined, if_pos (by omega), hbyte]

/-- A last group of two bytes is read back. -/
theorem decodeThree_symbols (a b : UInt8) {n : Nat} (hn : n = (a.toNat * 256 + b.toNat) * 4) :
    decodeThree alphabet (alphabet.symbol (n / 4096)) (alphabet.symbol (n / 64 % 64))
      (alphabet.symbol (n % 64)) = some [a, b] := by
  have ha := a.toNat_lt
  have hb := b.toNat_lt
  have hjoined : (n / 4096 * 64 + n / 64 % 64) * 64 + n % 64 = n := by omega
  have hfirst : UInt8.ofNat (n / 1024) = a := Bytes.byte_eq_of_mod (by omega)
  have hsecond : UInt8.ofNat (n / 4) = b := Bytes.byte_eq_of_mod (by omega)
  unfold decodeThree
  rw [alphabet.value?_symbol (by omega), alphabet.value?_symbol (by omega),
    alphabet.value?_symbol (by omega)]
  dsimp only [bind, Option.bind]
  rw [hjoined, if_pos (by omega), hfirst, hsecond]

/-- A group of three bytes is read back. -/
theorem decodeFour_symbols (a b c : UInt8) {n : Nat}
    (hn : n = (a.toNat * 256 + b.toNat) * 256 + c.toNat) :
    decodeFour alphabet (alphabet.symbol (n / 262144)) (alphabet.symbol (n / 4096 % 64))
      (alphabet.symbol (n / 64 % 64)) (alphabet.symbol (n % 64)) = some [a, b, c] := by
  have ha := a.toNat_lt
  have hb := b.toNat_lt
  have hc := c.toNat_lt
  have hjoined : ((n / 262144 * 64 + n / 4096 % 64) * 64 + n / 64 % 64) * 64 + n % 64 = n := by omega
  have hfirst : UInt8.ofNat (n / 65536) = a := Bytes.byte_eq_of_mod (by omega)
  have hsecond : UInt8.ofNat (n / 256) = b := Bytes.byte_eq_of_mod (by omega)
  have hthird : UInt8.ofNat n = c := Bytes.byte_eq_of_mod (by omega)
  unfold decodeFour
  rw [alphabet.value?_symbol (by omega), alphabet.value?_symbol (by omega),
    alphabet.value?_symbol (by omega), alphabet.value?_symbol (by omega)]
  dsimp only [bind, Option.bind]
  rw [hjoined, hfirst, hsecond, hthird]

/-- A group of four characters without padding is read before the rest. -/
theorem decode?_cons_four {a b c d : Char} (hd : d ≠ '=') (rest : List Char) :
    decode? alphabet (a :: b :: c :: d :: rest) =
      (decodeFour alphabet a b c d).bind fun first => (decode? alphabet rest).map (first ++ ·) := by
  rw [decode?]
  · cases decodeFour alphabet a b c d <;> cases decode? alphabet rest <;> rfl
  -- The groups with padding are other groups.
  · exact fun _ hpadding _ => hd hpadding
  · exact fun hpadding _ => hd hpadding

/-- The bytes are read back from their padded text. -/
theorem decode?_encode (bytes : Bytes) : decode? alphabet (encode alphabet bytes) = some bytes := by
  fun_induction encode alphabet bytes with
  | case1 => rfl
  | case2 a n => exact decodeTwo_symbols alphabet a rfl
  | case3 a b n =>
    have hne : alphabet.symbol (n % 64) ≠ '=' := alphabet.symbol_ne_padding (by omega)
    rw [decode?]
    · exact decodeThree_symbols alphabet a b rfl
    · exact hne
  | case4 a b c rest n ih =>
    rw [decode?_cons_four alphabet (alphabet.symbol_ne_padding (by omega)), ih,
      decodeFour_symbols alphabet a b c rfl]
    rfl

/-- Padding is taken off behind a character that is none. -/
theorem trimPadding_cons {c : Char} (hc : c ≠ '=') (cs : List Char) :
    trimPadding (c :: cs) = c :: trimPadding cs := by
  unfold trimPadding
  rw [List.reverse_cons, List.dropWhile_append]
  split
  · next hempty => simp [List.isEmpty_iff.mp hempty, hc]
  · next hrest => simp

/-- The text of no bytes. -/
theorem encodeBare_nil : encodeBare alphabet [] = [] := by
  rw [encodeBare, encode]
  rfl

/-- The text of one byte without padding. -/
theorem encodeBare_one (a : UInt8) {n : Nat} (hn : n = a.toNat * 16) :
    encodeBare alphabet [a] = [alphabet.symbol (n / 64), alphabet.symbol (n % 64)] := by
  have ha := a.toNat_lt
  subst hn
  rw [encodeBare, encode, trimPadding_cons (alphabet.symbol_ne_padding (by omega)),
    trimPadding_cons (alphabet.symbol_ne_padding (by omega))]
  rfl

/-- The text of two bytes without padding. -/
theorem encodeBare_two (a b : UInt8) {n : Nat} (hn : n = (a.toNat * 256 + b.toNat) * 4) :
    encodeBare alphabet [a, b] =
      [alphabet.symbol (n / 4096), alphabet.symbol (n / 64 % 64), alphabet.symbol (n % 64)] := by
  have ha := a.toNat_lt
  have hb := b.toNat_lt
  subst hn
  rw [encodeBare, encode, trimPadding_cons (alphabet.symbol_ne_padding (by omega)),
    trimPadding_cons (alphabet.symbol_ne_padding (by omega)),
    trimPadding_cons (alphabet.symbol_ne_padding (by omega))]
  rfl

/-- The text of three bytes stands before the text of the rest without padding. -/
theorem encodeBare_cons_three (a b c : UInt8) (rest : Bytes) {n : Nat}
    (hn : n = (a.toNat * 256 + b.toNat) * 256 + c.toNat) :
    encodeBare alphabet (a :: b :: c :: rest) =
      alphabet.symbol (n / 262144) :: alphabet.symbol (n / 4096 % 64) ::
        alphabet.symbol (n / 64 % 64) :: alphabet.symbol (n % 64) :: encodeBare alphabet rest := by
  have ha := a.toNat_lt
  have hb := b.toNat_lt
  have hc := c.toNat_lt
  subst hn
  rw [encodeBare, encode, trimPadding_cons (alphabet.symbol_ne_padding (by omega)),
    trimPadding_cons (alphabet.symbol_ne_padding (by omega)),
    trimPadding_cons (alphabet.symbol_ne_padding (by omega)),
    trimPadding_cons (alphabet.symbol_ne_padding (by omega)), encodeBare]

/-- Padding is put behind a group of four characters as behind the rest. -/
theorem addPadding_cons_four (a b c d : Char) (cs : List Char) :
    addPadding (a :: b :: c :: d :: cs) = a :: b :: c :: d :: addPadding cs := by
  have hlength : (a :: b :: c :: d :: cs).length % 4 = cs.length % 4 := by
    rw [List.length_cons, List.length_cons, List.length_cons, List.length_cons]
    omega
  unfold addPadding
  rw [hlength]
  rfl

/-- The text without padding is made of the characters of the alphabet, and with its padding it is the
padded text. -/
theorem encodeBare_spec (bytes : Bytes) :
    (∀ c ∈ encodeBare alphabet bytes, alphabet.Contains c) ∧
      addPadding (encodeBare alphabet bytes) = encode alphabet bytes := by
  fun_induction encode alphabet bytes with
  | case1 =>
    rw [encodeBare_nil]
    exact ⟨nofun, rfl⟩
  | case2 a n =>
    have ha := a.toNat_lt
    have hfirst : n / 64 < 64 := by omega
    have hsecond : n % 64 < 64 := by omega
    rw [encodeBare_one alphabet a rfl]
    refine ⟨?_, rfl⟩
    simp only [List.forall_mem_cons, List.not_mem_nil, false_imp_iff, implies_true, and_true]
    exact ⟨alphabet.contains_symbol hfirst, alphabet.contains_symbol hsecond⟩
  | case3 a b n =>
    have ha := a.toNat_lt
    have hb := b.toNat_lt
    have hfirst : n / 4096 < 64 := by omega
    have hsecond : n / 64 % 64 < 64 := by omega
    have hthird : n % 64 < 64 := by omega
    rw [encodeBare_two alphabet a b rfl]
    refine ⟨?_, rfl⟩
    simp only [List.forall_mem_cons, List.not_mem_nil, false_imp_iff, implies_true, and_true]
    exact ⟨alphabet.contains_symbol hfirst, alphabet.contains_symbol hsecond,
      alphabet.contains_symbol hthird⟩
  | case4 a b c rest n ih =>
    have ha := a.toNat_lt
    have hb := b.toNat_lt
    have hc := c.toNat_lt
    have hfirst : n / 262144 < 64 := by omega
    have hsecond : n / 4096 % 64 < 64 := by omega
    have hthird : n / 64 % 64 < 64 := by omega
    have hfourth : n % 64 < 64 := by omega
    rw [encodeBare_cons_three alphabet a b c rest rfl, addPadding_cons_four, ih.2]
    refine ⟨?_, rfl⟩
    simp only [List.forall_mem_cons]
    exact ⟨alphabet.contains_symbol hfirst, alphabet.contains_symbol hsecond,
      alphabet.contains_symbol hthird, alphabet.contains_symbol hfourth, ih.1⟩

/-- The text without padding is made of the characters of the alphabet. -/
theorem contains_of_mem_encodeBare {bytes : Bytes} {c : Char} (hc : c ∈ encodeBare alphabet bytes) :
    alphabet.Contains c :=
  (encodeBare_spec alphabet bytes).1 c hc

/-- The bytes are read back from their text without padding. -/
theorem decodeBare?_encodeBare (bytes : Bytes) :
    decodeBare? alphabet (encodeBare alphabet bytes) = some bytes := by
  have hbare : ¬ (encodeBare alphabet bytes).contains '=' = true := by
    rw [List.contains_iff_mem]
    exact fun hpadding => alphabet.not_contains_padding (contains_of_mem_encodeBare alphabet hpadding)
  rw [decodeBare?, if_neg hbare, (encodeBare_spec alphabet bytes).2, decode?_encode]

end CloudAuth.Base64
