import Mathlib
import CloudAuth.Json.Reader
import CloudAuth.Json.Writer
import CloudAuth.Proofs.TextEncoding

/-!
# JSON is read back

The compact form of a value is read as the value. The values of which this is shown are those that
`IsPortable` lists: it leaves out the numbers of the binary format, halves of surrogate pairs that stand
alone, integers with too many digits, and objects that have a name twice.

A value is read from the start of a text, so every lemma on the way speaks of the text that follows. A
numeral ends where no digit follows, which is why `IsDelimited` is asked of that text.
-/

namespace CloudAuth.Json

section Strings

/-- A hexadecimal digit has its value. -/
theorem hexValue?_hexDigit {n : Nat} (hn : n < 16) : hexValue? (Text.hexDigit n) = some n := by
  revert n
  decide

/-- A 16-bit unit is read from its escape. -/
theorem readUnits_unitEscape {unit : Nat} (hunit : unit < 0x10000) (rest : List Char) :
    readUnits (unitEscape unit ++ rest) = pushFront (ofUnit unit) (readUnits rest) := by
  have hvalue : hexUnit? (Text.hexDigit (unit / 16 / 16 / 16 % 16)) (Text.hexDigit (unit / 16 / 16 % 16))
      (Text.hexDigit (unit / 16 % 16)) (Text.hexDigit (unit % 16)) = some unit := by
    have hjoined : ((unit / 16 / 16 / 16 % 16 * 16 + unit / 16 / 16 % 16) * 16 + unit / 16 % 16) * 16 +
        unit % 16 = unit := by omega
    unfold hexUnit?
    rw [hexValue?_hexDigit (by omega), hexValue?_hexDigit (by omega), hexValue?_hexDigit (by omega),
      hexValue?_hexDigit (by omega)]
    exact congrArg some hjoined
  change readUnits ('\\' :: 'u' :: Text.hexDigit (unit / 16 / 16 / 16 % 16) ::
    Text.hexDigit (unit / 16 / 16 % 16) :: Text.hexDigit (unit / 16 % 16) ::
      Text.hexDigit (unit % 16) :: rest) = _
  rw [readUnits, hvalue]

/-- A short escape is read as its character. -/
theorem readUnits_shortEscape {letter c : Char} (hletter : letter ≠ 'u')
    (hshort : shortEscape? letter = some c) (rest : List Char) :
    readUnits ('\\' :: letter :: rest) = pushFront (.scalar c) (readUnits rest) := by
  rw [readUnits]
  · rw [hshort]
  · exact fun _ _ _ _ _ hunit _ => hletter hunit

/-- The code points that a character is read as before surrogate pairs are joined. -/
def unitsOf (c : Char) : Text :=
  if c.toNat < 0x10000 then [.scalar c]
  else [.surrogate (0xD800 + (c.toNat - 0x10000) / 0x400),
    .surrogate (0xDC00 + (c.toNat - 0x10000) % 0x400)]

/-- The numbers of characters are those of code points that are no surrogates. -/
theorem toNat_range (c : Char) : c.toNat < 0xD800 ∨ 0xE000 ≤ c.toNat ∧ c.toNat < 0x110000 := by
  have hvalid : c.toNat < 0xD800 ∨ 0xDFFF < c.toNat ∧ c.toNat < 0x110000 := c.valid
  omega

/-- A number of a character that is one 16-bit unit is read as the character. -/
theorem ofUnit_toNat (c : Char) : ofUnit c.toNat = .scalar c := by
  have hrange := toNat_range c
  rw [ofUnit, if_neg (by omega), Char.ofNat_toNat]

/-- A character is read from its form inside a string. -/
theorem readUnits_escapeChar (c : Char) (rest : List Char) :
    readUnits (escapeChar c ++ rest) = (readUnits rest).map fun (t, after) => (unitsOf c ++ t, after) := by
  have hpush (hsmall : c.toNat < 0x10000) : pushFront (.scalar c) (readUnits rest) =
      (readUnits rest).map fun (t, after) => (unitsOf c ++ t, after) := by
    rw [unitsOf, if_pos hsmall]
    rfl
  unfold escapeChar
  split
  · next h => subst h; exact (readUnits_shortEscape (by decide) rfl rest).trans (hpush (by decide))
  split
  · next h => subst h; exact (readUnits_shortEscape (by decide) rfl rest).trans (hpush (by decide))
  split
  · next h => subst h; exact (readUnits_shortEscape (by decide) rfl rest).trans (hpush (by decide))
  split
  · next h => subst h; exact (readUnits_shortEscape (by decide) rfl rest).trans (hpush (by decide))
  split
  · next h => subst h; exact (readUnits_shortEscape (by decide) rfl rest).trans (hpush (by decide))
  split
  · next h => subst h; exact (readUnits_shortEscape (by decide) rfl rest).trans (hpush (by decide))
  split
  · next h => subst h; exact (readUnits_shortEscape (by decide) rfl rest).trans (hpush (by decide))
  next hquote hslash _ _ _ _ _ =>
  split
  · next hplain =>
    -- A printable character stands for itself.
    rw [← hpush (by omega), List.singleton_append, readUnits]
    · exact if_neg (by omega)
    · exact hquote
    · exact fun _ _ _ _ _ h _ => hslash h
    · exact fun _ _ h _ => hslash h
  split
  · next hsmall => rw [readUnits_unitEscape hsmall, ofUnit_toNat, hpush hsmall]
  · next hlarge =>
    have hrange := toNat_range c
    have hhigh : ofUnit (0xD800 + (c.toNat - 0x10000) / 0x400) =
        .surrogate (0xD800 + (c.toNat - 0x10000) / 0x400) := if_pos (by omega)
    have hlow : ofUnit (0xDC00 + (c.toNat - 0x10000) % 0x400) =
        .surrogate (0xDC00 + (c.toNat - 0x10000) % 0x400) := if_pos (by omega)
    rw [List.append_assoc, readUnits_unitEscape (by omega), readUnits_unitEscape (by omega), hhigh, hlow,
      unitsOf, if_neg hlarge]
    cases readUnits rest <;> rfl

/-- The halves of a character are joined again. -/
theorem joinPairs_unitsOf (c : Char) (t : Text) :
    joinPairs (unitsOf c ++ t) = .scalar c :: joinPairs t := by
  unfold unitsOf
  split
  · rw [List.singleton_append, joinPairs]
  · next hlarge =>
    have hrange := toNat_range c
    have hnumber : 0x10000 + (0xD800 + (c.toNat - 0x10000) / 0x400 - 0xD800) * 0x400 +
        (0xDC00 + (c.toNat - 0x10000) % 0x400 - 0xDC00) = c.toNat := by omega
    change joinPairs (.surrogate _ :: .surrogate _ :: t) = _
    rw [joinPairs, if_pos (by omega), hnumber, Char.ofNat_toNat]

/-- The characters of a text are read from their forms inside a string. -/
theorem readString_escapeChar (cs rest : List Char) :
    readString (cs.flatMap escapeChar ++ '"' :: rest) = some (cs.map .scalar, rest) := by
  have hunits : readUnits (cs.flatMap escapeChar ++ '"' :: rest) = some (cs.flatMap unitsOf, rest) := by
    induction cs with
    | nil => rw [List.flatMap_nil, List.nil_append, readUnits, List.flatMap_nil]
    | cons c cs ih =>
      rw [List.flatMap_cons, List.append_assoc, readUnits_escapeChar, ih, List.flatMap_cons]
      rfl
  have hjoined : joinPairs (cs.flatMap unitsOf) = cs.map .scalar := by
    clear hunits
    induction cs with
    | nil => rfl
    | cons c cs ih => rw [List.flatMap_cons, joinPairs_unitsOf, ih, List.map_cons]
  rw [readString, hunits, ← hjoined]
  rfl

end Strings

section Numerals

/-- What may follow a value: nothing, a comma, or a mark that closes an array or an object. -/
def IsDelimited (rest : List Char) : Prop := ∀ c ∈ rest.head?, c = ',' ∨ c = ']' ∨ c = '}'

/-- A text that begins with such a mark is delimited. -/
theorem isDelimited_cons {c : Char} (hc : c = ',' ∨ c = ']' ∨ c = '}') (rest : List Char) :
    IsDelimited (c :: rest) := by
  intro first hfirst
  rw [List.head?_cons, Option.mem_some_iff] at hfirst
  exact hfirst ▸ hc

/-- No part of a numeral follows a value. -/
theorem IsDelimited.readFraction_eq_none {rest : List Char} (hrest : IsDelimited rest) :
    readFraction rest = none := by
  unfold readFraction
  split
  · exact absurd (hrest '.' rfl) (by decide)
  · rfl

/-- No exponent follows a value. -/
theorem IsDelimited.readExponent_eq_none {rest : List Char} (hrest : IsDelimited rest) :
    readExponent rest = none := by
  unfold readExponent
  split
  · exact absurd (hrest 'e' rfl) (by decide)
  · exact absurd (hrest 'E' rfl) (by decide)
  · exact absurd (hrest 'e' rfl) (by decide)
  · exact absurd (hrest 'E' rfl) (by decide)
  · exact absurd (hrest 'e' rfl) (by decide)
  · exact absurd (hrest 'E' rfl) (by decide)
  · rfl

/-- The characters of a numeral are digits. -/
theorem isDigit_of_mem_natChars {n : Nat} {c : Char} (hc : c ∈ Decimal.natChars n) :
    isDigit c = true := by
  have hdigit : c.isDigit = true := Nat.isDigit_of_mem_toDigits (by decide) (by decide) hc
  simp only [Char.isDigit, Bool.and_eq_true, decide_eq_true_eq] at hdigit
  simp only [isDigit, Bool.and_eq_true, decide_eq_true_eq]
  exact hdigit

/-- The digits of a numeral end where the numeral does. -/
theorem digitRun_natChars (n : Nat) {rest : List Char} (hrest : IsDelimited rest) :
    digitRun (Decimal.natChars n ++ rest) =
      ((Decimal.natChars n).map fun c => c.toNat - 48, rest) := by
  have hall : ∀ c ∈ Decimal.natChars n, isDigit c = true := fun c => isDigit_of_mem_natChars
  have hnone : rest.takeWhile isDigit = [] ∧ rest.dropWhile isDigit = rest := by
    cases rest with
    | nil => exact ⟨rfl, rfl⟩
    | cons c rest =>
      have hc : isDigit c = false := by
        rcases hrest c rfl with rfl | rfl | rfl <;> decide
      simp [hc]
  rw [digitRun, List.takeWhile_append_of_pos hall, List.dropWhile_append_of_pos hall, hnone.1, hnone.2,
    List.append_nil]

/-- The digits of a numeral denote its number. -/
theorem ofDigits_natChars (n : Nat) :
    Decimal.ofDigits ((Decimal.natChars n).map fun c => c.toNat - 48) = n := by
  have hchars : Nat.ofDigitChars 10 (Nat.toDigits 10 n) 0 = n := Nat.ofDigitChars_ten_toDigits
  rw [Decimal.ofDigits, List.foldl_map]
  exact hchars

/-- The numeral of a positive number does not begin with a zero. -/
theorem natChars_of_pos {n : Nat} (hpos : 0 < n) :
    ∃ d ds, Decimal.natChars n = d :: ds ∧ d ≠ '0' := by
  unfold Decimal.natChars
  induction n using Nat.strongRecOn with
  | ind n ih =>
    by_cases hsmall : n < 10
    · have hne : ∀ d < 10, 0 < d → d.digitChar ≠ '0' := by decide
      exact ⟨n.digitChar, [], Nat.toDigits_of_lt_base hsmall, hne n hsmall hpos⟩
    · obtain ⟨d, ds, hds, hd⟩ := ih (n / 10) (by omega) (by omega)
      refine ⟨d, ds ++ [(n % 10).digitChar], ?_, hd⟩
      rw [Nat.toDigits_of_base_le (by decide) (Nat.not_lt.mp hsmall), hds, List.cons_append]

/-- The whole digits of a numeral are all of its digits. -/
theorem wholeDigits_natChars (n : Nat) {rest : List Char} (hrest : IsDelimited rest) :
    wholeDigits (Decimal.natChars n ++ rest) =
      some ((Decimal.natChars n).map fun c => c.toNat - 48, rest) := by
  rcases Nat.eq_zero_or_pos n with rfl | hpos
  · rfl
  · obtain ⟨d, ds, hds, hd⟩ := natChars_of_pos hpos
    have hrun := digitRun_natChars n hrest
    rw [hds, List.cons_append] at hrun ⊢
    rw [wholeDigits]
    · rw [hrun]
      rfl
    · rintro after hzero
      exact hd (List.cons.inj hzero).1

/-- A natural number is read from its numeral, behind either sign. -/
theorem readMagnitude_natChars (negative : Bool) {n : Nat}
    (hn : (Decimal.natChars n).length ≤ Decimal.maxDigits) {rest : List Char}
    (hrest : IsDelimited rest) :
    readMagnitude negative (Decimal.natChars n ++ rest) =
      .ok (.int (if negative then -(n : Int) else n), rest) := by
  unfold readMagnitude
  rw [wholeDigits_natChars n hrest]
  dsimp only
  rw [hrest.readFraction_eq_none]
  dsimp only [Option.getD]
  rw [hrest.readExponent_eq_none]
  dsimp only
  rw [List.length_map, ofDigits_natChars, if_neg (Nat.not_lt.mpr hn)]
  rfl

/-- A text that begins with a digit is read as a number. -/
theorem readPlain_of_isDigit {d : Char} (hd : isDigit d = true) (cs : List Char) :
    readPlain (d :: cs) = readMagnitude false (d :: cs) := by
  unfold readPlain
  split
  all_goals first
    | rfl
    | next heq => rw [(List.cons.inj heq).1] at hd; exact absurd hd (by decide)

/-- A minus in front of a digit is the sign of a number. -/
theorem readPlain_minus_of_isDigit {d : Char} (hd : isDigit d = true) (cs : List Char) :
    readPlain ('-' :: d :: cs) = readMagnitude true (d :: cs) := by
  rw [readPlain]
  rintro after heq
  rw [(List.cons.inj heq).1] at hd
  exact absurd hd (by decide)

/-- An integer is read from its numeral. -/
theorem readPlain_intChars {n : Int}
    (hn : (Decimal.natChars n.natAbs).length ≤ Decimal.maxDigits) {rest : List Char}
    (hrest : IsDelimited rest) :
    readPlain (Decimal.intChars n ++ rest) = .ok (.int n, rest) := by
  obtain ⟨d, ds, hds⟩ := List.exists_cons_of_ne_nil (Nat.toDigits_ne_nil (b := 10) (n := n.natAbs))
  have hdigit : isDigit d = true := isDigit_of_mem_natChars (hds ▸ List.mem_cons_self)
  have hread (negative : Bool) := readMagnitude_natChars negative hn hrest
  unfold Decimal.intChars
  unfold Decimal.natChars at hread ⊢
  rw [hds] at hread ⊢
  split
  · next hneg =>
    rw [List.cons_append, List.cons_append, readPlain_minus_of_isDigit hdigit]
    rw [← List.cons_append, hread true]
    simp only [if_true]
    congr 3
    omega
  · next hpos =>
    rw [List.cons_append, readPlain_of_isDigit hdigit, ← List.cons_append, hread false]
    simp only [Bool.false_eq_true, if_false]
    congr 3
    omega

end Numerals

/-- The values whose compact form is read as the value. -/
inductive IsPortable : Json → Prop where
  /-- The null value. -/
  | null : IsPortable .null
  /-- A truth value. -/
  | bool (b : Bool) : IsPortable (.bool b)
  /-- An integer without too many digits. -/
  | int {n : Int} (hn : (Decimal.natChars n.natAbs).length ≤ Decimal.maxDigits) : IsPortable (.int n)
  /-- A string of characters proper. -/
  | str {t : Text} (ht : Text.IsWhole t) : IsPortable (.str t)
  /-- An array of such values. -/
  | arr {items : List Json} (hitems : ∀ item ∈ items, IsPortable item) : IsPortable (.arr items)
  /-- An object with such values, under names that are all different. -/
  | obj {members : List (Text × Json)} (hwhole : ∀ member ∈ members, Text.IsWhole member.1)
      (hmembers : ∀ member ∈ members, IsPortable member.2) (hnames : (members.map Prod.fst).Nodup) :
      IsPortable (.obj members)

/-- The value of a string is portable. -/
theorem isPortable_ofString (s : String) : IsPortable (.ofString s) := .str (Text.isWhole_ofString s)

/-- The object whose members have strings as names. -/
def object (members : List (String × Json)) : Json :=
  .obj (members.map fun member => (Text.ofString member.1, member.2))

/-- An object with strings as names, all different, is portable if its values are. -/
theorem isPortable_object {members : List (String × Json)}
    (hmembers : ∀ member ∈ members, member.2.IsPortable) (hnames : (members.map Prod.fst).Nodup) :
    IsPortable (object members) := by
  refine .obj (List.forall_mem_map.mpr fun member _ => ⟨member.1.toList, rfl⟩)
    (List.forall_mem_map.mpr hmembers) ?_
  rw [List.map_map]
  have htexts := hnames.map fun _ _ => Text.ofString_injective
  rwa [List.map_map] at htexts

section Values

/-- A string is read from its form with quotes. -/
theorem readString_stringChars {t : Text} (ht : Text.IsWhole t) (rest : List Char) :
    ∃ body, stringChars t ++ rest = '"' :: body ∧ readString body = some (t, rest) := by
  obtain ⟨cs, rfl⟩ := ht
  have hbody : (cs.map CodePoint.scalar).flatMap escapeCodePoint = cs.flatMap escapeChar := by
    rw [List.flatMap_map]
    rfl
  refine ⟨cs.flatMap escapeChar ++ '"' :: rest, ?_, readString_escapeChar cs rest⟩
  rw [stringChars, hbody, List.append_assoc]
  rfl

/-- The numeral of an integer begins with a minus or a digit. -/
theorem intChars_eq_cons (n : Int) :
    ∃ c cs, Decimal.intChars n = c :: cs ∧ (c = '-' ∨ isDigit c = true) := by
  obtain ⟨d, ds, hds⟩ := List.exists_cons_of_ne_nil (Nat.toDigits_ne_nil (b := 10) (n := n.natAbs))
  unfold Decimal.intChars
  split
  · exact ⟨'-', _, rfl, .inl rfl⟩
  · exact ⟨d, ds, hds, .inr (isDigit_of_mem_natChars (hds ▸ List.mem_cons_self))⟩

/-- A numeral does not begin with a character that is neither a minus nor a digit. -/
theorem ne_of_intChars_eq_cons {n : Int} {c : Char} {cs : List Char}
    (hchars : Decimal.intChars n = c :: cs) (other : Char) (hminus : other ≠ '-')
    (hdigit : isDigit other = false) : c ≠ other := by
  obtain ⟨first, rest, hfirst, hcases⟩ := intChars_eq_cons n
  rw [hchars, List.cons.injEq] at hfirst
  rintro rfl
  rw [← hfirst.1, hdigit] at hcases
  exact hcases.elim hminus Bool.false_ne_true

/-- The form of a portable value begins with a character that is no white space and closes no array. -/
theorem IsPortable.chars_eq_cons {v : Json} (hv : v.IsPortable) :
    ∃ c cs, v.chars = c :: cs ∧ isSpace c = false ∧ c ≠ ']' := by
  cases hv with
  | null => exact ⟨'n', _, rfl, by decide⟩
  | bool b =>
    cases b
    · exact ⟨'f', _, rfl, by decide⟩
    · exact ⟨'t', _, rfl, by decide⟩
  | @int n hn =>
    obtain ⟨c, cs, hchars, -⟩ := intChars_eq_cons n
    have hne := ne_of_intChars_eq_cons hchars
    refine ⟨c, cs, hchars, ?_, hne ']' (by decide) rfl⟩
    simp [isSpace, hne ' ', hne '\t', hne '\n', hne '\r', isDigit]
  | str ht => exact ⟨'"', _, rfl, by decide⟩
  | arr hitems => exact ⟨'[', _, rfl, by decide⟩
  | obj hwhole hmembers hnames => exact ⟨'{', _, rfl, by decide⟩

/-- There is no white space to pass over in front of a character that is none. -/
theorem skipSpace_cons {c : Char} (hc : isSpace c = false) (cs : List Char) :
    skipSpace (c :: cs) = c :: cs := by
  rw [skipSpace, List.dropWhile_cons_of_neg (by rw [hc]; exact Bool.false_ne_true)]

/-- There is no white space to pass over in front of a portable value. -/
theorem IsPortable.skipSpace_chars {v : Json} (hv : v.IsPortable) (rest : List Char) :
    skipSpace (v.chars ++ rest) = v.chars ++ rest := by
  obtain ⟨c, cs, hchars, hspace, -⟩ := hv.chars_eq_cons
  rw [hchars, List.cons_append, skipSpace_cons hspace]

/-- Members with names that are all different make an object as they are. -/
theorem ofMembers_of_nodup {members : List (Text × Json)} (hnames : (members.map Prod.fst).Nodup) :
    ofMembers members = .obj members := by
  have hset (name : Text) (value : Json) (done : List (Text × Json)) (hnew : name ∉ done.map Prod.fst) :
      setMember name value done = done ++ [(name, value)] := by
    induction done with
    | nil => rfl
    | cons member done ih =>
      rw [List.map_cons, List.mem_cons, not_or] at hnew
      rw [setMember, if_neg (Ne.symm hnew.1), ih hnew.2, List.cons_append]
  have hfold (done : List (Text × Json)) (hall : ((done ++ members).map Prod.fst).Nodup) :
      members.foldl (fun done member => setMember member.1 member.2 done) done = done ++ members := by
    clear hnames
    induction members generalizing done with
    | nil => rw [List.foldl_nil, List.append_nil]
    | cons member rest ih =>
      have hnew : member.1 ∉ done.map Prod.fst := by
        rw [List.map_append, List.map_cons] at hall
        exact fun hmem => (List.nodup_append.mp hall).2.2 _ hmem _ List.mem_cons_self rfl
      rw [List.foldl_cons, hset _ _ _ hnew, ih _ (by rw [List.append_assoc]; exact hall),
        List.append_assoc]
      rfl
  rw [ofMembers, hfold [] (by simpa using hnames), List.nil_append]

/-- A value is read from its form wherever it stands, if there is fuel for its length. -/
def IsReadBack (v : Json) : Prop :=
  ∀ fuel rest, 2 * v.chars.length ≤ fuel → IsDelimited rest →
    readValue fuel (v.chars ++ rest) = .ok (v, rest)

/-- What is neither an array nor an object is read as a plain value. -/
theorem isReadBack_of_readPlain {v : Json} {c : Char} {cs : List Char} (hchars : v.chars = c :: cs)
    (harray : c ≠ '[') (hobject : c ≠ '{')
    (hplain : ∀ rest, IsDelimited rest → readPlain (v.chars ++ rest) = .ok (v, rest)) :
    v.IsReadBack := by
  intro fuel rest hfuel hrest
  have hread := hplain rest hrest
  rw [hchars, List.length_cons] at hfuel
  rw [hchars, List.cons_append] at hread ⊢
  obtain ⟨fuel, rfl⟩ : ∃ more, fuel = more + 1 := ⟨fuel - 1, by omega⟩
  rw [readValue]
  · exact hread
  · exact fun _ heq => harray (List.cons.inj heq).1
  · exact fun _ heq => hobject (List.cons.inj heq).1

/-- Items are separated by commas. -/
theorem itemsChars_cons_cons (item next : Json) (others : List Json) :
    itemsChars (item :: next :: others) = item.chars ++ ',' :: itemsChars (next :: others) := by
  rw [itemsChars]
  exact List.cons_ne_nil next others

/-- Items begin with a character that is no white space and closes no array. -/
theorem itemsChars_eq_cons {item : Json} (hitem : item.IsPortable) (others : List Json) :
    ∃ c cs, itemsChars (item :: others) = c :: cs ∧ isSpace c = false ∧ c ≠ ']' := by
  obtain ⟨c, cs, hchars, hspace, hclose⟩ := hitem.chars_eq_cons
  cases others with
  | nil => exact ⟨c, cs, by rw [itemsChars, hchars], hspace, hclose⟩
  | cons next others =>
    exact ⟨c, _, by rw [itemsChars_cons_cons, hchars, List.cons_append], hspace, hclose⟩

/-- There is no white space to pass over in front of the items of an array. -/
theorem skipSpace_itemsChars {item : Json} (hitem : item.IsPortable) (others : List Json)
    (rest : List Char) :
    skipSpace (itemsChars (item :: others) ++ rest) = itemsChars (item :: others) ++ rest := by
  obtain ⟨c, cs, hcs, hspace, -⟩ := itemsChars_eq_cons hitem others
  rw [hcs, List.cons_append, skipSpace_cons hspace]

/-- The items of an array are read from their forms. -/
theorem readItems_itemsChars {items : List Json} (hne : items ≠ [])
    (hportable : ∀ item ∈ items, IsPortable item) (hread : ∀ item ∈ items, IsReadBack item)
    (fuel : Nat) (hfuel : 2 * (itemsChars items).length + 1 ≤ fuel) (rest : List Char) :
    readItems fuel (itemsChars items ++ ']' :: rest) = .ok (items, rest) := by
  induction items generalizing fuel with
  | nil => contradiction
  | cons item others ih =>
    obtain ⟨fuel, rfl⟩ : ∃ more, fuel = more + 1 := ⟨fuel - 1, by omega⟩
    have hitem := hread item List.mem_cons_self
    cases others with
    | nil =>
      rw [itemsChars] at hfuel ⊢
      rw [readItems, hitem fuel _ (by omega) (isDelimited_cons (by decide) rest)]
      dsimp only [bind, Except.bind]
      rw [skipSpace_cons (by decide)]
      rfl
    | cons next others =>
      rw [itemsChars_cons_cons, List.length_append, List.length_cons] at hfuel
      have hothers := ih (List.cons_ne_nil _ _)
        (fun other hother => hportable other (List.mem_cons_of_mem _ hother))
        (fun other hother => hread other (List.mem_cons_of_mem _ hother)) fuel (by omega)
      rw [itemsChars_cons_cons, List.append_assoc, List.cons_append, readItems,
        hitem fuel _ (by omega) (isDelimited_cons (by decide) _)]
      dsimp only [bind, Except.bind]
      rw [skipSpace_cons (by decide)]
      simp only [skipSpace_itemsChars (hportable next (by simp)), hothers]
      rfl

/-- Members are separated by commas. -/
theorem membersChars_cons_cons (name : Text) (value : Json) (next : Text × Json)
    (others : List (Text × Json)) :
    membersChars ((name, value) :: next :: others) =
      stringChars name ++ ':' :: (value.chars ++ ',' :: membersChars (next :: others)) := by
  rw [membersChars, List.append_assoc]
  · rfl
  · exact List.cons_ne_nil next others

/-- Members begin with the quote of a name. -/
theorem membersChars_eq_cons (name : Text) (value : Json) (others : List (Text × Json)) :
    ∃ cs, membersChars ((name, value) :: others) = '"' :: cs := by
  cases others with
  | nil => exact ⟨_, by rw [membersChars, stringChars]; rfl⟩
  | cons next others => exact ⟨_, by rw [membersChars_cons_cons, stringChars]; rfl⟩

/-- There is no white space to pass over in front of the members of an object. -/
theorem skipSpace_membersChars (member : Text × Json) (others : List (Text × Json)) (rest : List Char) :
    skipSpace (membersChars (member :: others) ++ rest) = membersChars (member :: others) ++ rest := by
  obtain ⟨cs, hcs⟩ := membersChars_eq_cons member.1 member.2 others
  rw [hcs, List.cons_append, skipSpace_cons (by decide)]

/-- The first member of an object is read from its form, up to what follows its value. -/
theorem readMembers_first {name : Text} (hname : Text.IsWhole name) {value : Json}
    (hportable : value.IsPortable) (hread : value.IsReadBack) {fuel : Nat}
    (hfuel : 2 * value.chars.length ≤ fuel) {rest : List Char} (hrest : IsDelimited rest) :
    readMembers (fuel + 1) (stringChars name ++ ':' :: (value.chars ++ rest)) =
      match skipSpace rest with
      | '}' :: rest => .ok ([(name, value)], rest)
      | ',' :: rest => (readMembers fuel (skipSpace rest)).map fun (members, rest) =>
          ((name, value) :: members, rest)
      | _ => .error .malformed := by
  obtain ⟨body, hbody, hstring⟩ := readString_stringChars hname (':' :: (value.chars ++ rest))
  rw [hbody, readMembers, hstring]
  dsimp only [orMalformed, bind, Except.bind]
  rw [skipSpace_cons (by decide)]
  simp only [hportable.skipSpace_chars, hread fuel rest hfuel hrest]
  cases skipSpace rest with
  | nil => rfl
  | cons c after =>
    by_cases hclose : c = '}'
    · subst hclose
      rfl
    by_cases hcomma : c = ','
    · subst hcomma
      change (readMembers fuel (skipSpace after)).bind (fun read => .ok ((name, value) :: read.1, read.2)) =
        (readMembers fuel (skipSpace after)).map fun (members, rest) => ((name, value) :: members, rest)
      cases readMembers fuel (skipSpace after) <;> rfl
    · simp [hclose, hcomma]

/-- The members of an object are read from their forms. -/
theorem readMembers_membersChars {members : List (Text × Json)} (hne : members ≠ [])
    (hwhole : ∀ member ∈ members, Text.IsWhole member.1)
    (hportable : ∀ member ∈ members, IsPortable member.2)
    (hread : ∀ member ∈ members, IsReadBack member.2) (fuel : Nat)
    (hfuel : 2 * (membersChars members).length + 1 ≤ fuel) (rest : List Char) :
    readMembers fuel (membersChars members ++ '}' :: rest) = .ok (members, rest) := by
  induction members generalizing fuel with
  | nil => contradiction
  | cons member others ih =>
    obtain ⟨name, value⟩ := member
    obtain ⟨fuel, rfl⟩ : ∃ more, fuel = more + 1 := ⟨fuel - 1, by omega⟩
    have hname : Text.IsWhole name := hwhole (name, value) List.mem_cons_self
    have hvalue : value.IsPortable := hportable (name, value) List.mem_cons_self
    have hback : value.IsReadBack := hread (name, value) List.mem_cons_self
    cases others with
    | nil =>
      rw [membersChars, List.length_append, List.length_cons] at hfuel
      rw [membersChars, List.append_assoc, List.cons_append,
        readMembers_first hname hvalue hback (by omega) (isDelimited_cons (by decide) rest),
        skipSpace_cons (by decide)]
      rfl
    | cons next others =>
      rw [membersChars_cons_cons] at hfuel
      simp only [List.length_append, List.length_cons] at hfuel
      have hothers := ih (List.cons_ne_nil _ _)
        (fun other hother => hwhole other (List.mem_cons_of_mem _ hother))
        (fun other hother => hportable other (List.mem_cons_of_mem _ hother))
        (fun other hother => hread other (List.mem_cons_of_mem _ hother)) fuel (by omega)
      rw [membersChars_cons_cons, List.append_assoc, List.cons_append, List.append_assoc,
        List.cons_append,
        readMembers_first hname hvalue hback (by omega) (isDelimited_cons (by decide) _),
        skipSpace_cons (by decide)]
      simp only [skipSpace_membersChars, hothers]
      rfl

/-- Every portable value is read from its form wherever it stands. -/
theorem IsPortable.isReadBack {v : Json} (hv : v.IsPortable) : v.IsReadBack := by
  induction hv with
  | null => exact isReadBack_of_readPlain rfl (by decide) (by decide) fun _ _ => rfl
  | bool b =>
    cases b
    · exact isReadBack_of_readPlain rfl (by decide) (by decide) fun _ _ => rfl
    · exact isReadBack_of_readPlain rfl (by decide) (by decide) fun _ _ => rfl
  | @int n hn =>
    obtain ⟨c, cs, hchars, -⟩ := intChars_eq_cons n
    have hne := ne_of_intChars_eq_cons hchars
    exact isReadBack_of_readPlain hchars (hne _ (by decide) rfl) (hne _ (by decide) rfl)
      fun rest hrest => readPlain_intChars hn hrest
  | @str t ht =>
    refine isReadBack_of_readPlain rfl (by decide) (by decide) fun rest _ => ?_
    obtain ⟨body, hbody, hstring⟩ := readString_stringChars ht rest
    rw [chars, hbody, readPlain, hstring]
    rfl
  | @arr items hitems ih =>
    intro fuel rest hfuel hrest
    rw [chars, List.length_append, List.length_cons, List.length_singleton] at hfuel
    rw [chars, List.append_assoc, List.cons_append, List.singleton_append]
    obtain ⟨fuel, rfl⟩ : ∃ more, fuel = more + 1 := ⟨fuel - 1, by omega⟩
    rw [readValue]
    cases items with
    | nil =>
      rw [itemsChars, List.nil_append, skipSpace_cons (by decide)]
      rfl
    | cons item others =>
      have hitem := hitems item List.mem_cons_self
      have hread := readItems_itemsChars (List.cons_ne_nil item others) hitems ih fuel (by omega) rest
      obtain ⟨c, cs, hcs, -, hclose⟩ := itemsChars_eq_cons hitem others
      rw [skipSpace_itemsChars hitem]
      split
      · next heq =>
        rw [hcs, List.cons_append] at heq
        exact absurd (List.cons.inj heq).1 hclose
      · rw [hread]
        rfl
  | @obj members hwhole hmembers hnames ih =>
    intro fuel rest hfuel hrest
    rw [chars, List.length_append, List.length_cons, List.length_singleton] at hfuel
    rw [chars, List.append_assoc, List.cons_append, List.singleton_append]
    obtain ⟨fuel, rfl⟩ : ∃ more, fuel = more + 1 := ⟨fuel - 1, by omega⟩
    rw [readValue]
    cases members with
    | nil =>
      rw [membersChars, List.nil_append, skipSpace_cons (by decide)]
      rfl
    | cons member others =>
      have hread := readMembers_membersChars (List.cons_ne_nil member others) hwhole hmembers ih
        fuel (by omega) rest
      obtain ⟨cs, hcs⟩ := membersChars_eq_cons member.1 member.2 others
      rw [skipSpace_membersChars]
      split
      · next heq =>
        rw [hcs, List.cons_append] at heq
        exact absurd (List.cons.inj heq).1 (by decide)
      · rw [hread, ← ofMembers_of_nodup hnames]
        rfl

end Values

/-- Every portable value is read from its compact form. -/
theorem read_chars {v : Json} (hv : v.IsPortable) : read v.chars = .ok v := by
  have hspace := hv.skipSpace_chars []
  have hread := hv.isReadBack (2 * v.chars.length + 2) [] (by omega) nofun
  rw [List.append_nil] at hspace hread
  rw [read, hspace, hread]
  rfl

section Ascii

/-- A text of ASCII characters. -/
def IsAscii (cs : List Char) : Prop := ∀ c ∈ cs, c.toNat < 0x80

/-- A text whose characters are tested is one of ASCII characters. -/
theorem isAscii_of_all {cs : List Char} (hall : cs.all (fun c => c.toNat < 0x80) = true) :
    IsAscii cs := by
  simpa [IsAscii] using hall

/-- Two texts of ASCII characters make one. -/
theorem IsAscii.append {first second : List Char} (hfirst : IsAscii first) (hsecond : IsAscii second) :
    IsAscii (first ++ second) :=
  List.forall_mem_append.mpr ⟨hfirst, hsecond⟩

/-- An ASCII character in front of others. -/
theorem IsAscii.cons {c : Char} {cs : List Char} (hc : c.toNat < 0x80) (hcs : IsAscii cs) :
    IsAscii (c :: cs) :=
  List.forall_mem_cons.mpr ⟨hc, hcs⟩

/-- An escape is written in ASCII. -/
theorem isAscii_unitEscape (unit : Nat) : IsAscii (unitEscape unit) := by
  have hdigit (n : Nat) : (Text.hexDigit (n % 16)).toNat < 0x80 := by
    have hall : ∀ d < 16, (Text.hexDigit d).toNat < 0x80 := by decide
    exact hall _ (Nat.mod_lt n (by decide))
  exact .cons (by decide) (.cons (by decide)
    (.cons (hdigit _) (.cons (hdigit _) (.cons (hdigit _) (.cons (hdigit _) nofun)))))

/-- A character inside a string is written in ASCII. -/
theorem isAscii_escapeChar (c : Char) : IsAscii (escapeChar c) := by
  unfold escapeChar
  iterate 7
    split
    · exact isAscii_of_all rfl
  split
  · next hplain =>
    intro other hother
    rw [List.mem_singleton.mp hother]
    omega
  split
  · exact isAscii_unitEscape _
  · exact (isAscii_unitEscape _).append (isAscii_unitEscape _)

/-- A string is written in ASCII. -/
theorem isAscii_stringChars (t : Text) : IsAscii (stringChars t) := by
  have hbody : IsAscii (t.flatMap escapeCodePoint) := by
    intro c hc
    obtain ⟨p, -, hp⟩ := List.mem_flatMap.mp hc
    cases p with
    | scalar other => exact isAscii_escapeChar other c hp
    | surrogate unit => exact isAscii_unitEscape unit c hp
  exact (IsAscii.cons (by decide) hbody).append (isAscii_of_all rfl)

/-- A digit is an ASCII character. -/
theorem toNat_lt_of_isDigit {c : Char} (hc : isDigit c = true) : c.toNat < 0x80 := by
  simp only [isDigit, Bool.and_eq_true, decide_eq_true_eq] at hc
  exact Nat.lt_of_le_of_lt hc.2 (by decide)

/-- A numeral is written in ASCII. -/
theorem isAscii_intChars (n : Int) : IsAscii (Decimal.intChars n) := by
  have hdigits : IsAscii (Decimal.natChars n.natAbs) :=
    fun c hc => toNat_lt_of_isDigit (isDigit_of_mem_natChars hc)
  unfold Decimal.intChars
  split
  · exact .cons (by decide) hdigits
  · exact hdigits

/-- Items are written in ASCII if each of them is. -/
theorem isAscii_itemsChars {items : List Json} (hitems : ∀ item ∈ items, IsAscii item.chars) :
    IsAscii (itemsChars items) := by
  induction items with
  | nil => exact nofun
  | cons item others ih =>
    have hitem := hitems item List.mem_cons_self
    have hothers := ih fun other hother => hitems other (List.mem_cons_of_mem _ hother)
    cases others with
    | nil => exact hitem
    | cons next others =>
      rw [itemsChars_cons_cons]
      exact hitem.append (.cons (by decide) hothers)

/-- Members are written in ASCII if the value of each is. -/
theorem isAscii_membersChars {members : List (Text × Json)}
    (hmembers : ∀ member ∈ members, IsAscii member.2.chars) : IsAscii (membersChars members) := by
  induction members with
  | nil => exact nofun
  | cons member others ih =>
    obtain ⟨name, value⟩ := member
    have hvalue : IsAscii value.chars := hmembers (name, value) List.mem_cons_self
    have hothers := ih fun other hother => hmembers other (List.mem_cons_of_mem _ hother)
    cases others with
    | nil => exact (isAscii_stringChars name).append (.cons (by decide) hvalue)
    | cons next others =>
      rw [membersChars_cons_cons]
      exact (isAscii_stringChars name).append
        (.cons (by decide) (hvalue.append (.cons (by decide) hothers)))

/-- An object is written in ASCII if the value of each member is. -/
theorem isAscii_obj {members : List (Text × Json)}
    (hmembers : ∀ member ∈ members, IsAscii member.2.chars) : IsAscii (obj members).chars :=
  (IsAscii.cons (by decide) (isAscii_membersChars hmembers)).append (isAscii_of_all rfl)

/-- A portable value is written in ASCII. -/
theorem IsPortable.isAscii_chars {v : Json} (hv : v.IsPortable) : IsAscii v.chars := by
  induction hv with
  | null => exact isAscii_of_all rfl
  | bool b => cases b <;> exact isAscii_of_all rfl
  | @int n hn => exact isAscii_intChars n
  | @str t ht => exact isAscii_stringChars t
  | @arr items hitems ih =>
    exact (IsAscii.cons (by decide) (isAscii_itemsChars ih)).append (isAscii_of_all rfl)
  | @obj members hwhole hmembers hnames ih => exact isAscii_obj ih

end Ascii

end CloudAuth.Json
