import CloudAuth.Expiry
import Mathlib.Data.Nat.Digits.Defs

/-!
# Spellings of integers

The texts that spell an integer: a numeral with digits of any script and with single underscores between
them, a sign in front of it, and white space around it. Each of them is read as the integer that it spells,
so the time at which a token expires does not depend on whether a payload has a number or a text.
-/

namespace CloudAuth

namespace Literal

/-- A numeral and the values of its digits. -/
inductive Numeral : List Char → List Nat → Prop where
  /-- One digit. -/
  | last {c : Char} {d : Nat} (hdigit : Text.digitValue? c.toNat = some d) : Numeral [c] [d]
  /-- A digit in front of a numeral. -/
  | digit {c : Char} {d : Nat} {cs : List Char} {digits : List Nat}
      (hdigit : Text.digitValue? c.toNat = some d) (hrest : Numeral cs digits) :
      Numeral (c :: cs) (d :: digits)
  /-- A digit in front of a numeral, with an underscore between them. -/
  | group {c : Char} {d : Nat} {cs : List Char} {digits : List Nat}
      (hdigit : Text.digitValue? c.toNat = some d) (hrest : Numeral cs digits) :
      Numeral (c :: '_' :: cs) (d :: digits)

/-- The number that digits denote, the most significant digit first. -/
def valueOf (digits : List Nat) : Nat := Nat.ofDigits 10 digits.reverse

/-- A numeral of no more digits than are read, with or without a sign, and its value. -/
inductive SignedNumeral : List Char → Int → Prop where
  /-- Without a sign. -/
  | bare {cs : List Char} {digits : List Nat} (hnumeral : Numeral cs digits)
      (hlength : digits.length ≤ 4300) : SignedNumeral cs (valueOf digits)
  /-- With the sign of a positive number. -/
  | plus {cs : List Char} {digits : List Nat} (hnumeral : Numeral cs digits)
      (hlength : digits.length ≤ 4300) : SignedNumeral ('+' :: cs) (valueOf digits)
  /-- With the sign of a negative number. -/
  | minus {cs : List Char} {digits : List Nat} (hnumeral : Numeral cs digits)
      (hlength : digits.length ≤ 4300) : SignedNumeral ('-' :: cs) (-valueOf digits)

/-- The white space that may stand around a numeral. -/
def padding : List Char := [' ', '\t', '\n', '\x0b', '\x0c', '\r']

/-- A string spells an integer: it is a numeral, perhaps with a sign, and with white space around it. -/
def Spells (s : String) (n : Int) : Prop :=
  ∃ before cs after, s.toList = before ++ cs ++ after ∧ SignedNumeral cs n ∧
    (∀ c ∈ before, c ∈ padding) ∧ ∀ c ∈ after, c ∈ padding

/-- What a character can be in an integer literal. -/
def symbolOf (c : Char) : LiteralSymbol := LiteralSymbol.ofCodePoint (.scalar c)

/-- The digits of ASCII are the ten from zero on. -/
theorem digitValue?_of_ascii {n : Nat} (hn : n < 127) :
    Text.digitValue? n = if 48 ≤ n ∧ n ≤ 57 then some (n - 48) else none := by
  revert n
  decide

/-- No blank is a digit. -/
theorem digitValue?_of_isBlank {c : Char} (hblank : Text.isBlank c = true) :
    Text.digitValue? c.toNat = none := by
  have hnone : ∀ n ∈ [0x09, 0x0A, 0x0B, 0x0C, 0x0D, 0x1C, 0x1D, 0x1E, 0x1F, 0x20, 0x85, 0xA0, 0x1680,
      0x2000, 0x2001, 0x2002, 0x2003, 0x2004, 0x2005, 0x2006, 0x2007, 0x2008, 0x2009, 0x200A, 0x2028,
      0x2029, 0x202F, 0x205F, 0x3000], Text.digitValue? n = none := by
    decide
  apply hnone
  simp only [Text.isBlank, Bool.or_eq_true, Bool.and_eq_true, decide_eq_true_eq, beq_iff_eq] at hblank
  simp only [List.mem_cons, List.not_mem_nil, or_false]
  omega

/-- A digit of ASCII is read with its value. -/
theorem digitOf?_eq (c : Char) :
    Decimal.digitOf? c = if 48 ≤ c.toNat ∧ c.toNat ≤ 57 then some (c.toNat - 48) else none := by
  unfold Decimal.digitOf?
  simp only [Char.le_def, UInt32.le_iff_toNat_le]
  rfl

/-- A digit of any script is read with its value. -/
theorem symbolOf_digit {c : Char} {d : Nat} (hdigit : Text.digitValue? c.toNat = some d) :
    symbolOf c = .digit d := by
  unfold symbolOf LiteralSymbol.ofCodePoint
  by_cases hascii : c.toNat < 127
  · rw [digitValue?_of_ascii hascii, ← digitOf?_eq] at hdigit
    simp only [if_pos hascii, LiteralSymbol.ofAscii, hdigit]
  · have hblank : ¬ Text.isBlank c = true := fun h => by
      rw [digitValue?_of_isBlank h] at hdigit
      contradiction
    simp only [if_neg hascii, if_neg hblank, hdigit]

/-- White space is read as such. -/
theorem symbolOf_padding {c : Char} (hc : c ∈ padding) : symbolOf c = .space := by
  have hall : padding.all (symbolOf · == .space) = true := by decide
  exact beq_iff_eq.mp (List.all_eq_true.mp hall c hc)

/-- A numeral starts with a digit. -/
theorem Numeral.exists_digit {cs : List Char} {digits : List Nat} (hnumeral : Numeral cs digits) :
    ∃ d rest, cs.map symbolOf = .digit d :: rest := by
  cases hnumeral with
  | last hdigit => exact ⟨_, _, congrArg (· :: []) (symbolOf_digit hdigit)⟩
  | digit hdigit hrest => exact ⟨_, _, congrArg (· :: _) (symbolOf_digit hdigit)⟩
  | group hdigit hrest => exact ⟨_, _, congrArg (· :: _) (symbolOf_digit hdigit)⟩

/-- The digits of a numeral are read with their values. -/
theorem Numeral.digitsOf_eq {cs : List Char} {digits : List Nat} (hnumeral : Numeral cs digits) :
    digitsOf (cs.map symbolOf) = some digits := by
  induction hnumeral with
  | last hdigit => rw [List.map_singleton, symbolOf_digit hdigit, digitsOf]
  | digit hdigit hrest ih =>
    obtain ⟨d, rest, hstart⟩ := hrest.exists_digit
    rw [hstart] at ih
    rw [List.map_cons, symbolOf_digit hdigit, hstart, digitsOf, ih]
    · rfl
    · nofun
    · nofun
  | group hdigit hrest ih =>
    have hunderscore : symbolOf '_' = .underscore := by decide
    rw [List.map_cons, List.map_cons, symbolOf_digit hdigit, hunderscore, digitsOf, ih]
    rfl

/-- All of a numeral belongs to the run of digits. -/
theorem Numeral.inNumeral {cs : List Char} {digits : List Nat} (hnumeral : Numeral cs digits) :
    ∀ c ∈ cs, (symbolOf c).inNumeral = true := by
  have hrun {c : Char} {d : Nat} (hdigit : Text.digitValue? c.toNat = some d) :
      (symbolOf c).inNumeral = true := by
    rw [symbolOf_digit hdigit]
    rfl
  have hunderscore : (symbolOf '_').inNumeral = true := by decide
  induction hnumeral with
  | last hdigit => simpa using hrun hdigit
  | digit hdigit hrest ih => simpa using ⟨hrun hdigit, ih⟩
  | group hdigit hrest ih => simpa using ⟨hrun hdigit, hunderscore, ih⟩

/-- Digits are read as the number that they denote. -/
theorem ofDigits_eq_valueOf (digits : List Nat) : Decimal.ofDigits digits = valueOf digits := by
  rw [valueOf, Nat.ofDigits_eq_foldr, List.foldr_reverse, Decimal.ofDigits]
  congr 1
  funext n d
  exact Nat.add_comm (10 * n) d

/-- A numeral is read up to the white space after it. -/
theorem readNumeral_append {cs after : List Char} {digits : List Nat} (hnumeral : Numeral cs digits)
    (hlength : digits.length ≤ 4300) (hafter : ∀ c ∈ after, c ∈ padding) :
    readNumeral ((cs ++ after).map symbolOf) = .ok (valueOf digits) := by
  have hrun : ∀ symbol ∈ cs.map symbolOf, symbol.inNumeral = true := by
    simpa using hnumeral.inNumeral
  have hspaces : ∀ symbol ∈ after.map symbolOf, symbol = .space := by
    simpa using fun c hc => symbolOf_padding (hafter c hc)
  have htake : (after.map symbolOf).takeWhile LiteralSymbol.inNumeral = [] := by
    cases after with
    | nil => rfl
    | cons c rest => rw [List.map_cons, symbolOf_padding (hafter c List.mem_cons_self)]; rfl
  have hdrop : (after.map symbolOf).dropWhile LiteralSymbol.inNumeral = after.map symbolOf := by
    have hall := List.takeWhile_append_dropWhile (p := LiteralSymbol.inNumeral) (l := after.map symbolOf)
    rwa [htake, List.nil_append] at hall
  unfold readNumeral
  rw [List.map_append, List.takeWhile_append_of_pos hrun, List.dropWhile_append_of_pos hrun, htake, hdrop,
    List.append_nil, hnumeral.digitsOf_eq]
  dsimp only
  have hshort : ¬ Decimal.maxDigits < digits.length := Nat.not_lt.mpr hlength
  rw [if_neg hshort, if_pos, ofDigits_eq_valueOf]
  simpa using hspaces

/-- A numeral with or without a sign is read up to the white space after it. -/
theorem readSigned_append {cs after : List Char} {n : Int} (hnumeral : SignedNumeral cs n)
    (hafter : ∀ c ∈ after, c ∈ padding) : readSigned ((cs ++ after).map symbolOf) = .ok n := by
  cases hnumeral with
  | bare hnumeral hlength =>
    have hread := readNumeral_append hnumeral hlength hafter
    obtain ⟨d, rest, hstart⟩ := hnumeral.exists_digit
    rw [List.map_append, hstart, List.cons_append] at hread ⊢
    rw [readSigned, hread]
    · rfl
    · nofun
    · nofun
  | plus hnumeral hlength =>
    have hplus : symbolOf '+' = .plus := by decide
    rw [List.cons_append, List.map_cons, hplus, readSigned, readNumeral_append hnumeral hlength hafter]
    rfl
  | minus hnumeral hlength =>
    have hminus : symbolOf '-' = .minus := by decide
    rw [List.cons_append, List.map_cons, hminus, readSigned, readNumeral_append hnumeral hlength hafter]
    rfl

/-- A numeral with or without a sign does not start with white space. -/
theorem SignedNumeral.dropWhile_eq {cs : List Char} {n : Int} (hnumeral : SignedNumeral cs n)
    (after : List Char) :
    ((cs ++ after).map symbolOf).dropWhile (· == .space) = (cs ++ after).map symbolOf := by
  cases hnumeral with
  | bare hnumeral =>
    obtain ⟨d, rest, hstart⟩ := hnumeral.exists_digit
    rw [List.map_append, hstart]
    rfl
  | plus => rfl
  | minus => rfl

/-- A text that spells an integer is read as that integer. -/
theorem readInteger_of_spells {s : String} {n : Int} (hspells : Spells s n) :
    readInteger (Text.ofString s) = .ok n := by
  obtain ⟨before, cs, after, hs, hnumeral, hbefore, hafter⟩ := hspells
  have hsymbols : (Text.ofString s).map LiteralSymbol.ofCodePoint =
      before.map symbolOf ++ (cs ++ after).map symbolOf := by
    rw [Text.ofString, List.map_map, hs, List.append_assoc, List.map_append]
    rfl
  have hspaces : ∀ symbol ∈ before.map symbolOf, (symbol == LiteralSymbol.space) = true := by
    simpa using fun c hc => symbolOf_padding (hbefore c hc)
  rw [readInteger, hsymbols, List.dropWhile_append_of_pos hspaces, hnumeral.dropWhile_eq,
    readSigned_append hnumeral hafter]

end Literal

section Spelled

variable {s : String} {n : Int} (hspells : Literal.Spells s n)

include hspells

/-- A text that spells an integer stands for it. -/
theorem integerOf_of_spells : integerOf (.ofString s) = .ok n := by
  rw [Json.ofString, integerOf, integerOfText, Literal.readInteger_of_spells hspells]

/-- A text that spells an integer counts as given, also if it spells zero. -/
theorem isTruthy_of_spells : (Json.ofString s).isTruthy = true := by
  rw [Json.ofString, Json.isTruthy]
  cases htext : Text.ofString s with
  | nil =>
    have hread := Literal.readInteger_of_spells hspells
    rw [htext] at hread
    cases hread
  | cons c rest => rfl

end Spelled

/-- A payload with a span expires at the time that it names, if that counts as given, and after the span
otherwise. -/
theorem expiresOn_setMember_span (v : Json) (members : List (Text × Json)) (now : Rat) :
    expiresOn (Json.setMember (Text.ofString "expires_in") v members) now =
      ((Json.lookup? (Text.ofString "expires_on") members).filter Json.isTruthy).elim
        ((integerOf v).map (wholeSeconds now + ·)) integerOf := by
  have hnames : Text.ofString "expires_in" ≠ Text.ofString "expires_on" := by decide
  have hspan : expiresOn.spanFrom (Json.setMember (Text.ofString "expires_in") v members) now =
      (integerOf v).map (wholeSeconds now + ·) := by
    rw [expiresOn.spanFrom, Json.lookup?_setMember, if_pos rfl]
  rw [expiresOn, Json.lookup?_setMember, if_neg hnames, hspan]
  cases Json.lookup? (Text.ofString "expires_on") members with
  | none => rfl
  | some time =>
    rw [Option.filter_some]
    dsimp only
    cases time.isTruthy <;> rfl

/-- A payload with a time that counts as given expires at that time. -/
theorem expiresOn_setMember_time {v : Json} (hgiven : v.isTruthy = true) (members : List (Text × Json))
    (now : Rat) :
    expiresOn (Json.setMember (Text.ofString "expires_on") v members) now = integerOf v := by
  rw [expiresOn, Json.lookup?_setMember, if_pos rfl]
  exact if_pos hgiven

/-- When a token expires does not depend on how an integer of the payload is spelled. A span that is a text
counts as the number that it spells, and is added to the seconds of the clock when the payload names no
time. A time that is a text is the number that it spells, and so is a number other than zero, whatever the
span is. -/
theorem expiry_spelling_irrelevant {s : String} {n : Int} (hspells : Literal.Spells s n)
    (members : List (Text × Json)) (now : Rat) :
    let withSpan (v : Json) := Json.setMember (Text.ofString "expires_in") v members
    let withTime (v : Json) := Json.setMember (Text.ofString "expires_on") v members
    expiresOn (withSpan (.ofString s)) now = expiresOn (withSpan (.int n)) now ∧
    ((∀ time, Json.lookup? (Text.ofString "expires_on") members = some time → time.isTruthy = false) →
      expiresOn (withSpan (.int n)) now = .ok (wholeSeconds now + n)) ∧
    expiresOn (withTime (.ofString s)) now = .ok n ∧
    (n ≠ 0 → expiresOn (withTime (.int n)) now = .ok n) := by
  intro withSpan withTime
  have hread := integerOf_of_spells hspells
  refine ⟨?_, fun huntimed => ?_, ?_, fun hne => ?_⟩
  · rw [expiresOn_setMember_span, expiresOn_setMember_span, hread]
    rfl
  · have hnone : (Json.lookup? (Text.ofString "expires_on") members).filter Json.isTruthy = none := by
      simpa [Option.filter_eq_none_iff] using huntimed
    rw [expiresOn_setMember_span, hnone]
    rfl
  · rw [expiresOn_setMember_time (isTruthy_of_spells hspells), hread]
  · rw [expiresOn_setMember_time (by simpa [Json.isTruthy] using hne)]
    rfl

/-- A sign, an underscore, digits of two scripts and white space spell one number. -/
theorem spells_padded : Literal.Spells "\t+3_5\u0669\u0669 \n" 3599 := by
  have hnumeral : Literal.Numeral "3_5\u0669\u0669".toList [3, 5, 9, 9] :=
    .group (by decide) (.digit (by decide) (.digit (by decide) (.last (by decide))))
  have hvalue : (Literal.valueOf [3, 5, 9, 9] : Int) = 3599 := by decide
  refine ⟨['\t'], "+3_5\u0669\u0669".toList, [' ', '\n'], by decide, ?_, by simp [Literal.padding],
    by simp [Literal.padding]⟩
  rw [← hvalue]
  exact .plus hnumeral (by decide)

/-- A span and a time that are spelled so come to what the number does. -/
theorem expiry_of_padded :
    let s := "\t+3_5\u0669\u0669 \n"
    let malformed : List (Text × Json) := [(Text.ofString "expires_in", .null)]
    Literal.Spells s 3599 ∧
    expiresOn (Json.setMember (Text.ofString "expires_in") (.ofString s) []) (201 / 2) = .ok 3699 ∧
    expiresOn (Json.setMember (Text.ofString "expires_in") (.int 3599) []) (201 / 2) = .ok 3699 ∧
    expiresOn (Json.setMember (Text.ofString "expires_on") (.ofString s) malformed) 0 = .ok 3599 ∧
    expiresOn (Json.setMember (Text.ofString "expires_on") (.int 3599) malformed) 0 = .ok 3599 := by
  intro s malformed
  obtain ⟨hsame, hspan, -⟩ := expiry_spelling_irrelevant spells_padded [] (201 / 2)
  obtain ⟨-, -, htext, hnumber⟩ := expiry_spelling_irrelevant spells_padded malformed 0
  have hclock : wholeSeconds (201 / 2) + 3599 = 3699 := by decide +kernel
  have hnamed := (hspan nofun).trans (congrArg _ hclock)
  exact ⟨spells_padded, hsame.trans hnamed, hnamed, htext, hnumber (by decide)⟩

end CloudAuth
