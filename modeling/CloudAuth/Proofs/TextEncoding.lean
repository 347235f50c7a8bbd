import Mathlib
import CloudAuth.FileSystem

/-!
# Which texts can be encoded

A text can be encoded exactly if no surrogate stands alone in it, and it can be the name of a file exactly
if all that do were read from bytes. A zero byte stands in the encoded form exactly where the character zero
stands in the text, so a path names a file exactly if it can be encoded and has no such character.
-/

namespace CloudAuth

/-- The UTF-8 form of a character has a zero byte only if the character is zero. -/
theorem Unicode.zero_mem_utf8Char_iff (c : Char) : 0 ∈ utf8Char c ↔ c = '\x00' := by
  have hbyte (n : Nat) (hn : n < 256) : (0 : UInt8) = UInt8.ofNat n ↔ n = 0 := by
    rw [← UInt8.toNat_inj, UInt8.toNat_ofNat', Nat.mod_eq_of_lt hn]
    exact eq_comm
  have hsize : c.toNat < 0x110000 := by
    rcases c.valid with h | ⟨-, h⟩
    · exact Nat.lt_trans h (by decide)
    · exact h
  have hzero : c = '\x00' ↔ c.toNat = 0 := ⟨fun h => h ▸ rfl, fun h => Char.toNat_inj.mp h⟩
  rw [hzero]
  unfold utf8Char
  dsimp only
  -- The first byte of each longer form and all that follow it are at least `0x80`.
  split_ifs with hone htwo hthree
  · rw [List.mem_singleton, hbyte _ (by omega)]
  · simp only [List.mem_cons, List.not_mem_nil, or_false]
    rw [hbyte _ (by omega), hbyte _ (by omega)]
    omega
  · simp only [List.mem_cons, List.not_mem_nil, or_false]
    rw [hbyte _ (by omega), hbyte _ (by omega), hbyte _ (by omega)]
    omega
  · simp only [List.mem_cons, List.not_mem_nil, or_false]
    rw [hbyte _ (by omega), hbyte _ (by omega), hbyte _ (by omega), hbyte _ (by omega)]
    omega

namespace Text

/-- A text of characters proper, without halves of surrogate pairs. -/
def IsWhole (t : Text) : Prop := ∃ cs : List Char, t = cs.map .scalar

/-- All surrogates that stand alone in the text were read from bytes. -/
def IsNameable (t : Text) : Prop := ∀ unit, .surrogate unit ∈ t → 0xDC80 ≤ unit ∧ unit ≤ 0xDCFF

/-- The character that no path may have. -/
def nul : CodePoint := .scalar '\x00'

/-- The text of a string consists of characters proper. -/
theorem isWhole_ofString (s : String) : (ofString s).IsWhole := ⟨s.toList, rfl⟩

/-- A text consists of characters proper exactly if no surrogate stands alone in it. -/
theorem isWhole_iff (t : Text) : t.IsWhole ↔ ∀ unit, .surrogate unit ∉ t := by
  constructor
  · rintro ⟨cs, rfl⟩ unit hunit
    obtain ⟨c, -, hc⟩ := List.mem_map.mp hunit
    cases hc
  · intro hnone
    induction t with
    | nil => exact ⟨[], rfl⟩
    | cons c rest ih =>
      obtain ⟨cs, rfl⟩ := ih fun unit hunit => hnone unit (List.mem_cons_of_mem c hunit)
      cases c with
      | scalar c => exact ⟨c :: cs, rfl⟩
      | surrogate unit => exact absurd List.mem_cons_self (hnone unit)

variable {escape? : Nat → Option UInt8}

/-- A text has an encoded form exactly if all its surrogates have one. -/
theorem encodeFrom_isOk_iff (place : Nat) (t : Text) :
    (∃ bytes, encodeFrom escape? place t = .ok bytes) ↔
      ∀ unit, .surrogate unit ∈ t → ∃ byte, escape? unit = some byte := by
  have hmap {f : Bytes → Bytes} (r : Except EncodeError Bytes) :
      (∃ bytes, r.map f = .ok bytes) ↔ ∃ bytes, r = .ok bytes := by
    cases r <;> simp [Except.map]
  induction t generalizing place with
  | nil => simp [encodeFrom]
  | cons c rest ih =>
    cases c with
    | scalar c =>
      rw [encodeFrom]
      exact (hmap _).trans ((ih _).trans (by simp))
    | surrogate unit =>
      rw [encodeFrom]
      cases hescape : escape? unit with
      | some byte => exact (hmap _).trans ((ih _).trans (by simp [hescape]))
      | none =>
        refine ⟨nofun, fun hall => ?_⟩
        obtain ⟨byte, hbyte⟩ := hall unit List.mem_cons_self
        cases hescape.symm.trans hbyte

/-- The encoded form has a zero byte exactly if the text has the character zero. -/
theorem zero_mem_encodeFrom_iff (hescape : ∀ unit byte, escape? unit = some byte → byte ≠ 0) {place : Nat}
    {t : Text} {bytes : Bytes} (hencode : encodeFrom escape? place t = .ok bytes) :
    0 ∈ bytes ↔ nul ∈ t := by
  induction t generalizing place bytes with
  | nil =>
    cases hencode
    simp
  | cons c rest ih =>
    cases c with
    | scalar c =>
      rw [encodeFrom] at hencode
      cases hrest : encodeFrom escape? (place + 1) rest with
      | error e =>
        rw [hrest] at hencode
        contradiction
      | ok after =>
        rw [hrest] at hencode
        cases hencode
        rw [List.mem_append, Unicode.zero_mem_utf8Char_iff, ih hrest, List.mem_cons, nul,
          CodePoint.scalar.injEq, eq_comm]
    | surrogate unit =>
      rw [encodeFrom] at hencode
      split at hencode
      · next byte hbyte =>
        cases hrest : encodeFrom escape? (place + 1) rest with
        | error e =>
          rw [hrest] at hencode
          contradiction
        | ok after =>
          rw [hrest] at hencode
          cases hencode
          have hne := hescape unit byte hbyte
          simp [ih hrest, nul, hne.symm]
      · contradiction

/-- A text can be encoded exactly if no surrogate stands alone in it. -/
theorem encode_isOk_iff (t : Text) : (∃ bytes, t.encode = .ok bytes) ↔ t.IsWhole := by
  rw [encode, encodeFrom_isOk_iff, isWhole_iff]
  simp

/-- A text can be encoded as the name of a file exactly if all its surrogates were read from bytes. -/
theorem encodeName_isOk_iff (t : Text) : (∃ bytes, t.encodeName = .ok bytes) ↔ t.IsNameable := by
  rw [encodeName, encodeFrom_isOk_iff, IsNameable]
  simp [escapedByte?]

/-- The name of a file has a zero byte exactly if its text has the character zero. -/
theorem zero_mem_encodeName_iff {t : Text} {name : Bytes} (hencode : t.encodeName = .ok name) :
    0 ∈ name ↔ nul ∈ t := by
  refine zero_mem_encodeFrom_iff (fun unit byte hbyte => ?_) hencode
  unfold escapedByte? at hbyte
  split at hbyte
  · next hrange =>
    have hsize : (UInt8.ofNat (unit - 0xDC00)).toNat = unit - 0xDC00 :=
      UInt8.toNat_ofNat_of_lt' (show unit - 0xDC00 < 256 by omega)
    rw [Option.some.inj hbyte] at hsize
    rintro rfl
    rw [UInt8.toNat_zero] at hsize
    omega
  · contradiction

end Text

namespace Path

/-- A path names no file because it cannot be encoded, or else because of the character zero. -/
theorem fileName_eq_error_iff (path : Path) (problem : NameProblem) :
    path.fileName = .error problem ↔
      (∃ e, problem = .unencodable e ∧ path.text.encodeName = .error e) ∨
        problem = .nul ∧ path.text.IsNameable ∧ Text.nul ∈ path.text := by
  rw [← Text.encodeName_isOk_iff]
  unfold fileName
  cases hname : path.text.encodeName with
  | error e => simp [eq_comm]
  | ok name =>
    have hzero := Text.zero_mem_encodeName_iff hname
    by_cases hnul : (0 : UInt8) ∈ name <;> simp [← hzero, hnul, eq_comm]

/-- A path names a file exactly if it can be encoded and has no character zero. -/
theorem fileName_isOk_iff (path : Path) :
    (∃ name, path.fileName = .ok name) ↔ path.text.IsNameable ∧ Text.nul ∉ path.text := by
  rw [← Text.encodeName_isOk_iff]
  unfold fileName
  cases hname : path.text.encodeName with
  | error e => simp
  | ok name =>
    have hzero := Text.zero_mem_encodeName_iff hname
    by_cases hnul : (0 : UInt8) ∈ name <;> simp [← hzero, hnul]

end Path

end CloudAuth
