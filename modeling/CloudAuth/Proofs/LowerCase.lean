import Mathlib
import CloudAuth.Settings.Value
import CloudAuth.Text.Lowercase

/-!
# Lower case and ASCII

Names are compared in lower case. For most names of ASCII this tells the same texts apart as to bring
the letters from `A` to `Z` alone into lower case: no other character comes to one of theirs. The
exceptions are the letter `k`, to which the sign of the unit kelvin comes, and the number zero, which
stands for what is no character.
-/

namespace CloudAuth.Text

/-- A lower-case form of a text. A capital sigma may become either of the two small ones: which one it is
depends on the letters around it. -/
inductive LowersTo : Text → Text → Prop where
  /-- Nothing comes from nothing. -/
  | nil : LowersTo [] []
  /-- A code point becomes its lower-case form. -/
  | point (c : CodePoint) {t lowered : Text} (hrest : LowersTo t lowered) :
      LowersTo (c :: t) (c.lower ++ lowered)
  /-- A capital sigma at the end of a word becomes the small one that stands there. -/
  | finalSigma {t lowered : Text} (hrest : LowersTo t lowered) :
      LowersTo (.scalar '\u03A3' :: t) (.scalar '\u03C2' :: lowered)

/-- The lower-case form of a text is one of those of its code points. -/
theorem lowersTo_lower (t : Text) : LowersTo t (lower t) := by
  rw [lower]
  induction t with
  | nil => exact .nil
  | cons c t ih => exact .point c ih

/-- A character beyond ASCII is no letter from `A` to `Z`, and stays as it is. -/
theorem lowerAscii_of_le {c : Char} (hc : 128 ≤ c.toNat) : SettingValue.lowerAscii c = c := by
  refine if_neg fun hletter => ?_
  have hle : c.toNat ≤ 90 := hletter.2
  omega

/-- A character of ASCII becomes the one that only the letters from `A` to `Z` differ from. -/
theorem lowerChar_of_ascii {c : Char} (hc : c.toNat < 128) : lowerChar c = [SettingValue.lowerAscii c] := by
  have hall : ∀ n < 128, lowerChar (Char.ofNat n) = [SettingValue.lowerAscii (Char.ofNat n)] := by
    decide +kernel
  rw [← Char.ofNat_toNat c]
  exact hall c.toNat hc

/-- A code point beyond ASCII stays beyond it, but for the sign of the unit kelvin. -/
theorem le_lowerCodePoint {n : Nat} (hn : 128 ≤ n) (hkelvin : n ≠ 0x212A) : 128 ≤ lowerCodePoint n := by
  have hruns : ∀ run ∈ lowercaseRuns, run.2.1 < 128 ∨ 128 ≤ run.1 + run.2.2.2 ∨
      run.1 = 0x212A ∧ run.2.1 = 0x212A := by
    decide +kernel
  unfold lowerCodePoint
  split
  · next first last stride distance hfound =>
    have hrun := List.find?_some hfound
    simp only [Bool.and_eq_true, decide_eq_true_eq] at hrun
    have hcases := hruns _ (List.mem_of_find?_eq_some hfound)
    dsimp only at hcases
    omega
  · exact hn

/-- A character of ASCII that only characters of ASCII come to in lower case. -/
def IsPlain (c : Char) : Prop := 0 < c.toNat ∧ c.toNat < 128 ∧ c ≠ 'k'

instance (c : Char) : Decidable (IsPlain c) := inferInstanceAs (Decidable (_ ∧ _ ∧ _))

/-- A character beyond ASCII becomes something that is not plain. -/
theorem exists_mem_lowerChar_not_isPlain {c : Char} (hc : 128 ≤ c.toNat) :
    ∃ d ∈ lowerChar c, ¬ IsPlain d := by
  unfold lowerChar
  split
  · exact ⟨'\u0307', by simp, by decide⟩
  · -- The sign of the unit kelvin becomes `k`, which is not plain; all else stays beyond ASCII.
    refine ⟨_, List.mem_singleton_self _, ?_⟩
    rintro ⟨hpos, hascii, hk⟩
    by_cases hkelvin : c.toNat = 0x212A
    · rw [hkelvin] at hk
      exact hk (by decide +kernel)
    · have hlower := le_lowerCodePoint hc hkelvin
      rcases Classical.em (Nat.isValidChar (lowerCodePoint c.toNat)) with hvalid | hvalid
      · rw [Char.toNat_ofNat, if_pos hvalid] at hascii
        omega
      · rw [Char.toNat_ofNat, if_neg hvalid] at hpos
        omega

/-- A character whose lower-case form is plain, or would be in ASCII, is a character of ASCII. -/
theorem lowerChar_eq {c : Char}
    (hplain : (∀ d ∈ lowerChar c, IsPlain d) ∨ IsPlain (SettingValue.lowerAscii c)) :
    lowerChar c = [SettingValue.lowerAscii c] := by
  refine lowerChar_of_ascii (Nat.lt_of_not_le fun hbeyond => ?_)
  rcases hplain with hlower | hascii
  · obtain ⟨d, hd, hnot⟩ := exists_mem_lowerChar_not_isPlain hbeyond
    exact hnot (hlower d hd)
  · rw [lowerAscii_of_le hbeyond] at hascii
    exact Nat.not_lt.mpr hbeyond hascii.2.1

/-- A code point that is a plain character. -/
def IsPlainPoint : CodePoint → Prop
  | .scalar c => IsPlain c
  | .surrogate _ => False

instance : DecidablePred IsPlainPoint
  | .scalar c => inferInstanceAs (Decidable (IsPlain c))
  | .surrogate _ => inferInstanceAs (Decidable False)

/-- A code point whose lower-case form is plain, or would be in ASCII, is a character of ASCII. -/
theorem lowerPoint_eq {c : CodePoint}
    (hplain : (∀ d ∈ c.lower, IsPlainPoint d) ∨ IsPlainPoint (SettingValue.lowerAsciiPoint c)) :
    c.lower = [SettingValue.lowerAsciiPoint c] := by
  cases c with
  | scalar c =>
    have hchar : (∀ d ∈ lowerChar c, IsPlain d) ∨ IsPlain (SettingValue.lowerAscii c) :=
      hplain.imp_left fun hlower d hd => hlower (.scalar d) (List.mem_map_of_mem hd)
    rw [CodePoint.lower, lowerChar_eq hchar]
    rfl
  | surrogate unit => rfl

/-- A text whose lower-case form, or whose form in the way of ASCII, is plain has the one for the other. -/
theorem LowersTo.map_lowerAsciiPoint {t lowered : Text} (hlowers : LowersTo t lowered)
    (hplain : (∀ c ∈ lowered, IsPlainPoint c) ∨
      ∀ c ∈ t.map SettingValue.lowerAsciiPoint, IsPlainPoint c) :
    t.map SettingValue.lowerAsciiPoint = lowered := by
  induction hlowers with
  | nil => rfl
  | point c hrest ih =>
    simp only [List.mem_append, List.map_cons, List.mem_cons, or_imp, forall_and, forall_eq] at hplain
    rw [lowerPoint_eq (hplain.imp And.left And.left), List.map_cons, List.singleton_append,
      ih (hplain.imp And.right And.right)]
  | finalSigma hrest ih =>
    have hsigma : ¬ IsPlain '\u03C2' := by decide
    rcases hplain with hplain | hplain
    · exact absurd (hplain _ List.mem_cons_self) hsigma
    · have hcapital : ¬ IsPlain (SettingValue.lowerAscii '\u03A3') := by decide
      exact absurd (hplain _ List.mem_cons_self) hcapital

/-- A text is a plain name in lower case exactly when it is the name in any case of the letters of
ASCII. -/
theorem lower_eq_iff {name : Text} (hname : ∀ c ∈ name, IsPlainPoint c) (t : Text) :
    lower t = name ↔ t.map SettingValue.lowerAsciiPoint = name := by
  have hlowers := lowersTo_lower t
  constructor
  · rintro rfl
    exact hlowers.map_lowerAsciiPoint (.inl hname)
  · rintro rfl
    exact (hlowers.map_lowerAsciiPoint (.inr hname)).symm

end CloudAuth.Text
