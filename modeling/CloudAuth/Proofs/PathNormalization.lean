import CloudAuth.Path
import CloudAuth.Text.Blank

/-!
# Normal forms of paths

A path in normal form is read back from how it is written, so to bring a path into normal form twice is
to do so once. The normal form adds no code points but slashes and a full stop, and leaves a text of
nothing but blanks as it is.
-/

namespace CloudAuth.Path

/-- Whether a piece is kept as a component: it has no slash in it, and is neither empty nor `.`. -/
structure IsComponent (piece : Text) : Prop where
  /-- There is no slash. -/
  slash_not_mem : slash ∉ piece
  /-- There is something. -/
  ne_nil : piece ≠ []
  /-- There is more than a full stop. -/
  ne_dot : piece ≠ dot

/-- Whether a path is in normal form. -/
def IsNormal (p : Path) : Prop := ∀ piece ∈ p.components, IsComponent piece

/-- A piece without slashes is read up to what follows it. -/
theorem piecesFrom_append {piece : Text} (hpiece : slash ∉ piece) (start rest : Text) :
    piecesFrom slash start (piece ++ rest) = piecesFrom slash (start ++ piece) rest := by
  induction piece generalizing start with
  | nil => simp
  | cons c piece ih =>
    have hc : c ≠ slash := fun h => hpiece (h ▸ List.mem_cons_self)
    have hrest : slash ∉ piece := fun h => hpiece (List.mem_cons_of_mem c h)
    rw [List.cons_append, piecesFrom, if_neg hc, ih hrest]
    simp

/-- Pieces without slashes are what stands between the slashes after they are joined. -/
theorem pieces_joined {components : List Text} (hne : components ≠ [])
    (hslash : ∀ piece ∈ components, slash ∉ piece) : pieces (joined components) = components := by
  induction components with
  | nil => contradiction
  | cons piece rest ih =>
    have hpiece := hslash piece List.mem_cons_self
    cases rest with
    | nil => simpa [pieces, joined, piecesFrom] using piecesFrom_append hpiece [] []
    | cons next rest =>
      have hrest := ih (by simp) fun other hother => hslash other (List.mem_cons_of_mem _ hother)
      rw [joined, pieces, piecesFrom_append hpiece, List.nil_append, piecesFrom, if_pos rfl]
      · exact congrArg (piece :: ·) hrest
      · simp

/-- No piece has a slash in it. -/
theorem slash_not_mem_of_mem_piecesFrom {start cs piece : Text} (hstart : slash ∉ start)
    (hpiece : piece ∈ piecesFrom slash start cs) : slash ∉ piece := by
  induction cs generalizing start with
  | nil =>
    rw [piecesFrom, List.mem_singleton] at hpiece
    exact hpiece ▸ hstart
  | cons c rest ih =>
    rw [piecesFrom] at hpiece
    split at hpiece
    · rcases List.mem_cons.mp hpiece with rfl | hrest
      · exact hstart
      · exact ih List.not_mem_nil hrest
    · next hc => exact ih (by simp [hstart, Ne.symm hc]) hpiece

/-- Every text has a normal form. -/
theorem isNormal_ofText (t : Text) : (ofText t).IsNormal := by
  intro piece hpiece
  obtain ⟨hmem, hkept⟩ := List.mem_filter.mp hpiece
  have hslash := slash_not_mem_of_mem_piecesFrom List.not_mem_nil hmem
  simp only [isDropped, Bool.not_eq_true', Bool.or_eq_false_iff, beq_eq_false_iff_ne] at hkept
  exact ⟨hslash, hkept.1, hkept.2⟩

/-- What is kept of the pieces does not depend on the slashes at the start. -/
theorem keptPieces_root (root : PathRoot) (cs : Text) :
    (pieces (root.text ++ cs)).filter (!isDropped ·) = (pieces cs).filter (!isDropped ·) := by
  cases root <;> rfl

/-- What is written after the root of a path in normal form does not start with a slash. -/
theorem takeWhile_joined {components : List Text}
    (hnormal : ∀ piece ∈ components, IsComponent piece) :
    (joined components).takeWhile (· == slash) = [] := by
  cases components with
  | nil => rfl
  | cons piece rest =>
    obtain ⟨hslash, hne, hdot⟩ := hnormal piece List.mem_cons_self
    obtain ⟨c, cs, rfl⟩ := List.exists_cons_of_ne_nil hne
    have hc : (c == slash) = false := beq_eq_false_iff_ne.mpr fun h => hslash (h ▸ List.mem_cons_self)
    cases rest with
    | nil => rw [joined, List.takeWhile_cons_of_neg (by simp [hc])]
    | cons next rest =>
      rw [joined, List.cons_append, List.takeWhile_cons_of_neg (by simp [hc])]
      simp

/-- The slashes at the start are those of the root. -/
theorem rootOf_append (root : PathRoot) {cs : Text} (hcs : cs.takeWhile (· == slash) = []) :
    rootOf (root.text ++ cs) = root := by
  cases root <;> simp [rootOf, PathRoot.text, hcs]

/-- Between the slashes of what is written after the root of a path in normal form are its components. -/
theorem keptPieces_joined {components : List Text}
    (hnormal : ∀ piece ∈ components, IsComponent piece) :
    (pieces (joined components)).filter (!isDropped ·) = components := by
  by_cases hnil : components = []
  · subst hnil
    rfl
  · rw [pieces_joined hnil fun piece hpiece => (hnormal piece hpiece).slash_not_mem, List.filter_eq_self]
    intro piece hpiece
    simp [isDropped, (hnormal piece hpiece).ne_nil, (hnormal piece hpiece).ne_dot]

/-- A path in normal form is read back from how it is written. -/
theorem ofText_text_of_isNormal {p : Path} (hnormal : p.IsNormal) : ofText p.text = p := by
  by_cases hempty : p.root = .relative ∧ p.components = []
  · obtain ⟨root, components⟩ := p
    obtain ⟨rfl, rfl⟩ := hempty
    rfl
  · rw [text, if_neg hempty, ofText, rootOf_append p.root (takeWhile_joined hnormal), keptPieces_root,
      keptPieces_joined hnormal]

/-- To bring a path into normal form twice is to do so once. -/
theorem ofText_text (t : Text) : ofText (ofText t).text = ofText t :=
  ofText_text_of_isNormal (isNormal_ofText t)

/-- The pieces hold no other code points than the text. -/
theorem mem_of_mem_piecesFrom {start cs piece : Text} {c : CodePoint}
    (hpiece : piece ∈ piecesFrom slash start cs) (hc : c ∈ piece) : c ∈ start ∨ c ∈ cs := by
  induction cs generalizing start with
  | nil =>
    rw [piecesFrom, List.mem_singleton] at hpiece
    exact .inl (hpiece ▸ hc)
  | cons d rest ih =>
    rw [piecesFrom] at hpiece
    split at hpiece
    · rcases List.mem_cons.mp hpiece with rfl | hrest
      · exact .inl hc
      · exact .inr (List.mem_cons_of_mem d ((ih hrest).resolve_left List.not_mem_nil))
    · rcases ih hpiece with hstart | hrest
      · refine (List.mem_append.mp hstart).imp_right fun hd => ?_
        rw [List.mem_singleton.mp hd]
        exact List.mem_cons_self
      · exact .inr (List.mem_cons_of_mem d hrest)

/-- Joining adds no other characters than slashes. -/
theorem mem_of_mem_joined {components : List Text} {c : CodePoint} (hc : c ∈ joined components) :
    c = slash ∨ ∃ piece ∈ components, c ∈ piece := by
  induction components with
  | nil => contradiction
  | cons piece rest ih =>
    cases rest with
    | nil => exact .inr ⟨piece, List.mem_cons_self, hc⟩
    | cons next rest =>
      rw [joined, List.mem_append, List.mem_cons] at hc
      · rcases hc with hfirst | rfl | hrest
        · exact .inr ⟨piece, List.mem_cons_self, hfirst⟩
        · exact .inl rfl
        · refine (ih hrest).imp_right ?_
          rintro ⟨other, hother, hmem⟩
          exact ⟨other, List.mem_cons_of_mem _ hother, hmem⟩
      · simp

/-- The normal form adds no other code points than slashes and a full stop. -/
theorem mem_of_mem_text {t : Text} {c : CodePoint} (hc : c ∈ (ofText t).text) :
    c = slash ∨ c = .scalar '.' ∨ c ∈ t := by
  rw [text] at hc
  split at hc
  · exact .inr (.inl (List.mem_singleton.mp hc))
  · rcases List.mem_append.mp hc with hroot | hjoined
    · refine .inl ?_
      revert hroot
      cases (ofText t).root <;> simp [PathRoot.text]
    · refine (mem_of_mem_joined hjoined).imp_right ?_
      rintro ⟨piece, hpiece, hmem⟩
      exact .inr ((mem_of_mem_piecesFrom (List.mem_filter.mp hpiece).1 hmem).resolve_left
        List.not_mem_nil)

/-- A single component is its own normal form. -/
theorem text_ofText_of_isComponent {t : Text} (hcomponent : IsComponent t) : (ofText t).text = t := by
  have hnormal : IsNormal ⟨.relative, [t]⟩ := fun piece hpiece =>
    List.mem_singleton.mp hpiece ▸ hcomponent
  have htext : (Path.mk .relative [t]).text = t := rfl
  rw [← htext, ofText_text_of_isNormal hnormal]

/-- A text of nothing but blanks is its own normal form, unless it is empty. -/
theorem text_ofText_of_blank {t : Text} (hne : t ≠ []) (hblank : Text.isBlankText t = true) :
    (ofText t).text = t := by
  have hall := List.all_eq_true.mp hblank
  have hslash : slash ∉ t := fun h => absurd (hall slash h) (by decide)
  have hdot : t ≠ dot := by
    rintro rfl
    exact absurd (hall (.scalar '.') List.mem_cons_self) (by decide)
  exact text_ofText_of_isComponent ⟨hslash, hne, hdot⟩

end CloudAuth.Path
