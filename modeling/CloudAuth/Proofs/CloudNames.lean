import CloudAuth.Proofs.LowerCase
import CloudAuth.Proofs.Preference

/-!
# The names of clouds

Nine names find a cloud, in any case of the letters of ASCII and with blanks around them, and no other
text does. The look-up brings every letter into lower case, those of other scripts too. Some of these
come to a letter of ASCII, but not to one that stands in a name without another character beside it, so
they let nothing through.
-/

namespace CloudAuth

namespace Text

/-- A text is what is left between its blanks, with blanks around it. -/
theorem exists_eq_strip (t : Text) : ∃ before after, t = before ++ t.strip ++ after ∧
    (∀ c ∈ before, c.isBlank = true) ∧ ∀ c ∈ after, c.isBlank = true := by
  refine ⟨t.takeWhile CodePoint.isBlank,
    ((t.dropWhile CodePoint.isBlank).reverse.takeWhile CodePoint.isBlank).reverse, ?_,
    fun c hc => List.mem_takeWhile_imp hc,
    fun c hc => List.mem_takeWhile_imp (List.mem_reverse.mp hc)⟩
  rw [strip, List.append_assoc, ← List.reverse_append, List.takeWhile_append_dropWhile,
    List.reverse_reverse, List.takeWhile_append_dropWhile]

/-- What is left between the blanks does not depend on the blanks around it. -/
theorem strip_padded {before after : Text} (hbefore : ∀ c ∈ before, c.isBlank = true)
    (hafter : ∀ c ∈ after, c.isBlank = true) (t : Text) : strip (before ++ t ++ after) = strip t := by
  have hnil : after.dropWhile CodePoint.isBlank = [] := List.dropWhile_eq_nil_iff.mpr hafter
  rw [strip, strip, List.append_assoc, List.dropWhile_append_of_pos hbefore, List.dropWhile_append]
  split
  · next hempty => rw [hnil, List.isEmpty_iff.mp hempty]
  · rw [List.reverse_append, List.dropWhile_append_of_pos fun c hc => hafter c (List.mem_reverse.mp hc)]

/-- A text without blanks is left as it is. -/
theorem strip_of_not_blank {t : Text} (ht : ∀ c ∈ t, c.isBlank = false) : t.strip = t := by
  have hdrop (l : Text) (hl : ∀ c ∈ l, c.isBlank = false) : l.dropWhile CodePoint.isBlank = l := by
    cases l with
    | nil => rfl
    | cons c rest => rw [List.dropWhile_cons_of_neg (by simp [hl c List.mem_cons_self])]
  rw [strip, hdrop t ht, hdrop _ fun c hc => ht c (List.mem_reverse.mp hc), List.reverse_reverse]

/-- A character is a blank in lower case exactly when it is one. -/
theorem isBlank_lowerAscii (c : Char) : isBlank (SettingValue.lowerAscii c) = isBlank c := by
  rcases Nat.lt_or_ge c.toNat 128 with hascii | hbeyond
  · have hall : ∀ n < 128,
        isBlank (SettingValue.lowerAscii (Char.ofNat n)) = isBlank (Char.ofNat n) := by
      decide +kernel
    rw [← Char.ofNat_toNat c]
    exact hall c.toNat hascii
  · rw [lowerAscii_of_le hbeyond]

/-- A code point is a blank in lower case exactly when it is one. -/
theorem isBlank_lowerAsciiPoint (c : CodePoint) :
    (SettingValue.lowerAsciiPoint c).isBlank = c.isBlank := by
  cases c with
  | scalar c => exact isBlank_lowerAscii c
  | surrogate unit => rfl

/-- To take the blanks off and to bring the letters of ASCII into lower case is the same in either
order. -/
theorem strip_map_lowerAsciiPoint (t : Text) :
    strip (t.map SettingValue.lowerAsciiPoint) = t.strip.map SettingValue.lowerAsciiPoint := by
  have hblank : CodePoint.isBlank ∘ SettingValue.lowerAsciiPoint = CodePoint.isBlank :=
    funext isBlank_lowerAsciiPoint
  rw [strip, List.dropWhile_map, hblank, ← List.map_reverse, List.dropWhile_map, hblank,
    ← List.map_reverse, strip]

end Text

namespace Cloud

/-- The names of the clouds: those of the registry, and a second one for three of them. -/
def names : List (Text × Cloud) :=
  [("global", worldwide), ("usgovernmentl4", governmentL4), ("usgovernmentl5", governmentL5),
    ("germany", germany), ("china", china), ("canary", canary), ("public", worldwide),
    ("usgovernment", governmentL4), ("dod", governmentL5)]

/-- A text spells a name: between blanks it is the name, in any case of the letters of ASCII. -/
def Spells (t name : Text) : Prop :=
  ∃ before core after, t = before ++ core ++ after ∧
    (∀ c ∈ before, c.isBlank = true) ∧ (∀ c ∈ after, c.isBlank = true) ∧
      core.map SettingValue.lowerAsciiPoint = name

/-- The names are written in plain characters, without blanks. -/
theorem isPlainPoint_of_mem {name : Text} {cloud : Cloud} (hname : (name, cloud) ∈ names) :
    ∀ c ∈ name, Text.IsPlainPoint c ∧ c.isBlank = false := by
  have hall : ∀ entry ∈ names, ∀ c ∈ entry.1, Text.IsPlainPoint c ∧ c.isBlank = false := by
    decide +kernel
  exact hall _ hname

/-- The registry has a cloud for what a key stands for exactly when the key is a name of the cloud. -/
theorem find?_resolve_eq_some_iff (key : Text) (cloud : Cloud) :
    registry.find? (·.name == resolve key) = some cloud ↔ (key, cloud) ∈ names := by
  have hregistry : ∀ cloud ∈ registry, (cloud.name, cloud) ∈ names := by decide +kernel
  have haliases : ∀ entry ∈ aliases, ∀ cloud ∈ registry, cloud.name = entry.2 →
      (entry.1, cloud) ∈ names := by
    decide +kernel
  have hnames : ∀ entry ∈ names, registry.find? (·.name == resolve entry.1) = some entry.2 := by
    decide +kernel
  constructor
  · intro hfound
    have hmem := List.mem_of_find?_eq_some hfound
    have hname := List.find?_some hfound
    rw [beq_iff_eq, resolve] at hname
    cases halias : aliases.lookup key with
    | none =>
      rw [halias, Option.getD_none] at hname
      exact hname ▸ hregistry cloud hmem
    | some name =>
      rw [halias, Option.getD_some] at hname
      obtain ⟨before, after, haliased, -⟩ := List.lookup_eq_some_iff.mp halias
      exact haliases (key, name) (by simp [haliased]) cloud hmem hname
  · exact hnames (key, cloud)

/-- What a text is between its blanks, with the letters of ASCII in lower case. -/
def folded (t : Text) : Text := t.strip.map SettingValue.lowerAsciiPoint

/-- A cloud is found exactly when the text is one of its names between its blanks, however each capital
sigma in it is brought into lower case. -/
theorem find?_eq_some_iff_of_lowersTo {t lowered : Text} (hlowers : Text.LowersTo t.strip lowered)
    (cloud : Cloud) :
    registry.find? (·.name == resolve lowered) = some cloud ↔ (folded t, cloud) ∈ names := by
  have hplain {key : Text} (hname : (key, cloud) ∈ names) : ∀ c ∈ key, Text.IsPlainPoint c :=
    fun c hc => (isPlainPoint_of_mem hname c hc).1
  rw [find?_resolve_eq_some_iff, folded]
  constructor
  · intro hname
    rwa [hlowers.map_lowerAsciiPoint (.inl (hplain hname))]
  · intro hname
    rwa [← hlowers.map_lowerAsciiPoint (.inr (hplain hname))]

/-- A name finds a cloud exactly when it is one of its names between its blanks. -/
theorem find_eq_ok_iff (name : Text) (cloud : Cloud) :
    find name = .ok cloud ↔ (folded name, cloud) ∈ names := by
  have hfound := find?_eq_some_iff_of_lowersTo (Text.lowersTo_lower name.strip) cloud
  rw [← hfound, find, keyOf]
  cases registry.find? (·.name == resolve (Text.lower name.strip)) <;> simp

/-- A name finds no cloud exactly when it is no name between its blanks. -/
theorem find_eq_error_iff (name : Text) (e : SetupError) :
    find name = .error e ↔ e = .unknownCloud name ∧ ∀ cloud, (folded name, cloud) ∉ names := by
  simp only [← find_eq_ok_iff]
  cases hfind : find name with
  | error other =>
    rw [eq_unknownCloud_of_find hfind]
    simp [eq_comm]
  | ok cloud => simp

/-- A text that spells a name is the name between its blanks, and the other way round. -/
theorem spells_iff (t : Text) {name : Text} {cloud : Cloud} (hname : (name, cloud) ∈ names) :
    Spells t name ↔ folded t = name := by
  rw [folded]
  constructor
  · rintro ⟨before, core, after, rfl, hbefore, hafter, hcore⟩
    -- A name holds no blanks, so nothing of it is taken off with those around it.
    have hblank : ∀ c ∈ core, c.isBlank = false := by
      intro c hc
      rw [← Text.isBlank_lowerAsciiPoint]
      exact (isPlainPoint_of_mem hname _ (hcore ▸ List.mem_map_of_mem hc)).2
    rw [Text.strip_padded hbefore hafter, Text.strip_of_not_blank hblank, hcore]
  · intro hfolded
    obtain ⟨before, after, ht, hbefore, hafter⟩ := Text.exists_eq_strip t
    exact ⟨before, _, after, ht, hbefore, hafter, hfolded⟩

/-- A code point beyond ASCII is not plain, and no letter that becomes another one in lower case. -/
theorem not_isPlainPoint_lowerAsciiPoint {c : CodePoint} (hbeyond : 128 ≤ c.value) :
    ¬ Text.IsPlainPoint (SettingValue.lowerAsciiPoint c) := by
  cases c with
  | scalar c =>
    intro hplain
    have hascii : (SettingValue.lowerAscii c).toNat < 128 := hplain.2.1
    rw [Text.lowerAscii_of_le hbeyond] at hascii
    exact absurd hascii (Nat.not_lt.mpr hbeyond)
  | surrogate unit => exact id

/-- A text with a code point beyond ASCII that is no blank spells no name. -/
theorem not_spells_of_le {t : Text} {c : CodePoint} (hc : c ∈ t) (hbeyond : 128 ≤ c.value)
    (hblank : c.isBlank = false) {name : Text} {cloud : Cloud} (hname : (name, cloud) ∈ names) :
    ¬ Spells t name := by
  rintro ⟨before, core, after, rfl, hbefore, hafter, hcore⟩
  rw [List.mem_append, List.mem_append] at hc
  rcases hc with (hc | hc) | hc
  · exact absurd ((hbefore c hc).symm.trans hblank) (by decide)
  · have hmem := List.mem_map_of_mem (f := SettingValue.lowerAsciiPoint) hc
    rw [hcore] at hmem
    exact not_isPlainPoint_lowerAsciiPoint hbeyond (isPlainPoint_of_mem hname _ hmem).1
  · exact absurd ((hafter c hc).symm.trans hblank) (by decide)

/-- A text is the same between its blanks as another that has other blanks around it and its letters of
ASCII in another case. -/
theorem folded_padded {t before core after : Text} (hbefore : ∀ c ∈ before, c.isBlank = true)
    (hafter : ∀ c ∈ after, c.isBlank = true)
    (hcore : core.map SettingValue.lowerAsciiPoint = t.map SettingValue.lowerAsciiPoint) :
    folded (before ++ core ++ after) = folded t := by
  rw [folded, folded, Text.strip_padded hbefore hafter, ← Text.strip_map_lowerAsciiPoint, hcore,
    Text.strip_map_lowerAsciiPoint]

/-- Texts that are the same between their blanks find the same cloud, or none. -/
theorem find_eq_of_folded_eq {s t : Text} (hfolded : folded s = folded t) :
    find s = (find t).mapError fun _ => .unknownCloud s := by
  cases hfind : find t with
  | ok cloud =>
    rw [find_eq_ok_iff, ← hfolded, ← find_eq_ok_iff] at hfind
    exact hfind
  | error e =>
    rw [find_eq_error_iff, ← hfolded] at hfind
    exact (find_eq_error_iff s _).mpr ⟨rfl, hfind.2⟩

end Cloud

/-- A text finds a cloud exactly when it spells one of its names, and otherwise the error shows the whole
text in quotes, together with the names in the registry in the order of the alphabet. Letters beyond
ASCII find nothing, whatever they are in lower case, and no capital sigma does either, whichever small one
it becomes. Blanks around the text and the case of letters of ASCII do not matter. -/
theorem clouds_found_by_names_alone (name : Text) :
    (∀ cloud, Cloud.find name = .ok cloud ↔
      ∃ key, (key, cloud) ∈ Cloud.names ∧ Cloud.Spells name key) ∧
    (∀ e, Cloud.find name = .error e ↔ e = .unknownCloud name ∧
      ∀ key cloud, (key, cloud) ∈ Cloud.names → ¬ Cloud.Spells name key) ∧
    (∃ keys : List String, (keys.map Text.ofString).Perm (Cloud.registry.map Cloud.name) ∧
      keys.Pairwise (· < ·) ∧
      (SetupError.unknownCloud name).message = "Unknown environment " ++ Text.quoted name ++
        "; expected one of: " ++ ", ".intercalate keys) ∧
    (∀ c ∈ name, 128 ≤ c.value → c.isBlank = false → Cloud.find name = .error (.unknownCloud name)) ∧
    (∀ lowered, Text.LowersTo name.strip lowered →
      Cloud.registry.find? (·.name == Cloud.resolve lowered) = (Cloud.find name).toOption) ∧
    ∀ before core after, (∀ c ∈ before, c.isBlank = true) → (∀ c ∈ after, c.isBlank = true) →
      core.map SettingValue.lowerAsciiPoint = name.map SettingValue.lowerAsciiPoint →
      Cloud.find (before ++ core ++ after) =
        (Cloud.find name).mapError fun _ => .unknownCloud (before ++ core ++ after) := by
  have herror (e : SetupError) : Cloud.find name = .error e ↔ e = .unknownCloud name ∧
      ∀ key cloud, (key, cloud) ∈ Cloud.names → ¬ Cloud.Spells name key := by
    rw [Cloud.find_eq_error_iff]
    refine and_congr_right fun _ => ⟨fun hnone key cloud hname hspells => ?_, fun hnone cloud hname => ?_⟩
    · exact hnone cloud ((Cloud.spells_iff name hname).mp hspells ▸ hname)
    · exact hnone _ cloud hname ((Cloud.spells_iff name hname).mpr rfl)
  refine ⟨fun cloud => ?_, herror, ?_, fun c hc hbeyond hblank => ?_, fun lowered hlowers => ?_,
    fun before core after hbefore hafter hcore => ?_⟩
  · rw [Cloud.find_eq_ok_iff]
    constructor
    · exact fun hname => ⟨_, hname, (Cloud.spells_iff name hname).mpr rfl⟩
    · rintro ⟨key, hname, hspells⟩
      exact (Cloud.spells_iff name hname).mp hspells ▸ hname
  · refine ⟨["canary", "china", "germany", "global", "usgovernmentl4", "usgovernmentl5"], ?_, ?_, ?_⟩
    · decide +kernel
    · decide +kernel
    · rfl
  · exact (herror _).mpr ⟨rfl, fun key cloud hname => Cloud.not_spells_of_le hc hbeyond hblank hname⟩
  · refine Option.ext fun cloud => ?_
    rw [Cloud.find?_eq_some_iff_of_lowersTo hlowers, ← Cloud.find_eq_ok_iff]
    cases Cloud.find name <;> simp [Except.toOption]
  · exact Cloud.find_eq_of_folded_eq (Cloud.folded_padded hbefore hafter hcore)

/-- A second name finds its cloud in capitals and between blanks of any script. A capital I with a dot is no
letter of a name, although there is an `i` in its lower-case form, and a sign of the unit kelvin is none
either. -/
theorem worldwide_found_by_padded_name :
    Cloud.Spells "\u2003PubLIC\x1f" "public" ∧ Cloud.find "\u2003PubLIC\x1f" = .ok .worldwide ∧
      Cloud.find "\x0b\u2003PubLIC\x1f" = .ok .worldwide ∧
      Cloud.find "ch\u0130na" = .error (.unknownCloud "ch\u0130na") ∧
      Cloud.find "\u212Aanary" = .error (.unknownCloud "\u212Aanary") ∧
      (SetupError.unknownCloud " x\n").message = "Unknown environment ' x\\n'; expected one of: " ++
        "canary, china, germany, global, usgovernmentl4, usgovernmentl5" := by
  have hspells : Cloud.Spells "\u2003PubLIC\x1f" "public" :=
    ⟨"\u2003", "PubLIC", "\x1f", rfl, by decide, by decide, by decide⟩
  obtain ⟨hfound, -, -, -, -, hpadded⟩ := clouds_found_by_names_alone "\u2003PubLIC\x1f"
  obtain ⟨-, -, -, hdotted, -⟩ := clouds_found_by_names_alone "ch\u0130na"
  obtain ⟨-, -, -, hkelvin, -⟩ := clouds_found_by_names_alone "\u212Aanary"
  have hworldwide := (hfound .worldwide).mpr ⟨"public", by simp [Cloud.names], hspells⟩
  have hmore := hpadded "\x0b" "\u2003PubLIC\x1f" [] (by decide) nofun rfl
  rw [hworldwide] at hmore
  exact ⟨hspells, hworldwide, hmore, hdotted (.scalar '\u0130') (by decide) (by decide) (by decide),
    hkelvin (.scalar '\u212A') (by decide) (by decide) (by decide), by decide +kernel⟩

end CloudAuth
