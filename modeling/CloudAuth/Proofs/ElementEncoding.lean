import CloudAuth.Asn1.Value
import CloudAuth.Proofs.BigEndian

/-!
# Elements and their bytes

Elements that are written by the distinguished rules are read back as they were. What was read can be
written: its tag has one byte and its length has a form. The elements that are not constructed have no
shorter spelling than the one that is written.
-/

namespace CloudAuth.Asn1

/-- The shortest form of a long length is read back by either rules. -/
theorem longExtent?_ofNat (rules : Rules) {n : Nat} (hlong : 0x80 ≤ n)
    (hn : Bytes.width n ≤ maxLengthWidth) :
    longExtent? rules (Bytes.ofNat (Bytes.width n) n) = some (.definite n) := by
  unfold longExtent?
  rw [Bytes.toNat_ofNat_width, Bytes.length_ofNat]
  cases rules with
  | basic => simp only [if_neg (Nat.not_lt.mpr hn)]
  | distinguished => simp only [if_neg (Nat.not_lt.mpr hn), and_true, if_pos hlong]

/-- The first byte of a short length is the length. -/
theorem readExtent?_short (rules : Rules) {n : Nat} (hshort : n < 0x80) (rest : Bytes) :
    readExtent? rules (UInt8.ofNat n :: rest) = some (.definite n, rest) := by
  have hbyte : (UInt8.ofNat n).toNat = n := by
    rw [UInt8.toNat_ofNat']
    omega
  have hfirst : UInt8.ofNat n < 0x80 := by
    rw [UInt8.lt_iff_toNat_lt, hbyte]
    exact hshort
  simp only [readExtent?, if_pos hfirst, hbyte]

/-- The first byte of a long length counts the bytes that follow. -/
theorem readExtent?_long (rules : Rules) {count : Nat} (hpos : 0 < count)
    (hcount : count ≤ maxLengthWidth) {form : Bytes} (hform : form.length = count) (rest : Bytes) :
    readExtent? rules (UInt8.ofNat (0x80 + count) :: (form ++ rest)) =
      (longExtent? rules form).map (·, rest) := by
  unfold maxLengthWidth at hcount
  have hbyte : (UInt8.ofNat (0x80 + count)).toNat = 0x80 + count := by
    rw [UInt8.toNat_ofNat']
    omega
  have hfirst : ¬ UInt8.ofNat (0x80 + count) < 0x80 := by
    rw [UInt8.lt_iff_toNat_lt, hbyte]
    exact Nat.not_lt.mpr (Nat.le_add_right _ _)
  have hsecond : UInt8.ofNat (0x80 + count) ≠ 0x80 := by
    intro hsame
    have hnat : 0x80 + count = 0x80 := hbyte.symm.trans (congrArg UInt8.toNat hsame)
    omega
  have hroom : count ≤ (form ++ rest).length := by
    rw [List.length_append]
    omega
  simp only [readExtent?, if_neg hfirst, if_neg hsecond, hbyte, Nat.add_sub_cancel_left, if_pos hroom,
    List.take_left' hform, List.drop_left' hform]

/-- A length with a form is read back by either rules. -/
theorem readExtent?_lengthBytes (rules : Rules) {n : Nat} (hn : Bytes.width n ≤ maxLengthWidth)
    (rest : Bytes) : readExtent? rules (lengthBytes n ++ rest) = some (.definite n, rest) := by
  unfold lengthBytes
  split
  · next hshort => exact readExtent?_short rules hshort rest
  · next hlong =>
    have hpos : 0 < Bytes.width n := by
      apply Nat.pos_of_ne_zero
      intro hzero
      have hlt := (Bytes.width_le_iff n 0).mp (Nat.le_of_eq hzero)
      omega
    rw [List.cons_append, readExtent?_long rules hpos hn (Bytes.length_ofNat _ _),
      longExtent?_ofNat rules (Nat.not_lt.mp hlong) hn]
    rfl

/-- The written form of a length is one byte longer than the length is wide, or shorter. -/
theorem length_lengthBytes_le (n : Nat) : (lengthBytes n).length ≤ Bytes.width n + 1 := by
  unfold lengthBytes
  split
  · exact Nat.le_add_left 1 _
  · exact Nat.le_of_eq (congrArg (· + 1) (Bytes.length_ofNat _ _))

/-- A length in its long form is the number of the bytes. -/
theorem toNat_of_longExtent? {rules : Rules} {bytes : Bytes} {n : Nat}
    (hread : longExtent? rules bytes = some (.definite n)) :
    Bytes.toNat bytes = n ∧ Bytes.width n ≤ maxLengthWidth := by
  unfold longExtent? at hread
  dsimp only at hread
  split at hread
  · contradiction
  · next hwidth =>
    have hn : Bytes.toNat bytes = n := by
      cases rules with
      | basic =>
        cases hread
        rfl
      | distinguished =>
        dsimp only at hread
        split at hread
        · cases hread
          rfl
        · contradiction
    rw [hn] at hwidth
    exact ⟨hn, Nat.not_lt.mp hwidth⟩

/-- A length that is read has a form, and none that is shorter than the one that is written. -/
theorem width_of_readExtent? {rules : Rules} {bytes rest : Bytes} {n : Nat}
    (hread : readExtent? rules bytes = some (.definite n, rest)) :
    Bytes.width n ≤ maxLengthWidth ∧ (lengthBytes n).length + rest.length ≤ bytes.length := by
  cases bytes with
  | nil => contradiction
  | cons first after =>
    simp only [readExtent?] at hread
    split at hread
    · next hshort =>
      cases hread
      have hlt : first.toNat < 0x80 := hshort
      have hone : Bytes.width first.toNat ≤ 1 := (Bytes.width_le_iff _ 1).mpr (by omega)
      refine ⟨Nat.le_trans hone (by decide), ?_⟩
      rw [lengthBytes, if_pos hlt, List.length_cons, List.length_cons]
      simp [Nat.add_comm]
    · split at hread
      · cases rules <;> cases hread
      · split at hread
        · next hcount =>
          obtain ⟨extent, hextent, hpair⟩ := Option.map_eq_some_iff.mp hread
          cases hpair
          obtain ⟨hn, hwidth⟩ := toNat_of_longExtent? hextent
          have hlength : (after.take (first.toNat - 0x80)).length = first.toNat - 0x80 := by
            rw [List.length_take]
            omega
          have hbytes : Bytes.width n ≤ first.toNat - 0x80 := by
            have hlt := Bytes.toNat_lt (after.take (first.toNat - 0x80))
            rw [hlength, hn] at hlt
            exact (Bytes.width_le_iff _ _).mpr hlt
          have hform := length_lengthBytes_le n
          refine ⟨hwidth, ?_⟩
          rw [List.length_drop, List.length_cons]
          omega
        · contradiction

namespace Element

/-- The tag has one byte, and the length has a form. -/
structure IsWritable (e : Element) : Prop where
  /-- The tag has one byte. -/
  tag : e.tag &&& 0x1F ≠ 0x1F
  /-- The length has a form. -/
  width : Bytes.width e.content.length ≤ maxLengthWidth

/-- What is read can be written, and takes no more bytes than were read unless it is constructed. -/
theorem isWritable_of_readWithin? {rules : Rules} {fuel : Nat} {bytes rest : Bytes} {e : Element}
    (hread : readWithin? rules fuel bytes = some (e, rest)) :
    e.IsWritable ∧ (e.isConstructed = false → e.bytes.length + rest.length ≤ bytes.length) := by
  cases fuel with
  | zero => contradiction
  | succ fuel =>
    cases bytes with
    | nil => contradiction
    | cons tag afterTag =>
      unfold readWithin? at hread
      split at hread
      · contradiction
      · next htag =>
        cases hextent : readExtent? rules afterTag with
        | none =>
          rw [hextent] at hread
          contradiction
        | some found =>
          obtain ⟨extent, after⟩ := found
          rw [hextent] at hread
          cases extent with
          | definite length =>
            obtain ⟨hwidth, hsize⟩ := width_of_readExtent? hextent
            dsimp only at hread
            split at hread
            · next hlength =>
              cases hread
              have htake : (after.take length).length = length := by
                rw [List.length_take]
                omega
              refine ⟨⟨htag, by rw [htake]; exact hwidth⟩, fun _ => ?_⟩
              unfold bytes
              simp only [List.cons_append, List.length_cons, List.length_append, htake,
                List.length_drop]
              omega
            · contradiction
          | untilEnd =>
            dsimp only at hread
            split at hread
            · next hconstructed =>
              split at hread
              · contradiction
              · split at hread
                · contradiction
                · next hwidth =>
                  cases hread
                  refine ⟨⟨htag, Nat.not_lt.mp hwidth⟩, fun hplain => ?_⟩
                  rw [isConstructed, hconstructed] at hplain
                  contradiction
            · contradiction

/-- The one element that some bytes are can be written. -/
theorem isWritable_of_ofBytes? {rules : Rules} {bytes : Bytes} {e : Element}
    (hread : ofBytes? rules bytes = some e) : e.IsWritable := by
  unfold ofBytes? at hread
  split at hread
  · next hfirst =>
    cases hread
    exact (isWritable_of_readWithin? hfirst).1
  · contradiction

/-- An element is read back from its bytes, whatever follows them. -/
theorem read?_bytes (rules : Rules) {e : Element} (he : e.IsWritable) (rest : Bytes) :
    read? rules (e.bytes ++ rest) = some (e, rest) := by
  have hextent := readExtent?_lengthBytes rules he.width (e.content ++ rest)
  have hlength : e.content.length ≤ (e.content ++ rest).length := by
    rw [List.length_append]
    exact Nat.le_add_right _ _
  unfold read? bytes
  simp only [List.cons_append, List.append_assoc, readWithin?, if_neg he.tag, hextent, if_pos hlength,
    List.take_left, List.drop_left]

/-- An element is the one that its bytes are. -/
theorem ofBytes?_bytes (rules : Rules) {e : Element} (he : e.IsWritable) :
    ofBytes? rules e.bytes = some e := by
  have hread := read?_bytes rules he []
  rw [List.append_nil] at hread
  rw [ofBytes?, hread]

/-- Elements are read back from their bytes. -/
theorem readAllWithin?_flatMap_bytes (rules : Rules) {fuel : Nat} {parts : List Element}
    (hparts : ∀ e ∈ parts, e.IsWritable) (hfuel : parts.length ≤ fuel) :
    readAllWithin? rules fuel (parts.flatMap bytes) = some parts := by
  induction parts generalizing fuel with
  | nil => cases fuel <;> rfl
  | cons e rest ih =>
    cases fuel with
    | zero => contradiction
    | succ fuel =>
      have hread := read?_bytes rules (hparts e List.mem_cons_self) (rest.flatMap bytes)
      have hrest := ih (fun other hother => hparts other (List.mem_cons_of_mem e hother))
        (Nat.le_of_succ_le_succ hfuel)
      have hcons : (e :: rest).flatMap bytes = e.tag ::
          (lengthBytes e.content.length ++ e.content ++ rest.flatMap bytes) := rfl
      rw [hcons]
      simp only [readAllWithin?]
      rw [← hcons, List.flatMap_cons, hread]
      simp only [hrest, Option.map_some]

/-- Elements are the ones that their bytes consist of. -/
theorem readAll?_flatMap_bytes (rules : Rules) {parts : List Element}
    (hparts : ∀ e ∈ parts, e.IsWritable) : readAll? rules (parts.flatMap bytes) = some parts := by
  have hfuel : parts.length ≤ (parts.flatMap bytes).length := by
    clear hparts
    induction parts with
    | nil => exact Nat.le_refl 0
    | cons e rest ih =>
      simp only [List.flatMap_cons, List.length_append, List.length_cons, bytes]
      omega
  exact readAllWithin?_flatMap_bytes rules hparts hfuel

/-- Elements that are read can be written, and take no more bytes than were read unless one of them is
constructed. -/
theorem isWritable_of_readAllWithin? {rules : Rules} {fuel : Nat} {content : Bytes}
    {parts : List Element} (hread : readAllWithin? rules fuel content = some parts) :
    (∀ e ∈ parts, e.IsWritable) ∧
      ((∀ e ∈ parts, e.isConstructed = false) → (parts.flatMap bytes).length ≤ content.length) := by
  induction fuel generalizing content parts with
  | zero =>
    cases content with
    | nil =>
      cases hread
      exact ⟨by simp, fun _ => Nat.le_refl 0⟩
    | cons b rest => contradiction
  | succ fuel ih =>
    cases content with
    | nil =>
      cases hread
      exact ⟨by simp, fun _ => Nat.le_refl 0⟩
    | cons b after =>
      simp only [readAllWithin?] at hread
      cases hfirst : read? rules (b :: after) with
      | none =>
        rw [hfirst] at hread
        contradiction
      | some found =>
        obtain ⟨e, rest⟩ := found
        rw [hfirst] at hread
        obtain ⟨others, hothers, rfl⟩ := Option.map_eq_some_iff.mp hread
        obtain ⟨he, hsize⟩ := isWritable_of_readWithin? hfirst
        obtain ⟨hwritable, hsizes⟩ := ih hothers
        refine ⟨List.forall_mem_cons.mpr ⟨he, hwritable⟩, fun hplain => ?_⟩
        have hleft := hsize (hplain e List.mem_cons_self)
        have hright := hsizes fun other hother => hplain other (List.mem_cons_of_mem e hother)
        rw [List.flatMap_cons, List.length_append]
        omega

end Element

/-- The content of a natural number that is as short as it can be is the one that is written. -/
theorem naturalContent_toNat {content : Bytes} (hshortest : isShortest content = true)
    (hsign : content.headD 0 < 0x80) : naturalContent (Bytes.toNat content) = content := by
  cases content with
  | nil => contradiction
  | cons a rest =>
    by_cases ha : a = 0
    · subst ha
      rw [Bytes.toNat_zero_cons]
      cases rest with
      | nil => rfl
      | cons b rest =>
        -- A second byte that left the first bit unset would make the zero needless.
        have hb : 0x80 ≤ b := by
          apply UInt8.not_lt.mp
          intro hlow
          simp [isShortest, hlow] at hshortest
        have hne : b ≠ 0 := by
          intro hzero
          subst hzero
          contradiction
        unfold naturalContent
        rw [if_neg (Bytes.toNat_cons_ne_zero hne rest), Bytes.ofNat_width_toNat_cons hne]
        exact if_pos hb
    · unfold naturalContent
      rw [if_neg (Bytes.toNat_cons_ne_zero ha rest), Bytes.ofNat_width_toNat_cons ha]
      exact if_neg (UInt8.not_le.mpr hsign)

namespace Element

/-- An element with a natural number is the one that is written for it. -/
theorem eq_ofNatural_of_natural? {e : Element} {n : Nat} (hread : e.natural? = some n) :
    e = ofNatural n := by
  unfold natural? contentOf? at hread
  split at hread
  · next content hcontent =>
    split at hcontent
    · next htag =>
      cases hcontent
      split at hread
      · next hgood =>
        rw [Bool.and_eq_true, decide_eq_true_eq] at hgood
        cases hread
        rw [ofNatural, naturalContent_toNat hgood.1 hgood.2, ← htag]
      · contradiction
    · contradiction
  · contradiction

/-- The element of a natural number is not constructed. -/
theorem isConstructed_ofNatural (n : Nat) : (ofNatural n).isConstructed = false := by
  change isConstructedTag integerTag = false
  decide

/-- Elements with natural numbers are the ones that are written for them. -/
theorem eq_map_ofNatural_of_mapM {parts : List Element} {numbers : List Nat}
    (hread : parts.mapM natural? = some numbers) : parts = numbers.map ofNatural := by
  induction parts generalizing numbers with
  | nil =>
    cases hread
    rfl
  | cons e rest ih =>
    rw [List.mapM_cons] at hread
    obtain ⟨n, hn, hread⟩ := Option.bind_eq_some_iff.mp hread
    obtain ⟨others, hothers, hread⟩ := Option.bind_eq_some_iff.mp hread
    cases hread
    rw [List.map_cons, ← eq_ofNatural_of_natural? hn, ← ih hothers]

/-- The parts of a sequence can be written, and so can the sequence of them if none of them is
constructed. -/
theorem isWritable_of_sequence? {rules : Rules} {e : Element} {parts : List Element}
    (he : e.IsWritable) (hread : e.sequence? rules = some parts)
    (hplain : ∀ part ∈ parts, part.isConstructed = false) :
    (∀ part ∈ parts, part.IsWritable) ∧ (ofSequence parts).IsWritable := by
  obtain ⟨content, hcontent, hall⟩ := Option.bind_eq_some_iff.mp hread
  obtain ⟨hparts, hsize⟩ := isWritable_of_readAllWithin? hall
  refine ⟨hparts, (by decide : sequenceTag &&& 0x1F ≠ 0x1F), ?_⟩
  have hsame : e.content = content := by
    unfold contentOf? at hcontent
    split at hcontent
    · exact Option.some.inj hcontent
    · contradiction
  have hwidth := (Bytes.width_le_iff _ _).mp he.width
  rw [hsame] at hwidth
  exact (Bytes.width_le_iff _ _).mpr (Nat.lt_of_le_of_lt (hsize hplain) hwidth)

/-- The parts of a sequence are read back from it. -/
theorem sequence?_ofSequence (rules : Rules) {parts : List Element}
    (hparts : ∀ e ∈ parts, e.IsWritable) : (ofSequence parts).sequence? rules = some parts :=
  readAll?_flatMap_bytes rules hparts

end Element

end CloudAuth.Asn1
