import RoleAccess.Proofs.NameSets

/-!
# Names in small letters

Two names are the same when they differ at most in the case of ASCII letters, so every name is the
same as itself in small letters, and names in small letters are the same only when they are equal.
Nothing that is asked of a name tells it from its small letters, and whatever is done to a set of
names can as well be done in small letters.
-/

namespace RoleAccess

/-! ## Letters and bytes -/

theorem lowerByte_of_large {n : Nat} (h : 128 ≤ n) (hlt : n < 256) :
    lowerByte (UInt8.ofNat n) = UInt8.ofNat n := by
  rw [lowerByte, if_neg]
  rintro ⟨-, hle⟩
  have hle := UInt8.le_iff_toNat_le.1 hle
  rw [UInt8.toNat_ofNat_of_lt' hlt] at hle
  have hninety : (90 : UInt8).toNat = 90 := rfl
  omega

/-- The capitals are the numbers from 65 to 90. -/
theorem isCapital_iff {c : Char} : ('A' ≤ c ∧ c ≤ 'Z') ↔ 65 ≤ c.toNat ∧ c.toNat ≤ 90 :=
  Iff.rfl

theorem forall_capital {P : Char → Prop} (h : ∀ k < 26, P (Char.ofNat (65 + k))) {c : Char}
    (hc : 'A' ≤ c ∧ c ≤ 'Z') : P c := by
  obtain ⟨hlow, hhigh⟩ := isCapital_iff.1 hc
  have hP := h (c.toNat - 65) (by omega)
  rwa [Nat.add_sub_cancel' hlow, Char.ofNat_toNat] at hP

/-- A letter is lowered by lowering its bytes. -/
theorem map_lowerByte_utf8EncodeChar (c : Char) :
    (String.utf8EncodeChar c).map lowerByte = String.utf8EncodeChar (Text.lowerAscii c) := by
  by_cases hc : 'A' ≤ c ∧ c ≤ 'Z'
  · exact forall_capital (P := fun c => (String.utf8EncodeChar c).map lowerByte =
      String.utf8EncodeChar (Text.lowerAscii c)) (by decide) hc
  · rw [Text.lowerAscii, if_neg hc]
    rw [isCapital_iff, Char.toNat] at hc
    unfold String.utf8EncodeChar
    dsimp only
    split
    · have hbyte : c.val.toNat < UInt8.size := Nat.lt_of_le_of_lt ‹_› (by decide)
      rw [List.map_singleton, lowerByte, if_neg]
      rintro ⟨hlow, hhigh⟩
      have hlow := UInt8.le_iff_toNat_le.1 hlow
      have hhigh := UInt8.le_iff_toNat_le.1 hhigh
      rw [UInt8.toNat_ofNat_of_lt' hbyte] at hlow hhigh
      exact hc ⟨hlow, hhigh⟩
    split
    · simp only [List.map_cons, List.map_nil]
      rw [lowerByte_of_large (by omega) (by omega), lowerByte_of_large (by omega) (by omega)]
    split
    · simp only [List.map_cons, List.map_nil]
      rw [lowerByte_of_large (by omega) (by omega), lowerByte_of_large (by omega) (by omega),
        lowerByte_of_large (by omega) (by omega)]
    · simp only [List.map_cons, List.map_nil]
      rw [lowerByte_of_large (by omega) (by omega), lowerByte_of_large (by omega) (by omega),
        lowerByte_of_large (by omega) (by omega), lowerByte_of_large (by omega) (by omega)]

theorem isBlank_lowerAscii (c : Char) : Text.isBlank (Text.lowerAscii c) = Text.isBlank c := by
  by_cases hc : 'A' ≤ c ∧ c ≤ 'Z'
  · exact forall_capital (P := fun c => Text.isBlank (Text.lowerAscii c) = Text.isBlank c)
      (by decide) hc
  · rw [Text.lowerAscii, if_neg hc]

theorem lowerAscii_lowerAscii (c : Char) :
    Text.lowerAscii (Text.lowerAscii c) = Text.lowerAscii c := by
  by_cases hc : 'A' ≤ c ∧ c ≤ 'Z'
  · exact forall_capital (P := fun c => Text.lowerAscii (Text.lowerAscii c) = Text.lowerAscii c)
      (by decide) hc
  · simp only [Text.lowerAscii, if_neg hc]

namespace Name

/-- The name in small letters. -/
def lower (n : Name) : Name :=
  ⟨String.ofList (n.text.toList.map Text.lowerAscii)⟩

theorem folded_eq_of_lower (n : Name) :
    n.folded = n.lower.text.toList.flatMap String.utf8EncodeChar := by
  rw [folded, lower, String.toList_ofList, List.map_flatMap, List.flatMap_map]
  simp only [map_lowerByte_utf8EncodeChar]

theorem lower_lower (n : Name) : n.lower.lower = n.lower := by
  have htwice : (n.text.toList.map Text.lowerAscii).map Text.lowerAscii =
      n.text.toList.map Text.lowerAscii := by
    rw [List.map_map]
    exact List.map_congr_left fun c _ => lowerAscii_lowerAscii c
  simp only [lower, String.toList_ofList, htwice]

/-- Two names are the same iff they are equal in small letters. -/
theorem same_iff_lower_eq {a b : Name} : a.same b = true ↔ a.lower = b.lower := by
  rw [same_iff, folded_eq_of_lower, folded_eq_of_lower]
  constructor
  · intro h
    -- a text is determined by its bytes
    have hbytes : a.lower.text.toByteArray = b.lower.text.toByteArray := by
      rw [← String.ofList_toList (s := a.lower.text), ← String.ofList_toList (s := b.lower.text),
        String.toByteArray_ofList, String.toByteArray_ofList, List.utf8Encode, List.utf8Encode, h]
    exact congrArg Name.mk (String.toByteArray_inj.1 hbytes)
  · intro h
    rw [h]

/-- Texts that differ at most in the case of ASCII letters are the same as names. -/
theorem sameAscii_eq_same (a b : String) : Text.sameAscii a b = (Name.mk a).same ⟨b⟩ := by
  rw [Bool.eq_iff_iff, same_iff_lower_eq, Text.sameAscii, beq_iff_eq, lower, lower, mk.injEq,
    String.ofList_inj]

theorem same_lower (n : Name) : n.same n.lower = true :=
  same_iff_lower_eq.2 n.lower_lower.symm

@[simp] theorem folded_lower (n : Name) : n.lower.folded = n.folded :=
  (same_iff.1 n.same_lower).symm

@[simp] theorem lower_same_lower (a b : Name) : a.lower.same b.lower = a.same b := by
  rw [same, same, folded_lower, folded_lower]

@[simp] theorem compare_lower (a b : Name) : compare a.lower b.lower = compare a b := by
  rw [compare_def, compare_def, folded_lower, folded_lower]

@[simp] theorem isBlank_lower (n : Name) : n.lower.isBlank = n.isBlank := by
  simp only [isBlank, Text.isAllBlank, lower, String.toList_ofList, List.all_map, Function.comp_def,
    isBlank_lowerAscii]

/-- Names are looked up alike in small letters. -/
theorem same_comp_lower (n : Name) : (fun m : Name => m.same n.lower) ∘ lower = (·.same n) := by
  funext m
  exact lower_same_lower m n

end Name

theorem insertName_lower (keep : Bool) (n : Name) (ns : List Name) :
    insertName keep n.lower (ns.map Name.lower) = (insertName keep n ns).map Name.lower := by
  induction ns with
  | nil => rfl
  | cons m ns ih =>
    rw [List.map_cons, insertName, insertName, Name.compare_lower]
    split
    · rfl
    · cases keep <;> rfl
    · rw [ih, List.map_cons]

namespace NameSet

/-- The members in small letters. -/
def lower (s : NameSet) : NameSet where
  toList := s.toList.map Name.lower
  ascending := by
    rw [Ascending, List.pairwise_map]
    simpa only [Name.compare_lower] using s.ascending

@[simp] theorem toList_lower (s : NameSet) : s.lower.toList = s.toList.map Name.lower := rfl

@[simp] theorem lower_insert (s : NameSet) (n : Name) :
    (s.insert n).lower = s.lower.insert n.lower :=
  NameSet.ext (insertName_lower true n s.toList).symm

@[simp] theorem lower_insertAll (s : NameSet) (ns : List Name) :
    (s.insertAll ns).lower = s.lower.insertAll (ns.map Name.lower) := by
  rw [insertAll, insertAll, List.foldl_map]
  induction ns generalizing s with
  | nil => rfl
  | cons n ns ih => rw [List.foldl_cons, ih, lower_insert, List.foldl_cons]

@[simp] theorem lower_ofList (ns : List Name) : (ofList ns).lower = ofList (ns.map Name.lower) :=
  lower_insertAll empty ns

@[simp] theorem contains_lower (s : NameSet) (n : Name) :
    s.lower.contains n.lower = s.contains n := by
  rw [contains, contains, toList_lower, List.any_map, Name.same_comp_lower]

@[simp] theorem isEmpty_lower (s : NameSet) : s.lower.isEmpty = s.isEmpty := by
  rw [isEmpty, isEmpty, toList_lower, List.isEmpty_map]

theorem contains_comp_lower (s : NameSet) : s.lower.contains ∘ Name.lower = s.contains := by
  funext n
  exact contains_lower s n

@[simp] theorem meets_lower (s t : NameSet) : s.lower.meets t.lower = s.meets t := by
  rw [meets, meets, toList_lower, List.any_map, contains_comp_lower]

/-- Sets that are equal in small letters have the same members. -/
@[simp] theorem keys_lower (s : NameSet) : s.lower.keys = s.keys := by
  rw [keys, keys, toList_lower, List.map_map]
  simp only [Function.comp_def, Name.folded_lower]

end NameSet

end RoleAccess
