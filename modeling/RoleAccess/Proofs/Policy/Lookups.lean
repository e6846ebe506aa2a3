import RoleAccess.Proofs.Policy.KeyOrder

/-!
# What is found in a catalogue

There are three ways to look something up in a catalogue: by a role, by a user and by a key. The
first two go over the keys that are kept for the name and from them back to the permissions. What
they find is said here by the records alone: of the permissions that were supplied, those of the
space that name the role or the user, each once and in the order in which they were supplied. The
two spaces may use the same names for everything and still do not get into each other's way.
-/

namespace RoleAccess

/-- Those of the given permissions that have a property: all of them and no others, in the order in
which they were given, and no key twice. -/
structure Gathers (given : List Permission) (P : Permission → Prop) (found : List Permission) :
    Prop where
  mem_iff : ∀ p, p ∈ found ↔ p ∈ given ∧ P p
  inOrder : found.Sublist given
  once : found.Pairwise (fun p q => p.key.same q.key = false)

namespace GrantCatalogue

/-- A filter leaves what passes where it was. -/
theorem Sound.gathers_filter {c : GrantCatalogue} (h : c.Sound) {test : Permission → Bool}
    {P : Permission → Prop} (htest : ∀ p, test p = true ↔ P p) :
    Gathers c.permissions P (c.permissions.filter test) where
  mem_iff := fun p => by rw [List.mem_filter, htest]
  inOrder := List.filter_sublist
  once := by
    have hdistinct : c.permissions.Pairwise (fun p q => p.key.folded ≠ q.key.folded) :=
      List.pairwise_map.1 h.distinct
    refine (hdistinct.sublist List.filter_sublist).imp fun hne => ?_
    exact Bool.eq_false_iff.2 fun hsame => hne (PermissionKey.same_iff.1 hsame)

/-- The permission with a key is the only one, so it is the one that is found. -/
theorem Sound.find?_eq_some_iff {c : GrantCatalogue} (h : c.Sound) {key : PermissionKey}
    {p : Permission} :
    c.find? key = some p ↔ p ∈ c.permissions ∧ p.key.same key = true :=
  ⟨find?_eq_some, fun ⟨hp, hkey⟩ => h.find?_eq hp hkey⟩

/-- A permission that some look-up in a space finds. -/
inductive Shows (c : GrantCatalogue) (admin : Bool) (p : Permission) : Prop
  | byRole (role : Name) (found : p ∈ c.grantedToRole admin role)
  | byUser (userId : Name) (found : p ∈ c.grantedToUser admin userId)
  | byKey (key : PermissionKey) (space : key.admin = admin) (found : c.find? key = some p)

/-- Whatever is found in a space is of that space. -/
theorem Sound.admin_of_shows {c : GrantCatalogue} (h : c.Sound) {admin : Bool} {p : Permission}
    (shown : c.Shows admin p) : p.admin = admin := by
  cases shown with
  | byRole role found =>
    rw [h.grantedToRole_eq, List.mem_filter, Bool.and_eq_true, beq_iff_eq] at found
    exact found.2.1
  | byUser userId found =>
    rw [h.grantedToUser_eq, List.mem_filter, Bool.and_eq_true, beq_iff_eq] at found
    exact found.2.1
  | byKey key space found =>
    obtain ⟨-, hkey⟩ := h.find?_eq_some_iff.1 found
    exact (PermissionKey.admin_eq_of_same hkey).trans space

/-- In a catalogue of accepted records, a look-up by a role or a user finds the supplied permissions
of the space that name it, each once and in the order of the records, and a look-up by a key finds
the one supplied permission with that key. No look-up in one space finds anything of the other, so
nothing is found in both. -/
theorem lookups_find_as_supplied {objects : List ProtectedObject} {permissions : List Permission}
    {c : GrantCatalogue} (accepted : ofRecords objects permissions = .ok c) :
    (∀ admin role, Gathers permissions
      (fun p => p.admin = admin ∧ p.roles.contains role = true) (c.grantedToRole admin role)) ∧
    (∀ admin userId, Gathers permissions
      (fun p => p.admin = admin ∧ p.users.contains userId = true) (c.grantedToUser admin userId)) ∧
    (∀ key p, c.find? key = some p ↔ p ∈ permissions ∧ p.key.same key = true) ∧
    (∀ admin p, c.Shows admin p → p.admin = admin) ∧
    ∀ p, ¬(c.Shows false p ∧ c.Shows true p) := by
  have hsound : c.Sound := sound_of_ofRecords accepted
  have hsupplied : c.permissions = permissions := permissions_of_ofRecords accepted
  have hspace : ∀ admin p, c.Shows admin p → p.admin = admin := fun admin p =>
    hsound.admin_of_shows
  refine ⟨?_, ?_, ?_, hspace, ?_⟩
  · intro admin role
    rw [hsound.grantedToRole_eq, ← hsupplied]
    apply hsound.gathers_filter
    intro p
    rw [Bool.and_eq_true, beq_iff_eq]
  · intro admin userId
    rw [hsound.grantedToUser_eq, ← hsupplied]
    apply hsound.gathers_filter
    intro p
    rw [Bool.and_eq_true, beq_iff_eq]
  · intro key p
    rw [hsound.find?_eq_some_iff, hsupplied]
  · rintro p ⟨hplain, hadmin⟩
    cases (hspace false p hplain).symm.trans (hspace true p hadmin)

/-! ## A till in both spaces -/

def openTill : Permission :=
  ((Permission.ofNames ⟨"Till"⟩ ⟨"open"⟩).grantRole ⟨"Clerk"⟩).grantUser ⟨"jdoe"⟩

/-- The same words in the other space. -/
def openTillAsAdmin : Permission :=
  ((Permission.ofNames ⟨"till"⟩ ⟨"OPEN"⟩).grantRole ⟨"clerk"⟩).inAdminSpace

def openFirstTill : Permission :=
  ((Permission.ofNames ⟨"TILL"⟩ ⟨"open"⟩).grantRole ⟨"CLERK"⟩).withInstance ⟨"1"⟩

def tillObjects : List ProtectedObject :=
  [(ProtectedObject.ofName ⟨"till"⟩).inAdminSpace, .ofName ⟨"Till"⟩]

/-- The clerk is found the two permissions of the space that was asked for, in the order of the
records. -/
theorem lookups_find_tills :
    ∃ c, ofRecords tillObjects [openTill, openTillAsAdmin, openFirstTill] = .ok c ∧
      openTill ∈ c.grantedToRole false ⟨"clerk"⟩ ∧ openFirstTill ∈ c.grantedToRole false ⟨"clerk"⟩ ∧
      openTillAsAdmin ∉ c.grantedToRole false ⟨"clerk"⟩ ∧
      c.grantedToUser true ⟨"jdoe"⟩ = [] ∧
      c.find? ⟨true, ⟨"Till"⟩, ⟨"Open"⟩, none⟩ = some openTillAsAdmin := by
  have hok : (ofRecords tillObjects [openTill, openTillAsAdmin, openFirstTill]).isOk = true := by
    decide +kernel
  obtain ⟨c, accepted⟩ := except_isOk_iff.1 hok
  obtain ⟨hrole, huser, hkey, -, -⟩ := lookups_find_as_supplied accepted
  refine ⟨c, accepted, ?_, ?_, ?_, ?_, ?_⟩
  · exact ((hrole false ⟨"clerk"⟩).mem_iff _).2 (by decide +kernel)
  · exact ((hrole false ⟨"clerk"⟩).mem_iff _).2 (by decide +kernel)
  · intro found
    cases (((hrole false ⟨"clerk"⟩).mem_iff _).1 found).2.1
  · have hnone : ∀ p ∈ [openTill, openTillAsAdmin, openFirstTill],
        ¬(p.admin = true ∧ p.users.contains ⟨"jdoe"⟩ = true) := by
      decide +kernel
    refine List.eq_nil_iff_forall_not_mem.2 fun p found => ?_
    obtain ⟨hp, hgranted⟩ := ((huser true ⟨"jdoe"⟩).mem_iff p).1 found
    exact hnone p hp hgranted
  · exact (hkey _ _).2 (by decide +kernel)

end GrantCatalogue

end RoleAccess
