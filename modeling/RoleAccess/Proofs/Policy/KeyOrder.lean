import RoleAccess.Proofs.Policy.Grants

/-!
# The order of a listing

Keys are ordered part by part, and each part is ordered by a lawful total order, so the order of
keys is one as well. A listing is grown by insertions that keep the order of keys, so it ascends
strictly, and a key comes at most once. The permissions that are listed are those of the records.
-/

namespace RoleAccess

namespace PermissionKey

theorem compareInstance_eq (a b : Option Name) : compareInstance a b = compare a b := by
  cases a <;> cases b <;> rfl

/-- Keys are compared part by part. -/
theorem compare_eq_compareLex : (compare : PermissionKey → PermissionKey → Ordering) =
    compareLex (compareOn (·.admin.toNat)) (compareLex (compareOn (·.object))
      (compareLex (compareOn (·.operation)) (compareOn (·.instanceId)))) := by
  funext a b
  simp only [compareLex, compareOn, ← compareInstance_eq]
  rfl

instance : Std.TransOrd PermissionKey := by
  unfold Std.TransOrd
  rw [compare_eq_compareLex]
  infer_instance

end PermissionKey

namespace GrantCatalogue

/-- Permissions in the strictly ascending order of their keys. -/
def Ascending (ps : List Permission) : Prop :=
  ps.Pairwise (fun a b => compare a.key b.key = .lt)

theorem ascending_insertGranted (p : Permission) {found : List Permission} (h : Ascending found) :
    Ascending (insertGranted p found) := by
  induction found with
  | nil => exact List.pairwise_singleton _ p
  | cons q rest ih =>
    obtain ⟨hq, hrest⟩ := List.pairwise_cons.1 h
    rw [insertGranted]
    split
    · rename_i hlt
      refine List.pairwise_cons.2 ⟨?_, h⟩
      intro r hr
      rcases List.mem_cons.1 hr with rfl | hr
      · exact hlt
      · exact Std.TransCmp.lt_trans hlt (hq r hr)
    · exact h
    · rename_i hgt
      refine List.pairwise_cons.2 ⟨?_, ih hrest⟩
      intro r hr
      rcases mem_insertGranted hr with rfl | hr
      · exact Std.OrientedCmp.lt_of_gt hgt
      · exact hq r hr

theorem ascending_merge : ∀ (ps : List Permission) {found : List Permission}, Ascending found →
    Ascending (ps.foldl (fun found p => insertGranted p found) found)
  | [], _, h => h
  | p :: rest, _, h => ascending_merge rest (ascending_insertGranted p h)

theorem ascending_listing (c : GrantCatalogue) (admin : Bool) (userId : Name) (roles : NameSet) :
    Ascending (c.listing admin userId roles) :=
  ascending_merge _ .nil

/-! ## Records -/

theorem permissions_addObject {c c' : GrantCatalogue} {o : ProtectedObject}
    (hadd : c.addObject o = .ok c') : c'.permissions = c.permissions := by
  obtain ⟨-, -, rfl⟩ := addObject_eq_ok hadd
  rfl

theorem permissions_addPermission {c c' : GrantCatalogue} {p : Permission}
    (hadd : c.addPermission p = .ok c') : c'.permissions = c.permissions ++ [p] := by
  obtain ⟨-, -, -, rfl⟩ := addPermission_eq_ok hadd
  rfl

/-- Permissions are added one after the other. -/
theorem permissions_addPermissions {ps : List Permission} {c c' : GrantCatalogue}
    (hadd : ps.foldlM addPermission c = .ok c') : c'.permissions = c.permissions ++ ps := by
  have hstep : ∀ done (s : GrantCatalogue) p s', s.permissions = c.permissions ++ done →
      s.addPermission p = .ok s' → s'.permissions = c.permissions ++ (done ++ [p]) := by
    intro done s p s' hs hp
    rw [permissions_addPermission hp, hs, List.append_assoc]
  exact foldlM_ok_extends (I := fun done s => s.permissions = c.permissions ++ done) hstep ps
    (List.append_nil _).symm hadd

/-- A catalogue holds the permissions of its records, in their order. -/
theorem permissions_of_ofRecords {objects : List ProtectedObject} {permissions : List Permission}
    {c : GrantCatalogue} (h : ofRecords objects permissions = .ok c) :
    c.permissions = permissions := by
  obtain ⟨c₁, hobjects, hpermissions⟩ := except_bind_eq_ok.1 h
  have hnone : c₁.permissions = [] :=
    foldlM_ok_keeps (I := fun c => c.permissions = [])
      (fun _ _ _ hc hadd => (permissions_addObject hadd).trans hc) objects rfl hobjects
  rw [permissions_addPermissions hpermissions, hnone, List.nil_append]

end GrantCatalogue

end RoleAccess
