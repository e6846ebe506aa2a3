import RoleAccess.Text.Blank

/-!
# Names

Roles, users, org units, objects and operations are known by names. A name is kept in the
spelling it came in, and everything that looks a name up ignores the case of ASCII letters: the
comparison goes by `Name.folded`, the UTF-8 bytes of the text with `A`-`Z` lowered. Two spellings
of one name are therefore different values (`=`) that are the `same` name.

The order of names is the order of their folded bytes. It is a lawful total order because the
lexicographic order of byte lists is one.
-/

namespace RoleAccess

/-- The bytes of `A` to `Z` go to those of `a` to `z`. Bytes of longer characters are above them
and stay. -/
def lowerByte (b : UInt8) : UInt8 :=
  if 65 ≤ b ∧ b ≤ 90 then b + 32 else b

structure Name where
  text : String
deriving DecidableEq, Inhabited

namespace Name

/-- The bytes a name is compared by. -/
def folded (n : Name) : List UInt8 :=
  (n.text.toList.flatMap String.utf8EncodeChar).map lowerByte

/-- The same name, perhaps in another spelling. -/
def same (a b : Name) : Bool :=
  a.folded == b.folded

instance : Ord Name where
  compare a b := compare a.folded b.folded

/-- What a hash function is fed for a name: its folded bytes and a byte that no UTF-8 text
contains, so that the names of a list keep apart. -/
def hashBytes (n : Name) : List UInt8 :=
  n.folded ++ [0xFF]

/-- Nothing but white space. -/
def isBlank (n : Name) : Bool :=
  Text.isAllBlank n.text

theorem same_iff {a b : Name} : a.same b = true ↔ a.folded = b.folded := by
  simp [same]

@[simp] theorem same_refl (a : Name) : a.same a = true := by
  simp [same]

theorem same_comm (a b : Name) : a.same b = b.same a := by
  simp [same, Bool.beq_comm]

theorem compare_def (a b : Name) : compare a b = compare a.folded b.folded := rfl

instance : Std.TransOrd Name where
  eq_swap {a b} := @Std.OrientedCmp.eq_swap (List UInt8) compare _ a.folded b.folded
  isLE_trans {a b c} := @Std.TransCmp.isLE_trans (List UInt8) compare _ a.folded b.folded c.folded

/-- The order puts two names on one place exactly when they are the same name. -/
theorem compare_eq_iff {a b : Name} : compare a b = .eq ↔ a.same b = true := by
  rw [compare_def, same_iff, Std.LawfulEqCmp.compare_eq_iff_eq]

/-- Spellings of one name stand on the same side of any other name. -/
theorem compare_congr_left {a b : Name} (h : a.same b = true) (c : Name) :
    compare a c = compare b c := by
  rw [compare_def, compare_def, same_iff.1 h]

end Name

end RoleAccess
