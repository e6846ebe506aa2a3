import RoleAccess.Policy.Basic
import RoleAccess.Table

/-!
# The shelf of policies

At most one policy of each tenant is in use. Installing a policy replaces the one before, and a
policy that is taken off the shelf is built anew when it is next needed. The shelf counts how often
it got a policy for each tenant: two readings of a tenant's policy between which the count stays
the same are readings of one and the same policy, whatever it has remembered in between.
-/

namespace RoleAccess

structure PolicyShelf where
  policies : Table Policy
  installs : Table Nat

namespace PolicyShelf

def empty : PolicyShelf := ⟨.empty, .empty⟩

def get? (s : PolicyShelf) (tenant : String) : Option Policy :=
  s.policies.find? tenant

/-- How many policies the tenant has had. -/
def installCount (s : PolicyShelf) (tenant : String) : Nat :=
  (s.installs.find? tenant).getD 0

/-- Puts a policy on the shelf, and answers the one it replaces. -/
def install (s : PolicyShelf) (p : Policy) : Option Policy × PolicyShelf :=
  (s.get? p.tenant,
    { policies := s.policies.put p.tenant p
      installs := s.installs.put p.tenant (s.installCount p.tenant + 1) })

/-- Keeps what the policy of a tenant has remembered. -/
def keep (s : PolicyShelf) (tenant : String) (p : Policy) : PolicyShelf :=
  { s with policies := s.policies.put tenant p }

/-- Takes the policy of a tenant off the shelf, and answers whether there was one. -/
def invalidate (s : PolicyShelf) (tenant : String) : Bool × PolicyShelf :=
  ((s.get? tenant).isSome, { s with policies := s.policies.erase tenant })

def clear (s : PolicyShelf) : PolicyShelf :=
  { s with policies := .empty }

def size (s : PolicyShelf) : Nat :=
  s.policies.size

end PolicyShelf

end RoleAccess
