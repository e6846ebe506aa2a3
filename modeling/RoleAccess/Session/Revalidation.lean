import RoleAccess.Session.Basic

/-!
# Revalidation

A session is held against the clock: active roles whose timeout has elapsed since the last access,
or whose constraint does not hold any more, are lost. The lost roles are recorded as exclusions,
ordinary roles before administrative ones.
-/

namespace RoleAccess.Session

/-- The check that an active role fails now, as an exclusion. -/
def failing? (lastAccess now : Instant) (admin : Bool) (a : Assignment) : Option Exclusion :=
  (a.constraint.firstFailedSince lastAccess now).map (fun check => ⟨a.role, admin, check, now⟩)

/-- The roles that are lost now. -/
def lost (s : Session) (now : Instant) : List Exclusion :=
  s.roles.filterMap (failing? s.lastAccess now false) ++
    s.adminRoles.filterMap (failing? s.lastAccess now true)

/-- The session without the roles that are lost now. -/
def revalidate (s : Session) (now : Instant) : Session :=
  { s with
    roles := s.roles.filter (fun a => (failing? s.lastAccess now false a).isNone)
    adminRoles := s.adminRoles.filter (fun a => (failing? s.lastAccess now true a).isNone)
    exclusions := s.exclusions ++ s.lost now
    lastAccess := now }

end RoleAccess.Session
