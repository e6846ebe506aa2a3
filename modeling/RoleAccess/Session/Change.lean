import RoleAccess.Session.Desk

/-!
# Changes of an open session

What can happen to a session after it was opened, as a value: the history of a session is a list of
changes with their times. A change may be refused, and only the activation of a role asks the
policy.
-/

namespace RoleAccess.Session

inductive Change where
  | addRole (role : Name)
  | dropRole (role : Name)
  | addAdminRole (role : Name)
  | dropAdminRole (role : Name)
  | revalidate
deriving DecidableEq

/-- The session after a change. -/
def change (s : Session) (now : Instant) : Change → StateM Policy (Except AccessError Session)
  | .addRole role => s.addRole role now
  | .dropRole role => return s.dropRole role now
  | .addAdminRole role => return s.addAdminRole role now
  | .dropAdminRole role => return s.dropAdminRole role now
  | .revalidate => return .ok (s.revalidate now)

end RoleAccess.Session
