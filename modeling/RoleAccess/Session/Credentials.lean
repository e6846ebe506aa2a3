import RoleAccess.Session.Basic

/-!
# Passwords and the provider that verifies them

`Credentials` holds one password for each user, whatever the tenant. An expired password still lets
the user in for a number of grace logins, each of which is used up by a verification that succeeds
and by nothing else.

A `Provider` stands between a session and the credentials. It may be slow, and it may be out of
order: then it answers every request at once with a fault and the credentials are not reached.
-/

namespace RoleAccess

structure PasswordEntry where
  password : String
  expired : Bool
  graceLogins : Nat
  /-- Seconds until the password expires, if that is near. -/
  expiresIn : Option Int
deriving DecidableEq

/-- The entries of users, one for each; the first of a name counts. -/
structure Credentials where
  entries : List (Name × PasswordEntry)
deriving DecidableEq

namespace Credentials

def empty : Credentials := ⟨[]⟩

def find? (c : Credentials) (userId : Name) : Option PasswordEntry :=
  (c.entries.find? (fun e => e.1.same userId)).map Prod.snd

/-- Changes the entry of a user, if there is one. -/
def update (c : Credentials) (userId : Name) (f : PasswordEntry → PasswordEntry) : Credentials :=
  ⟨c.entries.map (fun e => if e.1.same userId then (e.1, f e.2) else e)⟩

/-- A new password. What was said about the old one is forgotten. -/
def setPassword (c : Credentials) (userId : Name) (password : String) : Credentials :=
  let entry : PasswordEntry := ⟨password, false, 0, none⟩
  match c.find? userId with
  | some _ => c.update userId (fun _ => entry)
  | none => ⟨c.entries ++ [(userId, entry)]⟩

/-- Lets the password of a user expire, with a number of logins left. -/
def expire (c : Credentials) (userId : Name) (graceLogins : Nat) : Credentials :=
  c.update userId (fun e => { e with expired := true, graceLogins })

def expiringIn (c : Credentials) (userId : Name) (seconds : Int) : Credentials :=
  c.update userId (fun e => { e with expiresIn := some seconds })

/-- What can be told to the credentials. -/
inductive Change where
  | setPassword (userId : Name) (password : String)
  | expire (userId : Name) (graceLogins : Nat)
  | expiringIn (userId : Name) (seconds : Int)
deriving DecidableEq

def change (c : Credentials) : Change → Credentials
  | .setPassword userId password => c.setPassword userId password
  | .expire userId graceLogins => c.expire userId graceLogins
  | .expiringIn userId seconds => c.expiringIn userId seconds

/-- An unknown user and a wrong password are the same failure. -/
def verify (c : Credentials) (userId : Name) (password : String) :
    Except AuthFailure (List AuthWarning) × Credentials :=
  match c.find? userId with
  | none => (.error .badCredential, c)
  | some e =>
    if e.password ≠ password then (.error .badCredential, c)
    else if e.expired then
      if e.graceLogins = 0 then (.error .expired, c)
      else
        let left := e.graceLogins - 1
        (.ok [.graceLoginsRemaining left], c.update userId (fun e => { e with graceLogins := left }))
    else
      match e.expiresIn with
      | some seconds => (.ok [.passwordExpiring seconds], c)
      | none => (.ok [], c)

end Credentials

/-- How a provider that is out of order answers. -/
inductive Fault where
  | error (e : AccessError)
  | unavailable (reason : String)
deriving DecidableEq

structure Provider where
  credentials : Credentials
  /-- How long a verification takes. -/
  delayMs : Nat
  fault : Option Fault
deriving DecidableEq

namespace Provider

def ofCredentials (credentials : Credentials) (delayMs : Nat) : Provider :=
  ⟨credentials, delayMs, none⟩

def mapCredentials (p : Provider) (f : Credentials → Credentials) : Provider :=
  { p with credentials := f p.credentials }

/-- Verifies a password, however long it takes. -/
def verify (p : Provider) (userId : Name) (password : String) :
    Except AccessError (List AuthWarning) × Provider :=
  match p.fault with
  | some (.error e) => (.error e, p)
  | some (.unavailable reason) => (.error (.authenticationFailed userId (.unavailable reason)), p)
  | none =>
    let (answer, credentials) := p.credentials.verify userId password
    let answer :=
      match answer with
      | .ok warnings => .ok warnings
      | .error cause => .error (.authenticationFailed userId cause)
    (answer, { p with credentials })

/-- Verifies a password within a time limit. A provider that would take longer is not reached. Every
failure is reported as a failed authentication. -/
def verifyWithin (p : Provider) (limitMs : Nat) (userId : Name) (password : String) :
    Except AccessError (List AuthWarning) × Provider :=
  if p.fault.isNone && limitMs < p.delayMs then
    (.error (.authenticationFailed userId .timeout), p)
  else
    let (answer, p) := p.verify userId password
    match answer with
    | .ok warnings => (.ok warnings, p)
    | .error (.authenticationFailed who cause) => (.error (.authenticationFailed who cause), p)
    | .error e => (.error (.authenticationFailed userId (.unavailable e.message)), p)

end Provider

/-- How a user is vouched for. -/
inductive Credential where
  /-- The identity is established elsewhere. -/
  | trusted
  | password (password : String)
deriving DecidableEq

/-- A description for logs, which never shows a password. -/
def Credential.describe : Credential → String
  | trusted => "Trusted"
  | password _ => "Password(***)"

end RoleAccess
