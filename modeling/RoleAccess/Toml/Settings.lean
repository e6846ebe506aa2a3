import RoleAccess.Settings
import RoleAccess.Toml.Reader

/-!
# Settings from a TOML document

Unknown keys are ignored and missing ones have their defaults. A number has to be an integer that
is not negative. Settings that can be read are still validated.
-/

namespace RoleAccess.Settings

open Toml

def tomlNumber? : Value → Option UInt64
  | .int n => if 0 ≤ n then some (UInt64.ofNat n.toNat) else none
  | _ => none

def tomlFlag? : Value → Option Bool
  | .bool b => some b
  | _ => none

/-- The value of a key, or its default. -/
def tomlEntry? {α : Type} (entries : List (String × Value)) (key : String)
    (decode : Value → Option α) (otherwise : α) : Option α :=
  match entries.lookup key with
  | none => some otherwise
  | some v => decode v

def ofEntries? (es : List (String × Value)) : Option Settings := do
  return {
    authTimeoutMs := ← tomlEntry? es "auth_timeout_ms" tomlNumber? default.authTimeoutMs
    maxHierarchyDepth := ← tomlEntry? es "max_hierarchy_depth" tomlNumber? default.maxHierarchyDepth
    closureCache := ← tomlEntry? es "closure_cache" tomlFlag? default.closureCache
    enableAudit := ← tomlEntry? es "enable_audit" tomlFlag? default.enableAudit
    auditCapacity := ← tomlEntry? es "audit_capacity" tomlNumber? default.auditCapacity
    revalidateOnCheck := ← tomlEntry? es "revalidate_on_check" tomlFlag? default.revalidateOnCheck }

/-- The settings of a document, validated. -/
def ofToml (text : String) : Except AccessError Settings := do
  match (Toml.read text).bind ofEntries? with
  | none => throw (.settings .unreadable)
  | some s =>
    s.validate
    return s

end RoleAccess.Settings
