import RoleAccess.Json.Reader
import RoleAccess.Json.Reports
import RoleAccess.Json.Requests
import RoleAccess.Json.Writer
import RoleAccess.Text.Quoted
import RoleAccess.Toml.Settings
import RoleAccess.Proofs.Computations
import RoleAccess.Proofs.Constraint.Malformed
import RoleAccess.Proofs.Constraint.Windows
import RoleAccess.Proofs.Hierarchy.Answers
import RoleAccess.Proofs.Hierarchy.Outcomes
import RoleAccess.Proofs.Hierarchy.Closures
import RoleAccess.Proofs.Hierarchy.CycleReports
import RoleAccess.Proofs.Hierarchy.Remembering
import RoleAccess.Proofs.Policy.Verdicts
import RoleAccess.Proofs.Policy.Rules
import RoleAccess.Proofs.Policy.Grants
import RoleAccess.Proofs.Policy.Lookups
import RoleAccess.Proofs.Decision.Listings
import RoleAccess.Proofs.Session.ActivationOrder
import RoleAccess.Proofs.Engine.Decisions
import RoleAccess.Proofs.Engine.StaticDuty
import RoleAccess.Proofs.Engine.Revalidation
import RoleAccess.Proofs.Session.ActiveOnce
import RoleAccess.Proofs.Decision.Scope
import RoleAccess.Proofs.Engine.Delegation
import RoleAccess.Proofs.Engine.Uses
import RoleAccess.Proofs.Engine.Idleness
import RoleAccess.Proofs.Engine.AllOrNothing
import RoleAccess.Proofs.Service.Recording
import RoleAccess.Proofs.Engine.Shares
import RoleAccess.Proofs.Service.Isolation
import RoleAccess.Proofs.Service.Stability
import RoleAccess.Proofs.Session.Provenance
import RoleAccess.Proofs.Policy.Admission
import RoleAccess.Proofs.Json.Records
import RoleAccess.Proofs.Spelling.Respelled
import RoleAccess.Proofs.Trail
import RoleAccess.Proofs.Directory.RoleCalls
import RoleAccess.Proofs.Decision.Monotonicity
import RoleAccess.Proofs.Decision.Ranges
import RoleAccess.Proofs.Decision.Entitlements
import RoleAccess.Proofs.Session.OneByOne
import RoleAccess.Proofs.Places
import RoleAccess.Proofs.Policy.Opposition
import RoleAccess.Proofs.Calendar
import RoleAccess.Proofs.Session.Losses
import RoleAccess.Proofs.Session.Timeouts
import RoleAccess.Proofs.Session.GraceLogins
import RoleAccess.Proofs.Service.RoleChanges
import RoleAccess.Proofs.Hierarchy.LongestChains
import RoleAccess.Proofs.Hierarchy.Roster
import RoleAccess.Proofs.Spelling.Coherence
