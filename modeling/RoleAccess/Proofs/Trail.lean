import Mathlib.Data.List.DropRight
import Mathlib.Data.List.Forall2
import RoleAccess.Proofs.Spelling.Names
import RoleAccess.Trail

/-!
# What the trail holds

Entries come one by one, and the trail is always the end of the list of all that came, cut to its
capacity. So what is asked of it has an answer that does not speak of the trail: the newest of the
entries of a user or of an operation, and how many there are of a kind.

The violations of duty sets are counted by how the reasons of entries begin, while the errors know
by themselves whether they are violations. The two never differ: every message begins with words of
its kind of error, the words of two kinds are never the beginnings of one text, and what is embedded
in a message comes after them.
-/

namespace RoleAccess

/-! ## How messages begin -/

def BeginsWith (text words : String) : Prop :=
  words.toList <+: text.toList

instance (text words : String) : Decidable (BeginsWith text words) :=
  inferInstanceAs (Decidable (_ <+: _))

namespace BeginsWith

variable {text words others : String}

theorem self (words : String) : BeginsWith words words :=
  List.prefix_rfl

theorem append (h : BeginsWith text words) (more : String) : BeginsWith (text ++ more) words := by
  unfold BeginsWith
  rw [String.toList_append]
  exact h.trans (List.prefix_append _ _)

/-- Of two beginnings of a text one is the beginning of the other. -/
theorem comparable (h : BeginsWith text words) (h' : BeginsWith text others) :
    BeginsWith others words ∨ BeginsWith words others :=
  List.prefix_or_prefix_of_prefix h h'

end BeginsWith

namespace AccessError

/-- The words of its kind that a message begins with. -/
def opening : AccessError → String
  | validation _ => "Validation error: "
  | notFound what => what.kind.label
  | authenticationFailed .. => "Authentication failed for '"
  | notAuthenticated _ => "Session "
  | staticViolation _ => staticWords
  | dynamicViolation _ => dynamicWords
  | constraintViolation .. => "Constraint '"
  | hierarchy _ => "Hierarchy integrity error: "
  | directory _ => "Directory error: "
  | settings _ => "Configuration error: "
  | file _ => "I/O error: "

/-- Whatever is embedded in a message, it begins with the words of its kind. -/
theorem message_beginsWith (e : AccessError) : BeginsWith e.message e.opening := by
  have hself : BeginsWith e.opening e.opening := .self _
  cases e with
  | validation cause => exact hself.append _
  | notFound what => exact (hself.append _).append _
  | authenticationFailed userId cause => exact ((hself.append _).append _).append _
  | notAuthenticated sessionId => exact (hself.append _).append _
  | staticViolation v =>
    have hrole := (hself.append ": assigning '").append v.role.text
    have huser := (hrole.append "' to '").append v.userId.text
    have hset := (huser.append "' breaks set '").append v.set.text
    exact (hset.append "' ").append _
  | dynamicViolation v =>
    have hrole := (hself.append ": activating '").append v.role.text
    have huser := (hrole.append "' for '").append v.userId.text
    have hset := (huser.append "' breaks set '").append v.set.text
    exact (hset.append "' ").append _
  | constraintViolation subject check => exact ((hself.append _).append _).append _
  | hierarchy cause => exact hself.append _
  | directory cause => exact hself.append _
  | settings cause => exact hself.append _
  | file text => exact hself.append _

/-- No text begins both with the words of a violation and with those of another kind of error. -/
theorem not_comparable_opening {e : AccessError} (h : e.isDutyViolation = false) :
    ∀ words ∈ [staticWords, dynamicWords],
      ¬(BeginsWith e.opening words ∨ BeginsWith words e.opening) := by
  cases e with
  | staticViolation v => cases h
  | dynamicViolation v => cases h
  | notFound what =>
    simp only [opening]
    cases what.kind <;> decide
  | _ =>
    simp only [opening]
    decide

/-- A message begins with the words of a violation iff the error is one. -/
theorem message_beginsWith_iff (e : AccessError) :
    (BeginsWith e.message staticWords ∨ BeginsWith e.message dynamicWords) ↔
      e.isDutyViolation = true := by
  constructor
  · intro h
    by_contra hother
    have hopening := not_comparable_opening (Bool.eq_false_iff.2 hother)
    rcases h with h | h
    · exact hopening staticWords (by simp) (h.comparable e.message_beginsWith)
    · exact hopening dynamicWords (by simp) (h.comparable e.message_beginsWith)
  · intro h
    cases e with
    | staticViolation v => exact Or.inl (message_beginsWith (.staticViolation v))
    | dynamicViolation v => exact Or.inr (message_beginsWith (.dynamicViolation v))
    | _ => cases h

end AccessError

namespace AuditEntry

theorem isDutyViolation_iff {entry : AuditEntry} : entry.isDutyViolation = true ↔
    BeginsWith entry.reason AccessError.staticWords ∨
      BeginsWith entry.reason AccessError.dynamicWords := by
  rw [isDutyViolation, Bool.or_eq_true, List.isPrefixOf_iff_prefix, List.isPrefixOf_iff_prefix]
  rfl

/-- Where the reason of an entry is from: it is the message of an error, or one of the words for
what went well, was granted or was not granted. -/
inductive Owes (entry : AuditEntry) : Option AccessError → Prop
  | failure (e : AccessError) (reason : entry.reason = e.message) : Owes entry (some e)
  | outcome (reason : entry.reason ∈ ["", "granted", "not granted"]) : Owes entry none

theorem Owes.isDutyViolation_eq {entry : AuditEntry} {cause : Option AccessError}
    (h : entry.Owes cause) : entry.isDutyViolation = cause.any (·.isDutyViolation) := by
  cases h with
  | failure e reason =>
    rw [Bool.eq_iff_iff, isDutyViolation_iff, reason]
    exact e.message_beginsWith_iff
  | outcome reason =>
    have hplain : ∀ words ∈ ["", "granted", "not granted"],
        ¬(BeginsWith words AccessError.staticWords ∨
          BeginsWith words AccessError.dynamicWords) := by
      decide
    rw [Option.any_none, Bool.eq_false_iff, ne_eq, isDutyViolation_iff]
    exact hplain entry.reason reason

end AuditEntry

/-! ## The end of a list -/

section Lists

variable {α : Type}

/-- Whatever an end of a list is followed by, the end of the whole does not need what was cut. -/
theorem rtake_rtake_append (n : Nat) (as bs : List α) :
    (as.rtake n ++ bs).rtake n = (as ++ bs).rtake n := by
  simp only [List.rtake_eq_reverse_take_reverse, List.reverse_append, List.reverse_reverse,
    List.take_append, List.length_reverse, List.take_take]
  rw [Nat.min_eq_left (Nat.sub_le _ _)]

theorem length_rtake (n : Nat) (as : List α) : (as.rtake n).length = min as.length n := by
  rw [List.rtake, List.length_drop]
  omega

theorem rtake_min_length (n : Nat) (as : List α) : as.rtake (min as.length n) = as.rtake n := by
  rw [List.rtake, List.rtake]
  congr 1
  omega

/-- The newest of some entries with a property, newest first: all of them, or as many as the limit
says, and then the older ones are left out. -/
def Newest (P : α → Prop) [DecidablePred P] (limit : Nat) (held found : List α) : Prop :=
  ∃ older, held.filter P = older ++ found.reverse ∧ found.length ≤ limit ∧
    (older ≠ [] → found.length = limit)

theorem newest_take (P : α → Prop) [DecidablePred P] (limit : Nat) (held : List α) :
    Newest P limit held ((held.reverse.filter P).take limit) := by
  rw [List.filter_reverse]
  refine ⟨((held.filter P).reverse.drop limit).reverse, ?_, List.length_take_le _ _, ?_⟩
  · rw [← List.reverse_append, List.take_append_drop, List.reverse_reverse]
  · intro holder
    rw [ne_eq, List.reverse_eq_nil_iff, List.drop_eq_nil_iff, Nat.not_le] at holder
    rw [List.length_take, Nat.min_eq_left (Nat.le_of_lt holder)]

end Lists

namespace Trail

theorem entries_record (t : Trail) (entry : AuditEntry) :
    (t.record entry).entries = (t.entries ++ [entry]).rtake t.capacity := rfl

theorem capacity_foldl_record (recorded : List AuditEntry) (t : Trail) :
    (recorded.foldl record t).capacity = t.capacity := by
  induction recorded generalizing t with
  | nil => rfl
  | cons entry rest ih => exact ih (t.record entry)

/-- A trail that begins empty is the end of what was recorded. -/
theorem entries_foldl_record (capacity : Nat) (recorded : List AuditEntry) :
    (recorded.foldl record (.ofCapacity capacity)).entries = recorded.rtake (max capacity 1) := by
  induction recorded using List.reverseRecOn with
  | nil => exact (List.rtake_nil _).symm
  | append_singleton recorded entry ih =>
    have hcapacity := capacity_foldl_record recorded (.ofCapacity capacity)
    rw [List.foldl_concat, entries_record, ih, hcapacity]
    exact rtake_rtake_append (max capacity 1) recorded [entry]

/-- Ids of users are compared like names. -/
theorem newest_byUser (t : Trail) (userId : String) (limit : Nat) :
    Newest (fun entry => (Name.mk entry.userId).same ⟨userId⟩ = true) limit t.entries
      (t.byUser userId limit) := by
  have hquery : t.byUser userId limit = (t.entries.reverse.filter
      (fun entry => decide ((Name.mk entry.userId).same ⟨userId⟩ = true))).take limit := by
    simp only [byUser, Name.sameAscii_eq_same, Bool.decide_eq_true]
  rw [hquery]
  exact newest_take _ limit t.entries

theorem newest_byOperation (t : Trail) (operation : AuditOperation) (limit : Nat) :
    Newest (fun entry => entry.operation = operation) limit t.entries
      (t.byOperation operation limit) :=
  newest_take _ limit t.entries

theorem stats_total (t : Trail) : t.stats.total = t.stats.allowed + t.stats.denied :=
  (Nat.add_sub_cancel' List.countP_le_length).symm

theorem stats_denied (t : Trail) : t.stats.denied = t.entries.countP (!·.allowed) := by
  have hsplit : t.entries.length =
      t.entries.countP (·.allowed) + t.entries.countP (!·.allowed) := by
    simpa using List.length_eq_countP_add_countP AuditEntry.allowed (l := t.entries)
  show t.entries.length - t.entries.countP (·.allowed) = _
  rw [hsplit, Nat.add_sub_cancel_left]

/-- Where each entry owes its reason to an error or to an outcome, the count of the violations is
that of the errors that are violations. -/
theorem countP_isDutyViolation {entries : List AuditEntry} {causes : List (Option AccessError)}
    (h : List.Forall₂ AuditEntry.Owes entries causes) :
    entries.countP (·.isDutyViolation) =
      causes.countP (fun cause => cause.any (·.isDutyViolation)) := by
  induction h with
  | nil => rfl
  | cons howes _ ih => rw [List.countP_cons, List.countP_cons, ih, howes.isDutyViolation_eq]

/-- Whatever was recorded: the trail holds the last entries, as many as there are or as fit in, in
the order in which they came. What is asked about a user or an operation is answered with the newest
of them, newest first. Each is counted as allowed or as denied, and if all owe their reasons to
errors or outcomes, those that are counted as violations of duty sets are the ones that a violation
is the cause of. -/
theorem trail_keeps_latest (capacity : Nat) (recorded : List AuditEntry) :
    let t := recorded.foldl record (.ofCapacity capacity)
    let kept := min recorded.length (max capacity 1)
    t.entries = recorded.rtake kept ∧ t.entries.length = kept ∧
      (∀ userId limit, Newest (fun entry => (Name.mk entry.userId).same ⟨userId⟩ = true) limit
        t.entries (t.byUser userId limit)) ∧
      (∀ operation limit, Newest (fun entry => entry.operation = operation) limit
        t.entries (t.byOperation operation limit)) ∧
      (t.stats.total = kept ∧ t.stats.allowed = t.entries.countP (·.allowed) ∧
        t.stats.denied = t.entries.countP (!·.allowed) ∧
        t.stats.total = t.stats.allowed + t.stats.denied) ∧
      ∀ causes, List.Forall₂ AuditEntry.Owes recorded causes →
        t.stats.dutyViolations =
          (causes.rtake kept).countP (fun cause => cause.any (·.isDutyViolation)) := by
  intro t kept
  have hentries : t.entries = recorded.rtake kept := by
    rw [entries_foldl_record, rtake_min_length]
  have hlength : t.entries.length = kept := by
    rw [hentries, length_rtake]
    exact Nat.min_eq_right (Nat.min_le_left _ _)
  refine ⟨hentries, hlength, t.newest_byUser, t.newest_byOperation,
    ⟨hlength, rfl, t.stats_denied, t.stats_total⟩, ?_⟩
  intro causes howes
  have hlast : List.Forall₂ AuditEntry.Owes (recorded.rtake kept) (causes.rtake kept) := by
    rw [List.rtake, List.rtake, howes.length_eq]
    exact List.forall₂_drop _ howes
  show t.entries.countP (·.isDutyViolation) = _
  rw [hentries, countP_isDutyViolation hlast]

/-! ## A refusal in misleading words -/

def asked : AuditEntry :=
  .ofOperation .checkAccess "acme" "jdoe" "Till.open"

/-- A user whose id reads like a violation is refused, and then, under another spelling, violates a
set. -/
def misleading : List (AuditEntry × Option AccessError) :=
  let refused : AccessError := .authenticationFailed ⟨"SSD violation"⟩ .locked
  let reported : AccessError := .validation (.reported "DSD violation: none")
  let violation : AccessError := .dynamicViolation ⟨⟨"Tills"⟩, 2, ⟨"jdoe"⟩, ⟨"Clerk"⟩⟩
  [(asked.withOutcome true "granted", none), (asked.withError refused, some refused),
    (asked.withError reported, some reported),
    ({ asked with userId := "JDOE" }.withError violation, some violation)]

/-- Of the last three entries one is the entry of a violation, and it is the newest of the user. -/
theorem trail_keeps_latest_of_misleading :
    let recorded := misleading.map Prod.fst
    let t := recorded.foldl record (.ofCapacity 3)
    List.Forall₂ AuditEntry.Owes recorded (misleading.map Prod.snd) ∧ t.entries.length = 3 ∧
      t.stats.dutyViolations = 1 ∧
      ((t.byUser "jdoe" 1).map (·.userId)) = ["JDOE"] := by
  intro recorded t
  have howes : List.Forall₂ AuditEntry.Owes recorded (misleading.map Prod.snd) :=
    .cons (.outcome (by decide)) (.cons (.failure _ rfl) (.cons (.failure _ rfl)
      (.cons (.failure _ rfl) .nil)))
  obtain ⟨-, hlength, -, -, -, hviolations⟩ := trail_keeps_latest 3 recorded
  refine ⟨howes, hlength, ?_, by decide +kernel⟩
  rw [hviolations _ howes]
  rfl

end Trail

end RoleAccess
