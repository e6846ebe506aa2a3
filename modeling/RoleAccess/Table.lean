/-!
# Tables

A table gives values to texts, compared exactly. It is a list of entries in the order in which
their keys first came, and no key has two entries: `put` on a key that is there changes its entry
and leaves the order alone.
-/

namespace RoleAccess

structure Table (α : Type) where
  entries : List (String × α)
  nodup : (entries.map Prod.fst).Nodup
deriving DecidableEq

namespace Table

variable {α β : Type}

def empty : Table α := ⟨[], .nil⟩

instance : Inhabited (Table α) := ⟨empty⟩

def find? (t : Table α) (k : String) : Option α :=
  (t.entries.find? (fun e => e.1 == k)).map Prod.snd

def contains (t : Table α) (k : String) : Bool :=
  t.entries.any (fun e => e.1 == k)

def size (t : Table α) : Nat :=
  t.entries.length

/-- Changes the value of a key in place, or adds an entry at the end. -/
def putEntry (k : String) (v : α) : List (String × α) → List (String × α)
  | [] => [(k, v)]
  | e :: rest => if e.1 = k then (k, v) :: rest else e :: putEntry k v rest

theorem keys_putEntry (k : String) (v : α) (es : List (String × α)) :
    (putEntry k v es).map Prod.fst =
      if k ∈ es.map Prod.fst then es.map Prod.fst else es.map Prod.fst ++ [k] := by
  induction es with
  | nil => simp [putEntry]
  | cons e rest ih =>
    by_cases h : e.1 = k
    · simp [putEntry, h]
    · have h' : k ≠ e.1 := fun hk => h hk.symm
      simp only [putEntry, if_neg h, List.map_cons, ih, List.mem_cons, h', false_or]
      split <;> simp_all

def put (t : Table α) (k : String) (v : α) : Table α where
  entries := putEntry k v t.entries
  nodup := by
    rw [keys_putEntry]
    split
    · exact t.nodup
    · rename_i h
      exact List.nodup_append.2 ⟨t.nodup, by simp, fun a ha b hb => by
        rw [List.mem_singleton.1 hb]; exact fun hk => h (hk ▸ ha)⟩

def erase (t : Table α) (k : String) : Table α where
  entries := t.entries.filter (fun e => e.1 != k)
  nodup := t.nodup.sublist (List.filter_sublist.map Prod.fst)

/-- Later entries win over earlier ones with the same key. -/
def ofList (es : List (String × α)) : Table α :=
  es.foldl (fun t e => t.put e.1 e.2) empty

theorem find?_empty (k : String) : (empty : Table α).find? k = none := rfl

theorem find?_put_self (t : Table α) (k : String) (v : α) : (t.put k v).find? k = some v := by
  simp only [find?, put]
  induction t.entries with
  | nil => simp [putEntry]
  | cons e rest ih => by_cases h : e.1 = k <;> simp [putEntry, h, ih]

theorem find?_put_ne (t : Table α) {k k' : String} (v : α) (h : k' ≠ k) :
    (t.put k v).find? k' = t.find? k' := by
  simp only [find?, put]
  induction t.entries with
  | nil => simp [putEntry, Ne.symm h]
  | cons e rest ih =>
    by_cases he : e.1 = k
    · simp [putEntry, he, Ne.symm h]
    · by_cases hk : e.1 = k'
      · subst hk; simp [putEntry, he]
      · simp [putEntry, he, hk, ih]

theorem find?_erase_self (t : Table α) (k : String) : (t.erase k).find? k = none := by
  simp [find?, erase]

theorem find?_erase_ne (t : Table α) {k k' : String} (h : k' ≠ k) :
    (t.erase k).find? k' = t.find? k' := by
  simp only [find?, erase, List.find?_filter]
  congr 1
  congr 1
  funext e
  by_cases hk : e.1 = k' <;> simp [hk, h]

end Table

end RoleAccess
