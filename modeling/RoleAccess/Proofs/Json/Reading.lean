import Mathlib.Data.List.TakeWhile
import RoleAccess.Json.Reader
import RoleAccess.Json.Writer

/-!
# Reading what was written

The writer chooses one of the many texts that the reader takes for a value, and the reader gives the
value back. This is so for plain values: integers of 64 bits are their only numbers, and every
string is a text. A value is followed by the end of the text, by a separator or by a closing
bracket, and that much of the context decides where a number ends.
-/

namespace RoleAccess.Json

/-- A value whose strings are texts and whose numbers are integers of 64 bits, signed or not. -/
inductive Plain : Json → Prop
  | null : Plain .null
  | bool (b : Bool) : Plain (.bool b)
  | int {n : Int} (low : minSigned ≤ n) (high : n ≤ maxUnsigned) : Plain (.int n)
  | str (text : String) : Plain (.str text)
  | arr {values : List Json} (each : ∀ v ∈ values, Plain v) : Plain (.arr values)
  | obj {members : List (String × Json)} (each : ∀ m ∈ members, Plain m.2) : Plain (.obj members)

/-- What may stand behind a value. -/
def Delimited (rest : List Char) : Prop :=
  ∀ c ∈ rest.head?, c = ',' ∨ c = ']' ∨ c = '\x7d'

variable {rest : List Char}

/-! ## Strings -/

/-- What a character of a string is read as: a control character was written by its number. -/
def pieceOf (c : Char) : Piece :=
  if c.toNat < 0x20 then .unit c.toNat else .char c

theorem hexUnit?_hexDigit :
    ∀ n < 0x20, hexUnit? '0' '0' (hexDigit (n / 16)) (hexDigit (n % 16)) = some n := by
  decide

theorem readPieces_writeChar (c : Char) :
    readPieces (writeChar c ++ rest) =
      (readPieces rest).map fun (ps, rest) => (pieceOf c :: ps, rest) := by
  rw [Option.map_eq_bind]
  unfold writeChar
  split
  · rename_i hquote
    rw [hquote]
    rfl
  split
  · rename_i hslash
    rw [hslash]
    rfl
  split
  · rename_i hcontrol
    rw [pieceOf, if_pos hcontrol]
    show (hexUnit? '0' '0' (hexDigit (c.toNat / 16)) (hexDigit (c.toNat % 16))).bind _ = _
    rw [hexUnit?_hexDigit _ hcontrol]
    rfl
  · rename_i hquote hslash hcontrol
    rw [pieceOf, if_neg hcontrol, List.singleton_append, readPieces]
    · rw [if_neg (by simp [hcontrol, hslash])]
      rfl
    · exact hquote
    · exact fun _ _ _ _ _ h => absurd h hslash
    · exact fun _ _ h => absurd h hslash

/-- A string is read up to the quote that closes it. -/
theorem readPieces_quoted (cs : List Char) :
    readPieces (cs.flatMap writeChar ++ '"' :: rest) = some (cs.map pieceOf, rest) := by
  induction cs with
  | nil => simp [readPieces]
  | cons c cs ih =>
    rw [List.flatMap_cons, List.append_assoc, readPieces_writeChar, ih]
    rfl

theorem joinPieces_pieceOf (c : Char) (ps : List Piece) :
    joinPieces (pieceOf c :: ps) = (joinPieces ps).map (c :: ·) := by
  unfold pieceOf
  split
  · rename_i hcontrol
    have hhigh : isHighSurrogate c.toNat = false := by
      simp [isHighSurrogate]
      omega
    have hlow : isLowSurrogate c.toNat = false := by
      simp [isLowSurrogate]
      omega
    cases ps with
    | nil => simp [joinPieces, hhigh, hlow]
    | cons p ps =>
      cases p with
      | char d => simp [joinPieces, hhigh, hlow]
      | unit n => simp [joinPieces, hhigh, hlow]
  · rfl

theorem joinPieces_map_pieceOf (cs : List Char) : joinPieces (cs.map pieceOf) = some cs := by
  induction cs with
  | nil => rfl
  | cons c cs ih =>
    rw [List.map_cons, joinPieces_pieceOf, ih]
    rfl

/-! ## Integers -/

theorem isDigit_of_mem_digits {n : Nat} {c : Char} (h : c ∈ Nat.toDigits 10 n) :
    c.isDigit = true :=
  Nat.isDigit_of_mem_toDigits (by decide) (by decide) h

theorem digitsValue_toDigits (n : Nat) : digitsValue (Nat.toDigits 10 n) = n := by
  have hvalue := Nat.ofDigitChars_toDigits (b := 10) (n := n) (by decide) (by decide)
  simpa only [digitsValue, Nat.ofDigitChars_eq_foldl, Nat.mul_comm 10] using hvalue

/-- A zero in front stands alone. -/
theorem eq_nil_of_toDigits_eq_cons {n : Nat} {ds : List Char}
    (h : Nat.toDigits 10 n = '0' :: ds) : ds = [] := by
  induction n using Nat.strongRecOn generalizing ds with
  | _ n ih =>
    by_cases hn : n < 10
    · rw [Nat.toDigits_of_lt_base hn] at h
      exact (List.cons.inj h).2.symm
    · exfalso
      rw [Nat.toDigits_of_base_le (by decide) (Nat.le_of_not_lt hn)] at h
      rcases List.append_eq_cons_iff.1 h with ⟨hnil, -⟩ | ⟨ds', htens, -⟩
      · exact Nat.toDigits_ne_nil hnil
      · -- the digits of the tens would be the zero alone, but there is a ten
        have hvalue := digitsValue_toDigits (n / 10)
        rw [htens, ih (n / 10) (by omega) htens] at hvalue
        have hzero : digitsValue ['0'] = 0 := rfl
        omega

theorem Delimited.not_isDigit (h : Delimited rest) : rest.takeWhile Char.isDigit = [] := by
  cases rest with
  | nil => rfl
  | cons c cs =>
    rcases h c rfl with rfl | rfl | rfl <;> rfl

theorem readDigits_append {ds : List Char} (hds : ∀ c ∈ ds, c.isDigit = true) (hne : ds ≠ [])
    (h : Delimited rest) : readDigits (ds ++ rest) = some (ds, rest) := by
  have htake : (ds ++ rest).takeWhile Char.isDigit = ds := by
    rw [List.takeWhile_append_of_pos hds, h.not_isDigit, List.append_nil]
  rw [readDigits, htake]
  simp [hne]

theorem readWhole_toDigits (n : Nat) (h : Delimited rest) :
    readWhole (Nat.toDigits 10 n ++ rest) = some (Nat.toDigits 10 n, rest) := by
  cases hds : Nat.toDigits 10 n with
  | nil => exact absurd hds Nat.toDigits_ne_nil
  | cons d ds =>
    by_cases hzero : d = '0'
    · subst hzero
      rw [eq_nil_of_toDigits_eq_cons hds]
      cases rest with
      | nil => rfl
      | cons c cs => rcases h c rfl with rfl | rfl | rfl <;> rfl
    · have hdigits : ∀ c ∈ d :: ds, c.isDigit = true := by
        intro c hc
        rw [← hds] at hc
        exact isDigit_of_mem_digits hc
      rw [← readDigits_append hdigits (List.cons_ne_nil d ds) h, List.cons_append, readWhole]
      exact fun _ heq => absurd (List.cons.inj heq).1 hzero

theorem readFraction_of_delimited (h : Delimited rest) : readFraction rest = some ([], rest) := by
  cases rest with
  | nil => rfl
  | cons c cs =>
    rcases h c rfl with rfl | rfl | rfl <;> rfl

theorem readExponent_of_delimited (h : Delimited rest) : readExponent rest = some ([], rest) := by
  cases rest with
  | nil => rfl
  | cons c cs =>
    rcases h c rfl with rfl | rfl | rfl <;> rfl

/-- An integer is written as its digits behind its sign. -/
theorem toList_toString_int (n : Int) :
    (toString n).toList = (if n < 0 then ['-'] else []) ++ Nat.toDigits 10 n.natAbs := by
  cases n with
  | ofNat m =>
    show (Nat.repr m).toList = _
    rw [Nat.repr_eq_ofList_toDigits, String.toList_ofList]
    rfl
  | negSucc m =>
    show ("-" ++ Nat.repr (m + 1)).toList = _
    rw [Nat.repr_eq_ofList_toDigits, String.toList_append, String.toList_ofList,
      String.toList_ofList, if_pos (Int.negSucc_lt_zero m)]
    rfl

theorem exists_digit_cons (n : Nat) : ∃ d ds, Nat.toDigits 10 n = d :: ds ∧ d.isDigit = true := by
  cases hds : Nat.toDigits 10 n with
  | nil => exact absurd hds Nat.toDigits_ne_nil
  | cons d ds =>
    exact ⟨d, ds, rfl, isDigit_of_mem_digits (hds ▸ List.mem_cons_self)⟩

theorem readNumber_write {n : Int} (low : minSigned ≤ n) (high : n ≤ maxUnsigned)
    (h : Delimited rest) : readNumber ((toString n).toList ++ rest) = some (.int n, rest) := by
  rw [toList_toString_int]
  unfold readNumber
  by_cases hneg : n < 0
  · have hint : integer? true n.natAbs = some n := by
      have habs : -(n.natAbs : Int) = n := by omega
      have hne : n.natAbs ≠ 0 := by omega
      rw [integer?, if_pos rfl, habs, if_pos ⟨hne, low⟩]
    rw [if_pos hneg, List.singleton_append, List.cons_append]
    simp [readWhole_toDigits _ h, readFraction_of_delimited h, readExponent_of_delimited h,
      digitsValue_toDigits, hint]
  · have hint : integer? false n.natAbs = some n := by
      have habs : (n.natAbs : Int) = n := by omega
      have hle : n.natAbs ≤ maxUnsigned := by omega
      rw [integer?, if_neg Bool.false_ne_true, if_pos hle, habs]
    rw [if_neg hneg, List.nil_append]
    split
    rename_i heq
    split at heq
    · -- a digit is no sign
      rename_i hsign
      obtain ⟨d, ds, hds, hd⟩ := exists_digit_cons n.natAbs
      rw [hds, List.cons_append] at hsign
      cases (List.cons.inj hsign).1
      cases hd
    · cases heq
      simp [readWhole_toDigits _ h, readFraction_of_delimited h, readExponent_of_delimited h,
        digitsValue_toDigits, hint]

/-- What a number begins with. -/
def Leads (c : Char) : Prop :=
  c = '-' ∨ c.isDigit = true

theorem exists_leading (n : Int) : ∃ c cs, (toString n).toList = c :: cs ∧ Leads c := by
  rw [toList_toString_int]
  by_cases hneg : n < 0
  · rw [if_pos hneg]
    exact ⟨'-', _, rfl, Or.inl rfl⟩
  · obtain ⟨d, ds, hds, hd⟩ := exists_digit_cons n.natAbs
    rw [if_neg hneg, hds]
    exact ⟨d, ds, rfl, Or.inr hd⟩

/-- A letter, a quote or a bracket begins no number. -/
theorem Leads.ne {c d : Char} (h : Leads c) (hsign : d ≠ '-') (hdigit : d.isDigit = false) :
    c ≠ d := by
  rintro rfl
  rcases h with h | h
  · exact hsign h
  · rw [hdigit] at h
    cases h

theorem Leads.not_isSpace {c : Char} (h : Leads c) : isSpace c = false := by
  have hne := fun d hsign hdigit => decide_eq_false (h.ne (d := d) hsign hdigit)
  rw [isSpace, hne ' ' (by decide) rfl, hne '\t' (by decide) rfl, hne '\n' (by decide) rfl,
    hne '\r' (by decide) rfl]
  rfl

/-! ## Values -/

/-- Two units of fuel for each character are enough to read a value back. -/
def ReadsBack (j : Json) : Prop :=
  ∀ (fuel : Nat) (rest : List Char), 2 * j.write.length ≤ fuel → Delimited rest →
    readValue fuel (j.write ++ rest) = some (j, rest)

theorem skipSpace_cons {c : Char} (cs : List Char) (h : isSpace c = false) :
    skipSpace (c :: cs) = c :: cs := by
  rw [skipSpace, List.dropWhile_cons_of_neg (by simp [h])]

/-- A written value begins neither with white space nor with a closing bracket. -/
theorem Plain.exists_cons {j : Json} (h : j.Plain) :
    ∃ c cs, j.write = c :: cs ∧ isSpace c = false ∧ c ≠ ']' := by
  cases h with
  | null => exact ⟨_, _, rfl, rfl, by decide⟩
  | bool b => cases b <;> exact ⟨_, _, rfl, rfl, by decide⟩
  | @int n =>
    obtain ⟨c, cs, hcs, hleads⟩ := exists_leading n
    exact ⟨c, cs, by rw [write, hcs], hleads.not_isSpace, hleads.ne (by decide) rfl⟩
  | str text => exact ⟨_, _, by rw [write, writeStr, List.cons_append], rfl, by decide⟩
  | arr each => exact ⟨_, _, by rw [write, List.cons_append], rfl, by decide⟩
  | obj each => exact ⟨_, _, by rw [write, List.cons_append], rfl, by decide⟩

theorem readValue_of_leads {c : Char} (h : Leads c) (fuel : Nat) (cs : List Char) :
    readValue (fuel + 1) (c :: cs) = readNumber (c :: cs) := by
  rw [readValue, skipSpace_cons cs h.not_isSpace]
  -- every other shape begins with a letter, a quote or a bracket
  split
  case h_7 => rfl
  all_goals
    rename_i heq
    exact absurd (List.cons.inj heq).1 (h.ne (by decide) rfl)

theorem readsBack_int {n : Int} (low : minSigned ≤ n) (high : n ≤ maxUnsigned) :
    ReadsBack (.int n) := by
  intro fuel rest hfuel h
  obtain ⟨c, cs, hcs, hleads⟩ := exists_leading n
  rw [write] at hfuel ⊢
  rw [hcs, List.length_cons] at hfuel
  obtain ⟨fuel, rfl⟩ : ∃ k, fuel = k + 1 := ⟨fuel - 1, by omega⟩
  have hnumber := readNumber_write low high h
  rw [hcs] at hnumber ⊢
  rw [List.cons_append, readValue_of_leads hleads, ← List.cons_append, hnumber]

theorem readsBack_str (text : String) : ReadsBack (.str text) := by
  intro fuel rest hfuel h
  rw [write, writeStr] at hfuel ⊢
  rw [List.cons_append, List.length_cons] at hfuel
  obtain ⟨fuel, rfl⟩ : ∃ k, fuel = k + 1 := ⟨fuel - 1, by omega⟩
  rw [List.append_assoc, List.cons_append, readValue, skipSpace_cons _ rfl]
  simp [readPieces_quoted, joinPieces_map_pieceOf]

theorem writeList_cons_cons (v w : Json) (ws : List Json) :
    writeList (v :: w :: ws) = v.write ++ ',' :: writeList (w :: ws) := by
  rw [writeList]
  exact List.cons_ne_nil w ws

theorem writeMembers_cons_cons (k : String) (v : Json) (n : String × Json)
    (ns : List (String × Json)) :
    writeMembers ((k, v) :: n :: ns) =
      writeStr k ++ ':' :: (v.write ++ ',' :: writeMembers (n :: ns)) := by
  rw [writeMembers, List.append_assoc, List.cons_append]
  exact List.cons_ne_nil n ns

/-- The values of an array are read up to its end. -/
theorem readElements_writeList {values : List Json} (hne : values ≠ [])
    (each : ∀ v ∈ values, v.ReadsBack) {fuel : Nat}
    (hfuel : 2 * (writeList values).length + 1 ≤ fuel) :
    readElements fuel (writeList values ++ ']' :: rest) = some (values, rest) := by
  induction values generalizing fuel with
  | nil => exact absurd rfl hne
  | cons v vs ih =>
    obtain ⟨fuel, rfl⟩ : ∃ k, fuel = k + 1 := ⟨fuel - 1, by omega⟩
    have hv := each v List.mem_cons_self
    cases vs with
    | nil =>
      rw [writeList] at hfuel ⊢
      have hread := hv fuel (']' :: rest) (by omega) (by simp [Delimited])
      simp [readElements, hread, skipSpace_cons _ (show isSpace ']' = false from rfl)]
    | cons w ws =>
      rw [writeList_cons_cons] at hfuel ⊢
      rw [List.length_append, List.length_cons] at hfuel
      have hread := hv fuel (',' :: (writeList (w :: ws) ++ ']' :: rest)) (by omega)
        (by simp [Delimited])
      have hrest := ih (List.cons_ne_nil w ws) (fun x hx => each x (List.mem_cons_of_mem v hx))
        (show 2 * (writeList (w :: ws)).length + 1 ≤ fuel by omega)
      rw [List.append_assoc, List.cons_append]
      simp [readElements, hread, hrest, skipSpace_cons _ (show isSpace ',' = false from rfl)]

/-- The members of an object are read up to its end, and their keys are texts. -/
theorem readMembers_writeMembers {members : List (String × Json)} (hne : members ≠ [])
    (each : ∀ m ∈ members, m.2.ReadsBack) {fuel : Nat}
    (hfuel : 2 * (writeMembers members).length + 1 ≤ fuel) :
    readMembers fuel (writeMembers members ++ '\x7d' :: rest) = some (some members, rest) := by
  induction members generalizing fuel with
  | nil => exact absurd rfl hne
  | cons m ms ih =>
    obtain ⟨k, v⟩ := m
    obtain ⟨fuel, rfl⟩ : ∃ k, fuel = k + 1 := ⟨fuel - 1, by omega⟩
    have hv : v.ReadsBack := each (k, v) List.mem_cons_self
    cases ms with
    | nil =>
      rw [writeMembers] at hfuel ⊢
      rw [List.length_append, List.length_cons] at hfuel
      have hread := hv fuel ('\x7d' :: rest) (by omega) (by simp [Delimited])
      simp [readMembers, writeStr, readPieces_quoted, joinPieces_map_pieceOf, hread,
        skipSpace_cons _ (show isSpace '"' = false from rfl),
        skipSpace_cons _ (show isSpace ':' = false from rfl),
        skipSpace_cons _ (show isSpace '\x7d' = false from rfl)]
    | cons n ns =>
      rw [writeMembers_cons_cons] at hfuel ⊢
      rw [List.length_append, List.length_cons, List.length_append, List.length_cons] at hfuel
      have hread := hv fuel (',' :: (writeMembers (n :: ns) ++ '\x7d' :: rest)) (by omega)
        (by simp [Delimited])
      have hrest := ih (List.cons_ne_nil n ns) (fun x hx => each x (List.mem_cons_of_mem _ hx))
        (show 2 * (writeMembers (n :: ns)).length + 1 ≤ fuel by omega)
      simp [readMembers, writeStr, readPieces_quoted, joinPieces_map_pieceOf, hread, hrest,
        skipSpace_cons _ (show isSpace '"' = false from rfl),
        skipSpace_cons _ (show isSpace ':' = false from rfl),
        skipSpace_cons _ (show isSpace ',' = false from rfl)]

/-- The values of an array begin as the first of them does. -/
theorem exists_cons_writeList {v : Json} (h : v.Plain) (vs : List Json) :
    ∃ c cs, writeList (v :: vs) = c :: cs ∧ isSpace c = false ∧ c ≠ ']' := by
  obtain ⟨c, cs, hcs, hspace, hclose⟩ := h.exists_cons
  cases vs with
  | nil => exact ⟨c, cs, by rw [writeList, hcs], hspace, hclose⟩
  | cons w ws => exact ⟨c, _, by rw [writeList_cons_cons, hcs, List.cons_append], hspace, hclose⟩

theorem exists_cons_writeMembers (m : String × Json) (ms : List (String × Json)) :
    ∃ cs, writeMembers (m :: ms) = '"' :: cs := by
  obtain ⟨k, v⟩ := m
  cases ms with
  | nil => exact ⟨_, by rw [writeMembers, writeStr, List.cons_append, List.cons_append]⟩
  | cons n ns =>
    exact ⟨_, by rw [writeMembers_cons_cons, writeStr, List.cons_append, List.cons_append]⟩

theorem readValue_bracket (fuel : Nat) (cs : List Char) :
    readValue (fuel + 1) ('[' :: cs) =
      match skipSpace cs with
      | ']' :: rest => some (arr [], rest)
      | rest => (readElements fuel rest).map fun (vs, rest) => (arr vs, rest) :=
  rfl

theorem readValue_obj (fuel : Nat) (cs : List Char) :
    readValue (fuel + 1) ('\x7b' :: '"' :: cs) =
      (readMembers fuel ('"' :: cs)).map fun (ms, rest) => (ofMembers ms, rest) :=
  rfl

/-- An opening bracket with anything but a closing one behind it begins an array with values. -/
theorem readValue_arr {c : Char} (hspace : isSpace c = false) (hclose : c ≠ ']') (fuel : Nat)
    (cs : List Char) :
    readValue (fuel + 1) ('[' :: c :: cs) =
      (readElements fuel (c :: cs)).map fun (vs, rest) => (.arr vs, rest) := by
  rw [readValue_bracket, skipSpace_cons cs hspace]
  split
  · rename_i heq
    exact absurd (List.cons.inj heq).1 hclose
  · rfl

theorem readsBack_arr {values : List Json} (plain : ∀ v ∈ values, v.Plain)
    (each : ∀ v ∈ values, v.ReadsBack) : ReadsBack (.arr values) := by
  intro fuel rest hfuel h
  rw [write, List.cons_append, List.length_cons, List.length_append, List.length_singleton] at hfuel
  obtain ⟨fuel, rfl⟩ : ∃ k, fuel = k + 1 := ⟨fuel - 1, by omega⟩
  rw [write, List.cons_append, List.cons_append, List.append_assoc, List.singleton_append]
  cases values with
  | nil => rfl
  | cons v vs =>
    have hread : readElements fuel (writeList (v :: vs) ++ ']' :: rest) = some (v :: vs, rest) :=
      readElements_writeList (List.cons_ne_nil v vs) each (by omega)
    obtain ⟨c, cs, hcs, hspace, hclose⟩ := exists_cons_writeList (plain v List.mem_cons_self) vs
    rw [hcs, List.cons_append] at hread ⊢
    rw [readValue_arr hspace hclose, hread]
    rfl

theorem readsBack_obj {members : List (String × Json)} (each : ∀ m ∈ members, m.2.ReadsBack) :
    ReadsBack (.obj members) := by
  intro fuel rest hfuel h
  rw [write, List.cons_append, List.length_cons, List.length_append, List.length_singleton] at hfuel
  obtain ⟨fuel, rfl⟩ : ∃ k, fuel = k + 1 := ⟨fuel - 1, by omega⟩
  rw [write, List.cons_append, List.cons_append, List.append_assoc, List.singleton_append]
  cases members with
  | nil => rfl
  | cons m ms =>
    have hread : readMembers fuel (writeMembers (m :: ms) ++ '\x7d' :: rest) =
        some (some (m :: ms), rest) :=
      readMembers_writeMembers (List.cons_ne_nil m ms) each (by omega)
    obtain ⟨cs, hcs⟩ := exists_cons_writeMembers m ms
    rw [hcs, List.cons_append] at hread ⊢
    rw [readValue_obj, hread]
    rfl

theorem readsBack_null : ReadsBack .null := by
  intro fuel rest hfuel h
  change 8 ≤ fuel at hfuel
  obtain ⟨fuel, rfl⟩ : ∃ k, fuel = k + 1 := ⟨fuel - 1, by omega⟩
  rfl

theorem readsBack_bool (b : Bool) : ReadsBack (.bool b) := by
  intro fuel rest hfuel h
  cases b with
  | true =>
    change 8 ≤ fuel at hfuel
    obtain ⟨fuel, rfl⟩ : ∃ k, fuel = k + 1 := ⟨fuel - 1, by omega⟩
    rfl
  | false =>
    change 10 ≤ fuel at hfuel
    obtain ⟨fuel, rfl⟩ : ∃ k, fuel = k + 1 := ⟨fuel - 1, by omega⟩
    rfl

theorem Plain.readsBack {j : Json} (h : j.Plain) : j.ReadsBack := by
  induction h with
  | null => exact readsBack_null
  | bool b => exact readsBack_bool b
  | int low high => exact readsBack_int low high
  | str text => exact readsBack_str text
  | arr each ih => exact readsBack_arr each ih
  | obj each ih => exact readsBack_obj ih

/-- A text that was written for a plain value stands for it. -/
theorem Plain.read_render {j : Json} (h : j.Plain) : read (render j) = some j := by
  have hread := h.readsBack (2 * j.write.length + 2) [] (Nat.le_add_right _ 2)
    (fun c hc => (by cases hc))
  rw [List.append_nil] at hread
  rw [read, render, String.toList_ofList, hread]
  rfl

end RoleAccess.Json
