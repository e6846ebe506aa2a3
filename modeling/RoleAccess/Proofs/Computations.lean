/-!
# Computations that read, and computations that keep

Three things are said of a computation with a state. It *reads* through a view of the state when
its answer is a function of the view and the view stays as it is: whatever else of the state it
changes is invisible to every other such computation. It is *confined* to a view when it may change
what the view shows, but answers and changes alike wherever the view shows the same. It *keeps* a
property of states when it never leads out of it. All three compose, so a claim about a long
computation is put together from claims about its steps, in the order in which they are written.

A computation that only may fail is taken apart from its answer: when it succeeds, all its steps
did.
-/

namespace RoleAccess

variable {σ ρ ρ' ε α β : Type}

theorem run_bind (q : StateM σ α) (k : α → StateM σ β) (s : σ) :
    (q >>= k).run s = (k (q.run s).1).run (q.run s).2 := rfl

theorem run_get_bind (k : σ → StateM σ β) (s : σ) : (get >>= k).run s = (k s).run s := rfl

theorem run_mapM_cons (k : α → StateM σ β) (a : α) (as : List α) (s : σ) :
    ((a :: as).mapM k).run s =
      (((k a).run s).1 :: ((as.mapM k).run ((k a).run s).2).1,
        ((as.mapM k).run ((k a).run s).2).2) := by
  rw [List.mapM_cons]
  rfl

/-- The answer to one among many is the answer in the state that those before it leave. -/
theorem getElem?_run_mapM (k : α → StateM σ β) (before : List α) (a : α) (after : List α) (s : σ) :
    (((before ++ a :: after).mapM k).run s).1[before.length]? =
      some ((k a).run ((before.mapM k).run s).2).1 := by
  induction before generalizing s with
  | nil =>
    rw [List.nil_append, run_mapM_cons]
    rfl
  | cons b rest ih =>
    rw [List.cons_append, run_mapM_cons, run_mapM_cons, List.length_cons,
      List.getElem?_cons_succ]
    exact ih _

/-- The answer of `q` is `f` of what `view` shows of the state, and what `view` shows stays. -/
def Reads (view : σ → ρ) (q : StateM σ α) (f : ρ → α) : Prop :=
  ∀ s, (q.run s).1 = f (view s) ∧ view (q.run s).2 = view s

namespace Reads

variable {view : σ → ρ} {q : StateM σ α} {f g : ρ → α}

theorem answer (h : Reads view q f) (s : σ) : (q.run s).1 = f (view s) := (h s).1

theorem kept (h : Reads view q f) (s : σ) : view (q.run s).2 = view s := (h s).2

theorem congr (h : Reads view q f) (hfg : ∀ r, f r = g r) : Reads view q g :=
  fun s => ⟨(h.answer s).trans (hfg _), h.kept s⟩

/-- More may be shown, as long as it stays. -/
theorem pair {view' : σ → ρ'} (h : Reads view q f) (hkept : ∀ s, view' (q.run s).2 = view' s) :
    Reads (fun s => (view s, view' s)) q (fun r => f r.1) :=
  fun s => ⟨h.answer s, Prod.ext (h.kept s) (hkept s)⟩

theorem pure (a : α) : Reads view (pure a : StateM σ α) (fun _ => a) :=
  fun _ => ⟨rfl, rfl⟩

theorem bind {k : α → StateM σ β} {g : α → ρ → β} (h : Reads view q f)
    (hk : ∀ a, Reads view (k a) (g a)) : Reads view (q >>= k) (fun r => g (f r) r) := by
  intro s
  obtain ⟨hanswer, hkept⟩ := hk (q.run s).1 (q.run s).2
  refine ⟨?_, hkept.trans (h.kept s)⟩
  show ((k (q.run s).1).run (q.run s).2).1 = g (f (view s)) (view s)
  rw [hanswer, h.kept s, h.answer s]

theorem ite {c : Prop} [Decidable c] {q₁ q₂ : StateM σ α} {f₁ f₂ : ρ → α}
    (h₁ : Reads view q₁ f₁) (h₂ : Reads view q₂ f₂) :
    Reads view (if c then q₁ else q₂) (fun r => if c then f₁ r else f₂ r) := by
  by_cases hc : c
  · simpa only [if_pos hc] using h₁
  · simpa only [if_neg hc] using h₂

/-- A look at the whole state is harmless when only the view of it counts. -/
theorem get_bind {k : σ → StateM σ β} {g : σ → ρ → β} {g' : ρ → β}
    (hk : ∀ s, Reads view (k s) (g s)) (hg : ∀ s, g s (view s) = g' (view s)) :
    Reads view (get >>= k) g' := by
  intro s
  exact ⟨((hk s).answer s).trans (hg s), (hk s).kept s⟩

theorem mapM {k : α → StateM σ β} {g : α → ρ → β} (hk : ∀ a, Reads view (k a) (g a)) :
    ∀ as : List α, Reads view (as.mapM k) (fun r => as.map (fun a => g a r))
  | [] => pure []
  | a :: as => by
    rw [List.mapM_cons]
    exact (hk a).bind fun b => (mapM hk as).bind fun bs => pure (b :: bs)

/-! ### With failures -/

theorem lift (x : Except ε α) :
    Reads view (liftExcept x : ExceptT ε (StateM σ) α).run (fun _ => x) := by
  cases x with
  | error e => exact pure (Except.error e)
  | ok a => exact pure (Except.ok a)

theorem try_bind {x : ExceptT ε (StateM σ) α} {k : α → ExceptT ε (StateM σ) β}
    {f : ρ → Except ε α} {g : α → ρ → Except ε β} (h : Reads view x.run f)
    (hk : ∀ a, Reads view (k a).run (g a)) :
    Reads view (x >>= k).run (fun r => f r >>= fun a => g a r) := by
  show Reads view (x.run >>= ExceptT.bindCont k) _
  refine h.bind (g := fun result r => result >>= fun a => g a r) fun result => ?_
  cases result with
  | error e => exact pure (Except.error e)
  | ok a => exact hk a

theorem try_get_bind {k : σ → ExceptT ε (StateM σ) β} {g : σ → ρ → Except ε β}
    {g' : ρ → Except ε β} (hk : ∀ s, Reads view (k s).run (g s))
    (hg : ∀ s, g s (view s) = g' (view s)) :
    Reads view (get >>= k : ExceptT ε (StateM σ) β).run g' :=
  fun s => ⟨((hk s).answer s).trans (hg s), (hk s).kept s⟩

end Reads

/-- What `q` answers, and what `view` shows behind it, is settled by what `view` shows before it. -/
def Confined (view : σ → ρ) (q : StateM σ α) : Prop :=
  ∀ s s' : σ, view s = view s' →
    (q.run s).1 = (q.run s').1 ∧ view (q.run s).2 = view (q.run s').2

theorem Reads.confined {view : σ → ρ} {q : StateM σ α} {f : ρ → α} (h : Reads view q f) :
    Confined view q := by
  intro s s' hs
  refine ⟨?_, ?_⟩
  · rw [h.answer, h.answer, hs]
  · rw [h.kept, h.kept, hs]

namespace Confined

variable {view : σ → ρ} {q : StateM σ α}

theorem pure (a : α) : Confined view (pure a : StateM σ α) :=
  (Reads.pure a).confined

theorem bind {k : α → StateM σ β} (h : Confined view q) (hk : ∀ a, Confined view (k a)) :
    Confined view (q >>= k) := by
  intro s s' hs
  obtain ⟨hanswer, hafter⟩ := h s s' hs
  rw [run_bind, run_bind, ← hanswer]
  exact hk _ _ _ hafter

/-! ### With failures -/

theorem try_bind {x : ExceptT ε (StateM σ) α} {k : α → ExceptT ε (StateM σ) β}
    (h : Confined view x.run) (hk : ∀ a, Confined view (k a).run) :
    Confined view (x >>= k).run := by
  show Confined view (x.run >>= ExceptT.bindCont k)
  refine h.bind fun result => ?_
  cases result with
  | error e => exact pure (Except.error e)
  | ok a => exact hk a

theorem try_get_bind {k : σ → ExceptT ε (StateM σ) β}
    (hk : ∀ s s', view s = view s' → k s = k s' ∧ Confined view (k s).run) :
    Confined view (get >>= k : ExceptT ε (StateM σ) β).run := by
  intro s s' hs
  obtain ⟨hsame, hconfined⟩ := hk s s' hs
  show ((k s).run.run s).1 = ((k s').run.run s').1 ∧
    view ((k s).run.run s).2 = view ((k s').run.run s').2
  rw [← hsame]
  exact hconfined s s' hs

end Confined

/-- `q` never leads out of `I`. -/
def Keeps (I : σ → Prop) (q : StateM σ α) : Prop :=
  ∀ s, I s → I (q.run s).2

namespace Keeps

variable {I : σ → Prop} {q : StateM σ α}

theorem after (h : Keeps I q) {s s' : σ} {a : α} (hs : I s) (hrun : q.run s = (a, s')) : I s' := by
  have hkept := h s hs
  rw [hrun] at hkept
  exact hkept

theorem pure (a : α) : Keeps I (pure a : StateM σ α) :=
  fun _ hs => hs

theorem bind {k : α → StateM σ β} (h : Keeps I q) (hk : ∀ a, Keeps I (k a)) :
    Keeps I (q >>= k) :=
  fun s hs => hk (q.run s).1 (q.run s).2 (h s hs)

theorem map (f : α → β) (h : Keeps I q) : Keeps I (f <$> q) :=
  fun s hs => h s hs

theorem mapM {k : α → StateM σ β} (hk : ∀ a, Keeps I (k a)) :
    ∀ as : List α, Keeps I (as.mapM k)
  | [] => pure []
  | a :: as => by
    rw [List.mapM_cons]
    exact (hk a).bind fun b => (mapM hk as).bind fun bs => pure (b :: bs)

/-! ### With failures -/

theorem lift (x : Except ε α) : Keeps I (liftExcept x : ExceptT ε (StateM σ) α).run := by
  cases x with
  | error e => exact pure (Except.error e)
  | ok a => exact pure (Except.ok a)

theorem try_bind {x : ExceptT ε (StateM σ) α} {k : α → ExceptT ε (StateM σ) β}
    (h : Keeps I x.run) (hk : ∀ a, Keeps I (k a).run) : Keeps I (x >>= k).run := by
  show Keeps I (x.run >>= ExceptT.bindCont k)
  refine h.bind fun result => ?_
  cases result with
  | error e => exact pure (Except.error e)
  | ok a => exact hk a

theorem try_get_bind {k : σ → ExceptT ε (StateM σ) β}
    (hk : ∀ s, I s → I ((k s).run.run s).2) : Keeps I (get >>= k : ExceptT ε (StateM σ) β).run :=
  hk

end Keeps

/-! ## Computations that may fail -/

theorem run_liftExcept (x : Except ε α) (s : σ) :
    (liftExcept x : ExceptT ε (StateM σ) α).run.run s = (x, s) := by
  cases x <;> rfl

theorem run_discard (x : ExceptT ε (StateM σ) α) (s : σ) :
    (discard x).run.run s = ((x.run.run s).1.map fun _ => (), (x.run.run s).2) := by
  show ((match (x.run.run s).1 with
    | .ok _ => pure (.ok ())
    | .error e => pure (.error e) : StateM σ (Except ε PUnit)).run (x.run.run s).2) = _
  cases (x.run.run s).1 <;> rfl

/-- A failure keeps what has changed before it. -/
theorem run_try_bind (x : ExceptT ε (StateM σ) α) (k : α → ExceptT ε (StateM σ) β) (s : σ) :
    (x >>= k).run.run s =
      match x.run.run s with
      | (.ok a, s') => (k a).run.run s'
      | (.error e, s') => (.error e, s') := by
  show (ExceptT.bindCont k (x.run.run s).1).run (x.run.run s).2 = _
  rcases x.run.run s with ⟨result, s'⟩
  cases result <;> rfl

/-- When a computation succeeds, so did its first step. -/
theorem run_try_bind_eq_ok {x : ExceptT ε (StateM σ) α} {k : α → ExceptT ε (StateM σ) β} {s : σ}
    {b : β} (h : ((x >>= k).run.run s).1 = .ok b) :
    ∃ a s', x.run.run s = (.ok a, s') ∧ ((k a).run.run s').1 = .ok b := by
  rw [run_try_bind] at h
  rcases hrun : x.run.run s with ⟨result, s'⟩
  rw [hrun] at h
  cases result with
  | error e => cases h
  | ok a => exact ⟨a, s', rfl, h⟩

theorem Keeps.try_map {I : σ → Prop} {x : ExceptT ε (StateM σ) α} {f : α → β} (h : Keeps I x.run) :
    Keeps I (f <$> x).run := by
  rw [map_eq_pure_bind]
  exact h.try_bind fun a => Keeps.pure (Except.ok (f a))

theorem Keeps.discard {I : σ → Prop} {x : ExceptT ε (StateM σ) α} (h : Keeps I x.run) :
    Keeps I (discard x).run := by
  intro s hs
  rw [run_discard]
  exact h s hs

theorem except_isOk_iff {x : Except ε α} : x.isOk = true ↔ ∃ a, x = .ok a := by
  cases x <;> simp [Except.isOk, Except.toBool]

theorem except_bind_eq_ok {x : Except ε α} {k : α → Except ε β} {b : β} :
    x >>= k = .ok b ↔ ∃ a, x = .ok a ∧ k a = .ok b := by
  cases x with
  | error e => exact ⟨fun h => (by cases h), fun ⟨a, ha, _⟩ => (by cases ha)⟩
  | ok a => exact ⟨fun h => ⟨a, rfl, h⟩, fun ⟨a', ha, h⟩ => by cases ha; exact h⟩

/-- What every step of a fold establishes anew holds behind a fold that succeeds. -/
theorem foldlM_ok_keeps {step : σ → α → Except ε σ} {I : σ → Prop}
    (hstep : ∀ s a s', I s → step s a = .ok s' → I s') :
    ∀ (as : List α) {s s' : σ}, I s → as.foldlM step s = .ok s' → I s'
  | [], s, s', hs, h => by cases h; exact hs
  | a :: as, s, s', hs, h => by
    rw [List.foldlM_cons] at h
    obtain ⟨mid, hmid, hrest⟩ := except_bind_eq_ok.1 h
    exact foldlM_ok_keeps hstep as (hstep s a mid hs hmid) hrest

/-- What holds of a state and the elements worked off so far holds behind a fold that succeeds of
all elements. -/
theorem foldlM_ok_extends {step : σ → α → Except ε σ} {I : List α → σ → Prop}
    (hstep : ∀ done s a s', I done s → step s a = .ok s' → I (done ++ [a]) s') :
    ∀ (as : List α) {done : List α} {s s' : σ}, I done s → as.foldlM step s = .ok s' →
      I (done ++ as) s'
  | [], done, s, s', hs, h => by
    cases h
    rwa [List.append_nil]
  | a :: as, done, s, s', hs, h => by
    rw [List.foldlM_cons] at h
    obtain ⟨mid, hmid, hrest⟩ := except_bind_eq_ok.1 h
    have hall := foldlM_ok_extends hstep as (hstep done s a mid hs hmid) hrest
    rwa [List.append_assoc, List.singleton_append] at hall

/-- Where each step asks something of its element, and something of it together with each element
worked off before, a fold succeeds iff all elements and all pairs of them are as is asked. -/
theorem foldlM_isOk_iff_behind {step : σ → α → Except ε σ} {I : List α → σ → Prop} {Q : α → Prop}
    {R : α → α → Prop}
    (hkeep : ∀ done s a s', I done s → step s a = .ok s' → I (done ++ [a]) s')
    (hstep : ∀ done s a, I done s → ((∃ s', step s a = .ok s') ↔ Q a ∧ ∀ b ∈ done, R b a)) :
    ∀ (as : List α) {done : List α} {s : σ}, I done s →
      ((∃ s', as.foldlM step s = .ok s') ↔
        (∀ a ∈ as, Q a ∧ ∀ b ∈ done, R b a) ∧ as.Pairwise R)
  | [], done, s, _ => by
    refine iff_of_true ⟨s, rfl⟩ ⟨fun a ha => (by cases ha), .nil⟩
  | a :: as, done, s, hs => by
    have hfirst := hstep done s a hs
    have hlater : ∀ {mid}, step s a = .ok mid →
        ((∃ s', as.foldlM step mid = .ok s') ↔
          (∀ b ∈ as, Q b ∧ ∀ c ∈ done ++ [a], R c b) ∧ as.Pairwise R) :=
      fun hmid => foldlM_isOk_iff_behind hkeep hstep as (hkeep done s a _ hs hmid)
    simp only [List.foldlM_cons, except_bind_eq_ok, List.forall_mem_cons, List.pairwise_cons]
    constructor
    · rintro ⟨s', mid, hmid, hrest⟩
      obtain ⟨hall, hpairs⟩ := (hlater hmid).1 ⟨s', hrest⟩
      refine ⟨⟨hfirst.1 ⟨mid, hmid⟩, fun b hb => ⟨(hall b hb).1, fun c hc => ?_⟩⟩, ?_, hpairs⟩
      · exact (hall b hb).2 c (List.mem_append_left _ hc)
      · exact fun b hb => (hall b hb).2 a (List.mem_append_right _ (List.mem_singleton_self a))
    · rintro ⟨⟨ha, hall⟩, hbeside, hpairs⟩
      obtain ⟨mid, hmid⟩ := hfirst.2 ha
      have hrest : ∀ b ∈ as, Q b ∧ ∀ c ∈ done ++ [a], R c b := by
        refine fun b hb => ⟨(hall b hb).1, fun c hc => ?_⟩
        rcases List.mem_append.1 hc with hc | hc
        · exact (hall b hb).2 c hc
        · rw [List.mem_singleton.1 hc]
          exact hbeside b hb
      obtain ⟨s', hs'⟩ := (hlater hmid).2 ⟨hrest, hpairs⟩
      exact ⟨s', mid, hmid, hs'⟩

theorem foldlM_isOk_iff {step : σ → α → Except ε σ} {I : List α → σ → Prop} {Q : α → Prop}
    {R : α → α → Prop}
    (hkeep : ∀ done s a s', I done s → step s a = .ok s' → I (done ++ [a]) s')
    (hstep : ∀ done s a, I done s → ((∃ s', step s a = .ok s') ↔ Q a ∧ ∀ b ∈ done, R b a))
    (as : List α) {s : σ} (hs : I [] s) :
    (∃ s', as.foldlM step s = .ok s') ↔ (∀ a ∈ as, Q a) ∧ as.Pairwise R := by
  rw [foldlM_isOk_iff_behind hkeep hstep as hs]
  simp

end RoleAccess
