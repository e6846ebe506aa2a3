import RoleAccess.Proofs.Hierarchy.Depths
import RoleAccess.Proofs.Hierarchy.Walks

/-!
# What becomes of a draft

A draft is finished, is refused for a cycle, or is refused for a chain above its limit, and the
edges it was told decide which of these it is: a cycle comes first, however long the chains are.
Steps neither read nor change the limit, so it does not matter when it is set.
-/

namespace RoleAccess.Hierarchy

open Relation

namespace Draft

variable {d d' : Draft} {E : Name → Name → Prop}

theorem maxDepth_enroll (d : Draft) (name : Name) : (d.enroll name).2.maxDepth = d.maxDepth := by
  unfold enroll
  split <;> rfl

theorem maxDepth_apply {step : Step} (ok : d.apply step = .ok d') : d'.maxDepth = d.maxDepth := by
  cases step with
  | node name =>
    simp only [apply, declare] at ok
    split at ok
    · cases ok
    split at ok
    · cases ok
    cases ok
    exact maxDepth_enroll d name
  | edge child parent =>
    simp only [apply, link] at ok
    split at ok
    · cases ok
    split at ok
    · cases ok
    cases ok
    exact (maxDepth_enroll _ parent).trans (maxDepth_enroll d child)

/-- The limit stays as it was set. -/
theorem maxDepth_run {steps : List Step} (ok : steps.foldlM apply d = .ok d') :
    d'.maxDepth = d.maxDepth :=
  foldlM_ok_keeps (I := fun later => later.maxDepth = d.maxDepth)
    (fun _ _ _ hlimit hstep => (maxDepth_apply hstep).trans hlimit) steps rfl ok

/-- One of three things happens, each for its own reason. -/
theorem Represents.finish_cases (h : d.Represents E) :
    (∃ g, d.finish = .ok g) ∧ Acyclic E ∧ Shallow E d.maxDepth ∨
      (∃ e, d.finish = .error e ∧ e.kind = .circularDependency) ∧ ¬ Acyclic E ∨
      (∃ e, d.finish = .error e ∧ e.kind = .invalidNode) ∧ Acyclic E ∧ ¬ Shallow E d.maxDepth := by
  unfold finish
  cases hcycle : d.cycle? with
  | some cycle =>
    have hback : ¬ Acyclic E := by
      rw [← h.cycle?_eq_none_iff, hcycle]
      exact Option.some_ne_none cycle
    exact Or.inr (Or.inl ⟨⟨_, rfl, rfl⟩, hback⟩)
  | none =>
    have hacyclic := h.cycle?_eq_none_iff.1 hcycle
    have hshallow := h.depth_isOk_iff hcycle
    cases hdepth : d.depth with
    | ok deepest => exact Or.inl ⟨⟨_, rfl⟩, hacyclic, hshallow.1 ⟨deepest, hdepth⟩⟩
    | error deep =>
      have hdeep : ¬ Shallow E d.maxDepth := by
        rw [← hshallow, hdepth]
        rintro ⟨_, hok⟩
        cases hok
      exact Or.inr (Or.inr ⟨⟨_, rfl, rfl⟩, hacyclic, hdeep⟩)

/-- A draft is finished iff its edges have no cycle and no chain above its limit. -/
theorem Represents.finish_isOk_iff (h : d.Represents E) :
    (∃ g, d.finish = .ok g) ↔ Acyclic E ∧ Shallow E d.maxDepth := by
  rcases h.finish_cases with ⟨hok, hacyclic, hshallow⟩ | ⟨⟨e, he, -⟩, hback⟩ |
    ⟨⟨e, he, -⟩, -, hdeep⟩
  · exact iff_of_true hok ⟨hacyclic, hshallow⟩
  · simp [he, hback]
  · simp [he, hdeep]

/-- A limit that is set between steps has no part in what the steps link. -/
theorem represents_of_limited {space : Namespace} {told more : List Step} {depth : Nat}
    {early d : Draft} (hearly : told.foldlM apply (empty space) = .ok early)
    (hd : more.foldlM apply (early.withMaxDepth depth) = .ok d) :
    d.Represents (Links (told ++ more)) :=
  ((represents_of_steps hearly).of_eq rfl rfl : (early.withMaxDepth depth).Represents _).run hd

/-- The searches behind a finished draft end by themselves, and what comes out is decided by the
edges: finished without a cycle and with no chain above the limit, refused for a cycle when there is
one, and refused for its depth when there is none and a chain is too long. -/
theorem finish_outcome {space : Namespace} {told more : List Step} {depth : Nat} {early d : Draft}
    (hearly : told.foldlM apply (empty space) = .ok early)
    (hd : more.foldlM apply (early.withMaxDepth depth) = .ok d) :
    ClimbsEach d.parentsOf [] [] (List.range d.names.length)
        (climbAll d.parentsOf d.names.length) ∧
      Peel.Ends d.childrenOf (max depth 1) (.start d.parentsOf d.names.length) 0 d.depth ∧
      ((∃ g, d.finish = .ok g) ↔
        Acyclic (Links (told ++ more)) ∧ Shallow (Links (told ++ more)) (max depth 1)) ∧
      ((∃ e, d.finish = .error e ∧ e.kind = .circularDependency) ↔
        ¬ Acyclic (Links (told ++ more))) ∧
      ((∃ e, d.finish = .error e ∧ e.kind = .invalidNode) ↔
        Acyclic (Links (told ++ more)) ∧ ¬ Shallow (Links (told ++ more)) (max depth 1)) := by
  have hlimited : (early.withMaxDepth depth).Represents (Links told) :=
    (represents_of_steps hearly).of_eq rfl rfl
  have h : d.Represents (Links (told ++ more)) := hlimited.run hd
  have hlimit : d.maxDepth = max depth 1 := maxDepth_run hd
  have hends := h.ends
  have hcases := h.finish_cases
  rw [hlimit] at hends hcases
  refine ⟨h.climbs, hends, ?_⟩
  rcases hcases with ⟨⟨g, hg⟩, hacyclic, hshallow⟩ | ⟨⟨e, he, hkind⟩, hback⟩ |
    ⟨⟨e, he, hkind⟩, hacyclic, hdeep⟩
  · simp [hg, hacyclic, hshallow]
  · simp [he, hkind, hback]
  · simp [he, hkind, hacyclic, hdeep]

/-- A trainee is a teller. -/
def training : List Step :=
  [.edge ⟨"Trainee"⟩ ⟨"Teller"⟩]

/-- A teller, in whatever letters, is a clerk. -/
def clerking : List Step :=
  [.node ⟨"Clerk"⟩, .edge ⟨"TELLER"⟩ ⟨"clerk"⟩]

/-- Two edges in a row are one too many for a limit of zero, which counts as one. -/
theorem finish_outcome_of_trainee :
    ∃ early d, training.foldlM apply (empty .roles) = .ok early ∧
      clerking.foldlM apply (early.withMaxDepth 0) = .ok d ∧
      (∃ e, d.finish = .error e ∧ e.kind = .invalidNode) ∧
      Acyclic (Links (training ++ clerking)) ∧ ¬ Shallow (Links (training ++ clerking)) 1 := by
  have hrefused : (training.foldlM apply (empty .roles) >>= fun early =>
      clerking.foldlM apply (early.withMaxDepth 0) >>= fun d =>
        match d.finish with
        | .ok _ => .ok none
        | .error e => .ok (some e.kind)) = .ok (some .invalidNode) := by
    decide +kernel
  obtain ⟨early, hearly, hrefused⟩ := except_bind_eq_ok.1 hrefused
  obtain ⟨d, hd, hrefused⟩ := except_bind_eq_ok.1 hrefused
  have hdeep : ∃ e, d.finish = .error e ∧ e.kind = .invalidNode := by
    cases hfinish : d.finish with
    | ok g =>
      rw [hfinish] at hrefused
      cases hrefused
    | error e =>
      rw [hfinish] at hrefused
      exact ⟨e, rfl, Option.some.inj (Except.ok.inj hrefused)⟩
  obtain ⟨-, -, -, -, hiff⟩ := finish_outcome hearly hd
  exact ⟨early, d, hearly, hd, hdeep, hiff.1 hdeep⟩

end Draft

end RoleAccess.Hierarchy
