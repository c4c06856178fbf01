import Mathlib.Data.List.Basic
import Mathlib.Data.Option.Basic

/-! Runs of a labelled transition system. A label names the next step of some
party, so a list of labels is one interleaving; `step` answers `none` where
that party cannot take the step. -/
namespace Transition

variable {σ α : Type}

/-- The state after the steps named by the labels, where all are possible. -/
def run (step : σ → α → Option σ) : σ → List α → Option σ
  | s, [] => some s
  | s, a :: rest => (step s a).bind fun s' => run step s' rest

section
variable {step : σ → α → Option σ}

theorem run_cons (s : σ) (a : α) (rest : List α) :
    run step s (a :: rest) = (step s a).bind fun s' => run step s' rest := rfl

theorem run_cons_eq_some {s t : σ} {a : α} {rest : List α} :
    run step s (a :: rest) = some t ↔ ∃ s', step s a = some s' ∧ run step s' rest = some t := by
  simp [run_cons, Option.bind_eq_some_iff]

theorem run_append (s : σ) (first second : List α) :
    run step s (first ++ second) = (run step s first).bind fun s' => run step s' second := by
  induction first generalizing s with
  | nil => rfl
  | cons a rest ih =>
      simp only [List.cons_append, run_cons, Option.bind_assoc]
      congr 1
      funext s'
      exact ih s'

theorem run_append_eq_some {s t : σ} {first second : List α} :
    run step s (first ++ second) = some t ↔
      ∃ s', run step s first = some s' ∧ run step s' second = some t := by
  simp [run_append, Option.bind_eq_some_iff]

/-- An invariant of the single steps is an invariant of the runs. -/
theorem run_invariant {I : σ → Prop} (hStep : ∀ s a s', I s → step s a = some s' → I s')
    {s t : σ} {labels : List α} (hRun : run step s labels = some t) (hs : I s) : I t := by
  induction labels generalizing s with
  | nil =>
      cases hRun
      exact hs
  | cons a rest ih =>
      obtain ⟨s', hFirst, hRest⟩ := run_cons_eq_some.1 hRun
      exact ih hRest (hStep s a s' hs hFirst)
end

/-- A list that no step shortens or rewrites. -/
theorem run_prefix {step : σ → α → Option σ} {β : Type} {view : σ → List β}
    (hStep : ∀ s a s', step s a = some s' → view s <+: view s') {s t : σ} {labels : List α}
    (hRun : run step s labels = some t) : view s <+: view t :=
  run_invariant (I := fun u => view s <+: view u)
    (fun u a u' hu hNext => hu.trans (hStep u a u' hNext)) hRun List.prefix_rfl

/-- The labels of a run as a part of the system sees them. `move` is what a step of the whole
is to the part: one of its own steps, or nothing where the part does not notice. -/
def project {β : Type} (step : σ → α → Option σ) (move : σ → α → Option β) : σ → List α → List β
  | _, [] => []
  | s, a :: rest => (move s a).toList ++ (step s a).elim [] fun s' => project step move s' rest

section
variable {τ β : Type} {step : σ → α → Option σ} {move : σ → α → Option β}

theorem project_cons {s s' : σ} {a : α} (h : step s a = some s') (rest : List α) :
    project step move s (a :: rest) = (move s a).toList ++ project step move s' rest := by
  rw [project, h]
  rfl

/-- What a run is to a part is put together from what its two halves are. -/
theorem project_append {s s' : σ} {first : List α} (h : run step s first = some s')
    (second : List α) : project step move s (first ++ second) =
      project step move s first ++ project step move s' second := by
  induction first generalizing s with
  | nil =>
      cases h
      rfl
  | cons a first ih =>
      obtain ⟨u, hNext, hRest⟩ := run_cons_eq_some.1 h
      rw [List.cons_append, project_cons hNext, project_cons hNext, ih hRest, List.append_assoc]

/-- Where each step of the whole is, for the part, the step that it is said to be, a run of
the whole is a run of the part. -/
theorem run_project {step' : τ → β → Option τ} {view : σ → τ} {I : σ → Prop}
    (hKeep : ∀ s a s', I s → step s a = some s' → I s')
    (hStep : ∀ s a s', I s → step s a = some s' →
      run step' (view s) (move s a).toList = some (view s'))
    {s t : σ} {labels : List α} (hRun : run step s labels = some t) (hs : I s) :
    run step' (view s) (project step move s labels) = some (view t) := by
  induction labels generalizing s with
  | nil =>
      cases hRun
      rfl
  | cons a rest ih =>
      obtain ⟨s', hNext, hRest⟩ := run_cons_eq_some.1 hRun
      rw [project_cons hNext]
      exact run_append_eq_some.2
        ⟨view s', hStep s a s' hs hNext, ih hRest (hKeep s a s' hs hNext)⟩

end

/-- States that some run from an initial state ends in. -/
def Reachable (initial : σ → Prop) (step : σ → α → Option σ) (s : σ) : Prop :=
  ∃ start labels, initial start ∧ run step start labels = some s

section
variable {initial : σ → Prop} {step : σ → α → Option σ}

theorem Reachable.init {s : σ} (h : initial s) : Reachable initial step s := ⟨s, [], h, rfl⟩

theorem Reachable.extend {s t : σ} {labels : List α} (h : Reachable initial step s)
    (hRun : run step s labels = some t) : Reachable initial step t := by
  obtain ⟨start, before, hStart, hBefore⟩ := h
  exact ⟨start, before ++ labels, hStart, run_append_eq_some.2 ⟨s, hBefore, hRun⟩⟩

theorem Reachable.next {s t : σ} {a : α} (h : Reachable initial step s)
    (hStep : step s a = some t) : Reachable initial step t := by
  have hRun : run step s [a] = some t := run_cons_eq_some.2 ⟨t, hStep, rfl⟩
  exact h.extend hRun

/-- The induction rule for reachable states. -/
theorem Reachable.invariant {I : σ → Prop} (hInit : ∀ s, initial s → I s)
    (hStep : ∀ s a s', I s → step s a = some s' → I s') {s : σ}
    (h : Reachable initial step s) : I s := by
  obtain ⟨start, labels, hStart, hRun⟩ := h
  exact run_invariant hStep hRun (hInit start hStart)

/-- The same rule where the step may also use an invariant already proved. -/
theorem Reachable.invariant_of {I J : σ → Prop} (hKnown : ∀ s, Reachable initial step s → J s)
    (hInit : ∀ s, initial s → I s)
    (hStep : ∀ s a s', J s → I s → step s a = some s' → I s') {s : σ}
    (h : Reachable initial step s) : I s := by
  have hBoth : Reachable initial step s ∧ I s := by
    refine Reachable.invariant (I := fun s => Reachable initial step s ∧ I s) ?_ ?_ h
    · exact fun s hs => ⟨Reachable.init hs, hInit s hs⟩
    · exact fun s a s' hs hNext => ⟨hs.1.next hNext, hStep s a s' (hKnown s hs.1) hs.2 hNext⟩
  exact hBoth.2
end

/-- A condition on single steps, read along a whole run. -/
def Along (step : σ → α → Option σ) (cond : σ → α → Prop) : σ → List α → Prop
  | _, [] => True
  | s, a :: rest => cond s a ∧ ∀ s', step s a = some s' → Along step cond s' rest

/-- A condition that can be decided step by step can be decided of a run. -/
instance Along.decidable {step : σ → α → Option σ} {cond : σ → α → Prop}
    [∀ s a, Decidable (cond s a)] : ∀ s labels, Decidable (Along step cond s labels)
  | _, [] => isTrue trivial
  | s, a :: rest =>
      have : Decidable (∀ s', step s a = some s' → Along step cond s' rest) :=
        match step s a with
        | none => isTrue nofun
        | some s' =>
            have : Decidable (Along step cond s' rest) := Along.decidable s' rest
            decidable_of_iff (Along step cond s' rest)
              ⟨fun h _ hNext => Option.some.inj hNext ▸ h, fun h => h s' rfl⟩
      inferInstanceAs (Decidable (_ ∧ _))

/-- A property of every state a run passes through, the first and last included. -/
def Always (step : σ → α → Option σ) (P : σ → Prop) : σ → List α → Prop
  | s, [] => P s
  | s, a :: rest => P s ∧ ∀ s', step s a = some s' → Always step P s' rest

section
variable {step : σ → α → Option σ}

theorem Always.first {P : σ → Prop} {s : σ} {labels : List α} (h : Always step P s labels) :
    P s := by
  cases labels with
  | nil => exact h
  | cons a rest => exact h.1

theorem Always.last {P : σ → Prop} {s t : σ} {labels : List α} (h : Always step P s labels)
    (hRun : run step s labels = some t) : P t := by
  induction labels generalizing s with
  | nil =>
      cases hRun
      exact h
  | cons a rest ih =>
      obtain ⟨s', hFirst, hRest⟩ := run_cons_eq_some.1 hRun
      exact ih (h.2 s' hFirst) hRest

/-- An invariant of the steps that meet a condition holds throughout every run
all of whose steps meet it. -/
theorem always_of_along {I : σ → Prop} {cond : σ → α → Prop}
    (hStep : ∀ s a s', I s → cond s a → step s a = some s' → I s')
    {s : σ} {labels : List α} (hs : I s) (h : Along step cond s labels) :
    Always step I s labels := by
  induction labels generalizing s with
  | nil => exact hs
  | cons a rest ih =>
      exact ⟨hs, fun s' hNext => ih (hStep s a s' hs h.1 hNext) (h.2 s' hNext)⟩

theorem Along.cons {cond : σ → α → Prop} {s t : σ} {a : α} {rest : List α} (hNow : cond s a)
    (hStep : step s a = some t) (hRest : Along step cond t rest) :
    Along step cond s (a :: rest) := by
  refine ⟨hNow, fun s' hNext => ?_⟩
  obtain rfl := Option.some.inj (hStep.symm.trans hNext)
  exact hRest

theorem Along.append {cond : σ → α → Prop} {s t : σ} {first rest : List α}
    (hFirst : Along step cond s first) (hRun : run step s first = some t)
    (hRest : Along step cond t rest) : Along step cond s (first ++ rest) := by
  induction first generalizing s with
  | nil =>
      cases hRun
      exact hRest
  | cons a first ih =>
      obtain ⟨s', hStep, hRun⟩ := run_cons_eq_some.1 hRun
      exact .cons hFirst.1 hStep (ih (hFirst.2 s' hStep) hRun)

/-- Labels that meet the condition in every state. -/
theorem along_of_forall {cond : σ → α → Prop} {labels : List α} (h : ∀ a ∈ labels, ∀ s, cond s a)
    (s : σ) : Along step cond s labels := by
  induction labels generalizing s with
  | nil => trivial
  | cons a rest ih =>
      exact ⟨h a List.mem_cons_self s, fun s' _ => ih (fun b hMem => h b (List.mem_cons_of_mem _ hMem)) s'⟩

/-- The condition at one step of a run. -/
theorem Along.at_step {cond : σ → α → Prop} {s t : σ} {before rest : List α} {a : α}
    (h : Along step cond s (before ++ a :: rest)) (hRun : run step s before = some t) :
    cond t a := by
  induction before generalizing s with
  | nil =>
      cases hRun
      exact h.1
  | cons b before ih =>
      obtain ⟨s', hFirst, hRest⟩ := run_cons_eq_some.1 hRun
      exact ih (h.2 s' hFirst) hRest

/-- What the invariant and the condition say of every step of such a run. -/
theorem Along.of_invariant {I : σ → Prop} {cond cond' : σ → α → Prop}
    (hStep : ∀ s a s', I s → cond s a → step s a = some s' → I s')
    (hNow : ∀ s a, I s → cond s a → cond' s a) {s : σ} {labels : List α} (hs : I s)
    (h : Along step cond s labels) : Along step cond' s labels := by
  induction labels generalizing s with
  | nil => trivial
  | cons a rest ih =>
      exact ⟨hNow s a hs h.1, fun s' hNext => ih (hStep s a s' hs h.1 hNext) (h.2 s' hNext)⟩

theorem Always.mono {P Q : σ → Prop} (hPQ : ∀ s, P s → Q s) {s : σ} {labels : List α}
    (h : Always step P s labels) : Always step Q s labels := by
  induction labels generalizing s with
  | nil => exact hPQ s h
  | cons a rest ih => exact ⟨hPQ s h.1, fun s' hNext => ih (h.2 s' hNext)⟩

/-- The exact condition for a property of whole runs: where `cond` decides, at
every state the invariant describes, whether the next step keeps the property,
a run keeps it throughout if and only if each of its steps meets `cond`. -/
theorem always_iff_along {I P : σ → Prop} {cond : σ → α → Prop} (hProp : ∀ s, I s → P s)
    (hKeep : ∀ s a s', I s → cond s a → step s a = some s' → I s')
    (hBreak : ∀ s a, I s → ¬cond s a → ∃ s', step s a = some s' ∧ ¬P s')
    {s : σ} {labels : List α} (hs : I s) :
    Always step P s labels ↔ Along step cond s labels := by
  constructor
  · intro h
    induction labels generalizing s with
    | nil => trivial
    | cons a rest ih =>
        have hCond : cond s a := by
          by_contra hNot
          obtain ⟨s', hNext, hBad⟩ := hBreak s a hs hNot
          exact hBad (h.2 s' hNext).first
        exact ⟨hCond, fun s' hNext => ih (hKeep s a s' hs hCond hNext) (h.2 s' hNext)⟩
  · exact fun h => (always_of_along hKeep hs h).mono hProp

/-- The same where labels can be impossible: of a run that exists every step is. -/
theorem always_iff_along_of_run {I P : σ → Prop} {cond : σ → α → Prop}
    (hProp : ∀ s, I s → P s) (hKeep : ∀ s a s', I s → cond s a → step s a = some s' → I s')
    (hBreak : ∀ s a s', I s → ¬cond s a → step s a = some s' → ¬P s') {s t : σ}
    {labels : List α} (hRun : run step s labels = some t) (hs : I s) :
    Always step P s labels ↔ Along step cond s labels := by
  constructor
  · intro h
    induction labels generalizing s with
    | nil => trivial
    | cons a rest ih =>
        obtain ⟨s', hFirst, hRest⟩ := run_cons_eq_some.1 hRun
        have hCond : cond s a := by
          by_contra hNot
          exact hBreak s a s' hs hNot hFirst (h.2 s' hFirst).first
        refine ⟨hCond, fun next hNext => ?_⟩
        obtain rfl := Option.some.inj (hFirst.symm.trans hNext)
        exact ih hRest (hKeep s a s' hs hCond hFirst) (h.2 s' hFirst)
  · exact fun h => (always_of_along hKeep hs h).mono hProp
end

section
variable {τ β : Type} {step : σ → α → Option σ} {step' : τ → β → Option τ} {R : σ → τ → Prop}
  {cond : σ → α → Prop}

/-- Each step that meets the condition is one step of the other system, or none. -/
def Simulation (step : σ → α → Option σ) (step' : τ → β → Option τ) (cond : σ → α → Prop)
    (R : σ → τ → Prop) : Prop :=
  ∀ s a s' x, R s x → cond s a → step s a = some s' →
    ∃ x', R s' x' ∧ (x' = x ∨ ∃ b, step' x b = some x')

/-- The runs of the other system that match a run of the first one, state by state. A list in
the other system that grows by one element at a time passes through each of its beginnings,
and so does the first system while it does. -/
theorem Simulation.run {γ : Type} {view : τ → List γ} (h : Simulation step step' cond R)
    (hView : ∀ x b x', step' x b = some x' → view x' = view x ∨ ∃ e, view x' = view x ++ [e])
    {s t : σ} {x : τ} {labels : List α} (hAlong : Along step cond s labels)
    (hRun : run step s labels = some t) (hs : R s x) :
    ∃ y labels', Transition.run step' x labels' = some y ∧ R t y ∧
      ∀ part, view x <+: part → part <+: view y → ∃ first second u z labels'',
        labels = first ++ second ∧ Transition.run step s first = some u ∧
        Transition.run step u second = some t ∧ Transition.run step' x labels'' = some z ∧ R u z ∧
        view z = part := by
  induction labels generalizing s x with
  | nil =>
      cases hRun
      refine ⟨x, [], rfl, hs, fun part hFrom hPart => ?_⟩
      exact ⟨[], [], t, x, [], rfl, rfl, rfl, rfl, hs, hFrom.eq_of_length_le hPart.length_le⟩
  | cons a rest ih =>
      obtain ⟨s', hNext, hRest⟩ := run_cons_eq_some.1 hRun
      obtain ⟨x', hs', hMatch⟩ := h s a s' x hs hAlong.1 hNext
      obtain ⟨y, labels', hRun', hy, hParts⟩ := ih (hAlong.2 s' hNext) hRest hs'
      obtain ⟨ahead, hAhead⟩ : ∃ ahead, Transition.run step' x ahead = some x' := by
        rcases hMatch with rfl | ⟨b, hStep'⟩
        · exact ⟨[], rfl⟩
        · exact ⟨[b], run_cons_eq_some.2 ⟨x', hStep', rfl⟩⟩
      refine ⟨y, ahead ++ labels', run_append_eq_some.2 ⟨x', hAhead, hRun'⟩, hy, ?_⟩
      intro part hFrom hPart
      by_cases hHere : view x = part
      · exact ⟨[], a :: rest, s, x, [], rfl, rfl, hRun, rfl, hs, hHere⟩
      · have hLater : view x' <+: view y := by
          refine run_prefix (fun z b z' hStep' => ?_) hRun'
          rcases hView z b z' hStep' with hSame | ⟨e, hMore⟩
          · exact hSame ▸ List.prefix_rfl
          · exact hMore ▸ List.prefix_append _ _
        have hLt : (view x).length < part.length :=
          Nat.lt_of_le_of_ne hFrom.length_le fun hEq => hHere (hFrom.eq_of_length hEq)
        have hLength : (view x').length ≤ part.length := by
          rcases hMatch with rfl | ⟨b, hStep'⟩
          · exact Nat.le_of_lt hLt
          · rcases hView x b x' hStep' with hSame | ⟨e, hMore⟩
            · rw [hSame]
              exact Nat.le_of_lt hLt
            · rw [hMore, List.length_append]
              exact hLt
        obtain ⟨first, second, u, z, labels'', rfl, hFirst, hSecond, hMatched, hu, hPartOf⟩ :=
          hParts part (List.prefix_of_prefix_length_le hLater hPart hLength) hPart
        exact ⟨a :: first, second, u, z, ahead ++ labels'', rfl,
          run_cons_eq_some.2 ⟨s', hNext, hFirst⟩, hSecond,
          run_append_eq_some.2 ⟨x', hAhead, hMatched⟩, hu, hPartOf⟩

theorem Simulation.reached (h : Simulation step step' cond R) {s t : σ} {x : τ} {labels : List α}
    (hAlong : Along step cond s labels) (hRun : Transition.run step s labels = some t)
    (hs : R s x) : ∃ y labels', Transition.run step' x labels' = some y ∧ R t y := by
  have hNothing : ∀ x b x', step' x b = some x' →
      (fun _ : τ => ([] : List Unit)) x' = [] ∨ ∃ e, (fun _ : τ => ([] : List Unit)) x' = [] ++ [e] :=
    fun _ _ _ _ => Or.inl rfl
  obtain ⟨y, labels', hRun', hy, -⟩ := h.run hNothing hAlong hRun hs
  exact ⟨y, labels', hRun', hy⟩

end

end Transition
