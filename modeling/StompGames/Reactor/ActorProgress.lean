import StompGames.Reactor.ActorSerialization

/-! What the baton gives: the tasks of an actor one after the other in the order of
`submit`, each once, and no task left behind by one that ended with an exception. -/
namespace StompGames.ActorThreadPool

variable {Act Runnable : Type}

/-- The steps that a thread still has to take with what it has accepted. -/
def Stage.left : Stage → Nat
  | .accepted => 0
  | .running => 2
  | .completing => 1

/-- The steps that are left to the executor. Each task not yet started needs three. -/
def State.left (s : State Act Runnable) : Nat :=
  3 * (s.submitted.length - s.started.length) + (s.threads.map fun job => job.stage.left).sum

section
variable [DecidableEq Act] {s t : State Act Runnable} {size : ℕ+}

theorem State.Sound.started_prefix (h : s.Sound) (act : Act) :
    ofActor act s.started <+: ofActor act s.submitted := by
  rw [h.queue act]
  exact List.prefix_append _ _

theorem State.Sound.submitted_nodup (h : s.Sound) : (s.submitted.map Task.number).Nodup := by
  rw [h.numbered]
  exact List.nodup_range

theorem State.Sound.started_subperm (h : s.Sound) : List.Subperm s.started s.submitted := by
  classical
  apply List.subperm_ext_iff.2
  intro task _
  have hPrefix := (h.started_prefix task.act).sublist.count_le task
  rwa [ofActor, ofActor, List.count_filter (by simp), List.count_filter (by simp)] at hPrefix

/-- The same number is not started twice. -/
theorem State.Sound.started_nodup (h : s.Sound) : (s.started.map Task.number).Nodup := by
  obtain ⟨same, hPerm, hSublist⟩ := h.started_subperm
  have hNodup : (same.map Task.number).Nodup := h.submitted_nodup.sublist (hSublist.map _)
  exact (hPerm.map Task.number).nodup_iff.1 hNodup

theorem State.Sound.running_le (h : s.Sound) (act : Act) :
    (ofActor act (running s.threads)).length ≤ 1 := by
  have hNodup := h.single.sublist (running_sublist s.threads)
  have hOf : ((ofActor act (running s.threads)).map Task.act).Nodup :=
    hNodup.sublist (List.filter_sublist.map _)
  have hSame : (ofActor act (running s.threads)).map Task.act =
      List.replicate (ofActor act (running s.threads)).length act := by
    apply List.map_eq_replicate_iff.2
    intro task hTask
    simpa using (List.mem_filter.1 hTask).2
  rw [hSame, List.nodup_replicate] at hOf
  exact hOf

theorem complete_handsOver {act : Act} {next : Task Act Runnable} {rest : List (Task Act Runnable)}
    (h : s.pending act = next :: rest) :
    ⟨next, .accepted⟩ ∈ (complete act s).threads ∧ (complete act s).pending act = rest := by
  rw [complete_of_cons h]
  constructor
  · simp
  · simp

/-- However a runnable ends, its thread goes on to `complete`, and hands over the task
that waits behind it. -/
theorem ends_then_complete {i : Nat} {throws : Bool} {task : Task Act Runnable}
    (hTask : s.threads[i]? = some ⟨task, .running⟩)
    (hStep : step size s (.ends i throws) = some t) :
    ∃ u, step size t (.complete i) = some u ∧ ∀ next rest,
      s.pending task.act = next :: rest →
        ⟨next, .accepted⟩ ∈ u.threads ∧ u.pending task.act = rest := by
  simp only [step, hTask, Option.some.injEq] at hStep
  subst hStep
  have hLt := (List.getElem?_eq_some_iff.1 hTask).1
  simp only [step, List.getElem?_set_self hLt, Option.some.injEq, exists_eq_left']
  intro next rest hPending
  exact complete_handsOver hPending

theorem executor_step (h : s.Sound) {label : Label Act Runnable} (hOf : label.ofExecutor = true)
    (hStep : step size s label = some t) : t.left + 1 = s.left ∧ t.submitted = s.submitted := by
  have hStarted := (step_sound h hStep).started_subperm.length_le
  cases label with
  | submit act r => cases hOf
  | start i =>
      obtain ⟨before, task, after, -, hThreads, rfl⟩ := step_start hStep
      constructor
      · simp [State.left, Stage.left, hThreads] at hStarted ⊢
        omega
      · rfl
  | ends i throws =>
      obtain ⟨before, task, after, hThreads, rfl⟩ := step_ends hStep
      constructor
      · simp [State.left, Stage.left, hThreads]
        omega
      · rfl
  | complete i =>
      obtain ⟨before, task, after, hThreads, rfl⟩ := step_complete hStep
      cases hPending : s.pending task.act with
      | nil =>
          rw [complete_of_empty (s := { s with threads := before ++ after }) hPending]
          constructor
          · simp [State.left, Stage.left, hThreads]
            omega
          · rfl
      | cons next rest =>
          rw [complete_of_cons (s := { s with threads := before ++ after }) hPending]
          constructor
          · simp [State.left, Stage.left, hThreads]
            omega
          · rfl
  | collect act => cases hOf

/-- As long as no more is submitted, every step of the executor brings it closer to the
end, whichever it takes first and whatever is thrown. -/
theorem executor_run (h : s.Sound) {labels : List (Label Act Runnable)}
    (hOf : ∀ label ∈ labels, label.ofExecutor = true)
    (hRun : Transition.run (step size) s labels = some t) :
    t.Sound ∧ t.left + labels.length = s.left ∧ t.submitted = s.submitted := by
  induction labels generalizing s with
  | nil =>
      cases hRun
      exact ⟨h, rfl, rfl⟩
  | cons label rest ih =>
      obtain ⟨hLabel, hRest⟩ := List.forall_mem_cons.1 hOf
      obtain ⟨next, hStep, hRun⟩ := Transition.run_cons_eq_some.1 hRun
      obtain ⟨hLeft, hSubmitted⟩ := executor_step h hLabel hStep
      obtain ⟨hSound, hLeftRest, hSubmittedRest⟩ := ih (step_sound h hStep) hRest hRun
      refine ⟨hSound, ?_, hSubmittedRest.trans hSubmitted⟩
      rw [List.length_cons]
      omega

/-- A thread of the executor can go on while anything is with it. -/
theorem threads_eq_nil_of_stuck
    (hStuck : ∀ label : Label Act Runnable, label.ofExecutor = true → step size s label = none) :
    s.threads = [] := by
  by_contra hSome
  have hAccepted : ∀ job ∈ s.threads, job.stage = .accepted := by
    intro job hMem
    obtain ⟨i, hLt, rfl⟩ := List.getElem_of_mem hMem
    have hEnds := hStuck (.ends i false) rfl
    have hComplete := hStuck (.complete i) rfl
    simp only [step, List.getElem?_eq_getElem hLt] at hEnds hComplete
    generalize s.threads[i] = job at hEnds hComplete
    obtain ⟨task, stage⟩ := job
    cases stage with
    | accepted => rfl
    | running => cases hEnds
    | completing => cases hComplete
  obtain ⟨⟨task, stage⟩, rest, hThreads⟩ := List.exists_cons_of_ne_nil hSome
  have hFirst : stage = .accepted := hAccepted ⟨task, stage⟩ (by simp [hThreads])
  have hBusy : s.busy = 0 := by
    apply List.countP_eq_zero.2
    intro job hMem
    simpa using hAccepted job hMem
  have hStart := hStuck (.start 0) rfl
  subst hFirst
  simp [step, hThreads, hBusy, size.pos] at hStart

theorem State.Sound.finished (h : s.Sound) (hNone : s.threads = []) (act : Act) :
    ofActor act s.started = ofActor act s.submitted := by
  have hIdle := h.idle act (by simp [hNone])
  simp [h.queue act, hNone, hIdle]

/-- The tasks of every actor run one at a time. -/
structure Serialised (size : ℕ+) (s : State Act Runnable) : Prop where
  /-- No two tasks of an actor run at the same time. -/
  exclusive : ∀ act, (ofActor act (running s.threads)).length ≤ 1
  /-- The tasks of an actor start in the order of their submission. -/
  inOrder : ∀ act, ofActor act s.started <+: ofActor act s.submitted
  /-- Only what was submitted is started, and each call of `submit`, with its number, once. -/
  numbered : s.submitted.map Task.number = List.range s.submitted.length
  submitted : s.started ⊆ s.submitted
  once : (s.started.map Task.number).Nodup
  /-- However a task ends, the next one of its actor is handed over. -/
  handsOver : ∀ i task throws t, s.threads[i]? = some ⟨task, .running⟩ →
    step size s (.ends i throws) = some t →
      ∃ u, step size t (.complete i) = some u ∧ ∀ next rest,
        s.pending task.act = next :: rest →
          ⟨next, .accepted⟩ ∈ u.threads ∧ u.pending task.act = rest
  /-- The threads of the executor come to an end, with exceptions or without, and by then
  they have started everything. -/
  finishes : ∀ labels t, (∀ label ∈ labels, label.ofExecutor = true) →
    Transition.run (step size) s labels = some t →
      labels.length ≤ s.left ∧ ((∀ label, label.ofExecutor = true → step size t label = none) →
        ∀ act, ofActor act t.started = ofActor act s.submitted)
  /-- An actor that has nothing with the executor has nothing waiting. -/
  idle : ∀ act, act ∉ actors s.threads → s.pending act = [] ∧ s.playingNow act = false

/-- The tasks of one actor run one at a time and in the order in which they were submitted, and
none is forgotten, whichever of them throw and whatever the other actors do. -/
theorem actor_tasks_serialised (h : Transition.Reachable Started (step size) s) :
    Serialised size s := by
  have hSound := sound_of_reachable h
  constructor
  · exact hSound.running_le
  · exact hSound.started_prefix
  · exact hSound.numbered
  · exact hSound.started_subperm.subset
  · exact hSound.started_nodup
  · intro i task throws t hTask hStep
    exact ends_then_complete hTask hStep
  · intro labels t hOf hRun
    obtain ⟨hEnd, hLeft, hSubmitted⟩ := executor_run hSound hOf hRun
    constructor
    · omega
    · intro hStuck act
      rw [hEnd.finished (threads_eq_nil_of_stuck hStuck) act, hSubmitted]
  · intro act hFree
    constructor
    · exact hSound.idle act hFree
    · rw [Bool.eq_false_iff]
      exact fun hPlaying => hFree ((hSound.playing act).1 hPlaying)

/-- Two calls for one actor and one for another; the first runnable has thrown. -/
def thrownLabels : List (Label Bool Nat) :=
  [.submit false 0, .submit false 1, .submit true 2, .start 0, .ends 0 true]

/-- A pool that nothing was submitted to. -/
def fresh : State Bool Nat := ⟨fun _ => none, fun _ => false, [], [], []⟩

/-- The pool after a task has thrown. -/
def thrown : State Bool Nat := (Transition.run (step 2) fresh thrownLabels).getD fresh

/-- The first task of an actor throws while others wait. -/
theorem actor_tasks_serialised_thrown :
    (thrown.pending false).map Task.r = [1] ∧ Serialised 2 thrown := by
  refine ⟨rfl, actor_tasks_serialised ⟨fresh, thrownLabels, ?_, rfl⟩⟩
  exact ⟨fun _ => rfl, fun _ => rfl, rfl, rfl, rfl⟩

end

end StompGames.ActorThreadPool
