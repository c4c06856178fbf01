import StompGames.Reactor.ActorThreadPool
import Mathlib.Data.List.Perm.Subperm
import Mathlib.Tactic.Ring

/-! The baton of an actor. At most one of its tasks is with the executor; `submit` hands
over the first, and `complete` the next one or none. -/
namespace StompGames.ActorThreadPool

variable {Act Runnable : Type}

/-- The tasks that the executor has accepted and not started. -/
def accepted (jobs : List (Job Act Runnable)) : List (Task Act Runnable) :=
  (jobs.filter fun job => job.stage = .accepted).map Job.task

/-- The tasks that a thread is in the middle of. -/
def running (jobs : List (Job Act Runnable)) : List (Task Act Runnable) :=
  (jobs.filter fun job => job.stage = .running).map Job.task

/-- The actors of the tasks that are with the executor. -/
def actors (jobs : List (Job Act Runnable)) : List Act := jobs.map fun job => job.task.act

/-- The tasks of one actor, in the order in which they stand. -/
def ofActor [DecidableEq Act] (act : Act) (tasks : List (Task Act Runnable)) :
    List (Task Act Runnable) :=
  tasks.filter fun task => task.act = act

section
variable {before after : List (Job Act Runnable)} {task : Task Act Runnable} {stage : Stage}

@[simp] theorem accepted_append :
    accepted (before ++ after) = accepted before ++ accepted after := by
  simp [accepted]

@[simp] theorem accepted_cons_accepted :
    accepted (⟨task, .accepted⟩ :: after) = task :: accepted after := rfl

@[simp] theorem accepted_cons_running :
    accepted (⟨task, .running⟩ :: after) = accepted after := rfl

@[simp] theorem accepted_cons_completing :
    accepted (⟨task, .completing⟩ :: after) = accepted after := rfl

@[simp] theorem accepted_nil : accepted ([] : List (Job Act Runnable)) = [] := rfl

@[simp] theorem actors_append : actors (before ++ after) = actors before ++ actors after := by
  simp [actors]

@[simp] theorem actors_cons : actors (⟨task, stage⟩ :: after) = task.act :: actors after := rfl

@[simp] theorem actors_nil : actors ([] : List (Job Act Runnable)) = [] := rfl

theorem accepted_sublist (jobs : List (Job Act Runnable)) :
    ((accepted jobs).map Task.act).Sublist (actors jobs) := by
  rw [accepted, List.map_map]
  exact List.filter_sublist.map _

theorem running_sublist (jobs : List (Job Act Runnable)) :
    ((running jobs).map Task.act).Sublist (actors jobs) := by
  rw [running, List.map_map]
  exact List.filter_sublist.map _

variable [DecidableEq Act] {act : Act}

@[simp] theorem ofActor_nil : ofActor act ([] : List (Task Act Runnable)) = [] := rfl

@[simp] theorem ofActor_append (first second : List (Task Act Runnable)) :
    ofActor act (first ++ second) = ofActor act first ++ ofActor act second :=
  List.filter_append ..

@[simp] theorem ofActor_cons (tasks : List (Task Act Runnable)) :
    ofActor act (task :: tasks) =
      if task.act = act then task :: ofActor act tasks else ofActor act tasks := by
  by_cases h : task.act = act <;> simp [ofActor, h]

/-- No task of the actor is waiting in the executor if none is with it. -/
theorem ofActor_accepted {jobs : List (Job Act Runnable)} (h : act ∉ actors jobs) :
    ofActor act (accepted jobs) = [] := by
  apply List.filter_eq_nil_iff.2
  intro task hMem
  have hAct : task.act ∈ actors jobs := (accepted_sublist jobs).subset (List.mem_map_of_mem hMem)
  have hNe : task.act ≠ act := fun hEq => h (hEq ▸ hAct)
  simpa using hNe

end

/-- The baton: who holds it, and that no task of an actor is in the wrong place. -/
structure State.Sound [DecidableEq Act] (s : State Act Runnable) : Prop where
  single : (actors s.threads).Nodup
  playing : ∀ act, s.playingNow act = true ↔ act ∈ actors s.threads
  idle : ∀ act, act ∉ actors s.threads → s.pending act = []
  queue : ∀ act, ofActor act s.submitted =
    ofActor act s.started ++ (ofActor act (accepted s.threads) ++ s.pending act)
  numbered : s.submitted.map Task.number = List.range s.submitted.length

section
variable [DecidableEq Act] {s t : State Act Runnable} {size : ℕ+}

theorem Started.sound (h : Started s) : s.Sound := by
  obtain ⟨hActs, hPlaying, hThreads, hSubmitted, hStarted⟩ := h
  have hPending : ∀ act, s.pending act = [] := by
    intro act
    rw [State.pending, hActs]
    rfl
  constructor
  · rw [hThreads]
    exact List.nodup_nil
  · intro act
    simp [hPlaying, hThreads]
  · exact fun act _ => hPending act
  · intro act
    simp [hSubmitted, hStarted, hThreads, hPending]
  · rw [hSubmitted]
    rfl

/-- A waiting task belongs to the actor whose queue it is in. -/
theorem State.Sound.act_of_pending (h : s.Sound) {act : Act} {task : Task Act Runnable}
    (hMem : task ∈ s.pending act) : task.act = act := by
  have hOf : task ∈ ofActor act s.submitted := by
    rw [h.queue act]
    exact List.mem_append_right _ (List.mem_append_right _ hMem)
  simpa using (List.mem_filter.1 hOf).2

@[simp] theorem pending_update (act : Act) (rest : List (Task Act Runnable))
    (playingNow : Act → Bool) (threads : List (Job Act Runnable))
    (submitted started : List (Task Act Runnable)) :
    State.pending
        ⟨Function.update s.acts act (some rest), playingNow, threads, submitted, started⟩ =
      Function.update s.pending act rest := by
  funext other
  by_cases hEq : other = act
  · subst hEq
    simp [State.pending]
  · simp [State.pending, Function.update_of_ne hEq]

/-- Numbers are given in the order of the calls. -/
theorem numbered_submit (h : s.Sound) (act : Act) (r : Runnable) :
    (s.submitted ++ [(⟨act, r, s.submitted.length⟩ : Task Act Runnable)]).map Task.number =
      List.range (s.submitted.length + 1) := by
  rw [List.map_append, h.numbered, List.range_succ]
  rfl

theorem submit_playing_sound (h : s.Sound) {act : Act} (r : Runnable)
    (hPlaying : s.playingNow act = true) : (submit act r s).Sound := by
  have hHeld := (h.playing act).1 hPlaying
  rw [submit_of_playing r hPlaying]
  constructor
  · exact h.single
  · exact h.playing
  · intro other hOther
    have hNe : other ≠ act := fun hEq => hOther (hEq ▸ hHeld)
    rw [pending_update, Function.update_of_ne hNe]
    exact h.idle other hOther
  · intro other
    rw [pending_update, ofActor_append, h.queue other]
    by_cases hEq : act = other
    · subst hEq
      simp
    · simp [hEq, Function.update_of_ne (Ne.symm hEq)]
  · rw [List.length_append]
    exact numbered_submit h act r

/-- The actor was not in `playingNow`, so nothing of it is with the executor or waits. -/
theorem submit_idle_sound (h : s.Sound) {act : Act} (r : Runnable)
    (hPlaying : s.playingNow act = false) : (submit act r s).Sound := by
  have hFree : act ∉ actors s.threads := by
    intro hMem
    rw [(h.playing act).2 hMem] at hPlaying
    cases hPlaying
  rw [submit_of_idle r hPlaying]
  constructor
  · have hDisjoint : List.Disjoint (actors s.threads) [act] := by simpa using hFree
    simpa using h.single.append (List.nodup_singleton act) hDisjoint
  · intro other
    by_cases hEq : other = act
    · simp [hEq]
    · simpa [Function.update_of_ne hEq, hEq] using h.playing other
  · intro other hOther
    have hBefore : other ∉ actors s.threads := by
      intro hMem
      apply hOther
      rw [actors_append]
      exact List.mem_append_left _ hMem
    exact h.idle other hBefore
  · intro other
    change ofActor other (s.submitted ++ [_]) = ofActor other s.started ++
      (ofActor other (accepted (s.threads ++ [_])) ++ s.pending other)
    rw [ofActor_append, h.queue other]
    by_cases hEq : act = other
    · subst hEq
      simp [ofActor_accepted hFree, h.idle act hFree]
    · simp [hEq]
  · rw [List.length_append]
    exact numbered_submit h act r

theorem submit_sound (h : s.Sound) (act : Act) (r : Runnable) : (submit act r s).Sound := by
  cases hPlaying : s.playingNow act with
  | true => exact submit_playing_sound h r hPlaying
  | false => exact submit_idle_sound h r hPlaying

/-- The only task of an actor that is with the executor. -/
theorem State.Sound.others (h : s.Sound) {before after : List (Job Act Runnable)}
    {task : Task Act Runnable} {stage : Stage} (hThreads : s.threads = before ++ ⟨task, stage⟩ :: after) :
    task.act ∉ actors before ∧ task.act ∉ actors after := by
  have hSingle := h.single
  rw [hThreads, actors_append, actors_cons, List.nodup_middle, List.nodup_cons] at hSingle
  simpa using hSingle.1

theorem start_sound (h : s.Sound) {before after : List (Job Act Runnable)}
    {task : Task Act Runnable} (hThreads : s.threads = before ++ ⟨task, .accepted⟩ :: after) :
    State.Sound { s with
      threads := before ++ ⟨task, .running⟩ :: after
      started := s.started ++ [task] } := by
  obtain ⟨hBefore, hAfter⟩ := h.others hThreads
  have hActors : actors (before ++ ⟨task, .running⟩ :: after) = actors s.threads := by
    simp [hThreads]
  constructor
  · rw [hActors]
    exact h.single
  · rw [hActors]
    exact h.playing
  · rw [hActors]
    exact h.idle
  · intro act
    change ofActor act s.submitted = ofActor act (s.started ++ [task]) ++
      (ofActor act (accepted (before ++ ⟨task, .running⟩ :: after)) ++ s.pending act)
    rw [h.queue act, hThreads]
    by_cases hEq : task.act = act
    · subst hEq
      simp [ofActor_accepted hBefore, ofActor_accepted hAfter]
    · simp [hEq]
  · exact h.numbered

theorem ends_sound (h : s.Sound) {before after : List (Job Act Runnable)}
    {task : Task Act Runnable} (hThreads : s.threads = before ++ ⟨task, .running⟩ :: after) :
    State.Sound { s with threads := before ++ ⟨task, .completing⟩ :: after } := by
  have hActors : actors (before ++ ⟨task, .completing⟩ :: after) = actors s.threads := by
    simp [hThreads]
  have hAccepted :
      accepted (before ++ ⟨task, .completing⟩ :: after) = accepted s.threads := by
    simp [hThreads]
  constructor
  · rw [hActors]
    exact h.single
  · rw [hActors]
    exact h.playing
  · rw [hActors]
    exact h.idle
  · rw [hAccepted]
    exact h.queue
  · exact h.numbered

/-- The actor is free again: its last task is done and none waits. -/
theorem complete_empty_sound (h : s.Sound) {before after : List (Job Act Runnable)}
    {task : Task Act Runnable} (hThreads : s.threads = before ++ ⟨task, .completing⟩ :: after)
    (hPending : s.pending task.act = []) :
    State.Sound { s with
      acts := Function.update s.acts task.act (some [])
      playingNow := Function.update s.playingNow task.act false
      threads := before ++ after } := by
  obtain ⟨hBefore, hAfter⟩ := h.others hThreads
  have hActors (act : Act) :
      act ∈ actors s.threads ↔ act = task.act ∨ act ∈ actors (before ++ after) := by
    simp [hThreads]
    tauto
  constructor
  · have hSingle := h.single
    rw [hThreads, actors_append, actors_cons, List.nodup_middle, List.nodup_cons] at hSingle
    rw [actors_append]
    exact hSingle.2
  · intro act
    by_cases hEq : act = task.act
    · subst hEq
      simp [hBefore, hAfter]
    · simpa [Function.update_of_ne hEq, hActors, hEq] using h.playing act
  · intro act hNot
    rw [pending_update]
    by_cases hEq : act = task.act
    · rw [hEq, Function.update_self]
    · rw [Function.update_of_ne hEq]
      exact h.idle act fun hMem => hNot (((hActors act).1 hMem).resolve_left hEq)
  · intro act
    rw [pending_update, h.queue act, hThreads]
    by_cases hEq : act = task.act
    · subst hEq
      simp [hPending]
    · simp [Function.update_of_ne hEq]
  · exact h.numbered

/-- The baton goes on to the first task that waits. -/
theorem complete_cons_sound (h : s.Sound) {before after : List (Job Act Runnable)}
    {task next : Task Act Runnable} {rest : List (Task Act Runnable)}
    (hThreads : s.threads = before ++ ⟨task, .completing⟩ :: after)
    (hPending : s.pending task.act = next :: rest) :
    State.Sound { s with
      acts := Function.update s.acts task.act (some rest)
      threads := before ++ after ++ [⟨next, .accepted⟩] } := by
  obtain ⟨hBefore, hAfter⟩ := h.others hThreads
  have hNext : next.act = task.act := by
    apply h.act_of_pending
    rw [hPending]
    exact List.mem_cons_self
  have hActors : List.Perm (actors s.threads)
      (actors (before ++ after ++ [⟨next, Stage.accepted⟩])) := by
    simp only [hThreads, actors_append, actors_cons, actors_nil, hNext]
    exact List.perm_middle.trans (List.perm_append_singleton _ _).symm
  constructor
  · exact hActors.nodup h.single
  · intro act
    rw [← hActors.mem_iff]
    exact h.playing act
  · intro act hNot
    rw [← hActors.mem_iff] at hNot
    have hNe : act ≠ task.act := by
      rintro rfl
      apply hNot
      simp [hThreads]
    rw [pending_update, Function.update_of_ne hNe]
    exact h.idle act hNot
  · intro act
    rw [pending_update, h.queue act, hThreads]
    by_cases hEq : act = task.act
    · subst hEq
      simp [hPending, hNext, ofActor_accepted hBefore, ofActor_accepted hAfter]
    · have hNe : next.act ≠ act := fun h => hEq (h.symm.trans hNext)
      simp [hNe, Function.update_of_ne hEq]
  · exact h.numbered

theorem complete_sound (h : s.Sound) {before after : List (Job Act Runnable)}
    {task : Task Act Runnable} (hThreads : s.threads = before ++ ⟨task, .completing⟩ :: after) :
    (complete task.act { s with threads := before ++ after }).Sound := by
  cases hPending : s.pending task.act with
  | nil =>
      rw [complete_of_empty (s := { s with threads := before ++ after }) hPending]
      exact complete_empty_sound h hThreads hPending
  | cons next rest =>
      rw [complete_of_cons (s := { s with threads := before ++ after }) hPending]
      exact complete_cons_sound h hThreads hPending

/-- The entry that is lost holds no task. -/
theorem collect_sound (h : s.Sound) {act : Act} (hFree : ∀ job ∈ s.threads, job.task.act ≠ act) :
    State.Sound { s with acts := Function.update s.acts act none } := by
  have hNot : act ∉ actors s.threads := by
    intro hMem
    obtain ⟨job, hJob, hAct⟩ := List.mem_map.1 hMem
    exact hFree job hJob hAct
  have hPending : State.pending { s with acts := Function.update s.acts act none } = s.pending := by
    funext other
    by_cases hEq : other = act
    · rw [hEq, h.idle act hNot]
      simp [State.pending]
    · simp [State.pending, Function.update_of_ne hEq]
  constructor
  · exact h.single
  · exact h.playing
  · rw [hPending]
    exact h.idle
  · rw [hPending]
    exact h.queue
  · exact h.numbered

theorem step_sound (h : s.Sound) {label : Label Act Runnable} (hStep : step size s label = some t) :
    t.Sound := by
  cases label with
  | submit act r =>
      cases hStep
      exact submit_sound h act r
  | start i =>
      obtain ⟨before, task, after, -, hThreads, rfl⟩ := step_start hStep
      exact start_sound h hThreads
  | ends i throws =>
      obtain ⟨before, task, after, hThreads, rfl⟩ := step_ends hStep
      exact ends_sound h hThreads
  | complete i =>
      obtain ⟨before, task, after, hThreads, rfl⟩ := step_complete hStep
      exact complete_sound h hThreads
  | collect act =>
      obtain ⟨hFree, rfl⟩ := step_collect hStep
      exact collect_sound h hFree

theorem sound_of_reachable (h : Transition.Reachable Started (step size) s) : s.Sound :=
  h.invariant (fun _ => Started.sound) fun _ _ _ hSound hStep => step_sound hSound hStep

end

end StompGames.ActorThreadPool
