import StompGames.Reactor.ActorProgress

/-! The tasks of an actor as one queue: the one that is running, and behind it the one that the
executor has accepted and those that wait for it. -/
namespace StompGames.ActorThreadPool

variable {Act Runnable : Type}

section
variable {before after : List (Job Act Runnable)} {task : Task Act Runnable}

@[simp] theorem running_append : running (before ++ after) = running before ++ running after := by
  simp [running]

@[simp] theorem running_cons_accepted : running (⟨task, .accepted⟩ :: after) = running after := rfl

@[simp] theorem running_cons_running :
    running (⟨task, .running⟩ :: after) = task :: running after := rfl

@[simp] theorem running_cons_completing : running (⟨task, .completing⟩ :: after) = running after :=
  rfl

@[simp] theorem running_nil : running ([] : List (Job Act Runnable)) = [] := rfl

variable [DecidableEq Act] {act : Act}

theorem ofActor_running {jobs : List (Job Act Runnable)} (h : act ∉ actors jobs) :
    ofActor act (running jobs) = [] := by
  apply List.filter_eq_nil_iff.2
  intro task hMem
  have hAct : task.act ∈ actors jobs := (running_sublist jobs).subset (List.mem_map_of_mem hMem)
  have hNe : task.act ≠ act := fun hEq => h (hEq ▸ hAct)
  simpa using hNe

end

namespace State
variable [DecidableEq Act]

/-- The task of the actor that a thread is running. -/
def current (s : State Act Runnable) (act : Act) : List (Task Act Runnable) :=
  ofActor act (running s.threads)

/-- The tasks of the actor that have not been started. -/
def waiting (s : State Act Runnable) (act : Act) : List (Task Act Runnable) :=
  ofActor act (accepted s.threads) ++ s.pending act

/-- The tasks of the actor that have not ended. -/
def mailbox (s : State Act Runnable) (act : Act) : List (Task Act Runnable) :=
  s.current act ++ s.waiting act

variable {s : State Act Runnable} {act : Act} {before after : List (Job Act Runnable)}
  {task : Task Act Runnable}

theorem mailbox_congr {t : State Act Runnable} (hCurrent : t.current = s.current)
    (hWaiting : t.waiting = s.waiting) : t.mailbox = s.mailbox := by
  funext act
  rw [mailbox, mailbox, hCurrent, hWaiting]

/-- When the executor has nothing, nothing waits either. -/
theorem Sound.mailbox_of_threads (h : s.Sound) (hNone : s.threads = []) (act : Act) :
    s.mailbox act = [] := by
  have hIdle := h.idle act (by simp [hNone])
  simp [mailbox, current, waiting, hNone, hIdle]

theorem current_submit (act : Act) (r : Runnable) (s : State Act Runnable) :
    (submit act r s).current = s.current := by
  funext other
  cases hPlaying : s.playingNow act with
  | true => rw [submit_of_playing r hPlaying, current, current]
  | false => simp [submit_of_idle r hPlaying, current]

theorem Sound.waiting_submit (h : s.Sound) (act : Act) (r : Runnable) :
    (submit act r s).waiting =
      Function.update s.waiting act (s.waiting act ++ [⟨act, r, s.submitted.length⟩]) := by
  funext other
  cases hPlaying : s.playingNow act with
  | true =>
      rw [submit_of_playing r hPlaying]
      by_cases hEq : other = act
      · subst hEq
        simp [waiting]
      · simp [waiting, Function.update_of_ne hEq]
  | false =>
      have hFree : act ∉ actors s.threads := by
        intro hMem
        rw [(h.playing act).2 hMem] at hPlaying
        cases hPlaying
      rw [submit_of_idle r hPlaying]
      by_cases hEq : act = other
      · subst hEq
        have hIdle : (s.acts act).getD [] = [] := h.idle act hFree
        simp [waiting, ofActor_accepted hFree, pending, hIdle]
      · rw [Function.update_of_ne (Ne.symm hEq)]
        simp [waiting, hEq, pending]

theorem Sound.mailbox_submit (h : s.Sound) (act : Act) (r : Runnable) :
    (submit act r s).mailbox =
      Function.update s.mailbox act (s.mailbox act ++ [⟨act, r, s.submitted.length⟩]) := by
  funext other
  rw [mailbox, current_submit, h.waiting_submit]
  by_cases hEq : other = act
  · subst hEq
    rw [Function.update_self, Function.update_self, mailbox, List.append_assoc]
  · rw [Function.update_of_ne hEq, Function.update_of_ne hEq, mailbox]

section
variable (h : s.Sound) (hThreads : s.threads = before ++ ⟨task, .accepted⟩ :: after)
include h hThreads

theorem Sound.waiting_accepted :
    s.current task.act = [] ∧ s.waiting task.act = task :: s.pending task.act := by
  obtain ⟨hBefore, hAfter⟩ := h.others hThreads
  constructor
  · simp [current, hThreads, ofActor_running hBefore, ofActor_running hAfter]
  · simp [waiting, hThreads, ofActor_accepted hBefore, ofActor_accepted hAfter]

theorem Sound.current_start (started : List (Task Act Runnable)) :
    State.current { s with threads := before ++ ⟨task, .running⟩ :: after, started := started } =
      Function.update s.current task.act [task] := by
  obtain ⟨hBefore, hAfter⟩ := h.others hThreads
  funext other
  by_cases hEq : task.act = other
  · subst hEq
    simp [current, ofActor_running hBefore, ofActor_running hAfter]
  · rw [Function.update_of_ne (Ne.symm hEq)]
    simp [current, hThreads, hEq]

theorem Sound.waiting_start (started : List (Task Act Runnable)) :
    State.waiting { s with threads := before ++ ⟨task, .running⟩ :: after, started := started } =
      Function.update s.waiting task.act (s.pending task.act) := by
  obtain ⟨hBefore, hAfter⟩ := h.others hThreads
  funext other
  by_cases hEq : task.act = other
  · subst hEq
    simp [waiting, ofActor_accepted hBefore, ofActor_accepted hAfter, pending]
  · rw [Function.update_of_ne (Ne.symm hEq)]
    simp [waiting, hThreads, hEq, pending]

theorem Sound.mailbox_start (started : List (Task Act Runnable)) :
    State.mailbox { s with threads := before ++ ⟨task, .running⟩ :: after, started := started } =
      s.mailbox := by
  obtain ⟨hNone, hFirst⟩ := h.waiting_accepted hThreads
  funext other
  rw [mailbox, mailbox, h.current_start hThreads, h.waiting_start hThreads]
  by_cases hEq : other = task.act
  · subst hEq
    rw [Function.update_self, Function.update_self, hNone, hFirst]
    rfl
  · rw [Function.update_of_ne hEq, Function.update_of_ne hEq]

end

section
variable (h : s.Sound) (hThreads : s.threads = before ++ ⟨task, .running⟩ :: after)
include h hThreads

theorem Sound.current_running :
    s.current task.act = [task] ∧ s.waiting task.act = s.pending task.act := by
  obtain ⟨hBefore, hAfter⟩ := h.others hThreads
  constructor
  · simp [current, hThreads, ofActor_running hBefore, ofActor_running hAfter]
  · simp [waiting, hThreads, ofActor_accepted hBefore, ofActor_accepted hAfter]

/-- The task that is running is the first of its actor. -/
theorem Sound.mailbox_running : s.mailbox task.act = task :: s.pending task.act := by
  obtain ⟨hCurrent, hWaiting⟩ := h.current_running hThreads
  rw [mailbox, hCurrent, hWaiting]
  rfl

theorem Sound.current_ends :
    State.current { s with threads := before ++ ⟨task, .completing⟩ :: after } =
      Function.update s.current task.act [] := by
  obtain ⟨hBefore, hAfter⟩ := h.others hThreads
  funext other
  by_cases hEq : task.act = other
  · subst hEq
    simp [current, ofActor_running hBefore, ofActor_running hAfter]
  · rw [Function.update_of_ne (Ne.symm hEq)]
    simp [current, hThreads, hEq]

omit h in
theorem waiting_ends :
    State.waiting { s with threads := before ++ ⟨task, .completing⟩ :: after } = s.waiting := by
  funext other
  simp [waiting, hThreads, pending]

theorem Sound.mailbox_ends :
    State.mailbox { s with threads := before ++ ⟨task, .completing⟩ :: after } =
      Function.update s.mailbox task.act ((s.mailbox task.act).drop 1) := by
  funext other
  rw [mailbox, h.current_ends hThreads, waiting_ends hThreads]
  by_cases hEq : other = task.act
  · subst hEq
    rw [Function.update_self, Function.update_self, mailbox, (h.current_running hThreads).1]
    rfl
  · rw [Function.update_of_ne hEq, Function.update_of_ne hEq, mailbox]

end

section
variable (hThreads : s.threads = before ++ ⟨task, .completing⟩ :: after)
include hThreads

theorem current_complete :
    (complete task.act { s with threads := before ++ after }).current = s.current := by
  funext other
  cases hPending : s.pending task.act with
  | nil =>
      rw [complete_of_empty (s := { s with threads := before ++ after }) hPending]
      simp [current, hThreads]
  | cons next rest =>
      rw [complete_of_cons (s := { s with threads := before ++ after }) hPending]
      simp [current, hThreads]

theorem Sound.waiting_complete (h : s.Sound) :
    (complete task.act { s with threads := before ++ after }).waiting = s.waiting := by
  obtain ⟨hBefore, hAfter⟩ := h.others hThreads
  funext other
  cases hPending : s.pending task.act with
  | nil =>
      rw [complete_of_empty (s := { s with threads := before ++ after }) hPending]
      by_cases hEq : other = task.act
      · subst hEq
        simp [waiting, hThreads, hPending]
      · simp [waiting, hThreads, Function.update_of_ne hEq]
  | cons next rest =>
      have hNext : next.act = task.act := h.act_of_pending (hPending ▸ List.mem_cons_self)
      rw [complete_of_cons (s := { s with threads := before ++ after }) hPending]
      by_cases hEq : task.act = other
      · subst hEq
        simp [waiting, hThreads, hPending, hNext, ofActor_accepted hBefore,
          ofActor_accepted hAfter]
      · have hNe : next.act ≠ other := fun hSame => hEq (hNext.symm.trans hSame)
        simp [waiting, hThreads, hNe, Function.update_of_ne (Ne.symm hEq)]

end

theorem Sound.waiting_collect (h : s.Sound) (hFree : ∀ job ∈ s.threads, job.task.act ≠ act) :
    State.waiting { s with acts := Function.update s.acts act none } = s.waiting := by
  have hNot : act ∉ actors s.threads := by
    intro hMem
    obtain ⟨job, hJob, hAct⟩ := List.mem_map.1 hMem
    exact hFree job hJob hAct
  funext other
  by_cases hEq : other = act
  · subst hEq
    have hIdle := h.idle other hNot
    simp only [waiting, hIdle]
    simp [pending]
  · simp [waiting, pending, Function.update_of_ne hEq]

end State
end StompGames.ActorThreadPool
