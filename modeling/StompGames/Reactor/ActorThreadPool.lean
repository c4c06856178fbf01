import StompGames.Lib.Transition
import Mathlib.Data.List.Nodup
import Mathlib.Data.PNat.Basic
import Mathlib.Logic.Function.Basic

/-! The pool of `ActorThreadPool`. The synchronized bodies of `submit` and `complete`
are single steps; the threads of the executor take up what it has accepted in any order. -/
namespace StompGames.ActorThreadPool

/-- A call of `submit`, with its place among all calls. -/
structure Task (Act Runnable : Type) where
  act : Act
  r : Runnable
  number : Nat
  deriving DecidableEq

/-- How far a thread is with what `execute` has handed over: `r.run()` and, however that
ends, `complete(act)`. The task is with the executor until `complete` has returned. -/
inductive Stage where
  | accepted
  | running
  /-- `r.run()` has returned or thrown, and `complete` has not been entered yet. -/
  | completing
  deriving DecidableEq

/-- What the executor has of a task: the runnable that `execute` wraps it in, and how far it is.
-/
structure Job (Act Runnable : Type) where
  task : Task Act Runnable
  stage : Stage

/-- The state of an `ActorThreadPool`. `submitted` and `started` only record what has been asked
of it and what it has begun with. -/
structure State (Act Runnable : Type) where
  acts : Act → Option (List (Task Act Runnable))
  playingNow : Act → Bool
  /-- What is with the executor. -/
  threads : List (Job Act Runnable)
  submitted : List (Task Act Runnable)
  started : List (Task Act Runnable)

/-- A step of the pool: a call of `submit`, or one of a thread. A runnable may throw, and the
call of `complete` behind it is then made all the same. -/
inductive Label (Act Runnable : Type) where
  | submit (act : Act) (r : Runnable)
  | start (i : Nat)
  | ends (i : Nat) (throws : Bool)
  | complete (i : Nat)
  /-- A `WeakHashMap` may lose the entry of a key that nothing else refers to. -/
  | collect (act : Act)

/-- The labels that stand for what the threads of the executor do. -/
def Label.ofExecutor {Act Runnable : Type} : Label Act Runnable → Bool
  | .start _ | .ends _ _ | .complete _ => true
  | .submit _ _ | .collect _ => false

variable {Act Runnable : Type}

namespace State

/-- The runnables that wait for the actor. -/
def pending (s : State Act Runnable) (act : Act) : List (Task Act Runnable) :=
  (s.acts act).getD []

/-- The jobs that occupy a thread of the executor. -/
def busy (s : State Act Runnable) : Nat := s.threads.countP fun job => job.stage ≠ .accepted

/-- The executor has a task of this actor, and so a reference to it. -/
def holds [DecidableEq Act] (s : State Act Runnable) (act : Act) : Bool :=
  s.threads.any fun job => job.task.act = act

end State

/-- After the constructor. -/
def Started (s : State Act Runnable) : Prop :=
  (∀ act, s.acts act = none) ∧ (∀ act, s.playingNow act = false) ∧
    s.threads = [] ∧ s.submitted = [] ∧ s.started = []

section
variable [DecidableEq Act]

/-- `pendingRunnablesOf(act)`, which makes an empty queue where there is none. -/
def pendingRunnablesOf (act : Act) (s : State Act Runnable) :
    List (Task Act Runnable) × State Act Runnable :=
  match s.acts act with
  | some pendingRunnables => (pendingRunnables, s)
  | none => ([], { s with acts := Function.update s.acts act (some []) })

/-- `execute(r, act)`: the task goes to the executor. -/
def execute (task : Task Act Runnable) (s : State Act Runnable) : State Act Runnable :=
  { s with threads := s.threads ++ [⟨task, .accepted⟩] }

/-- `submit(act, r)`: behind the others while the actor is playing, and else to the executor. -/
def submit (act : Act) (r : Runnable) (s : State Act Runnable) : State Act Runnable :=
  let task := ⟨act, r, s.submitted.length⟩
  let s := { s with submitted := s.submitted ++ [task] }
  if s.playingNow act then
    let (pendingRunnables, s) := pendingRunnablesOf act s
    { s with acts := Function.update s.acts act (some (pendingRunnables ++ [task])) }
  else
    execute task { s with playingNow := Function.update s.playingNow act true }

/-- `complete(act)`: the next task of the actor goes to the executor, or the actor stops playing.
-/
def complete (act : Act) (s : State Act Runnable) : State Act Runnable :=
  match pendingRunnablesOf act s with
  | ([], s) => { s with playingNow := Function.update s.playingNow act false }
  | (task :: pending, s) =>
      execute task { s with acts := Function.update s.acts act (some pending) }

/-- `size` is the argument of `newFixedThreadPool`, which has to be positive. -/
def step (size : ℕ+) (s : State Act Runnable) : Label Act Runnable → Option (State Act Runnable)
  | .submit act r => some (submit act r s)
  | .start i => match s.threads[i]? with
      | some ⟨task, .accepted⟩ =>
          if s.busy < size then
            some { s with
              threads := s.threads.set i ⟨task, .running⟩
              started := s.started ++ [task] }
          else none
      | _ => none
  -- The `finally` of `execute`: the exception makes no difference to what follows.
  | .ends i _ => match s.threads[i]? with
      | some ⟨task, .running⟩ => some { s with threads := s.threads.set i ⟨task, .completing⟩ }
      | _ => none
  | .complete i => match s.threads[i]? with
      | some ⟨task, .completing⟩ =>
          some (complete task.act { s with threads := s.threads.eraseIdx i })
      | _ => none
  -- What `execute` hands over refers to the actor, and keeps its entry alive.
  | .collect act =>
      if s.holds act then none else some { s with acts := Function.update s.acts act none }

variable {s t : State Act Runnable} {act : Act}

theorem submit_of_playing (r : Runnable) (h : s.playingNow act = true) :
    submit act r s = { s with
      acts := Function.update s.acts act
        (some (s.pending act ++ [⟨act, r, s.submitted.length⟩]))
      submitted := s.submitted ++ [⟨act, r, s.submitted.length⟩] } := by
  cases hActs : s.acts act <;> simp [submit, h, pendingRunnablesOf, State.pending, hActs]

theorem submit_of_idle (r : Runnable) (h : s.playingNow act = false) :
    submit act r s = { s with
      playingNow := Function.update s.playingNow act true
      threads := s.threads ++ [⟨⟨act, r, s.submitted.length⟩, .accepted⟩]
      submitted := s.submitted ++ [⟨act, r, s.submitted.length⟩] } := by
  simp [submit, h, execute]

theorem complete_of_empty (h : s.pending act = []) :
    complete act s = { s with
      acts := Function.update s.acts act (some [])
      playingNow := Function.update s.playingNow act false } := by
  cases hActs : s.acts act with
  | none => simp [complete, pendingRunnablesOf, hActs]
  | some pending =>
      have hNil : pending = [] := by simpa [State.pending, hActs] using h
      subst hNil
      have hSame : Function.update s.acts act (some []) = s.acts := by
        rw [← hActs, Function.update_eq_self]
      simp [complete, pendingRunnablesOf, hActs, hSame]

theorem complete_of_cons {task : Task Act Runnable} {rest : List (Task Act Runnable)}
    (h : s.pending act = task :: rest) :
    complete act s = { s with
      acts := Function.update s.acts act (some rest)
      threads := s.threads ++ [⟨task, .accepted⟩] } := by
  cases hActs : s.acts act with
  | none => simp [State.pending, hActs] at h
  | some pending =>
      have hCons : pending = task :: rest := by simpa [State.pending, hActs] using h
      subst hCons
      simp [complete, pendingRunnablesOf, hActs, execute]

end

section
variable {s : State Act Runnable} {i : Nat} {job : Job Act Runnable}

theorem threads_split (h : s.threads[i]? = some job) : ∃ before after,
    s.threads = before ++ job :: after ∧ s.threads.eraseIdx i = before ++ after ∧
      ∀ other, s.threads.set i other = before ++ other :: after := by
  obtain ⟨hLt, rfl⟩ := List.getElem?_eq_some_iff.1 h
  refine ⟨s.threads.take i, s.threads.drop (i + 1), ?_, ?_, ?_⟩
  · rw [List.getElem_cons_drop, List.take_append_drop]
  · exact List.eraseIdx_eq_take_drop_succ _ _
  · intro other
    rw [List.set_eq_take_append_cons_drop, if_pos hLt]
end

section
variable [DecidableEq Act] {s t : State Act Runnable} {size : ℕ+} {i : Nat}

theorem step_start (h : step size s (.start i) = some t) : ∃ before task after,
    s.threads[i]? = some ⟨task, .accepted⟩ ∧ s.threads = before ++ ⟨task, .accepted⟩ :: after ∧
      t = { s with
        threads := before ++ ⟨task, .running⟩ :: after
        started := s.started ++ [task] } := by
  simp only [step] at h
  split at h
  · rename_i task hJob
    obtain ⟨before, after, hThreads, -, hSet⟩ := threads_split hJob
    split at h
    · cases h
      exact ⟨before, task, after, hJob, hThreads, by rw [hSet]⟩
    · cases h
  · cases h

theorem step_ends {throws : Bool} (h : step size s (.ends i throws) = some t) :
    ∃ before task after, s.threads = before ++ ⟨task, .running⟩ :: after ∧
      t = { s with threads := before ++ ⟨task, .completing⟩ :: after } := by
  simp only [step] at h
  split at h
  · rename_i task hJob
    obtain ⟨before, after, hThreads, -, hSet⟩ := threads_split hJob
    cases h
    exact ⟨before, task, after, hThreads, by rw [hSet]⟩
  · cases h

theorem step_complete (h : step size s (.complete i) = some t) :
    ∃ before task after, s.threads = before ++ ⟨task, .completing⟩ :: after ∧
      t = complete task.act { s with threads := before ++ after } := by
  simp only [step] at h
  split at h
  · rename_i task hJob
    obtain ⟨before, after, hThreads, hErase, -⟩ := threads_split hJob
    cases h
    exact ⟨before, task, after, hThreads, by rw [hErase]⟩
  · cases h

theorem step_collect {act : Act} (h : step size s (.collect act) = some t) :
    (∀ job ∈ s.threads, job.task.act ≠ act) ∧
      t = { s with acts := Function.update s.acts act none } := by
  rw [step] at h
  split at h
  · cases h
  · rename_i hNone
    cases h
    exact ⟨by simpa [State.holds] using hNone, rfl⟩
end

end StompGames.ActorThreadPool
