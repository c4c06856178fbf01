import Mathlib.Logic.Function.Basic
import StompGames.Lib.Transition

/-! Threads over a shared state. Each thread has a place in its own program, and a
step is one atomic statement of one thread. An invariant is given as an outline:
what holds of the shared state, and what holds of it where a thread stands. -/
namespace Threads

variable {Pid Choice Shared Local Aux : Type}

/-- What the threads share, and where each of them stands. -/
structure State (Pid Shared Local : Type) where
  shared : Shared
  place : Pid → Local

section
variable [DecidableEq Pid] (act : Pid → Choice → Shared → Local → Option (Shared × Local))

/-- A label names a thread, and what the thread chooses where it has a choice. `act`
answers `none` where the thread cannot go on. -/
def step (s : State Pid Shared Local) (label : Pid × Choice) : Option (State Pid Shared Local) :=
  (act label.1 label.2 s.shared (s.place label.1)).map fun after =>
    ⟨after.1, Function.update s.place label.1 after.2⟩

variable {act}

theorem step_eq_some {s t : State Pid Shared Local} {p : Pid} {choice : Choice} :
    step act s (p, choice) = some t ↔ ∃ shared place,
      act p choice s.shared (s.place p) = some (shared, place) ∧
        t = ⟨shared, Function.update s.place p place⟩ := by
  simp [step, eq_comm]

/-- A thread that takes no step stays where it is. -/
theorem place_of_run {s t : State Pid Shared Local} {labels : List (Pid × Choice)} {p : Pid}
    (hRun : Transition.run (step act) s labels = some t) (h : ∀ label ∈ labels, label.1 ≠ p) :
    t.place p = s.place p := by
  induction labels generalizing s with
  | nil =>
      cases hRun
      rfl
  | cons label rest ih =>
      obtain ⟨hFirst, hRest⟩ := List.forall_mem_cons.1 h
      obtain ⟨next, hStep, hRun⟩ := Transition.run_cons_eq_some.1 hRun
      obtain ⟨shared, place, -, rfl⟩ := step_eq_some.1 hStep
      rw [ih hRun hRest]
      exact Function.update_of_ne (Ne.symm hFirst) _ _

end

/-- `aux` are values that only the proof speaks of. -/
structure Outline (Aux Pid Shared Local : Type) where
  global : Aux → Shared → Prop
  own : Aux → Pid → Shared → Local → Prop

namespace Outline
variable (o : Outline Aux Pid Shared Local)

/-- The outline holds with this auxiliary value: the global part, and the part of each thread. -/
def HoldsAt (aux : Aux) (s : State Pid Shared Local) : Prop :=
  o.global aux s.shared ∧ ∀ p, o.own aux p s.shared (s.place p)

/-- The outline holds with some auxiliary value. -/
def Holds (s : State Pid Shared Local) : Prop := ∃ aux, o.HoldsAt aux s

variable {o} [DecidableEq Pid]
  {act : Pid → Choice → Shared → Local → Option (Shared × Local)}

/-- A step of one thread: what is claimed of that thread after it, and what was
claimed of the others before it. -/
theorem HoldsAt.next {s : State Pid Shared Local} {shared : Shared} {p : Pid} {place : Local}
    {aux : Aux} (hGlobal : o.global aux shared) (hOwn : o.own aux p shared place)
    (hOthers : ∀ q, q ≠ p → o.own aux q shared (s.place q)) :
    o.HoldsAt aux ⟨shared, Function.update s.place p place⟩ := by
  refine ⟨hGlobal, fun q => ?_⟩
  dsimp only
  by_cases hq : q = p
  · subst hq
    rwa [Function.update_self]
  · rw [Function.update_of_ne hq]
    exact hOthers q hq

/-- The rule for programs whose threads give each other guarantees: each step of a
thread is allowed to it, and what is allowed to one thread disturbs no other. -/
theorem holds_of_reachable {initial : State Pid Shared Local → Prop}
    (allowed : Pid → Aux → Shared → Aux → Shared → Prop) (hInit : ∀ s, initial s → o.Holds s)
    (hOwn : ∀ aux p choice shared place shared' place', o.global aux shared →
      o.own aux p shared place → act p choice shared place = some (shared', place') →
      ∃ aux', o.global aux' shared' ∧ o.own aux' p shared' place' ∧
        allowed p aux shared aux' shared')
    (hOther : ∀ aux p q shared place aux' shared', q ≠ p → o.global aux shared →
      o.own aux q shared place → allowed p aux shared aux' shared' → o.own aux' q shared' place)
    {s : State Pid Shared Local} (h : Transition.Reachable initial (step act) s) : o.Holds s := by
  apply h.invariant hInit
  rintro s ⟨p, choice⟩ t ⟨aux, hGlobal, hOwns⟩ hStep
  obtain ⟨shared, place, hAct, rfl⟩ := step_eq_some.1 hStep
  obtain ⟨aux', hGlobal', hOwn', hAllowed⟩ := hOwn aux p choice _ _ _ _ hGlobal (hOwns p) hAct
  refine ⟨aux', HoldsAt.next hGlobal' hOwn' fun q hq => ?_⟩
  exact hOther aux p q _ _ aux' shared hq hGlobal (hOwns q) hAllowed

end Outline

/-- What a thread does to a lock: nothing, or it takes a free one, or it releases one
that it holds. -/
def Handles (p : Pid) (lock lock' : Option Pid) : Prop :=
  lock' = lock ∨ (lock = none ∧ lock' = some p) ∨ (lock = some p ∧ lock' = none)

/-- Other threads keep what they hold and get nothing. -/
theorem Handles.other {p q : Pid} {lock lock' : Option Pid} (h : Handles p lock lock')
    (hq : q ≠ p) : lock' = some q ↔ lock = some q := by
  rcases h with rfl | ⟨rfl, rfl⟩ | ⟨rfl, rfl⟩ <;> simp [Ne.symm hq]

end Threads
