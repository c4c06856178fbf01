import StompGames.Client.StompProtocol
import StompGames.Lib.KeyOrder

/-! What a game holds of the events that were reported on it, for each user. -/
namespace StompGames

namespace Client

/-- The calls of `addUpdate`, each with its user, in the order in which they came. -/
def Game.addUpdates (sort : List Event → List Event) (calls : List (Text × Event)) (g : Game) :
    Game :=
  calls.foldl (fun g call => g.addUpdate sort call.1 call.2) g

/-- What one user reported. -/
def eventsOf (user : Text) (calls : List (Text × Event)) : List Event :=
  (calls.filter fun call => call.1 = user).map Prod.snd

/-- Whether an event says that the half time is over. -/
def endsHalf (e : Event) : Bool := Game.turnsOff "before halftime".toList e

/-- The events before the first one that ends the half time. -/
def firstHalf (events : List Event) : List Event := events.takeWhile fun e => !endsHalf e

/-- That event and all later ones. -/
def secondHalf (events : List Event) : List Event := events.dropWhile fun e => !endsHalf e

/-- What the getters of `Game` return for a user. -/
structure Observed where
  getUpdatesBefore : List Event
  getUpdatesAfter : List Event
  getIsDone : Bool
  getIsBeforeHalftime : Bool

/-- What a summary of the user's reports reads of a game. -/
def Game.observed (g : Game) (user : Text) : Observed :=
  ⟨g.updateByUserBefore user, g.updateByUserAfter user, g.isDone user, g.halfTimeFalgs user⟩

/-- The game holds exactly these events of a user, each in its half, by time. -/
structure Game.Holds (g : Game) (user : Text) (events : List Event) : Prop where
  before : (g.updateByUserBefore user).Perm (firstHalf events)
  after : (g.updateByUserAfter user).Perm (secondHalf events)
  beforeSorted : KeyOrder.Sorted Event.time (g.updateByUserBefore user)
  afterSorted : KeyOrder.Sorted Event.time (g.updateByUserAfter user)
  isDone : g.isDone user = events.any (Game.turnsOff "active".toList)
  halfTime : g.halfTimeFalgs user = events.any endsHalf

section
variable {sort : List Event → List Event} {g : Game} {user : Text} {events : List Event}

theorem halves_append (events : List Event) : firstHalf events ++ secondHalf events = events :=
  List.takeWhile_append_dropWhile

theorem all_of_none (h : events.any endsHalf = false) : ∀ e ∈ events, (!endsHalf e) = true := by
  intro e hMem
  simpa using List.any_eq_false.1 h e hMem

/-- Before the half time ends everything is in the first half. -/
theorem halves_of_none (h : events.any endsHalf = false) :
    firstHalf events = events ∧ secondHalf events = [] := by
  have hAll := all_of_none h
  exact ⟨List.takeWhile_eq_self_iff.2 hAll, List.dropWhile_eq_nil_iff.2 hAll⟩

theorem firstHalf_concat_of_none (h : events.any endsHalf = false) (e : Event) :
    firstHalf (events ++ [e]) = if endsHalf e then events else events ++ [e] := by
  rw [firstHalf, List.takeWhile_append_of_pos (all_of_none h)]
  cases hEnds : endsHalf e <;> simp [hEnds]

theorem secondHalf_concat_of_none (h : events.any endsHalf = false) (e : Event) :
    secondHalf (events ++ [e]) = if endsHalf e then [e] else [] := by
  rw [secondHalf, List.dropWhile_append_of_pos (all_of_none h)]
  cases hEnds : endsHalf e <;> simp [hEnds]

/-- After it nothing is added to the first half. -/
theorem halves_concat_of_some (h : events.any endsHalf = true) (e : Event) :
    firstHalf (events ++ [e]) = firstHalf events ∧
      secondHalf (events ++ [e]) = secondHalf events ++ [e] := by
  induction events with
  | nil => cases h
  | cons first rest ih =>
      cases hFirst : endsHalf first with
      | true => simp [firstHalf, secondHalf, hFirst]
      | false =>
          have hRest : rest.any endsHalf = true := by simpa [hFirst] using h
          obtain ⟨hBefore, hAfter⟩ := ih hRest
          simp only [firstHalf, secondHalf] at hBefore hAfter ⊢
          simp [hFirst, hBefore, hAfter]

theorem any_concat (p : Event → Bool) (events : List Event) (e : Event) :
    (events ++ [e]).any p = (events.any p || p e) := by
  simp

theorem flag_set (flags : Text → Bool) (user : Text) (b : Bool) :
    (if b then Function.update flags user true else flags) user = (flags user || b) := by
  cases b <;> simp

theorem flag_other (flags : Text → Bool) {user other : Text} (hOther : user ≠ other) (b : Bool) :
    (if b then Function.update flags other true else flags) user = flags user := by
  cases b <;> simp [Function.update_of_ne hOther]

theorem addUpdate_isDone (e : Event) : (g.addUpdate sort user e).isDone user =
    (g.isDone user || Game.turnsOff "active".toList e) := by
  unfold Game.addUpdate
  extract_lets isDone halfTimeFalgs marked before after
  have hDone : isDone user = _ := flag_set _ _ _
  split <;> exact hDone

theorem addUpdate_halfTime (e : Event) : (g.addUpdate sort user e).halfTimeFalgs user =
    (g.halfTimeFalgs user || endsHalf e) := by
  unfold Game.addUpdate
  extract_lets isDone halfTimeFalgs marked before after
  have hFlag : halfTimeFalgs user = _ := flag_set _ _ _
  split <;> exact hFlag

/-- Whether the half time is over, this event included, decides on the list. -/
theorem addUpdate_lists_user (sort : List Event → List Event) (g : Game) (user : Text)
    (e : Event) :
    (g.addUpdate sort user e).updateByUserBefore user =
        (if g.halfTimeFalgs user || endsHalf e then g.updateByUserBefore user
        else sort (g.updateByUserBefore user ++ [e])) ∧
      (g.addUpdate sort user e).updateByUserAfter user =
        if g.halfTimeFalgs user || endsHalf e then sort (g.updateByUserAfter user ++ [e])
        else g.updateByUserAfter user := by
  unfold Game.addUpdate
  extract_lets isDone halfTimeFalgs marked before after
  have hFlag : marked.halfTimeFalgs user = (g.halfTimeFalgs user || endsHalf e) :=
    flag_set _ _ _
  rw [← hFlag]
  cases marked.halfTimeFalgs user with
  | true => exact ⟨rfl, Function.update_self _ _ _⟩
  | false => exact ⟨Function.update_self _ _ _, rfl⟩

/-- A call touches nothing of the other users. -/
theorem addUpdate_other {other : Text} (hOther : user ≠ other) (e : Event) :
    (g.addUpdate sort other e).observed user = g.observed user := by
  unfold Game.addUpdate
  extract_lets isDone halfTimeFalgs marked before after
  have hDone : isDone user = g.isDone user := flag_other _ hOther _
  have hFlag : halfTimeFalgs user = g.halfTimeFalgs user := flag_other _ hOther _
  cases marked.halfTimeFalgs other <;>
    simp only [Game.observed, marked, hDone, hFlag, Function.update_of_ne hOther, Bool.not_true,
      Bool.not_false, if_true, if_false, Bool.false_eq_true]

/-- A call only looks at what the game holds of its own user. -/
theorem addUpdate_observed {g' : Game} (hSame : g.observed user = g'.observed user) (e : Event) :
    (g.addUpdate sort user e).observed user = (g'.addUpdate sort user e).observed user := by
  simp only [Game.observed, Observed.mk.injEq] at hSame ⊢
  obtain ⟨hBefore, hAfter, hDone, hHalf⟩ := hSame
  obtain ⟨hLeftBefore, hLeftAfter⟩ := addUpdate_lists_user sort g user e
  obtain ⟨hRightBefore, hRightAfter⟩ := addUpdate_lists_user sort g' user e
  refine ⟨?_, ?_, ?_, ?_⟩
  · rw [hLeftBefore, hRightBefore, hBefore, hHalf]
  · rw [hLeftAfter, hRightAfter, hAfter, hHalf]
  · rw [addUpdate_isDone, addUpdate_isDone, hDone]
  · rw [addUpdate_halfTime, addUpdate_halfTime, hHalf]

/-- What a game shows of a user comes from the calls for that user. -/
theorem observed_addUpdates {g' : Game} (calls : List (Text × Event))
    (hSame : g.observed user = g'.observed user) : (g.addUpdates sort calls).observed user =
      (g'.addUpdates sort (calls.filter fun call => call.1 = user)).observed user := by
  induction calls generalizing g g' with
  | nil => exact hSame
  | cons call rest ih =>
      by_cases hUser : call.1 = user
      · rw [List.filter_cons_of_pos (by simpa using hUser)]
        exact ih (hUser ▸ addUpdate_observed (hUser.symm ▸ hSame) call.2)
      · rw [List.filter_cons_of_neg (by simpa using hUser)]
        exact ih ((addUpdate_other (Ne.symm hUser) call.2).trans hSame)

theorem Game.Holds.addUpdate (hSort : KeyOrder.Sorts Event.time sort) (h : g.Holds user events)
    (e : Event) : (g.addUpdate sort user e).Holds user (events ++ [e]) := by
  obtain ⟨hBefore, hAfter⟩ := addUpdate_lists_user sort g user e
  have hFlag := h.halfTime
  cases hOver : events.any endsHalf with
  | true =>
      rw [hFlag, hOver, Bool.true_or, if_pos rfl] at hBefore hAfter
      obtain ⟨hFirst, hSecond⟩ := halves_concat_of_some hOver e
      obtain ⟨hPerm, hSorted⟩ := hSort (g.updateByUserAfter user ++ [e])
      constructor
      · rw [hBefore, hFirst]
        exact h.before
      · rw [hAfter, hSecond]
        exact hPerm.trans (h.after.append_right [e])
      · rw [hBefore]
        exact h.beforeSorted
      · rw [hAfter]
        exact hSorted
      · rw [addUpdate_isDone, h.isDone, any_concat]
      · rw [addUpdate_halfTime, h.halfTime, any_concat]
  | false =>
      rw [hFlag, hOver, Bool.false_or] at hBefore hAfter
      have hFirst := firstHalf_concat_of_none hOver e
      have hSecond := secondHalf_concat_of_none hOver e
      obtain ⟨hAll, hNone⟩ := halves_of_none hOver
      have hHeld : (g.updateByUserBefore user).Perm events := hAll ▸ h.before
      have hEmpty : g.updateByUserAfter user = [] := (hNone ▸ h.after).eq_nil
      cases hEnds : endsHalf e with
      | true =>
          rw [hEnds, if_pos rfl] at hBefore hAfter hFirst hSecond
          obtain ⟨hPerm, hSorted⟩ := hSort (g.updateByUserAfter user ++ [e])
          constructor
          · rw [hBefore, hFirst]
            exact hHeld
          · rw [hAfter, hSecond]
            simpa [hEmpty] using hPerm
          · rw [hBefore]
            exact h.beforeSorted
          · rw [hAfter]
            exact hSorted
          · rw [addUpdate_isDone, h.isDone, any_concat]
          · rw [addUpdate_halfTime, h.halfTime, any_concat]
      | false =>
          rw [hEnds, if_neg Bool.false_ne_true] at hBefore hAfter hFirst hSecond
          obtain ⟨hPerm, hSorted⟩ := hSort (g.updateByUserBefore user ++ [e])
          constructor
          · rw [hBefore, hFirst]
            exact hPerm.trans (hHeld.append_right [e])
          · rw [hAfter, hSecond, hEmpty]
          · rw [hBefore]
            exact hSorted
          · rw [hAfter]
            exact h.afterSorted
          · rw [addUpdate_isDone, h.isDone, any_concat]
          · rw [addUpdate_halfTime, h.halfTime, any_concat]

theorem Game.Holds.of_observed {g' : Game} (h : g.Holds user events)
    (hSame : g'.observed user = g.observed user) : g'.Holds user events := by
  simp only [Game.observed, Observed.mk.injEq] at hSame
  obtain ⟨hBefore, hAfter, hDone, hHalf⟩ := hSame
  constructor
  · rw [hBefore]
    exact h.before
  · rw [hAfter]
    exact h.after
  · rw [hBefore]
    exact h.beforeSorted
  · rw [hAfter]
    exact h.afterSorted
  · rw [hDone]
    exact h.isDone
  · rw [hHalf]
    exact h.halfTime

theorem holds_new (name user : Text) : (Game.new name).Holds user [] := by
  constructor
  · exact List.Perm.refl []
  · exact List.Perm.refl []
  · exact List.Pairwise.nil
  · exact List.Pairwise.nil
  · rfl
  · rfl

theorem holds_addUpdates (hSort : KeyOrder.Sorts Event.time sort) (name user : Text)
    (calls : List (Text × Event)) :
    ((Game.new name).addUpdates sort calls).Holds user (eventsOf user calls) := by
  induction calls using List.reverseRecOn with
  | nil => exact holds_new name user
  | append_singleton calls call ih =>
      rw [Game.addUpdates, List.foldl_concat]
      by_cases hUser : call.1 = user
      · have hEvents : eventsOf user (calls ++ [call]) = eventsOf user calls ++ [call.2] := by
          simp [eventsOf, hUser]
        rw [hEvents, hUser]
        exact ih.addUpdate hSort call.2
      · have hEvents : eventsOf user (calls ++ [call]) = eventsOf user calls := by
          simp [eventsOf, hUser]
        rw [hEvents]
        exact ih.of_observed (addUpdate_other (Ne.symm hUser) call.2)

/-- A sort that keeps the order of events of the same time. -/
def byTime (events : List Event) : List Event := events.mergeSort fun a b => a.time ≤ b.time

theorem byTime_sorts : KeyOrder.Sorts Event.time byTime := by
  intro events
  constructor
  · exact List.mergeSort_perm _ _
  · have hSorted : (byTime events).Pairwise fun a b => decide (a.time ≤ b.time) = true := by
      apply List.pairwise_mergeSort
      · intro a b c hFirst hSecond
        simp only [decide_eq_true_eq] at hFirst hSecond ⊢
        omega
      · intro a b
        simp only [Bool.or_eq_true, decide_eq_true_eq]
        omega
    exact hSorted.imp fun h => of_decide_eq_true h

/-- An event with one general update. -/
def reportedEvent (time : Int) (key value goals : Text) : Event :=
  { teamAName := "Germany".toList
    teamBName := "Japan".toList
    name := "goal".toList
    time := time
    gameUpdates := SortedMap.empty.insert key value
    teamAUpdates := SortedMap.empty.insert "goals".toList goals
    teamBUpdates := .empty
    description := [] }

/-- The reports of two users; those of the first arrive out of order. -/
def reportedCalls : List (Text × Event) :=
  [("meni".toList, reportedEvent 20 "active".toList "true".toList ['1']),
    ("dana".toList, reportedEvent 90 "active".toList "false".toList ['7']),
    ("meni".toList, reportedEvent 10 "active".toList "true".toList ['0']),
    ("meni".toList, reportedEvent 50 "before halftime".toList "false".toList ['1'])]

/-- The store of events, after every sequence of calls for any users: each event is in the half
of its user that it belongs to, and each half is sorted by time. -/
theorem game_events_stored (hSort : KeyOrder.Sorts Event.time sort) (name user : Text)
    (calls : List (Text × Event)) :
    let g := (Game.new name).addUpdates sort calls
    let events := eventsOf user calls
    KeyOrder.Sorted Event.time (g.updateByUserBefore user) ∧
      KeyOrder.Sorted Event.time (g.updateByUserAfter user) ∧
      (g.updateByUserBefore user ++ g.updateByUserAfter user).Perm events ∧
      (g.updateByUserBefore user).Perm (firstHalf events) ∧
      (g.updateByUserAfter user).Perm (secondHalf events) ∧
      (g.isDone user = true ↔ ∃ e ∈ events, Game.turnsOff "active".toList e = true) ∧
      ∀ other e, other ≠ user → (g.addUpdate sort other e).observed user = g.observed user := by
  intro g events
  have h := holds_addUpdates hSort name user calls
  refine ⟨h.beforeSorted, h.afterSorted, ?_, h.before, h.after, ?_, ?_⟩
  · have hBoth := h.before.append h.after
    rwa [halves_append] at hBoth
  · rw [h.isDone, List.any_eq_true]
  · intro other e hOther
    exact addUpdate_other (Ne.symm hOther) e

/-- Reports of two users, one of whom has seen the half time. -/
theorem game_events_stored_reported : KeyOrder.Sorts Event.time byTime ∧
    let g := (Game.new []).addUpdates byTime reportedCalls
    let events := eventsOf "meni".toList reportedCalls
    KeyOrder.Sorted Event.time (g.updateByUserBefore "meni".toList) ∧
      (g.updateByUserBefore "meni".toList).Perm (firstHalf events) ∧
      (g.updateByUserAfter "meni".toList).Perm (secondHalf events) := by
  obtain ⟨hSorted, -, -, hBefore, hAfter, -⟩ :=
    game_events_stored byTime_sorts [] "meni".toList reportedCalls
  exact ⟨byTime_sorts, hSorted, hBefore, hAfter⟩

end
end Client

open Client Imperative
open Cpp (CppException)

namespace StompClient

/-- Calls of the protocol's `addUpdate`: the game, the user and the event of each. -/
def addUpdates (env : Env) :
    List (Text × Text × Event) → Method CppException StompClient Unit
  | [] => pure ()
  | (game, user, e) :: rest => do
      addUpdate env game user e
      addUpdates env rest

/-- The calls on one game. -/
def callsOn (game : Text) (calls : List (Text × Text × Event)) : List (Text × Event) :=
  (calls.filter fun call => call.1 = game).map Prod.snd

theorem gameOf_addUpdate (env : Env) (game other user : Text) (e : Event) (s : StompClient) :
    gameOf (addUpdate env game user e s).2.protocol other =
      if game = other then (gameOf s.protocol other).addUpdate env.sort user e
      else gameOf s.protocol other := by
  by_cases hGame : game = other
  · simp [addUpdate, modifyProtocol, gameOf, hGame]
  · simp [addUpdate, modifyProtocol, gameOf, hGame, Function.update_of_ne (Ne.symm hGame)]

/-- Each game only sees the calls on itself. -/
theorem gameOf_addUpdates (env : Env) (game : Text) (calls : List (Text × Text × Event))
    (s : StompClient) : gameOf (addUpdates env calls s).2.protocol game =
      (gameOf s.protocol game).addUpdates env.sort (callsOn game calls) := by
  induction calls generalizing s with
  | nil => rfl
  | cons call rest ih =>
      obtain ⟨first, user, e⟩ := call
      have hRest := ih (addUpdate env first user e s).2
      rw [gameOf_addUpdate] at hRest
      change gameOf (addUpdates env rest (addUpdate env first user e s).2).2.protocol game = _
      rw [hRest]
      by_cases hGame : first = game
      · simp [callsOn, hGame, Game.addUpdates]
      · simp [callsOn, hGame]

end StompClient
end StompGames
