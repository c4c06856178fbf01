import StompGames.Client.GameHistory

/-! What `handleSummary` writes, read against everything a user has reported on the game. -/
namespace StompGames

open Client Imperative
open Cpp (CppException)

/-- What a summary says. -/
structure Report where
  active : Bool
  beforeHalftime : Bool
  goalsA : Text
  possessionA : Text
  goalsB : Text
  possessionB : Text
  events : List Event

namespace Report

/-- A flag as the summary prints it. -/
def truth (flag : Bool) : Text := if flag then "true".toList else "false".toList

/-- The lines of one team, with the values that are to stand in them. -/
def stats (team goals possession : Text) : Text :=
  team ++ " stats:\ngoals: ".toList ++ goals ++ "\npossession: ".toList ++ possession ++ ['\n']

/-- The whole text of a summary with these contents. -/
def text (r : Report) (a b : Text) : Text :=
  a ++ " vs ".toList ++ b ++ ['\n'] ++ "Game stats:\nGeneral stats:\n".toList ++
    ("active: ".toList ++ truth r.active ++ ['\n']) ++
    ("before halftime: ".toList ++ truth r.beforeHalftime ++ ['\n']) ++
    stats a r.goalsA r.possessionA ++ stats b r.goalsB r.possessionB ++
    "Game event reports:\n".toList ++ r.events.flatMap StompClient.eventReport

/-- The report on what a game holds for a user. -/
def ofGame (g : Game) (user : Text) : Report :=
  let beforeHalf := g.updateByUserBefore user
  let afterHalf := g.updateByUserAfter user
  { active := !g.isDone user
    beforeHalftime := !g.halfTimeFalgs user
    goalsA := StompClient.lastUpdate "goals".toList Event.teamAUpdates beforeHalf afterHalf
    possessionA := StompClient.lastUpdate "possession".toList Event.teamAUpdates beforeHalf afterHalf
    goalsB := StompClient.lastUpdate "goals".toList Event.teamBUpdates beforeHalf afterHalf
    possessionB := StompClient.lastUpdate "possession".toList Event.teamBUpdates beforeHalf afterHalf
    events := beforeHalf ++ afterHalf }

/-- It is made of what the getters return. -/
theorem ofGame_observed {g g' : Game} {user : Text} (hSame : g.observed user = g'.observed user) :
    ofGame g user = ofGame g' user := by
  simp only [Game.observed, Observed.mk.injEq] at hSame
  obtain ⟨hBefore, hAfter, hDone, hHalf⟩ := hSame
  rw [ofGame, ofGame, hBefore, hAfter, hDone, hHalf]

end Report

namespace StompClient
variable {env : Env} {a b filePath : Text}

theorem write_apply (filePath text : Text) (s : StompClient) :
    write filePath text s = (.ok (), { s with
      files := Function.update s.files filePath (s.files filePath ++ text) }) := rfl

theorem split_game (hA : '_' ∉ a) (hB : '_' ∉ b) : Cpp.split (a ++ '_' :: b) '_' = [a, b] := by
  rw [Cpp.split, Cpp.splitLoop_append hA, Cpp.splitLoop_of_not_mem hB]
  rfl

theorem handleSummary_files (hA : '_' ∉ a) (hB : '_' ∉ b) (hOpens : env.opens filePath = true)
    (user : Text) (s : StompClient) :
    ∃ t, handleSummary env (a ++ '_' :: b) user filePath s = (.ok (), t) ∧
      t.files filePath =
        (Report.ofGame (gameOf s.protocol (a ++ '_' :: b)) user).text a b := by
  have hGame (p : StompProtocol) (game : Text) : gameOf { p with
      Games := Function.update p.Games game (some (gameOf p game)) } game = gameOf p game := by
    simp [gameOf]
  simp only [handleSummary, hOpens, Bool.not_true, Bool.false_eq_true, if_false,
    Method.bind_apply, Method.modify_apply, Method.get_apply, modifyProtocol, write_apply,
    split_game hA hB, Cpp.index, List.getElem?_cons_zero, List.getElem?_cons_succ,
    Method.pure_apply, Function.update_self, Function.update_idem, List.nil_append, hGame]
  exact ⟨_, rfl, Function.update_self _ _ _⟩

/-- The two variables of the loops of `handleSummary`. -/
structure Stats where
  goals : Text
  pos : Text

/-- One loop over the events of a half. -/
def statLoop (updates : Event → SortedMap Text Text) : Stats → List Event → Stats
  | stats, [] => stats
  | stats, e :: rest =>
      let tmp := updates e
      let stats := match tmp.find? "goals".toList with
        | some goals => { stats with goals := goals }
        | none => stats
      let stats := match tmp.find? "possession".toList with
        | some pos => { stats with pos := pos }
        | none => stats
      statLoop updates stats rest

theorem statLoop_eq (updates : Event → SortedMap Text Text) (stats : Stats)
    (events : List Event) : statLoop updates stats events =
      ⟨KeyOrder.lastValue (fun e => (updates e).find? "goals".toList) stats.goals events,
        KeyOrder.lastValue (fun e => (updates e).find? "possession".toList) stats.pos events⟩ := by
  induction events generalizing stats with
  | nil => rfl
  | cons e rest ih =>
      rw [statLoop, ih]
      simp only [KeyOrder.lastValue, List.foldl_cons]
      cases (updates e).find? "goals".toList <;> cases (updates e).find? "possession".toList <;> rfl

/-- The lines on a team hold what its two loops leave in the variables, which are empty
before the first of them. -/
theorem teamStats_loops (team : Text) (updates : Event → SortedMap Text Text)
    (beforeHalf afterHalf : List Event) :
    let stats := statLoop updates (statLoop updates ⟨[], []⟩ beforeHalf) afterHalf
    teamStats team updates beforeHalf afterHalf = Report.stats team stats.goals stats.pos := by
  intro stats
  have hLoops : stats = ⟨lastUpdate "goals".toList updates beforeHalf afterHalf,
      lastUpdate "possession".toList updates beforeHalf afterHalf⟩ := by
    simp only [stats, statLoop_eq, lastUpdate, KeyOrder.lastValue, List.foldl_append]
  rw [hLoops]
  rfl

end StompClient

/-- The value a summary gives for a key: the one of the latest event since the half time
that carries it, else of the latest before, else none. -/
inductive Shows (key : Text) (updates : Event → SortedMap Text Text) (events : List Event) :
    Text → Prop where
  | second {value : Text}
      (hLatest : KeyOrder.Latest Event.time (fun e => (updates e).find? key) (secondHalf events)
        value) :
      Shows key updates events value
  | first {value : Text}
      (hSecond : ∀ e ∈ secondHalf events, (updates e).find? key = none)
      (hLatest : KeyOrder.Latest Event.time (fun e => (updates e).find? key) (firstHalf events)
        value) :
      Shows key updates events value
  | nothing
      (hSecond : ∀ e ∈ secondHalf events, (updates e).find? key = none)
      (hFirst : ∀ e ∈ firstHalf events, (updates e).find? key = none) :
      Shows key updates events []

/-- A report that is true of the events of a user, in the order in which they arrived. -/
structure Report.Correct (r : Report) (events : List Event) : Prop where
  active : r.active = false ↔ ∃ e ∈ events, Game.turnsOff "active".toList e = true
  beforeHalftime : r.beforeHalftime = false ↔ ∃ e ∈ events, endsHalf e = true
  goalsA : Shows "goals".toList Event.teamAUpdates events r.goalsA
  possessionA : Shows "possession".toList Event.teamAUpdates events r.possessionA
  goalsB : Shows "goals".toList Event.teamBUpdates events r.goalsB
  possessionB : Shows "possession".toList Event.teamBUpdates events r.possessionB
  /-- Every event once, the first half by time and then the second half by time. -/
  events : ∃ first second, r.events = first ++ second ∧
    first.Perm (firstHalf events) ∧ first.Pairwise (fun e e' => e.time < e'.time) ∧
    second.Perm (secondHalf events) ∧ second.Pairwise fun e e' => e.time < e'.time

section
variable {g g' : Game} {user : Text} {events events' : List Event}

theorem shows_lastUpdate (h : g.Holds user events) (key : Text)
    (updates : Event → SortedMap Text Text) :
    Shows key updates events (StompClient.lastUpdate key updates (g.updateByUserBefore user)
      (g.updateByUserAfter user)) := by
  have hSplit : StompClient.lastUpdate key updates (g.updateByUserBefore user)
      (g.updateByUserAfter user) = KeyOrder.lastValue (fun e => (updates e).find? key)
        (KeyOrder.lastValue (fun e => (updates e).find? key) [] (g.updateByUserBefore user))
        (g.updateByUserAfter user) := KeyOrder.lastValue_append _
  rw [hSplit]
  by_cases hAfter : ∃ e ∈ g.updateByUserAfter user, ((updates e).find? key).isSome
  · exact .second ((KeyOrder.lastValue_latest h.afterSorted hAfter).perm h.after)
  · have hNone : ∀ e ∈ g.updateByUserAfter user, (updates e).find? key = none := by
      simpa using hAfter
    have hSecond : ∀ e ∈ secondHalf events, (updates e).find? key = none :=
      fun e hMem => hNone e (h.after.mem_iff.2 hMem)
    rw [KeyOrder.lastValue_none hNone]
    by_cases hBefore : ∃ e ∈ g.updateByUserBefore user, ((updates e).find? key).isSome
    · exact .first hSecond ((KeyOrder.lastValue_latest h.beforeSorted hBefore).perm h.before)
    · have hNone : ∀ e ∈ g.updateByUserBefore user, (updates e).find? key = none := by
        simpa using hBefore
      rw [KeyOrder.lastValue_none hNone]
      exact .nothing hSecond fun e hMem => hNone e (h.before.mem_iff.2 hMem)

theorem ofGame_correct (h : g.Holds user events)
    (hFirst : KeyOrder.Distinct Event.time (firstHalf events))
    (hSecond : KeyOrder.Distinct Event.time (secondHalf events)) :
    (Report.ofGame g user).Correct events := by
  constructor
  · simp [Report.ofGame, h.isDone]
  · simp [Report.ofGame, h.halfTime]
  · exact shows_lastUpdate h _ _
  · exact shows_lastUpdate h _ _
  · exact shows_lastUpdate h _ _
  · exact shows_lastUpdate h _ _
  · refine ⟨g.updateByUserBefore user, g.updateByUserAfter user, rfl, h.before, ?_, h.after, ?_⟩
    · exact h.beforeSorted.strict (hFirst.perm h.before.symm)
    · exact h.afterSorted.strict (hSecond.perm h.after.symm)

/-- The order of arrival within a half leaves no trace. -/
theorem ofGame_eq (h : g.Holds user events) (h' : g'.Holds user events')
    (hFirst : KeyOrder.Distinct Event.time (firstHalf events))
    (hSecond : KeyOrder.Distinct Event.time (secondHalf events))
    (hFirstPerm : (firstHalf events').Perm (firstHalf events))
    (hSecondPerm : (secondHalf events').Perm (secondHalf events)) :
    Report.ofGame g' user = Report.ofGame g user := by
  have hBefore : g'.updateByUserBefore user = g.updateByUserBefore user := by
    have hPerm := (h'.before.trans hFirstPerm).trans h.before.symm
    have hDistinct := hFirst.perm (h'.before.trans hFirstPerm).symm
    exact h'.beforeSorted.eq_of_perm h.beforeSorted hDistinct hPerm
  have hAfter : g'.updateByUserAfter user = g.updateByUserAfter user := by
    have hPerm := (h'.after.trans hSecondPerm).trans h.after.symm
    have hDistinct := hSecond.perm (h'.after.trans hSecondPerm).symm
    exact h'.afterSorted.eq_of_perm h.afterSorted hDistinct hPerm
  have hEvents : events'.Perm events := by
    have hBoth := hFirstPerm.append hSecondPerm
    rwa [halves_append, halves_append] at hBoth
  have hDone : g'.isDone user = g.isDone user := by
    rw [h'.isDone, h.isDone]
    exact hEvents.any_eq
  have hHalf : g'.halfTimeFalgs user = g.halfTimeFalgs user := by
    rw [h'.halfTime, h.halfTime]
    exact hEvents.any_eq
  rw [Report.ofGame, Report.ofGame, hBefore, hAfter, hDone, hHalf]

end

/-- The summary of a game, for every history of the game since it was created: the last value of
each statistic, the two flags, and the events of the user in order. -/
theorem summary_correct {env : Env} (hSort : KeyOrder.Sorts Event.time env.sort)
    {a b user filePath : Text} (hA : '_' ∉ a) (hB : '_' ∉ b) (hOpens : env.opens filePath = true)
    {s : StompClient} {name : Text} {calls : List (Text × Event)}
    (hGame : StompClient.gameOf s.protocol (a ++ '_' :: b) =
      (Game.new name).addUpdates env.sort calls)
    (hFirst : KeyOrder.Distinct Event.time (firstHalf (eventsOf user calls)))
    (hSecond : KeyOrder.Distinct Event.time (secondHalf (eventsOf user calls))) :
    ∃ (r : Report) (t : StompClient), StompClient.handleSummary env (a ++ '_' :: b) user filePath s = (.ok (), t) ∧
      t.files filePath = r.text a b ∧ r.Correct (eventsOf user calls) ∧
      ∀ s' name' calls', StompClient.gameOf s'.protocol (a ++ '_' :: b) =
          (Game.new name').addUpdates env.sort calls' →
        (firstHalf (eventsOf user calls')).Perm (firstHalf (eventsOf user calls)) →
        (secondHalf (eventsOf user calls')).Perm (secondHalf (eventsOf user calls)) →
        ∃ t', StompClient.handleSummary env (a ++ '_' :: b) user filePath s' = (.ok (), t') ∧
          t'.files filePath = t.files filePath := by
  have hHolds := holds_addUpdates hSort name user calls
  obtain ⟨t, hRun, hFile⟩ := StompClient.handleSummary_files hA hB hOpens user s
  rw [hGame] at hFile
  refine ⟨_, t, hRun, hFile, ofGame_correct hHolds hFirst hSecond, ?_⟩
  intro s' name' calls' hGame' hFirstPerm hSecondPerm
  have hHolds' := holds_addUpdates hSort name' user calls'
  obtain ⟨t', hRun', hFile'⟩ := StompClient.handleSummary_files hA hB hOpens user s'
  refine ⟨t', hRun', ?_⟩
  rw [hFile', hFile, hGame', ofGame_eq hHolds hHolds' hFirst hSecond hFirstPerm hSecondPerm]

/-- A client that opens every file, after the reports on one game. -/
def reporting : Env :=
  ⟨byTime, fun _ => .error .unchecked, fun _ => true, fun _ _ => true⟩

/-- A client to whom these events were reported. -/
def reported : StompClient :=
  (StompClient.addUpdates reporting
    (reportedCalls.map fun call => ("Germany_Japan".toList, call)) StompClient.new).2

/-- The reports of two users for one game. -/
theorem summary_correct_reported : '_' ∉ "Germany".toList ∧
    ∃ (r : Report) (t : StompClient),
      StompClient.handleSummary reporting ("Germany".toList ++ '_' :: "Japan".toList)
        "meni".toList "summary.txt".toList reported = (.ok (), t) ∧
      t.files "summary.txt".toList = r.text "Germany".toList "Japan".toList ∧
      r.Correct (eventsOf "meni".toList reportedCalls) := by
  have hA : '_' ∉ "Germany".toList := by decide
  have hB : '_' ∉ "Japan".toList := by decide
  have hGame := StompClient.gameOf_addUpdates reporting ("Germany".toList ++ '_' :: "Japan".toList)
    (reportedCalls.map fun call => ("Germany_Japan".toList, call)) StompClient.new
  obtain ⟨r, t, hRun, hFile, hCorrect, -⟩ := @summary_correct reporting byTime_sorts
    "Germany".toList "Japan".toList "meni".toList "summary.txt".toList hA hB rfl reported []
    reportedCalls hGame (by decide) (by decide)
  exact ⟨hA, r, t, hRun, hFile, hCorrect⟩

end StompGames
