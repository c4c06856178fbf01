import StompGames.Client.Game
import StompGames.Cpp.JsonValue
import Mathlib.Data.List.Forall2

/-! `parseEventsFile` of `event.cpp`: what is read from an events file, and that every text of a
file that describes some events is read as these events. -/
namespace StompGames.Client

open Cpp

variable {F : Type}

/-- The value of an update. What is no string is kept as its text. -/
def updateText (floats : Floats F) : Json F → Text
  | .string s => s
  | v => dump floats v

/-- The loop over the updates of one kind. -/
def readUpdates (floats : Floats F) (updates : Json F) : SortedMap Text Text :=
  (items updates).foldl (fun read update => read.insert update.1 (updateText floats update.2)) .empty

/-- One turn of the loop over the events. -/
def readEvent (floats : Floats F) (teamAName teamBName : Text) (event : Json F) :
    Except CppException Event := do
  let name ← getString (← operatorBrackets "event name".toList event)
  let time ← getInt floats (← operatorBrackets "time".toList event)
  let description ← getString (← operatorBrackets "description".toList event)
  let gameUpdates ← operatorBrackets "general game updates".toList event
  let teamAUpdates ← operatorBrackets "team a updates".toList event
  let teamBUpdates ← operatorBrackets "team b updates".toList event
  pure ⟨teamAName, teamBName, name, time, readUpdates floats gameUpdates,
    readUpdates floats teamAUpdates, readUpdates floats teamBUpdates, description⟩

/-- From the value of the file on. -/
def readData (floats : Floats F) (data : Json F) : Except CppException NamesAndEvents := do
  let teamAName ← getString (← operatorBrackets "team a".toList data)
  let teamBName ← getString (← operatorBrackets "team b".toList data)
  let events ← operatorBrackets "events".toList data
  let events ← (elements events).mapM (readEvent floats teamAName teamBName)
  pure ⟨teamAName, teamBName, events⟩

/-- The text of a file, which is empty where there is no file. `parseError` is what the parser has
to say about a text that it does not accept. -/
def parseEventsFile (floats : Floats F) (parseError : Text → Text) (text : Text) :
    Except CppException NamesAndEvents :=
  match parse floats text with
  | some data => readData floats data
  | none => .error (.runtime_error (parseError text))

/-- The value of a key. -/
def member? (key : Text) : Json F → Option (Json F)
  | .object members => (members.find? fun member => member.1 = key).map Prod.snd
  | _ => none

/-- An object with the updates as members. -/
def DescribesUpdates (floats : Floats F) (key : Text) (v : Json F)
    (updates : SortedMap Text Text) : Prop :=
  ∃ members, member? key v = some (.object members) ∧
    updates.entries = members.map fun member => (member.1, updateText floats member.2)

/-- A number that says a time: an `int`, or a floating point number that is cut to it. -/
inductive SaysTime (floats : Floats F) : Json F → Int → Prop where
  | integer (n : Int) : SaysTime floats (.integer n) n
  | float {x : F} {n : { n : Int // -2 ^ 31 ≤ n ∧ n < 2 ^ 31 }} (cut : floats.toInt x = some n) :
      SaysTime floats (.float x) n

/-- An element of `events` in the file, and the event it is read as. Members with other names may
be there, and where a name comes twice the last one counts. -/
structure DescribesEvent (floats : Floats F) (v : Json F) (e : Event) : Prop where
  name : member? "event name".toList v = some (.string e.name)
  time : ∃ time, member? "time".toList v = some time ∧ SaysTime floats time e.time
  timeRange : -2 ^ 31 ≤ e.time ∧ e.time < 2 ^ 31
  gameUpdates : DescribesUpdates floats "general game updates".toList v e.gameUpdates
  teamAUpdates : DescribesUpdates floats "team a updates".toList v e.teamAUpdates
  teamBUpdates : DescribesUpdates floats "team b updates".toList v e.teamBUpdates
  description : member? "description".toList v = some (.string e.description)

/-- The layout of an events file. -/
structure Describes (floats : Floats F) (v : Json F) (data : NamesAndEvents) : Prop where
  teamAName : member? "team a".toList v = some (.string data.teamAName)
  teamBName : member? "team b".toList v = some (.string data.teamBName)
  names : ∀ e ∈ data.events, e.teamAName = data.teamAName ∧ e.teamBName = data.teamBName
  events : ∃ events, member? "events".toList v = some (.array events) ∧
    List.Forall₂ (DescribesEvent floats) events data.events

theorem exists_of_bind_eq_ok {α β : Type} {x : Except CppException α}
    {f : α → Except CppException β} {result : β} (h : (x >>= f) = .ok result) :
    ∃ a, x = .ok a ∧ f a = .ok result := by
  cases x with
  | error e => cases h
  | ok a => exact ⟨a, rfl, h⟩

section
variable {floats : Floats F} {key : Text} {v w : Json F}

theorem operatorBrackets_member (h : member? key v = some w) : operatorBrackets key v = .ok w := by
  cases v with
  | object members =>
      rw [member?] at h
      rw [operatorBrackets, h]
      rfl
  | null | boolean b | integer n | float x | string s | array items => cases h

theorem SaysTime.getInt {n : Int} (hTime : SaysTime floats v n) (h : -2 ^ 31 ≤ n ∧ n < 2 ^ 31) :
    getInt floats v = .ok n := by
  cases hTime with
  | integer =>
      have hCut : Int.bmod n (2 ^ 32) = n := Int.bmod_eq_of_le (by omega) (by omega)
      rw [Cpp.getInt, hCut]
  | float cut => rw [Cpp.getInt, cut]

theorem readUpdates_described {updates : SortedMap Text Text} {members : List (Text × Json F)}
    (h : updates.entries = members.map fun member => (member.1, updateText floats member.2)) :
    readUpdates floats (.object members) = updates := by
  apply SortedMap.ext
  have hSorted := updates.sorted
  rw [h] at hSorted
  rw [readUpdates, items, SortedMap.foldl_insert_entries Prod.fst (fun member =>
    updateText floats member.2) members .empty hSorted, h]
  rfl

theorem readEvent_described {e : Event} (h : DescribesEvent floats v e) :
    readEvent floats e.teamAName e.teamBName v = .ok e := by
  obtain ⟨time, hMember, hTime⟩ := h.time
  obtain ⟨game, hGame, hGameEntries⟩ := h.gameUpdates
  obtain ⟨teamA, hTeamA, hTeamAEntries⟩ := h.teamAUpdates
  obtain ⟨teamB, hTeamB, hTeamBEntries⟩ := h.teamBUpdates
  simp only [readEvent, operatorBrackets_member h.name, operatorBrackets_member hMember,
    operatorBrackets_member h.description, operatorBrackets_member hGame,
    operatorBrackets_member hTeamA, operatorBrackets_member hTeamB]
  simp only [bind, Except.bind, getString, hTime.getInt h.timeRange,
    readUpdates_described hGameEntries, readUpdates_described hTeamAEntries,
    readUpdates_described hTeamBEntries]
  rfl

/-- A loop that fails at the first item that fails. -/
theorem mapM_eq_ok_iff {α β : Type} {f : α → Except CppException β} {xs : List α} {ys : List β} :
    xs.mapM f = .ok ys ↔ List.Forall₂ (fun x y => f x = .ok y) xs ys := by
  induction xs generalizing ys with
  | nil => cases ys <;> simp [pure, Except.pure]
  | cons x xs ih =>
      rw [List.mapM_cons, List.forall₂_cons_left_iff]
      constructor
      · intro h
        obtain ⟨y, hFirst, h⟩ := exists_of_bind_eq_ok h
        obtain ⟨more, hRest, h⟩ := exists_of_bind_eq_ok h
        cases h
        exact ⟨y, more, hFirst, ih.1 hRest, rfl⟩
      · rintro ⟨y, more, hFirst, hRest, rfl⟩
        rw [hFirst]
        change (xs.mapM f >>= fun rest => pure (y :: rest)) = _
        rw [ih.2 hRest]
        rfl

theorem readData_described {data : NamesAndEvents} (h : Describes floats v data) :
    readData floats v = .ok data := by
  obtain ⟨events, hEvents, hAll⟩ := h.events
  have hRead : events.mapM (readEvent floats data.teamAName data.teamBName) = .ok data.events := by
    have hFlipped : List.Forall₂ (fun e v => DescribesEvent floats v e) data.events events :=
      List.Forall₂.flip hAll
    have hBoth := List.Forall₂.flip ((List.forall₂_and_left _ _).2 ⟨h.names, hFlipped⟩)
    refine mapM_eq_ok_iff.2 (hBoth.imp fun v e hEvent => ?_)
    obtain ⟨⟨hA, hB⟩, hDescribes⟩ := hEvent
    rw [← hA, ← hB]
    exact readEvent_described hDescribes
  simp only [readData, operatorBrackets_member h.teamAName, operatorBrackets_member h.teamBName,
    operatorBrackets_member hEvents]
  simp only [bind, Except.bind, getString, elements, hRead]
  rfl

end

/-- As long as no number with a fraction is read. -/
def noFloats : Floats Empty := ⟨fun _ => none, nofun, nofun⟩

set_option maxRecDepth 4000 in
/-- Another order, an escape, white space, no updates of a team, and a truth value for a text. -/
example : (match parseEventsFile noFloats id "\x7b \"team b\": \"Japan\",\n \"events\": [ \x7b
      \"event name\": \"half\", \"time\": 2700, \"description\": \"\",
      \"general game updates\": \x7b \"before halftime\": false \x7d \x7d ],
      \"team a\": \"A\\u0079\" \x7d".toList with
  | .ok data => data.teamAName == "Ay".toList && data.events.map Event.time == [2700] &&
      data.events.all (Game.turnsOff "before halftime".toList)
  | .error _ => false) = true := by decide

/-- The updates of an event as an object whose members are strings. -/
def updatesValue (updates : SortedMap Text Text) : Json F :=
  .object (updates.entries.map fun update => (update.1, .string update.2))

/-- An event as an element of `events`. The names of the teams are not in it, they stand in the
document once for all events. -/
def eventValue (e : Event) : Json F := .object [("event name".toList, .string e.name),
  ("time".toList, .integer e.time), ("general game updates".toList, updatesValue e.gameUpdates),
  ("team a updates".toList, updatesValue e.teamAUpdates),
  ("team b updates".toList, updatesValue e.teamBUpdates),
  ("description".toList, .string e.description)]

/-- A file for these events, with the names of the teams in front. -/
def document (data : NamesAndEvents) : Json F := .object [
  ("team a".toList, .string data.teamAName), ("team b".toList, .string data.teamBName),
  ("events".toList, .array (data.events.map eventValue))]

/-- What a file can say: the events are of one game, and the times are of type `int`. -/
structure NamesAndEvents.Writable (data : NamesAndEvents) : Prop where
  names : ∀ e ∈ data.events, e.teamAName = data.teamAName ∧ e.teamBName = data.teamBName
  times : ∀ e ∈ data.events, -2 ^ 31 ≤ e.time ∧ e.time < 2 ^ 31

section
variable {floats : Floats F}

theorem updatesValue_sorted (updates : SortedMap Text Text) :
    (updatesValue updates : Json F).sorted = updatesValue updates := by
  have hSorted : ([] ++ updates.entries.map fun update : Text × Text =>
      (update.1, (Json.string update.2 : Json F))).Pairwise
        fun a b : Text × Json F => a.1 < b.1 :=
    List.pairwise_map.2 updates.sorted
  rw [updatesValue, Json.sorted, Json.sortedMembers_of_sorted hSorted, List.nil_append,
    List.map_map]
  rfl

theorem eventValue_sorted (e : Event) : (eventValue e : Json F).sorted = .object [
    ("description".toList, .string e.description), ("event name".toList, .string e.name),
    ("general game updates".toList, updatesValue e.gameUpdates),
    ("team a updates".toList, updatesValue e.teamAUpdates),
    ("team b updates".toList, updatesValue e.teamBUpdates), ("time".toList, .integer e.time)] := by
  rw [eventValue, Json.sorted]
  simp only [Json.sortedMembers, updatesValue_sorted, Json.sorted]
  rfl

theorem document_sorted (data : NamesAndEvents) : (document data : Json F).sorted = .object [
    ("events".toList, .array (data.events.map fun e => (eventValue e).sorted)),
    ("team a".toList, .string data.teamAName), ("team b".toList, .string data.teamBName)] := by
  rw [document, Json.sorted]
  simp only [Json.sortedMembers, Json.sorted, Json.sortedItems_eq_map, List.map_map]
  rfl

/-- The members of a file that was dumped are in the order of their keys. -/
theorem document_sorted_sorted (data : NamesAndEvents) :
    (document data : Json F).sorted.sorted = (document data).sorted := by
  have hEvent : ∀ e, (eventValue e : Json F).sorted.sorted = (eventValue e).sorted := by
    intro e
    rw [eventValue_sorted, Json.sorted]
    simp only [Json.sortedMembers, updatesValue_sorted, Json.sorted]
    rfl
  rw [document_sorted, Json.sorted]
  simp only [Json.sortedMembers, Json.sorted, Json.sortedItems_eq_map, List.map_map,
    Function.comp_def, hEvent]
  rfl

theorem updatesValue_describes {key : Text} {v : Json F} {updates : SortedMap Text Text}
    (h : member? key v = some (updatesValue updates)) : DescribesUpdates floats key v updates := by
  refine ⟨_, h, ?_⟩
  rw [List.map_map]
  exact (List.map_id _).symm

theorem eventValue_describes {e : Event} (hTime : -2 ^ 31 ≤ e.time ∧ e.time < 2 ^ 31) :
    DescribesEvent floats (eventValue e).sorted e := by
  rw [eventValue_sorted]
  exact {
    name := rfl
    time := ⟨_, rfl, .integer e.time⟩
    timeRange := hTime
    gameUpdates := updatesValue_describes rfl
    teamAUpdates := updatesValue_describes rfl
    teamBUpdates := updatesValue_describes rfl
    description := rfl }

theorem document_describes {data : NamesAndEvents} (h : data.Writable) :
    Describes floats (document data).sorted data := by
  rw [document_sorted]
  refine ⟨rfl, rfl, h.names, _, rfl, ?_⟩
  rw [List.forall₂_map_left_iff, List.forall₂_same]
  exact fun e hMem => eventValue_describes (h.times e hMem)

theorem updatesValue_fits (updates : SortedMap Text Text) : Fits floats (updatesValue updates) := by
  have hAll : ∀ entries : List (Text × Text),
      FitsMembers floats (entries.map fun update => (update.1, .string update.2)) := by
    intro entries
    induction entries with
    | nil => trivial
    | cons entry entries ih => exact ⟨trivial, ih⟩
  exact hAll updates.entries

theorem document_fits {data : NamesAndEvents} (h : data.Writable) :
    Fits floats (document data).sorted := by
  have hAll : ∀ events : List Event, (∀ e ∈ events, -2 ^ 31 ≤ e.time ∧ e.time < 2 ^ 31) →
      FitsItems floats (events.map fun e => (eventValue e).sorted) := by
    intro events hTimes
    induction events with
    | nil => trivial
    | cons e events ih =>
        obtain ⟨hTime, hMore⟩ := List.forall_mem_cons.1 hTimes
        have hFits : -2 ^ 63 ≤ e.time ∧ e.time < 2 ^ 64 := by omega
        have hEvent : Fits floats (eventValue e).sorted := by
          rw [eventValue_sorted]
          exact ⟨trivial, trivial, updatesValue_fits _, updatesValue_fits _, updatesValue_fits _,
            hFits, trivial⟩
        exact ⟨hEvent, ih hMore⟩
  rw [document_sorted]
  exact ⟨hAll data.events h.times, trivial, trivial, trivial⟩

/-- What `json.hpp` dumps of the events of a game is read as these events. -/
theorem parseEventsFile_dump {parseError : Text → Text} {data : NamesAndEvents}
    (h : data.Writable) :
    parseEventsFile floats parseError (dump floats (document data).sorted) = .ok data := by
  rw [parseEventsFile, parse_dump (document_fits h), document_sorted_sorted]
  exact readData_described (document_describes h)

end

/-- Whatever the white space, the order of the members and the way in which the strings are
written, a file is read as the events that it describes. -/
theorem parseEventsFile_described {floats : Floats F} {parseError : Text → Text} {v : Json F}
    {text : Text} {data : NamesAndEvents} (hText : Json.Spells (convertNumber floats) v.tokens text)
    (h : Describes floats v.sorted data) :
    parseEventsFile floats parseError text = .ok data := by
  rw [parseEventsFile, parse_spelled hText]
  exact readData_described h

/-- A game of one goal, by somebody with a quote in his name. -/
def quotedGoal : NamesAndEvents := ⟨"Germany".toList, "Japan".toList,
  [⟨"Germany".toList, "Japan".toList, "goal".toList, 1980, .empty,
    SortedMap.empty.insert "goals".toList "1".toList, .empty, "by \"Gundogan\"\n".toList⟩]⟩

theorem quotedGoal_writable : quotedGoal.Writable := by
  constructor <;> rintro e (_ | ⟨_, ⟨⟩⟩) <;> decide

/-- A file whose description has a quote and a line break in it. -/
theorem parseEventsFile_described_quotedGoal :
    parseEventsFile noFloats id (dump noFloats (document quotedGoal).sorted) = .ok quotedGoal := by
  have hEnd : Json.Spells (convertNumber noFloats) [] [] := .nil nofun
  have hText := dump_spells _ (document_fits quotedGoal_writable) hEnd nofun
  rw [List.append_nil, List.append_nil] at hText
  refine parseEventsFile_described hText ?_
  rw [document_sorted_sorted]
  exact document_describes quotedGoal_writable

section
variable {floats : Floats F} {v : Json F}

theorem getInt_range {n : Int} (h : getInt floats v = .ok n) : -2 ^ 31 ≤ n ∧ n < 2 ^ 31 := by
  cases v with
  | integer m =>
      cases h
      have hLow : -(2 ^ 32 / 2 : Int) ≤ Int.bmod m (2 ^ 32) := Int.le_bmod (by decide)
      have hHigh : Int.bmod m (2 ^ 32) < ((2 ^ 32 : Nat) + 1) / 2 := Int.bmod_lt (by decide)
      omega
  | float x =>
      rw [getInt] at h
      cases hInt : floats.toInt x with
      | none =>
          rw [hInt] at h
          cases h
      | some m =>
          rw [hInt] at h
          cases h
          exact m.2
  | boolean b => cases b <;> cases h <;> decide
  | null | string s | array items | object members => cases h

theorem readEvent_accepted {teamAName teamBName : Text} {e : Event}
    (h : readEvent floats teamAName teamBName v = .ok e) :
    (e.teamAName = teamAName ∧ e.teamBName = teamBName) ∧ -2 ^ 31 ≤ e.time ∧ e.time < 2 ^ 31 := by
  obtain ⟨_, -, h⟩ := exists_of_bind_eq_ok h
  obtain ⟨name, -, h⟩ := exists_of_bind_eq_ok h
  obtain ⟨_, -, h⟩ := exists_of_bind_eq_ok h
  obtain ⟨time, hTime, h⟩ := exists_of_bind_eq_ok h
  obtain ⟨_, -, h⟩ := exists_of_bind_eq_ok h
  obtain ⟨description, -, h⟩ := exists_of_bind_eq_ok h
  obtain ⟨gameUpdates, -, h⟩ := exists_of_bind_eq_ok h
  obtain ⟨teamAUpdates, -, h⟩ := exists_of_bind_eq_ok h
  obtain ⟨teamBUpdates, -, h⟩ := exists_of_bind_eq_ok h
  cases h
  exact ⟨⟨rfl, rfl⟩, getInt_range hTime⟩

theorem readData_accepted {data : NamesAndEvents} (h : readData floats v = .ok data) :
    data.Writable := by
  obtain ⟨_, -, h⟩ := exists_of_bind_eq_ok h
  obtain ⟨teamAName, -, h⟩ := exists_of_bind_eq_ok h
  obtain ⟨_, -, h⟩ := exists_of_bind_eq_ok h
  obtain ⟨teamBName, -, h⟩ := exists_of_bind_eq_ok h
  obtain ⟨_, -, h⟩ := exists_of_bind_eq_ok h
  obtain ⟨events, hEvents, h⟩ := exists_of_bind_eq_ok h
  cases h
  have hAll : ∀ e ∈ events, (e.teamAName = teamAName ∧ e.teamBName = teamBName) ∧
      -2 ^ 31 ≤ e.time ∧ e.time < 2 ^ 31 := by
    have hRead := List.Forall₂.flip ((mapM_eq_ok_iff.1 hEvents).imp fun v e hRead =>
      And.intro (readEvent_accepted hRead) trivial)
    exact ((List.forall₂_and_left _ _).1 hRead).1
  exact ⟨fun e hMem => (hAll e hMem).1, fun e hMem => (hAll e hMem).2⟩

theorem parseEventsFile_accepted {parseError : Text → Text} {text : Text} {data : NamesAndEvents}
    (h : parseEventsFile floats parseError text = .ok data) : data.Writable := by
  rw [parseEventsFile] at h
  split at h
  · exact readData_accepted h
  · cases h

/-- The data that files give are those of one game, with times of type `int`: every file that is
accepted gives such data, and such data are read from the file that is dumped of them. -/
theorem accepted_iff (floats : Floats F) (parseError : Text → Text) (data : NamesAndEvents) :
    ((∃ text, parseEventsFile floats parseError text = .ok data) ↔ data.Writable) ∧
      (parseEventsFile floats parseError (dump floats (document data).sorted) = .ok data ↔
        data.Writable) :=
  ⟨⟨fun ⟨_, h⟩ => parseEventsFile_accepted h, fun h => ⟨_, parseEventsFile_dump h⟩⟩,
    parseEventsFile_accepted, parseEventsFile_dump⟩

end

end StompGames.Client
