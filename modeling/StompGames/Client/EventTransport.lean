import StompGames.Client.EventParsing

/-! The way of an event from one client to another: the body that a report makes of
it, and what is read out of that body. -/
namespace StompGames.StompClient

open Client Imperative
open Cpp (CppException)

/-- The lines of a section of updates. -/
def sectionLines (updates : SortedMap Text Text) : List Text :=
  updates.entries.map fun entry => "    ".toList ++ entry.1 ++ ": ".toList ++ entry.2

/-- The lines of a report, up to its description. -/
def reportLines (username : Text) (e : Client.Event) : List Text :=
  ["user: ".toList ++ username, "team a: ".toList ++ e.teamAName,
    "team b: ".toList ++ e.teamBName, "event name: ".toList ++ e.name,
    "time: ".toList ++ Decimal.decimal e.time, "general game updates:".toList] ++
    sectionLines e.gameUpdates ++ ["team a updates:".toList] ++ sectionLines e.teamAUpdates ++
    ["team b updates:".toList] ++ sectionLines e.teamBUpdates ++ ["description:".toList]

theorem ConstructEventFrame_eq (username : Text) (e : Client.Event) :
    ConstructEventFrame username e =
      (reportLines username e).flatMap (· ++ ['\n']) ++ (e.description ++ ['\n']) := by
  have hSection : ∀ updates : SortedMap Text Text, updateLines updates =
      (sectionLines updates).flatMap (· ++ ['\n']) := by
    intro updates
    simp [updateLines, sectionLines, List.flatMap_map]
  unfold ConstructEventFrame reportLines
  rw [hSection, hSection, hSection]
  simp

/-- An event as it arrives: values end at their first colon, and the lines of the
description run together. -/
def received (e : Client.Event) : Client.Event :=
  ⟨keyOf e.teamAName, keyOf e.teamBName, keyOf e.name, e.time, e.gameUpdates.mapValues keyOf,
    e.teamAUpdates.mapValues keyOf, e.teamBUpdates.mapValues keyOf,
    e.description.filter (· != '\n')⟩

/-- Updates that `ConstructEventFrame` writes in a line each, with one colon that separates the
name from the value. -/
def SingleLineUpdates (updates : SortedMap Text Text) : Prop :=
  ∀ entry ∈ updates.entries, '\n' ∉ entry.1 ∧ '\n' ∉ entry.2 ∧ ':' ∉ entry.1

/-- Events whose fields, the description apart, are single lines. -/
structure SingleLineFields (username : Text) (e : Client.Event) : Prop where
  user : '\n' ∉ username
  teamA : '\n' ∉ e.teamAName
  teamB : '\n' ∉ e.teamBName
  name : '\n' ∉ e.name
  time : -2 ^ 31 ≤ e.time ∧ e.time < 2 ^ 31
  game : SingleLineUpdates e.gameUpdates
  updatesA : SingleLineUpdates e.teamAUpdates
  updatesB : SingleLineUpdates e.teamBUpdates

theorem valueOf_line {name : Text} (hName : ':' ∉ name) (value : Text) :
    valueOf (name ++ (": ".toList ++ value)) = keyOf value := valueOf_field hName ' ' value

theorem hasField_line {name : Text} (hName : ':' ∉ name) (value : Text) :
    HasField (name ++ (": ".toList ++ value)) :=
  ⟨name, ' ', value, hName, by decide, rfl⟩

theorem drop_sectionLine (entry : Text × Text) :
    ("    ".toList ++ entry.1 ++ ": ".toList ++ entry.2).drop 4 =
      entry.1 ++ (": ".toList ++ entry.2) := by
  simp

theorem update_of_mem_sectionLines {updates : SortedMap Text Text}
    (h : SingleLineUpdates updates) : ∀ line ∈ sectionLines updates, Update line := by
  intro line hLine
  obtain ⟨entry, hEntry, rfl⟩ := List.mem_map.1 hLine
  refine ⟨rfl, by simp, ?_⟩
  rw [drop_sectionLine]
  exact hasField_line (h entry hEntry).2.2 entry.2

theorem updatesOf_sectionLines {updates : SortedMap Text Text} (h : SingleLineUpdates updates) :
    updatesOf (sectionLines updates) = updates.mapValues keyOf := by
  have hEntries : updates.entries.map (fun entry => (entry.1, keyOf entry.2)) =
      (updates.mapValues keyOf).entries := rfl
  have hFold : updatesOf (sectionLines updates) = updates.entries.foldl
      (fun m entry => m.insert entry.1 (keyOf entry.2)) .empty := by
    unfold updatesOf sectionLines
    rw [List.foldl_map]
    apply List.foldl_ext
    intro m entry hEntry
    have hKey := (h entry hEntry).2.2
    rw [drop_sectionLine, valueOf_line hKey]
    exact congrArg (m.insert · _) (keyOf_field hKey _)
  apply SortedMap.ext
  rw [hFold, SortedMap.foldl_insert_entries]
  · rfl
  · exact (updates.mapValues keyOf).sorted

theorem newline_not_mem_reportLines {username : Text} {e : Client.Event}
    (h : SingleLineFields username e) : ∀ line ∈ reportLines username e, '\n' ∉ line := by
  have hSection : ∀ updates, SingleLineUpdates updates →
      ∀ line ∈ sectionLines updates, '\n' ∉ line := by
    intro updates hUpdates line hLine
    obtain ⟨entry, hEntry, rfl⟩ := List.mem_map.1 hLine
    obtain ⟨hKey, hValue, -⟩ := hUpdates entry hEntry
    exact newline_not_mem_line (newline_not_mem_line (newline_not_mem_line (by simp) hKey)
      (by simp)) hValue
  have hTime : '\n' ∉ Decimal.decimal e.time := Decimal.not_mem_decimal (by decide) (by decide)
  unfold reportLines
  simp only [List.forall_mem_append, List.forall_mem_cons]
  exact ⟨⟨⟨⟨⟨⟨⟨newline_not_mem_line (by simp) h.user, newline_not_mem_line (by simp) h.teamA,
    newline_not_mem_line (by simp) h.teamB, newline_not_mem_line (by simp) h.name,
    newline_not_mem_line (by simp) hTime, by simp, nofun⟩, hSection _ h.game⟩, by simp, nofun⟩,
    hSection _ h.updatesA⟩, by simp, nofun⟩, hSection _ h.updatesB⟩, by simp, nofun⟩

/-- The lines of a report after the sender's, read back with whatever lines follow. -/
theorem reports_append {username : Text} {e : Client.Event} (h : SingleLineFields username e)
    (rest : List Text) : Reports ((reportLines username e).drop 1 ++ rest)
      { received e with description := rest.flatten } := by
  have hTime : valueOf ("time".toList ++ (": ".toList ++ Decimal.decimal e.time)) =
      Decimal.decimal e.time := by
    rw [valueOf_line (by decide), keyOf, List.takeWhile_eq_self_iff]
    exact Framing.bne_of_not_mem (Decimal.not_mem_decimal (by decide) (by decide))
  have hNumber := Cpp.stoi_eq_ok_iff.1 (Cpp.stoi_decimal h.time.1 h.time.2 ())
  have hReports := @Reports.intro _ _ _ _ "general game updates:".toList _ _ _ _ _ _ _ rest
    ⟨hasField_line (by decide : ':' ∉ "team a".toList) e.teamAName,
      hasField_line (by decide : ':' ∉ "team b".toList) e.teamBName,
      hasField_line (by decide : ':' ∉ "event name".toList) e.name,
      hasField_line (by decide : ':' ∉ "time".toList) (Decimal.decimal e.time)⟩
    (hTime.symm ▸ hNumber.2)
    ⟨(by decide : "team a updates:".toList.head? ≠ some ' '),
      (by decide : "team b updates:".toList.head? ≠ some ' '),
      (by decide : "description:".toList.head? ≠ some ' ')⟩
    ⟨update_of_mem_sectionLines h.game, update_of_mem_sectionLines h.updatesA,
      update_of_mem_sectionLines h.updatesB⟩
  rw [valueOf_line (by decide), valueOf_line (by decide), valueOf_line (by decide),
    updatesOf_sectionLines h.game, updatesOf_sectionLines h.updatesA,
    updatesOf_sectionLines h.updatesB] at hReports
  simpa [reportLines, received] using hReports

theorem reports_reportLines {username : Text} {e : Client.Event} (h : SingleLineFields username e) :
    Reports ((reportLines username e).drop 1 ++ Cpp.getLines (e.description ++ ['\n']))
      (received e) := by
  have hDescription : (Cpp.getLines (e.description ++ ['\n'])).flatten =
      (received e).description := by
    rw [Cpp.getLines, Cpp.splitLoop_flatten]
    simp [received]
  have hReports := reports_append h (Cpp.getLines (e.description ++ ['\n']))
  rwa [hDescription] at hReports

/-- The frame that brings a report to a subscriber, and what is read out of it. -/
def Received (subId : Int) (id channel username : Text) (e : Client.Event) (sender : Text)
    (read : Client.Event) (s : StompClient) : Prop :=
  let lines := Cpp.getLines (messageText subId id channel (ConstructEventFrame username e))
  (do fieldOf (← Cpp.index lines 5) : Method CppException StompClient Text) s = (.ok sender, s) ∧
    parseToEvent lines s = (.ok read, s)

section
variable {id channel username : Text} {e : Client.Event}

theorem received_report (hId : '\n' ∉ id) (hChannel : '\n' ∉ channel)
    (h : SingleLineFields username e) (subId : Int) (s : StompClient) :
    Received subId id channel username e (keyOf username) (received e) s := by
  have hBody : Cpp.getLines (ConstructEventFrame username e) =
      reportLines username e ++ Cpp.getLines (e.description ++ ['\n']) := by
    rw [ConstructEventFrame_eq, Cpp.getLines_flatMap (newline_not_mem_reportLines h)]
  have hSender : valueOf ("user".toList ++ (": ".toList ++ username)) = keyOf username :=
    valueOf_line (by decide) username
  have hField : HasField ("user".toList ++ (": ".toList ++ username)) :=
    hasField_line (by decide) username
  unfold Received
  dsimp only
  rw [getLines_messageText hId hChannel, hBody]
  constructor
  · exact fieldOf_eq_ok_iff.2 ⟨rfl, hField, hSender.symm⟩
  · exact parseToEvent_eq_ok_iff.2 ⟨rfl, reports_reportLines h⟩

theorem keyOf_eq_self_iff {text : Text} : keyOf text = text ↔ ':' ∉ text := by
  rw [keyOf, List.takeWhile_eq_self_iff]
  constructor
  · intro h hMem
    exact absurd (h _ hMem) (by decide)
  · intro h
    exact Framing.bne_of_not_mem h

/-- No value of the event has a colon in it. -/
structure ColonFree (username : Text) (e : Client.Event) : Prop where
  user : ':' ∉ username
  teamA : ':' ∉ e.teamAName
  teamB : ':' ∉ e.teamBName
  name : ':' ∉ e.name
  game : ∀ entry ∈ e.gameUpdates.entries, ':' ∉ entry.2
  updatesA : ∀ entry ∈ e.teamAUpdates.entries, ':' ∉ entry.2
  updatesB : ∀ entry ∈ e.teamBUpdates.entries, ':' ∉ entry.2

theorem received_eq_self_iff : (keyOf username = username ∧ received e = e) ↔
    ColonFree username e ∧ '\n' ∉ e.description := by
  have hUpdates : ∀ updates : SortedMap Text Text,
      updates.mapValues keyOf = updates ↔ ∀ entry ∈ updates.entries, ':' ∉ entry.2 := by
    intro updates
    simp only [SortedMap.mapValues_eq_self_iff, keyOf_eq_self_iff]
  have hDescription : e.description.filter (· != '\n') = e.description ↔
      '\n' ∉ e.description := by
    rw [List.filter_eq_self]
    constructor
    · intro h hMem
      exact absurd (h _ hMem) (by decide)
    · intro h
      exact Framing.bne_of_not_mem h
  cases e with
  | mk teamA teamB name time game updatesA updatesB description =>
      simp only [received, Client.Event.mk.injEq, keyOf_eq_self_iff, hUpdates] at hDescription ⊢
      rw [hDescription]
      constructor
      · rintro ⟨hUser, hA, hB, hName, -, hGame, hUpdatesA, hUpdatesB, hLines⟩
        exact ⟨⟨hUser, hA, hB, hName, hGame, hUpdatesA, hUpdatesB⟩, hLines⟩
      · rintro ⟨⟨hUser, hA, hB, hName, hGame, hUpdatesA, hUpdatesB⟩, hLines⟩
        exact ⟨hUser, hA, hB, hName, trivial, hGame, hUpdatesA, hUpdatesB, hLines⟩

/-- A report is read as the event it was made of just where no value has a colon and
the description is one line. -/
theorem eventTransport_iff (hId : '\n' ∉ id) (hChannel : '\n' ∉ channel)
    (h : SingleLineFields username e) (subId : Int) (s : StompClient) :
    Received subId id channel username e username e s ↔
      ColonFree username e ∧ '\n' ∉ e.description := by
  have hRead := received_report hId hChannel h subId s
  rw [← received_eq_self_iff]
  constructor
  · intro hSame
    have hSender := congrArg Prod.fst (hRead.1.symm.trans hSame.1)
    have hEvent := congrArg Prod.fst (hRead.2.symm.trans hSame.2)
    exact ⟨Except.ok.inj hSender, Except.ok.inj hEvent⟩
  · rintro ⟨hSender, hEvent⟩
    rwa [hSender, hEvent] at hRead

end

/-- A goal, with updates of the game and of both teams. -/
def scored : Client.Event where
  teamAName := "Germany".toList
  teamBName := "Japan".toList
  name := "goal".toList
  time := 1980
  gameUpdates := (SortedMap.empty.insert "before halftime".toList "true".toList).insert
    "active".toList "true".toList
  teamAUpdates := (SortedMap.empty.insert "goals".toList "1".toList).insert
    "possession".toList "90%".toList
  teamBUpdates := SortedMap.empty.insert "possession".toList "10%".toList
  description := []

/-- The goal with a description. -/
def goal (description : Text) : Client.Event := { scored with description := description }

theorem goal_singleLine (description : Text) : SingleLineFields "meni".toList (goal description) where
  user := by decide
  teamA := by change '\n' ∉ scored.teamAName; decide
  teamB := by change '\n' ∉ scored.teamBName; decide
  name := by change '\n' ∉ scored.name; decide
  time := ⟨by show (-2 ^ 31 : Int) ≤ 1980; decide, by show (1980 : Int) < 2 ^ 31; decide⟩
  game := by change ∀ entry ∈ scored.gameUpdates.entries, _; decide +kernel
  updatesA := by change ∀ entry ∈ scored.teamAUpdates.entries, _; decide +kernel
  updatesB := by change ∀ entry ∈ scored.teamBUpdates.entries, _; decide +kernel

/-- A goal with updates of the game and of both teams, and a description of one line. -/
theorem eventTransport_goal :
    Received 0 ['1'] "/Germany_Japan".toList "meni".toList (goal "by Gundogan".toList) "meni".toList
        (goal "by Gundogan".toList) .new ↔
      ColonFree "meni".toList (goal "by Gundogan".toList) ∧
        '\n' ∉ (goal "by Gundogan".toList).description :=
  eventTransport_iff (by decide) (by decide) (goal_singleLine _) 0 .new

/-- The line break of a description of two lines is lost, since the description is put together
again from lines without them. -/
theorem description_not_transported : ¬∀ (subId : Int) (id channel username : Text) (e : Client.Event)
    (s : StompClient), '\n' ∉ id → '\n' ∉ channel → '\x00' ∉ username →
      '\x00' ∉ e.description → e.description.getLast? ≠ some '\n' →
      SingleLineFields username e → Received subId id channel username e username e s := by
  intro h
  have hSame := h 0 ['1'] "/Germany_Japan".toList "meni".toList (goal "by\nGundogan".toList) .new
    (by decide) (by decide) (by decide) (by decide +kernel) (by decide +kernel) (goal_singleLine _)
  have hRead := received_report (by decide : '\n' ∉ ['1'])
    (by decide : '\n' ∉ "/Germany_Japan".toList) (goal_singleLine "by\nGundogan".toList) 0 .new
  have hEvent := Except.ok.inj (congrArg Prod.fst (hRead.2.symm.trans hSame.2))
  have hDescription := congrArg Client.Event.description hEvent
  change "by\nGundogan".toList.filter (· != '\n') = "by\nGundogan".toList at hDescription
  exact absurd hDescription (by decide)

end StompGames.StompClient
