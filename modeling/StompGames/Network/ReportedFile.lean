import StompGames.Client.EventsFile
import StompGames.Client.Summary
import StompGames.Network.Network

/-! A `report` command from its file on. What the file holds is sent and kept as a whole or not
at all, and a summary tells it. The strings are the texts that the file spells: nothing on this
way looks into them for other than ASCII, and UTF-8 keeps their order. -/
namespace StompGames

open Client Imperative
open Cpp (Floats convertNumber)

namespace StompClient

/-- The frames of a report. The first names the file. -/
def reportFrames (game : Text) (filePath : Option Text) (username : Text) :
    List Client.Event → List Text
  | [] => []
  | e :: rest => reportFrame game filePath username e :: rest.map (reportFrame game none username)

/-- What a report of these events does to a client. -/
structure Reported (env : Env) (game username : Text) (frames : List Text)
    (events : List Client.Event) (s t : StompClient) : Prop where
  online : t.Online username
  sent : t.sent = s.sent ++ frames
  games : ∀ other, gameOf t.protocol other =
    if game = other then
      (gameOf s.protocol other).addUpdates env.sort (events.map fun e => (username, e))
    else gameOf s.protocol other

section
variable {env : Env} {s : StompClient} {game username : Text}

theorem reportFrames_none (events : List Client.Event) :
    reportFrames game none username events = events.map (reportFrame game none username) := by
  cases events <;> rfl

/-- One turn of the loop, and what the others do. -/
theorem Reported.cons (h : s.Online username) (filePath : Option Text) (e : Client.Event)
    {rest : List Client.Event} {t : StompClient}
    (hRest : Reported env game username (rest.map (reportFrame game none username)) rest
      ((s.wrote (reportFrame game filePath username e)).updated env game username e) t) :
    Reported env game username (reportFrames game filePath username (e :: rest)) (e :: rest) s t where
  online := hRest.online
  sent := by
    have hWrote := wrote_sent h.session.connected (reportFrame game filePath username e)
    have hSent := hRest.sent
    change t.sent = (s.wrote (reportFrame game filePath username e)).sent ++ _ at hSent
    rw [hSent, hWrote, List.append_assoc]
    rfl
  games other := by
    have hSame : gameOf (s.wrote (reportFrame game filePath username e)).protocol other =
        gameOf s.protocol other := rfl
    rw [hRest.games, gameOf_updated, hSame]
    by_cases hGame : game = other
    · rw [if_pos hGame, if_pos hGame, if_pos hGame]
      rfl
    · rw [if_neg hGame, if_neg hGame, if_neg hGame]

/-- The loop of `handleReport`. -/
theorem reportEvents_apply (h : s.Online username) (filePath : Option Text)
    (events : List Client.Event) : ∃ t, reportEvents env game filePath events s = (.ok (), t) ∧
      Reported env game username (reportFrames game filePath username events) events s t := by
  induction events generalizing s filePath with
  | nil =>
      refine ⟨s, rfl, h, (List.append_nil _).symm, fun other => ?_⟩
      split <;> rfl
  | cons e rest ih =>
      obtain ⟨t, hRun, hReported⟩ := ih ((h.wrote _).updated env game username e) none
      refine ⟨t, ?_, .cons h filePath e (reportFrames_none rest ▸ hReported)⟩
      simpa only [reportEvents_cons, Method.bind_apply, Method.get_apply,
        sendOrFail_apply h.session, h.writable, if_true, h.username, addUpdate_apply] using hRun

/-- A report of a file that is accepted. -/
theorem process_report_accepted (h : s.Online username) {path : Text} {data : NamesAndEvents}
    (hFile : env.parseEventsFile path = .ok data) (receiptIdGen subIdGen : Int) :
    ∃ t, process env ["report".toList, path] receiptIdGen subIdGen s = (.ok (), t) ∧
      Reported env (data.teamAName ++ '_' :: data.teamBName) username
        (reportFrames (data.teamAName ++ '_' :: data.teamBName) (some path) username data.events)
        data.events s t := by
  obtain ⟨t, hRun, hReported⟩ := @reportEvents_apply env s
    (data.teamAName ++ '_' :: data.teamBName) username h (some path) data.events
  refine ⟨(print "Report was sent.\n".toList t).2, ?_, hReported.online.print _, hReported.sent,
    hReported.games⟩
  simp only [process_report_eq, startReport, hFile, Method.bind_apply, Method.pure_apply,
    restOfReport, hRun]
  rfl

end

/-- A file is reported as a whole or not at all: whatever its text is, the command sends one frame
for each of its events, in their order, and keeps them all, or it fails without a trace. -/
theorem report_whole {F : Type} {floats : Floats F} {parseError : Text → Text}
    {input : Text → Text} {env : Env}
    (hFiles : env.parseEventsFile = fun path => parseEventsFile floats parseError (input path))
    {username : Text} {s : StompClient} (h : s.Online username) (path : Text)
    (receiptIdGen subIdGen : Int) :
    (∃ data t, parseEventsFile floats parseError (input path) = .ok data ∧ data.Writable ∧
      process env ["report".toList, path] receiptIdGen subIdGen s = (.ok (), t) ∧
      Reported env (data.teamAName ++ '_' :: data.teamBName) username
        (reportFrames (data.teamAName ++ '_' :: data.teamBName) (some path) username data.events)
        data.events s t) ∨
    ∃ e, parseEventsFile floats parseError (input path) = .error e ∧
      process env ["report".toList, path] receiptIdGen subIdGen s = (.error e, s) := by
  have hFile : env.parseEventsFile path = parseEventsFile floats parseError (input path) := by
    rw [hFiles]
  cases hRead : parseEventsFile floats parseError (input path) with
  | ok data =>
      obtain ⟨t, hRun, hReported⟩ :=
        process_report_accepted h (hFile.trans hRead) receiptIdGen subIdGen
      exact Or.inl ⟨data, t, rfl, parseEventsFile_accepted hRead, hRun, hReported⟩
  | error e =>
      refine Or.inr ⟨e, rfl, ?_⟩
      simp only [process_report_eq, startReport, hFile, hRead]
      rfl

/-- The text of a file with one goal, as the library would write it. -/
def goalFile : Text := Cpp.dump noFloats (document quotedGoal).sorted

/-- Every file holds one goal. -/
def goalFiles : Env := ⟨byTime, fun _ => parseEventsFile noFloats id goalFile, fun _ => true,
  fun _ _ => true⟩

theorem goalFiles_parseEventsFile :
    goalFiles.parseEventsFile = fun _ => parseEventsFile noFloats id goalFile := by
  simp only [goalFiles]

/-- The client that reports the file. -/
def reporter : StompClient :=
  { StompClient.new with protocol := ⟨some ⟨true, []⟩, "meni".toList, false, true, fun _ => none⟩ }

theorem reporter_online : reporter.Online "meni".toList := ⟨⟨rfl, rfl, rfl, rfl⟩, rfl, rfl, rfl⟩

/-- A client reports a file with one goal. -/
theorem report_whole_goalFiles :
    (∃ data t, parseEventsFile noFloats id goalFile = .ok data ∧
      data.Writable ∧
      process goalFiles ["report".toList, "goal.json".toList] 0 0 reporter = (.ok (), t) ∧
      Reported goalFiles (data.teamAName ++ '_' :: data.teamBName) "meni".toList
        (reportFrames (data.teamAName ++ '_' :: data.teamBName) (some "goal.json".toList)
          "meni".toList data.events) data.events reporter t) ∨
    ∃ e, parseEventsFile noFloats id goalFile = .error e ∧
      process goalFiles ["report".toList, "goal.json".toList] 0 0 reporter = (.error e, reporter) :=
  @report_whole Empty noFloats id (fun _ => goalFile) goalFiles goalFiles_parseEventsFile
    "meni".toList reporter reporter_online "goal.json".toList 0 0

theorem eventsOf_reported (username : Text) (events : List Client.Event) :
    eventsOf username (events.map fun e => (username, e)) = events := by
  rw [eventsOf, List.filter_eq_self.2, List.map_map]
  · exact List.map_id _
  · simp

theorem eventsOf_append (user : Text) (calls more : List (Text × Client.Event)) :
    eventsOf user (calls ++ more) = eventsOf user calls ++ eventsOf user more := by
  rw [eventsOf, List.filter_append, List.map_append]
  rfl

theorem process_summary_files {env : Env} {a b user filePath : Text} (hA : '_' ∉ a) (hB : '_' ∉ b)
    (hOpens : env.opens filePath = true) (receiptIdGen subIdGen : Int) (s : StompClient) :
    ∃ t, process env ["summary".toList, a ++ '_' :: b, user, filePath] receiptIdGen subIdGen s =
        (.ok (), t) ∧
      t.files filePath = (Report.ofGame (gameOf s.protocol (a ++ '_' :: b)) user).text a b := by
  obtain ⟨t, hRun, hFile⟩ := handleSummary_files hA hB hOpens user s
  refine ⟨(print ("A summary was created at:".toList ++ filePath ++ ['\n']) t).2, ?_, hFile⟩
  change (do
    handleSummary env (a ++ '_' :: b) user filePath
    print ("A summary was created at:".toList ++ filePath ++ ['\n'])) s = _
  rw [Method.bind_apply, hRun]
  rfl

/-- From the text of an events file to the text of a summary: the events that a file describes are
sent, and a summary after the report is true of them and of what the user had reported before. -/
theorem file_summarised {F : Type} {floats : Floats F} {parseError : Text → Text}
    {input : Text → Text} {env : Env}
    (hFiles : env.parseEventsFile = fun path => parseEventsFile floats parseError (input path))
    (hSort : KeyOrder.Sorts Client.Event.time env.sort) {username : Text} {s : StompClient}
    (h : s.Online username) {path filePath : Text} {v : Json F} {data : NamesAndEvents}
    (hText : Json.Spells (convertNumber floats) v.tokens (input path))
    (hData : Describes floats v.sorted data) (hA : '_' ∉ data.teamAName)
    (hB : '_' ∉ data.teamBName) (hOpens : env.opens filePath = true) {name : Text}
    {calls : List (Text × Client.Event)}
    (hGame : gameOf s.protocol (data.teamAName ++ '_' :: data.teamBName) =
      (Game.new name).addUpdates env.sort calls)
    (hFirst : KeyOrder.Distinct Client.Event.time
      (firstHalf (eventsOf username calls ++ data.events)))
    (hSecond : KeyOrder.Distinct Client.Event.time
      (secondHalf (eventsOf username calls ++ data.events))) (receiptIdGen subIdGen : Int) :
    ∃ t u report, process env ["report".toList, path] receiptIdGen subIdGen s = (.ok (), t) ∧
      t.sent = s.sent ++ reportFrames (data.teamAName ++ '_' :: data.teamBName) (some path) username
        data.events ∧
      process env ["summary".toList, data.teamAName ++ '_' :: data.teamBName, username, filePath]
        receiptIdGen subIdGen t = (.ok (), u) ∧
      u.files filePath = report.text data.teamAName data.teamBName ∧
      Report.Correct report (eventsOf username calls ++ data.events) := by
  have hFile : env.parseEventsFile path = .ok data := by
    rw [hFiles]
    change parseEventsFile floats parseError (input path) = .ok data
    rw [parseEventsFile, Cpp.parse_spelled hText]
    exact readData_described hData
  obtain ⟨t, hRun, hReported⟩ := process_report_accepted h hFile receiptIdGen subIdGen
  obtain ⟨u, hSummary, hWritten⟩ := @process_summary_files env data.teamAName data.teamBName
    username filePath hA hB hOpens receiptIdGen subIdGen t
  have hHistory : gameOf t.protocol (data.teamAName ++ '_' :: data.teamBName) =
      (Game.new name).addUpdates env.sort (calls ++ data.events.map fun e => (username, e)) := by
    rw [hReported.games, if_pos rfl, hGame, Game.addUpdates, Game.addUpdates, Game.addUpdates,
      List.foldl_append]
  have hEvents : eventsOf username (calls ++ data.events.map fun e => (username, e)) =
      eventsOf username calls ++ data.events := by
    rw [eventsOf_append, eventsOf_reported]
  have hHolds := holds_addUpdates hSort name username
    (calls ++ data.events.map fun e => (username, e))
  rw [hEvents, ← hHistory] at hHolds
  exact ⟨t, u, _, hRun, hReported.sent, hSummary, hWritten, ofGame_correct hHolds hFirst hSecond⟩

/-- The report of the file, and the summary that its own reporter asks for. -/
theorem file_summarised_goalFiles : ∃ t u report,
    process goalFiles ["report".toList, "goal.json".toList] 0 0 reporter = (.ok (), t) ∧
      t.sent = reporter.sent ++ reportFrames (quotedGoal.teamAName ++ '_' :: quotedGoal.teamBName)
        (some "goal.json".toList) "meni".toList quotedGoal.events ∧
      process goalFiles ["summary".toList, quotedGoal.teamAName ++ '_' :: quotedGoal.teamBName,
        "meni".toList, "summary.txt".toList] 0 0 t = (.ok (), u) ∧
      u.files "summary.txt".toList = report.text quotedGoal.teamAName quotedGoal.teamBName ∧
      Report.Correct report (eventsOf "meni".toList [] ++ quotedGoal.events) := by
  have hEnd : Json.Spells (convertNumber noFloats) [] [] := .nil nofun
  have hText := Cpp.dump_spells _ (document_fits quotedGoal_writable) hEnd nofun
  rw [List.append_nil, List.append_nil] at hText
  have hData : Describes noFloats (document quotedGoal).sorted quotedGoal :=
    document_describes quotedGoal_writable
  rw [← document_sorted_sorted] at hData
  exact @file_summarised Empty noFloats id (fun _ => goalFile) goalFiles goalFiles_parseEventsFile
    byTime_sorts "meni".toList reporter reporter_online "goal.json".toList
    "summary.txt".toList (document quotedGoal).sorted quotedGoal hText hData (by decide) (by decide)
    rfl [] [] rfl (by decide) (by decide) 0 0

end StompClient
end StompGames
