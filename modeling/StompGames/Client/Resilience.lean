import StompGames.Client.EventParsing
import StompGames.Client.Receipts
import StompGames.Client.ServerFrames
import StompGames.Server.FrameText

/-! What a `MESSAGE` frame of another client can do to a subscriber: which bodies its
parser gets through, and what the others end in. The parser works on the bytes of the
frame: where `substr` drops a character it may drop a part of one. -/
namespace StompGames.StompClient

open Client Imperative
open Cpp (CppException)

/-- The lines after the sender's line follow the layout of an event: four fields,
the third number of them an `int`, and three sections of updates, each ended by a
line that is not indented. -/
def IsEvent (lines : List Text) : Prop := ∃ e, Reports lines e

/-- A body, as the string of its bytes, whose first line names its sender and whose
other lines are an event, or do not matter since the reader is the sender. -/
def WellFormed (username body : Text) : Prop :=
  ∃ sender lines, Cpp.getLines body = sender :: lines ∧ HasField sender ∧
    (valueOf sender = username ∨ IsEvent lines)

/-- The frame is handled without an access out of bounds and without an exception,
so the client stays connected. -/
structure Survives (env : Env) (mes : Text) (s : StompClient) : Prop where
  returns : (parseResponse env (some mes) s).1 = .ok ()
  handled : (handleFrame env (some mes) s).1 = .ok ()
  connected : (handleFrame env (some mes) s).2.protocol.isConnected = s.protocol.isConnected

theorem getLines_eq_cons (body : Text) : ∃ sender lines, Cpp.getLines body = sender :: lines :=
  ⟨_, _, Cpp.splitLoop_eq '\n' [] body⟩

theorem destination_field (topic : Text) : HasField ("destination:".toList ++ '/' :: topic) :=
  ⟨"destination".toList, '/', topic, by decide, by decide, by simp⟩

section
variable {id topic : Text} (hId : '\n' ∉ id) (hTopic : '\n' ∉ topic) (subId : Int) (body : Text)
  (env : Env) (s : StompClient)
include hId hTopic

/-- The parser returns for the well-formed bodies, and touches nothing but the games. -/
theorem parseResponse_returns_iff :
    (∃ t, parseResponse env (some (messageText subId id ('/' :: topic) body)) s = (.ok (), t) ∧
      t.protocol.isConnected = s.protocol.isConnected) ↔
    WellFormed s.protocol.username body := by
  have hChannel : '\n' ∉ '/' :: topic := by simpa using hTopic
  obtain ⟨sender, lines, hLines⟩ := getLines_eq_cons body
  have hEvent : (Cpp.getLines (messageText subId id ('/' :: topic) body)).drop 6 = lines := by
    rw [getLines_messageText hId hChannel, hLines]
    rfl
  have hFirst : (Cpp.getLines body)[0]? = some sender := by rw [hLines]; rfl
  rw [parseResponse_message hId hChannel]
  simp only [Method.bind_eq_ok_iff, Cpp.index_eq_ok_iff, fieldOf_eq_ok_iff, hFirst]
  constructor
  · rintro ⟨t, ⟨_, s, ⟨rfl, hSender⟩, _, s, ⟨rfl, hField, rfl⟩, _, _, hGet, hRun⟩, -⟩
    obtain rfl := Option.some.inj hSender
    cases hGet
    refine ⟨sender, lines, hLines, hField, ?_⟩
    by_cases hOwn : valueOf sender = s.protocol.username
    · exact Or.inl hOwn
    · rw [Method.ite_apply, if_pos hOwn] at hRun
      obtain ⟨_, _, -, e, _, hParse, -⟩ := by
        simpa only [Method.bind_eq_ok_iff] using hRun
      obtain ⟨-, hReports⟩ := parseToEvent_eq_ok_iff.1 hParse
      exact Or.inr ⟨e, hEvent ▸ hReports⟩
  · rintro ⟨sender', lines', hSame, hField, hRest⟩
    obtain ⟨rfl, rfl⟩ := List.cons.inj (hLines.symm.trans hSame)
    by_cases hOwn : valueOf sender = s.protocol.username
    · refine ⟨s, ⟨sender, s, ⟨rfl, rfl⟩, _, s, ⟨rfl, hField, rfl⟩, s, s, rfl, ?_⟩, rfl⟩
      rw [Method.ite_apply, if_neg (not_not_intro hOwn)]
      rfl
    · obtain ⟨e, hReports⟩ := hRest.resolve_left hOwn
      let updated := (addUpdate env (valueOf ("destination:".toList ++ '/' :: topic))
        (valueOf sender) e s).2
      refine ⟨updated, ⟨sender, s, ⟨rfl, rfl⟩, _, s, ⟨rfl, hField, rfl⟩, s, s, rfl, ?_⟩, rfl⟩
      rw [Method.ite_apply, if_pos hOwn]
      simp only [Method.bind_eq_ok_iff, fieldOf_eq_ok_iff, parseToEvent_eq_ok_iff]
      exact ⟨_, s, ⟨rfl, destination_field topic, rfl⟩, e, s, ⟨rfl, hEvent.symm ▸ hReports⟩, rfl⟩

theorem survives_iff : Survives env (messageText subId id ('/' :: topic) body) s ↔
    WellFormed s.protocol.username body := by
  rw [← parseResponse_returns_iff hId hTopic subId body env s]
  constructor
  · intro h
    have hSame := h.connected
    rcases hRun : parseResponse env (some (messageText subId id ('/' :: topic) body)) s with
      ⟨e | _, t⟩
    · have hReturns := h.returns
      simp [hRun] at hReturns
    · refine ⟨t, rfl, ?_⟩
      simpa [handleFrame, catching, hRun] using hSame
  · rintro ⟨t, hRun, hSame⟩
    have hHandled : handleFrame env (some (messageText subId id ('/' :: topic) body)) s =
        (.ok (), t) := by
      simp only [handleFrame, catching, Method.tryCatch_apply, hRun]
    exact ⟨by rw [hRun], by rw [hHandled], by rw [hHandled]; exact hSame⟩

end

theorem zero_not_mem_messageText {channel body : Text} (hChannel : '\x00' ∉ channel)
    (hBody : '\x00' ∉ body) (subId n : Int) :
    '\x00' ∉ messageText subId (Decimal.decimal n) channel body := by
  have hNumber : ∀ k, '\x00' ∉ Decimal.decimal k := fun k => (SingleLine.of_decimal k).zero_not_mem
  unfold messageText
  simp only [List.mem_append, not_or]
  refine ⟨⟨⟨⟨⟨⟨⟨?_, hNumber subId⟩, ?_⟩, hNumber n⟩, ?_⟩, hChannel⟩, ?_⟩, hBody⟩ <;> decide

/-- The bytes of a `MESSAGE` frame, as the client reads them, are laid out as its text is. -/
theorem bytesText_messageFrame {channel body : Text} (hChannel : '\x00' ∉ channel)
    (hBody : '\x00' ∉ body) (subId n : Int) :
    bytesText (ConnectionsManager.messageFrame subId (Decimal.decimal n) channel body) =
      messageText subId (Decimal.decimal n) (Cpp.utf8 channel) (Cpp.utf8 body) := by
  have hZero := zero_not_mem_messageText hChannel hBody subId n
  have hNumber : ∀ k, Cpp.utf8 (Decimal.decimal k) = Decimal.decimal k :=
    fun k => Cpp.utf8_of_ascii fun c hc => Decimal.ascii_of_mem hc
  have hShape : ∀ p p' q r : Text, Cpp.utf8 p = p → Cpp.utf8 p' = p' → Cpp.utf8 q = q →
      Cpp.utf8 r = r →
      Cpp.utf8 (p ++ Decimal.decimal subId ++ p' ++ Decimal.decimal n ++ q ++ channel ++ r ++
        body) = p ++ Decimal.decimal subId ++ p' ++ Decimal.decimal n ++ q ++
          Cpp.utf8 channel ++ r ++ Cpp.utf8 body := by
    intro p p' q r hp hp' hq hr
    simp only [Cpp.utf8_append, hNumber, hp, hp', hq, hr]
  rw [messageFrame_eq, bytesText_eq hZero]
  exact hShape _ _ _ _ (Cpp.utf8_literal (by decide)) (Cpp.utf8_literal (by decide))
    (Cpp.utf8_literal (by decide)) (Cpp.utf8_literal (by decide))

/-- A frame that a `SEND` of any client makes the server hand out is survived just
where the bytes of its body are well-formed for the client that reads them. -/
theorem broadcast_survived_iff {message body topic : Text} {headers : Headers}
    (hMessage : '\x00' ∉ message)
    (hParse : parseFrame message = (headers, .ok ("SEND".toList, body)))
    (hDest : headers "destination".toList = some ('/' :: topic)) {server : Server}
    {handler : ConnectionHandler} {frame : Text}
    (hFrame : (handler, frame) ∈ server.cManager.broadcastFrames ('/' :: topic) body)
    (env : Env) (s : StompClient) :
    Survives env (bytesText frame) s ↔ WellFormed s.protocol.username (Cpp.utf8 body) := by
  obtain ⟨hHeaders, hOk, -⟩ := parseFrame_singleLine hMessage
  rw [hParse] at hHeaders hOk
  have hChannel : SingleLine ('/' :: topic) := hHeaders _ _ hDest
  have hBody := (hOk _ _ rfl).2
  have hTopic : '\n' ∉ Cpp.utf8 topic := fun hMem =>
    hChannel.newline_not_mem (List.mem_cons_of_mem _ ((Cpp.mem_utf8_iff (by decide)).1 hMem))
  have hSlash : Cpp.utf8 ('/' :: topic) = '/' :: Cpp.utf8 topic := Cpp.utf8_cons '/' topic
  obtain ⟨sub, -, hSome⟩ := List.mem_filterMap.1 hFrame
  obtain ⟨_, -, hSame⟩ := Option.map_eq_some_iff.1 hSome
  obtain ⟨-, rfl⟩ := Prod.mk.inj hSame
  rw [bytesText_messageFrame hChannel.zero_not_mem hBody, hSlash]
  exact survives_iff (SingleLine.of_decimal _).newline_not_mem hTopic _ _ _ _

/-- Two logged-in clients, both in the game `a`. -/
def twoPlayers : Server :=
  (Server.process 2 "SUBSCRIBE\nid:0\ndestination:/a\n\n".toList
    (Server.process 2 (Server.connectFrame "dana" "sushi")
      (Server.oneSubscriber.accept 2)).2).2

theorem twoPlayers_reachable : Transition.Reachable Server.Started Server.step twoPlayers :=
  ⟨.new true fun _ => .reply [], [.accept 1, .process 1 (Server.connectFrame "meni" "films"),
    .process 1 "SUBSCRIBE\nid:7\ndestination:/a\n\n".toList, .accept 2,
    .process 2 (Server.connectFrame "dana" "sushi"),
    .process 2 "SUBSCRIBE\nid:0\ndestination:/a\n\n".toList], ⟨true, _, rfl⟩, rfl⟩

theorem twoPlayers_frame (body : Text) :
    (⟨1⟩, ConnectionsManager.messageFrame 7 (Decimal.decimal (atomicInteger 1)) "/a".toList body) ∈
      twoPlayers.cManager.broadcastFrames "/a".toList body := by
  have hListed : ⟨0, 7, 1, "/a".toList⟩ ∈ twoPlayers.cManager.subManager.ofChannel "/a".toList :=
    List.mem_cons_self
  have hHandler : twoPlayers.cManager.connecetions 1 = some ⟨1⟩ := by rfl
  refine List.mem_filterMap.2 ⟨_, hListed, ?_⟩
  rw [hHandler]
  rfl

/-- Lines that the parser gets through when it is run on them. -/
theorem isEvent_of_isOk {lines : List Text} {s : StompClient}
    (h : (parseToEvent (List.replicate 6 [] ++ lines) s).1.isOk = true) : IsEvent lines := by
  rcases hRun : parseToEvent (List.replicate 6 [] ++ lines) s with ⟨_ | e, t⟩
  · rw [hRun] at h
    exact absurd h Bool.false_ne_true
  · exact ⟨e, (parseToEvent_eq_ok_iff.1 hRun).2⟩

/-- Dana's report, with a general update of one character beyond ASCII: what is dropped as
its indentation is the blank and three of the bytes of the character. -/
def danaReport : Text :=
  ("user: dana\nteam a: germany\nteam b: japan\nevent name: kickoff\ntime: 0\n" ++
    "general game updates:\n 😀:x\nteam a updates:\nteam b updates:\n" ++
    "description:\nbegun").toList

theorem wellFormed_danaReport (username : Text) : WellFormed username (Cpp.utf8 danaReport) := by
  have hLines : Cpp.getLines (Cpp.utf8 danaReport) =
      "user: dana".toList :: (Cpp.getLines (Cpp.utf8 danaReport)).tail := by decide +kernel
  have hEvent : IsEvent (Cpp.getLines (Cpp.utf8 danaReport)).tail :=
    isEvent_of_isOk (s := StompClient.new) (by decide +kernel)
  have hSender : HasField "user: dana".toList :=
    ⟨"user".toList, ' ', "dana".toList, by decide, by decide, by decide⟩
  exact ⟨_, _, hLines, hSender, Or.inr hEvent⟩

/-- Another player's report is survived. -/
theorem broadcast_survived_report :
    Survives oneHost (bytesText (ConnectionsManager.messageFrame 7
      (Decimal.decimal (atomicInteger 1)) "/a".toList danaReport)) loggedIn := by
  have hMessage : '\x00' ∉ "SEND\ndestination:/a\n\n".toList ++ danaReport := by decide +kernel
  have hPair (frame : Headers × Except JavaException (Text × Text))
      (hBody : frame.2 = .ok ("SEND".toList, danaReport)) :
      frame = (frame.1, .ok ("SEND".toList, danaReport)) := Prod.ext rfl hBody
  have hDest : (parseFrame ("SEND\ndestination:/a\n\n".toList ++ danaReport)).1
      "destination".toList = some ('/' :: "a".toList) := by decide +kernel
  have hParse := hPair (parseFrame ("SEND\ndestination:/a\n\n".toList ++ danaReport))
    (by decide +kernel)
  exact (broadcast_survived_iff hMessage hParse hDest (twoPlayers_frame _) oneHost loggedIn).2
    (wellFormed_danaReport _)

/-- One letter from another player is read past the end of a vector: its only line has no colon,
and the second piece of the line is taken all the same. -/
theorem body_not_survived : ¬∀ server, Transition.Reachable Server.Started Server.step server →
    ∀ c message headers body topic, server.LoggedIn c → '\x00' ∉ message →
      parseFrame message = (headers, .ok ("SEND".toList, body)) →
      headers "destination".toList = some ('/' :: topic) →
      server.cManager.isSubscribed c ('/' :: topic) = true →
      ∀ handler frame, (handler, frame) ∈ server.cManager.broadcastFrames ('/' :: topic) body →
        handler ≠ ⟨c⟩ → ∀ env s, s.protocol.isConnected = true →
          Survives env (bytesText frame) s := by
  intro h
  have hSurvives := h twoPlayers twoPlayers_reachable 2 "SEND\ndestination:/a\n\nx".toList _ ['x']
    ['a'] (by decide) (by decide) (Prod.ext rfl (by rfl)) (by rfl) (by rfl) ⟨1⟩ _
    (twoPlayers_frame ['x']) (by decide) oneHost loggedIn rfl
  have hBody : Cpp.utf8 ['x'] = ['x'] := Cpp.utf8_singleton (by decide)
  have hChannel : Cpp.utf8 "/a".toList = "/a".toList := Cpp.utf8_literal (by decide)
  rw [bytesText_messageFrame (by decide) (by decide), hBody, hChannel] at hSurvives
  obtain ⟨sender, lines, hLines, ⟨name, c, rest, -, -, hSender⟩, -⟩ :=
    (survives_iff (SingleLine.of_decimal _).newline_not_mem (by decide) _ _ _ _).1 hSurvives
  have hOne : Cpp.getLines ['x'] = [['x']] := by rfl
  obtain ⟨rfl, -⟩ := List.cons.inj (hOne.symm.trans hLines)
  have hColon : ':' ∈ (['x'] : Text) := hSender ▸ by simp
  exact absurd hColon (by decide)

end StompGames.StompClient
