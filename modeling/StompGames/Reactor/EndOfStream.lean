import StompGames.Server.ConnectionHandlers
import StompGames.Server.Sessions

/-! One connection of the reactor, from its reads to its end of stream. The
selector thread submits a task for each chunk and handles the end of stream
itself, while the pool runs the tasks one at a time at any later moment. -/
namespace StompGames

open Imperative Server

namespace Server

/-- A frame that opens a session and is not torn down again for its receipt header. -/
def OpensSession (s : Server) (c : Int) (message : Text) : Prop :=
  (s.acceptedLogin c message).isSome ∧ ∀ receipt,
    (parseFrame message).1 "receipt".toList = some receipt → (Java.parseInt receipt).isSome

theorem answerReceipt_ok {c : Int} {headers : Headers} {s : Server}
    (h : (answerReceipt c headers s).1 = .ok ()) {receipt : Text}
    (hReceipt : headers "receipt".toList = some receipt) : (Java.parseInt receipt).isSome := by
  rw [answerReceipt_apply, hReceipt] at h
  cases hNumber : Java.parseInt receipt with
  | none => simp [hNumber] at h
  | some receiptId => rfl

/-- Without a session only a `CONNECT` that opens one is carried out. -/
theorem attempt_ok {s : Server} (hSessions : s.Sessions) {c : Int}
    (hNone : s.db.connectionsIdMap c = none) {message : Text}
    (h : (attempt c message s).1 = .ok ()) : s.OpensSession c message := by
  have hOut : ∀ m : Method JavaException Server Unit, ((do conCheck c; m) s).1 ≠ .ok () := by
    intro m
    rw [Method.bind_apply, conCheck_apply,
      if_neg fun hLogged => hLogged.userName_ne (hSessions.unsubscribed hNone).1]
    exact nofun
  unfold attempt at h
  rcases hParse : parseFrame message with ⟨headers, e | ⟨command, body⟩⟩ <;>
    simp only [hParse] at h
  · cases h
  · unfold dispatch at h
    split at h
    · rename_i hCommand
      rw [Method.bind_apply] at h
      rcases hConnect : solveConnect c headers s with ⟨e | done, mid⟩ <;> rw [hConnect] at h
      · cases h
      · obtain ⟨user, pass, hUser, hPass⟩ := solveConnect_headers (by rw [hConnect])
        refine ⟨?_, fun receipt hReceipt => answerReceipt_ok h (by rwa [hParse] at hReceipt)⟩
        unfold acceptedLogin
        simp only [hParse, hCommand, if_true, hUser, hPass, hConnect, Option.isSome_some]
    split at h
    · exact absurd h (hOut _)
    split at h
    · exact absurd h (hOut _)
    split at h
    · exact absurd h (hOut _)
    split at h
    · exact absurd h (hOut _)
    · cases h

/-- Every other frame leaves the connection without a session. -/
theorem process_without_session {s : Server} (hIndexed : s.Indexed) (hWorks : s.Works) {c : Int}
    (hAccepted : s.accepted c = true) (hNone : s.db.connectionsIdMap c = none) {message : Text}
    (hFrame : ¬s.OpensSession c message) :
    (process c message s).2.db.connectionsIdMap c = none := by
  have hLeft := ensures_attempt message s (show Touched c s s from ⟨hIndexed, .refl⟩)
  rcases hRun : attempt c message s with ⟨e | done, u⟩ <;> rw [hRun] at hLeft
  · obtain ⟨hSent, hSentWorks, -⟩ :=
      (hLeft.next (.send (.error e.getMessage ((parseFrame message).1 "receipt".toList)))).works
        hIndexed hWorks hAccepted
    rw [process_error hRun]
    exact (handleDisconnect_closes hSentWorks.sessions hSent hSentWorks.sqlWorks
      (hSentWorks.matched c)).1
  · exact absurd (attempt_ok hWorks.sessions hNone (by rw [hRun])) hFrame

/-- And a frame that opens a session leaves it. -/
theorem process_opens_session {s : Server} (hSessions : s.Sessions) {c : Int} {message : Text}
    (h : s.OpensSession c message) :
    ∃ user, (process c message s).2.db.connectionsIdMap c = some user := by
  obtain ⟨hAccepted, hReceipt⟩ := h
  obtain ⟨⟨user, pass⟩, hLogin⟩ := Option.isSome_iff_exists.1 hAccepted
  obtain ⟨headers, body, status, db, hParse, hLogin, success, hConnect⟩ :=
    acceptedLogin_cases hLogin
  obtain ⟨ref, hSession, -⟩ := login_named hSessions.database hLogin success
  rw [hParse] at hReceipt
  refine ⟨ref, ?_⟩
  rw [process_eq hParse]
  simp only [dispatch, if_true, Method.bind_apply, hConnect, answerReceipt_apply]
  cases hHeader : headers "receipt".toList with
  | none => exact hSession
  | some receipt =>
      obtain ⟨receiptId, hNumber⟩ := Option.isSome_iff_exists.1 (hReceipt receipt hHeader)
      simp only [hNumber]
      exact hSession

end Server

/-- The connection's decoder, the tasks the pool has not begun, the bytes the
running task has not decoded, and whether the channel was closed. -/
structure ReactorConnection where
  server : Server
  encdec : StompMsgEncDec
  pending : List (List UInt8)
  running : Option (List UInt8)
  closed : Bool

namespace ReactorConnection

/-- The steps of the selector thread, of the pool, and of the other connections. -/
inductive Step where
  | read (chunk : List UInt8)
  | endOfStream
  | startTask
  | nextByte
  | endTask
  | other (event : Event)

/-- A task whose decoder or protocol object throws is over. -/
def step (c : Int) (s : ReactorConnection) : Step → Option ReactorConnection
  | .read chunk => if s.closed then none else some { s with pending := s.pending ++ [chunk] }
  | .endOfStream =>
      if s.closed then none
      else some { s with closed := true, server := (Server.handleDisconnect c s.server).2 }
  | .startTask => match s.running, s.pending with
      | none, chunk :: rest => some { s with running := some chunk, pending := rest }
      | _, _ => none
  | .nextByte => match s.running with
      | some (b :: rest) => match StompMsgEncDec.decodeNextByte b s.encdec with
          | (.overflow, encdec) => some { s with encdec := encdec, running := none }
          | (.null, encdec) => some { s with encdec := encdec, running := some rest }
          | (.message frame, encdec) => match Server.process c frame s.server with
              | (.ok _, server) =>
                  some { s with server := server, encdec := encdec, running := some rest }
              | (.error _, server) =>
                  some { s with server := server, encdec := encdec, running := none }
      | _ => none
  | .endTask => match s.running with
      | some [] => some { s with running := none }
      | _ => none
  | .other event =>
      if event.conId = c then none
      else (s.server.step event).map fun server => { s with server := server }

/-- Nothing is left of `c` once its stream has ended and its tasks are done. -/
def NoGhost (c : Int) (s : ReactorConnection) : Prop :=
  s.closed = true → s.pending = [] → s.running = none →
    s.server.db.connectionsIdMap c = none ∧
    s.server.cManager.subManager.ofConnection c = [] ∧
    (∀ channel, ∀ sub ∈ s.server.cManager.subManager.ofChannel channel, sub.conId ≠ c) ∧
    ∀ name user, s.server.db.userMap name = some user →
      (s.server.db.users user).isLoggedIn = true → (s.server.db.users user).connectionId ≠ c

/-- A frame that is decoded after the end of stream does not open a session. -/
def NoLateLogin (c : Int) (s : ReactorConnection) : Step → Prop
  | .nextByte => s.closed = true → ∀ b rest frame encdec, s.running = some (b :: rest) →
      StompMsgEncDec.decodeNextByte b s.encdec = (.message frame, encdec) →
        ¬s.server.OpensSession c frame
  | _ => True

/-- What every run keeps as long as no late frame opens a session. -/
structure Tidy (c : Int) (s : ReactorConnection) : Prop where
  indexed : s.server.Indexed
  works : s.server.Works
  accepted : s.server.accepted c = true
  session : s.closed = true → s.server.db.connectionsIdMap c = none

/-- A task never changes whether the channel is closed. -/
theorem nextByte_tidy {c : Int} {s t : ReactorConnection} (h : s.Tidy c)
    (hLate : s.NoLateLogin c .nextByte) (hStep : s.step c .nextByte = some t) : t.Tidy c := by
  simp only [step] at hStep
  split at hStep
  · rename_i b rest hRunning
    split at hStep
    · cases hStep
      exact ⟨h.indexed, h.works, h.accepted, h.session⟩
    · cases hStep
      exact ⟨h.indexed, h.works, h.accepted, h.session⟩
    · rename_i frame encdec hDecoded
      obtain ⟨hIndexed, hWorks, hAccepted⟩ :=
        (Server.process_left h.indexed c frame).works h.indexed h.works h.accepted
      have hSession : s.closed = true →
          (Server.process c frame s.server).2.db.connectionsIdMap c = none := fun hClosed =>
        Server.process_without_session h.indexed h.works h.accepted (h.session hClosed)
          (hLate hClosed b rest frame encdec hRunning hDecoded)
      split at hStep <;> rename_i hProcess <;>
        rw [hProcess] at hIndexed hWorks hAccepted hSession <;> cases hStep <;>
        exact ⟨hIndexed, hWorks, hAccepted, hSession⟩
  · cases hStep

theorem step_tidy {c : Int} {s t : ReactorConnection} {move : Step} (h : s.Tidy c)
    (hLate : s.NoLateLogin c move) (hStep : s.step c move = some t) : t.Tidy c := by
  cases move with
  | read chunk =>
      simp only [step] at hStep
      split at hStep
      · cases hStep
      · cases hStep
        exact ⟨h.indexed, h.works, h.accepted, h.session⟩
  | endOfStream =>
      simp only [step] at hStep
      split at hStep
      · cases hStep
      · cases hStep
        have hKept := Server.handleDisconnect_othersKept h.indexed c
        exact ⟨Server.handleDisconnect_indexed h.indexed c,
          Server.handleDisconnect_works h.works h.indexed h.accepted,
          (congrFun hKept.accepted c).trans h.accepted, fun _ =>
            (Server.handleDisconnect_closes h.works.sessions h.indexed h.works.sqlWorks
              (h.works.matched c)).1⟩
  | startTask =>
      simp only [step] at hStep
      split at hStep
      · cases hStep
        exact ⟨h.indexed, h.works, h.accepted, h.session⟩
      · cases hStep
  | nextByte => exact nextByte_tidy h hLate hStep
  | endTask =>
      simp only [step] at hStep
      split at hStep
      · cases hStep
        exact ⟨h.indexed, h.works, h.accepted, h.session⟩
      · cases hStep
  | other event =>
      simp only [step] at hStep
      split at hStep
      · cases hStep
      · rename_i hOther
        obtain ⟨server, hServer, rfl⟩ := Option.map_eq_some_iff.1 hStep
        obtain ⟨hAccepted, hSession, -, -⟩ := Server.step_other h.indexed hServer hOther
        exact ⟨Server.step_indexed h.indexed hServer, Server.step_works h.indexed h.works hServer,
          hAccepted.trans h.accepted, fun hClosed => hSession.trans (h.session hClosed)⟩

theorem Tidy.noGhost {c : Int} {s : ReactorConnection} (h : s.Tidy c) : s.NoGhost c := by
  intro hClosed _ _
  have hNone := h.session hClosed
  have hSubs := (h.works.sessions.unsubscribed hNone).2
  refine ⟨hNone, hSubs, ?_, (h.works.sessions.database.no_user_iff c).2 hNone⟩
  intro channel sub hSub hCon
  have hOwner := ((h.indexed.indexes.mem_key_iff channel sub).1 hSub).2
  rw [hCon, hSubs] at hOwner
  exact List.not_mem_nil hOwner

/-- The connection as it was accepted by the reactor, on a server in this state. -/
def opened (server : Server) : ReactorConnection := ⟨server, .new, [], none, false⟩

/-- When the last task of a closed connection has run, the server has forgotten the connection,
in every interleaving in which no frame that is decoded late opens a session. -/
theorem no_ghost {server : Server} {c : Int}
    (h : Transition.Reachable Server.StartedWorking Server.step server)
    (hAccepted : server.accepted c = true) {moves : List Step}
    (hLate : Transition.Along (step c) (NoLateLogin c) (opened server) moves) :
    Transition.Always (step c) (NoGhost c) (opened server) moves := by
  have hStart : (opened server).Tidy c :=
    ⟨Server.reachable_indexed (Server.reachable_started h), Server.reachable_works h, hAccepted,
      nofun⟩
  exact (Transition.always_of_along (fun _ _ _ hs hMove hStep => step_tidy hs hMove hStep)
    hStart hLate).mono fun _ hs => hs.noGhost

/-- Nothing repairs a session that the last frame opens. -/
theorem last_login_ghost {c : Int} {s : ReactorConnection} (hSessions : s.server.Sessions)
    (hClosed : s.closed = true) (hPending : s.pending = []) (hRunning : s.running = some [0])
    (hOpens : s.server.OpensSession c (Java.decodeUtf8 s.encdec.byteBuffer)) {t : ReactorConnection}
    (hRun : Transition.run (step c) s [.nextByte, .endTask] = some t) : ¬t.NoGhost c := by
  intro hNoGhost
  obtain ⟨user, hSession⟩ := process_opens_session hSessions hOpens
  obtain ⟨mid, hByte, hEnd⟩ := Transition.run_cons_eq_some.1 hRun
  obtain ⟨_, hEnd, ⟨⟩⟩ := Transition.run_cons_eq_some.1 hEnd
  simp only [step, hRunning, StompMsgEncDec.decodeNextByte, if_true] at hByte
  split at hByte <;> rename_i hProcess <;> rw [hProcess] at hSession <;> cases hByte
  · cases hEnd
    have hNone := (hNoGhost hClosed hPending rfl).1
    rw [hSession] at hNone
    cases hNone
  · cases hEnd

/-- A server that has accepted one connection. -/
def oneConnection : Server := (Server.new true fun _ => .reply []).accept 1

theorem oneConnection_reachable :
    Transition.Reachable Server.StartedWorking Server.step oneConnection :=
  ⟨.new true fun _ => .reply [], [.accept 1], ⟨⟨true, _, rfl⟩, fun _ => rfl⟩, rfl⟩

/-- The bytes of a text of ASCII characters and the zero byte after them. -/
def frameBytes (frame : Text) : List UInt8 := frame.map (fun c => c.toNat.toUInt8) ++ [0]

/-- A frame that no server accepts is decoded late, and does no harm. -/
theorem no_ghost_unknown_command : Transition.Always (step 1) (NoGhost 1) (opened oneConnection)
    [.read [0x58, 0], .endOfStream, .startTask, .nextByte, .nextByte, .endTask] := by
  apply no_ghost oneConnection_reachable rfl
  refine ⟨trivial, fun _ h => ?_⟩
  cases h
  refine ⟨trivial, fun _ h => ?_⟩
  cases h
  refine ⟨trivial, fun _ h => ?_⟩
  cases h
  refine ⟨fun _ b rest frame encdec hRunning hDecoded => ?_, fun _ h => ?_⟩
  · cases hRunning
    cases hDecoded
  · cases h
    refine ⟨fun _ b rest frame encdec hRunning hDecoded => ?_, fun _ h => ?_⟩
    · cases hRunning
      cases hDecoded
      exact fun hOpens => absurd hOpens.1 (by decide)
    · cases h
      exact ⟨trivial, fun _ _ => trivial⟩

/-- A `CONNECT` is read, the stream ends, and then the task runs. -/
def lateLogin : List Step :=
  [.read (frameBytes (connectFrame "meni" "films")), .endOfStream, .startTask] ++
    List.replicate (frameBytes (connectFrame "meni" "films")).length .nextByte ++ [.endTask]

/-- The frame of a login is still with the pool when the stream ends. The session is opened after
the teardown, and nothing will ever end it. -/
theorem late_login_ghost : ¬∀ server c,
    Transition.Reachable Server.StartedWorking Server.step server → server.accepted c = true →
      ∀ moves, Transition.Always (step c) (NoGhost c) (opened server) moves := by
  intro h
  have hGhost : (Transition.run (step 1) (opened oneConnection) lateLogin).any (fun t =>
      t.closed && t.pending.isEmpty && t.running.isNone &&
        (t.server.db.connectionsIdMap 1).isSome) = true := by decide +kernel
  obtain ⟨t, hRun, hEnd⟩ := (Option.any_eq_true _ _).1 hGhost
  simp only [Bool.and_eq_true, List.isEmpty_iff, Option.isNone_iff_eq_none] at hEnd
  obtain ⟨⟨⟨hClosed, hPending⟩, hRunning⟩, hSession⟩ := hEnd
  have hAlways := h oneConnection 1 oneConnection_reachable rfl lateLogin
  rw [(hAlways.last hRun hClosed hPending hRunning).1] at hSession
  cases hSession

end ReactorConnection
end StompGames
