import StompGames.Server.Broadcast
import StompGames.Server.StompMsgEncDec
import StompGames.Server.Teardown

/-! `StompBlockingConnectionHandler.run` and `close`, with every way out of them.
The thread of one connection is interleaved with the steps of the others. -/
namespace StompGames

open Imperative Server

namespace Server

/-- A handler leaves the table no sooner than its protocol object wants to end. -/
def Registered (c : Int) (s : Server) : Prop :=
  (s.protocols c).shouldTerminate = false → (s.cManager.connecetions c).isSome

/-- A frame of the connection leaves nothing of it behind that a teardown would not find. -/
theorem process_registered {c : Int} {s : Server} (hIndexed : s.Indexed) (h : s.Registered c)
    (message : Text) : (process c message s).2.Registered c := by
  refine (process_preserves (P := fun t => t.Registered c) ?_ ?_ hIndexed h message).2
  · intro u t _ hu effect hLive
    obtain ⟨hHandlers, hFlag⟩ := effect.handlers_kept
    rw [hFlag] at hLive
    rw [hHandlers]
    exact hu hLive
  · intro u hu _ hLive
    rw [(handleDisconnect_freed hu c).2.2.2] at hLive
    cases hLive

/-- Where the SQL call works, the teardown leaves nothing of the connection. -/
theorem handleDisconnect_gone {c : Int} {s : Server} (hIndexed : s.Indexed) (h : s.Works) :
    (handleDisconnect c s).2.Gone c where
  handler := (handleDisconnect_freed hIndexed c).2.1
  session := (handleDisconnect_closes h.sessions hIndexed h.sqlWorks (h.matched c)).1

end Server

/-- Where the thread stands: before it asks the socket for its streams, at the
condition of the loop, in `close` before and after `handleDisconnect`, in the `close`
of the `catch` before and after it, and behind `run`. -/
inductive BlockingPlace where
  | opening | reading | closing | closed | failing | failed | ended
  deriving DecidableEq

/-- `handleDisconnect` is behind the thread. -/
def BlockingPlace.cleaned : BlockingPlace → Bool
  | .closed | .failed | .ended => true
  | _ => false

/-- The server with one connection of which a thread of its own takes care: its decoder, the flag
of `close()`, and where the thread stands in `run`. -/
structure BlockingConnection where
  server : Server
  encdec : StompMsgEncDec
  connected : Bool
  place : BlockingPlace

namespace BlockingConnection

/-- What the socket and the other connections do. `false` stands for an `IOException`. -/
inductive Step where
  | openStreams (works : Bool)
  | leaveLoop
  | read (nextByte : UInt8)
  | endOfStream
  | readFails
  | disconnect
  | closeSocket (works : Bool)
  | other (event : Event)

/-- The condition of the loop, up to the call of `read`. -/
def goesOn (c : Int) (s : BlockingConnection) : Bool :=
  !(s.server.protocols c).shouldTerminate && s.connected

/-- `decodeNextByte`, and `process` where it returns a message. What they throw is no
`IOException`, so it leaves `run`. -/
def handleByte (c : Int) (nextByte : UInt8) (s : BlockingConnection) : BlockingConnection :=
  match StompMsgEncDec.decodeNextByte nextByte s.encdec with
  | (.overflow, encdec) => { s with encdec := encdec, place := .ended }
  | (.null, encdec) => { s with encdec := encdec }
  | (.message frame, encdec) => match Server.process c frame s.server with
      | (.ok _, server) => { s with server := server, encdec := encdec }
      | (.error _, server) => { s with server := server, encdec := encdec, place := .ended }

/-- The first two statements of `close`. -/
def close (c : Int) (next : BlockingPlace) (s : BlockingConnection) : BlockingConnection :=
  match Server.handleDisconnect c s.server with
  | (.ok _, server) => { s with server := server, connected := false, place := next }
  | (.error _, server) => { s with server := server, connected := false, place := .ended }

/-- The socket is closed by `close` and by the end of the `try`. Where that throws
before the `catch`, the `catch` calls `close` again; its own `IOException` is caught. -/
def step (c : Int) (s : BlockingConnection) : Step → Option BlockingConnection
  | .openStreams works =>
      if s.place = .opening then
        some { s with place := if works then .reading else .failing }
      else none
  | .leaveLoop =>
      if s.place = .reading ∧ s.goesOn c = false then some { s with place := .closing } else none
  | .read nextByte =>
      if s.place = .reading ∧ s.goesOn c = true then some (s.handleByte c nextByte) else none
  | .endOfStream =>
      if s.place = .reading ∧ s.goesOn c = true then some { s with place := .closing } else none
  | .readFails =>
      if s.place = .reading ∧ s.goesOn c = true then some { s with place := .failing } else none
  | .disconnect => match s.place with
      | .closing => some (s.close c .closed)
      | .failing => some (s.close c .failed)
      | _ => none
  | .closeSocket works => match s.place with
      | .closed => some { s with place := if works then .ended else .failing }
      | .failed => some { s with place := .ended }
      | _ => none
  | .other event =>
      if event.conId = c then none
      else (s.server.step event).map fun server => { s with server := server }

/-- The handler's thread is about to start: its constructor has registered it. -/
def Opened (c : Int) (s : BlockingConnection) : Prop :=
  ∃ server, Transition.Reachable StartedWorking Server.step server ∧ server.accepted c = false ∧
    s = ⟨server.accept c, .new, true, .opening⟩

/-- Nothing is left of the connection when `run` is over. -/
def CleansUp (c : Int) (s : BlockingConnection) : Prop := s.place = .ended → Freed c s.server

/-- A byte of a frame is read only while there is room for it. -/
def Fits (s : BlockingConnection) : Step → Prop
  | .read nextByte => nextByte = 0 ∨ s.encdec.byteBuffer.length < 1024
  | _ => True

instance (s : BlockingConnection) : ∀ move, Decidable (s.Fits move)
  | .read nextByte =>
      inferInstanceAs (Decidable (nextByte = 0 ∨ s.encdec.byteBuffer.length < 1024))
  | .openStreams _ | .leaveLoop | .endOfStream | .readFails | .disconnect | .closeSocket _
  | .other _ => isTrue trivial

/-- What every run keeps while no frame overflows the decoder. -/
structure Tidy (c : Int) (s : BlockingConnection) : Prop where
  indexed : s.server.Indexed
  works : s.server.Works
  accepted : s.server.accepted c = true
  registered : s.server.Registered c
  gone : s.place.cleaned = true → s.server.Gone c

theorem Opened.tidy {c : Int} {s : BlockingConnection} (h : s.Opened c) : s.Tidy c := by
  obtain ⟨server, hServer, hFresh, rfl⟩ := h
  have hIndexed : server.Indexed := reachable_indexed (reachable_started hServer)
  refine ⟨hIndexed, accept_works (reachable_works hServer) hFresh, Function.update_self .., ?_, ?_⟩
  · intro _
    change (Function.update server.cManager.connecetions c (some ⟨c⟩) c).isSome = true
    rw [Function.update_self]
    rfl
  · intro hCleaned
    cases hCleaned

theorem Tidy.cleansUp {c : Int} {s : BlockingConnection} (h : s.Tidy c) : s.CleansUp c := by
  intro hEnded
  have hGone : s.server.Gone c := h.gone (by rw [hEnded]; rfl)
  exact hGone.freed h.indexed h.works.sessions

/-- The thread goes on to a place where it owes nothing yet. -/
theorem Tidy.moved {c : Int} {s : BlockingConnection} (h : s.Tidy c) {place : BlockingPlace}
    (hPlace : place.cleaned = true → s.server.Gone c) : Tidy c { s with place := place } :=
  ⟨h.indexed, h.works, h.accepted, h.registered, hPlace⟩

/-- `close()` itself leaves the server as it is. -/
theorem Tidy.close {c : Int} {s : BlockingConnection} (h : s.Tidy c) (next : BlockingPlace) :
    (s.close c next).Tidy c := by
  have hReturns := handleDisconnect_returns (c := c) h.indexed h.works.sqlWorks
  have hGone := handleDisconnect_gone (c := c) h.indexed h.works
  have hWorks := handleDisconnect_works h.works h.indexed h.accepted
  have hIndexed := handleDisconnect_indexed h.indexed c
  have hTerminate := (handleDisconnect_freed h.indexed c).2.2.2
  have hAccepted := (congrFun (handleDisconnect_othersKept h.indexed c).accepted c).trans h.accepted
  unfold BlockingConnection.close
  rcases hRun : handleDisconnect c s.server with ⟨e | done, server⟩ <;>
    simp only [hRun] at hReturns hGone hWorks hIndexed hTerminate hAccepted
  · cases hReturns
  · refine ⟨hIndexed, hWorks, hAccepted, fun hLive => ?_, fun _ => hGone⟩
    rw [hTerminate] at hLive
    cases hLive

theorem Tidy.handleByte {c : Int} {s : BlockingConnection} (h : s.Tidy c)
    (hReading : s.place = .reading) {nextByte : UInt8} (hFits : s.Fits (.read nextByte)) :
    (s.handleByte c nextByte).Tidy c := by
  have hOpen : s.place.cleaned = true → s.server.Gone c := h.gone
  unfold BlockingConnection.handleByte
  rcases hDecoded : StompMsgEncDec.decodeNextByte nextByte s.encdec with ⟨frame | _ | _, encdec⟩
  · have hReturns := process_returns h.indexed h.works h.accepted frame
    have hRegistered := process_registered h.indexed h.registered frame
    obtain ⟨hIndexed, hWorks, hAccepted⟩ :=
      (process_left h.indexed c frame).works h.indexed h.works h.accepted
    rcases hRun : process c frame s.server with ⟨e | done, server⟩ <;>
      simp only [hRun] at hReturns hRegistered hIndexed hWorks hAccepted ⊢
    · cases hReturns
    · refine ⟨hIndexed, hWorks, hAccepted, hRegistered, ?_⟩
      rw [hReading]
      intro hCleaned
      cases hCleaned
  · exact ⟨h.indexed, h.works, h.accepted, h.registered, h.gone⟩
  · exfalso
    unfold StompMsgEncDec.decodeNextByte at hDecoded
    split at hDecoded
    · cases hDecoded
    · rename_i hByte
      rw [dif_pos (hFits.resolve_left hByte)] at hDecoded
      cases hDecoded

/-- Each step keeps it, a byte that does not fit apart: its exception leaves `run` with nothing
cleaned up. -/
theorem step_tidy {c : Int} {s t : BlockingConnection} {move : Step} (h : s.Tidy c)
    (hFits : s.Fits move) (hStep : s.step c move = some t) : t.Tidy c := by
  cases move with
  | openStreams works =>
      simp only [step, Option.ite_none_right_eq_some, Option.some.injEq] at hStep
      obtain ⟨-, rfl⟩ := hStep
      apply h.moved
      cases works <;> (intro hCleaned; cases hCleaned)
  | leaveLoop =>
      simp only [step, Option.ite_none_right_eq_some, Option.some.injEq] at hStep
      obtain ⟨-, rfl⟩ := hStep
      exact h.moved (fun hCleaned => by cases hCleaned)
  | read nextByte =>
      simp only [step, Option.ite_none_right_eq_some, Option.some.injEq] at hStep
      obtain ⟨⟨hReading, -⟩, rfl⟩ := hStep
      exact h.handleByte hReading hFits
  | endOfStream =>
      simp only [step, Option.ite_none_right_eq_some, Option.some.injEq] at hStep
      obtain ⟨-, rfl⟩ := hStep
      exact h.moved (fun hCleaned => by cases hCleaned)
  | readFails =>
      simp only [step, Option.ite_none_right_eq_some, Option.some.injEq] at hStep
      obtain ⟨-, rfl⟩ := hStep
      exact h.moved (fun hCleaned => by cases hCleaned)
  | disconnect =>
      simp only [step] at hStep
      split at hStep <;> cases hStep
      · exact h.close _
      · exact h.close _
  | closeSocket works =>
      simp only [step] at hStep
      split at hStep <;> cases hStep
      · rename_i hClosed
        exact h.moved fun _ => h.gone (by rw [hClosed]; rfl)
      · rename_i hFailed
        exact h.moved fun _ => h.gone (by rw [hFailed]; rfl)
  | other event =>
      simp only [step, Option.ite_none_left_eq_some, Option.map_eq_some_iff] at hStep
      obtain ⟨hOther, server, hServer, rfl⟩ := hStep
      obtain ⟨hAccepted, hSession, hHandler, hProtocol⟩ :=
        Server.step_other h.indexed hServer hOther
      refine ⟨step_indexed h.indexed hServer, step_works h.indexed h.works hServer,
        hAccepted.trans h.accepted, ?_, fun hCleaned => ?_⟩
      · unfold Registered
        rw [hProtocol, hHandler]
        exact h.registered
      · exact ⟨hHandler.trans (h.gone hCleaned).handler, hSession.trans (h.gone hCleaned).session⟩

/-- A full buffer ends `run` without `close`. -/
theorem step_overflow {c : Int} {s t : BlockingConnection} {move : Step} (h : s.Tidy c)
    (hFits : ¬s.Fits move) (hStep : s.step c move = some t) : ¬t.CleansUp c := by
  cases move with
  | read nextByte =>
      simp only [Fits, not_or] at hFits
      simp only [step, Option.ite_none_right_eq_some, Option.some.injEq] at hStep
      obtain ⟨⟨-, hGoesOn⟩, rfl⟩ := hStep
      have hDecoded : StompMsgEncDec.decodeNextByte nextByte s.encdec = (.overflow, s.encdec) := by
        rw [StompMsgEncDec.decodeNextByte, if_neg hFits.1, dif_neg hFits.2]
      have hLive : (s.server.protocols c).shouldTerminate = false := by
        simp only [goesOn, Bool.and_eq_true, Bool.not_eq_true'] at hGoesOn
        exact hGoesOn.1
      have hHandler := h.registered hLive
      rw [BlockingConnection.handleByte, hDecoded]
      intro hCleansUp
      have hNone := (hCleansUp rfl).handler
      dsimp only at hNone
      rw [hNone] at hHandler
      cases hHandler
  | _ => exact absurd trivial hFits

/-- In every run of the connection's thread among the other connections: when it is
over, nothing is left of the connection, exactly where no frame overflows the decoder. -/
theorem run_cleans_up_iff {c : Int} {start t : BlockingConnection} (hStart : start.Opened c)
    {moves : List Step} (hRun : Transition.run (step c) start moves = some t) :
    Transition.Always (step c) (CleansUp c) start moves ↔
      Transition.Along (step c) Fits start moves :=
  Transition.always_iff_along_of_run (fun _ hs => hs.cleansUp)
    (fun _ _ _ hs hFits hStep => step_tidy hs hFits hStep)
    (fun _ _ _ hs hFits hStep => step_overflow hs hFits hStep) hRun hStart.tidy

/-- The handler of connection 1 on a server that has just been started. -/
def firstOpened : BlockingConnection :=
  ⟨(Server.new true fun _ => .reply []).accept 1, .new, true, .opening⟩

theorem firstOpened_opened : firstOpened.Opened 1 :=
  ⟨.new true fun _ => .reply [], .init ⟨⟨true, _, rfl⟩, fun _ => rfl⟩, rfl, rfl⟩

/-- The handler of connection 2, where the first user is logged in and has subscribed. -/
def secondOpened : BlockingConnection := ⟨oneSubscriber.accept 2, .new, true, .opening⟩

theorem secondOpened_opened : secondOpened.Opened 2 := by
  refine ⟨oneSubscriber, ⟨.new true fun _ => .reply [], [.accept 1,
    .process 1 (connectFrame "meni" "films"),
    .process 1 "SUBSCRIBE\nid:7\ndestination:/a\n\n".toList], ?_, rfl⟩, rfl, rfl⟩
  exact ⟨⟨true, _, rfl⟩, fun _ => rfl⟩

/-- The client logs in and subscribes. A goal is reported to it, and in the middle of its next
frame the stream ends, and the socket cannot be closed. -/
def visit : List Step :=
  .openStreams true :: ((StompMsgEncDec.encode (connectFrame "dana" "music") ++
      StompMsgEncDec.encode "SUBSCRIBE\nid:5\ndestination:/a\n\n".toList).map .read ++
    [.other (.process 1 "SEND\ndestination:/a\n\ngoal".toList), .read 0x53, .endOfStream,
      .disconnect, .closeSocket false, .disconnect, .closeSocket true])

/-- The connection after its client has come, subscribed and gone. -/
def visited : BlockingConnection :=
  (Transition.run (step 2) secondOpened visit).getD secondOpened

/-- Every step of the visit can be taken. -/
theorem visit_run : Transition.run (step 2) secondOpened visit = some visited := by
  have hRuns : (Transition.run (step 2) secondOpened visit).isSome = true := by decide +kernel
  rw [Option.eq_some_of_isSome hRuns, Option.get_eq_getD]
  rfl

/-- The client leaves in the middle of a frame, and its socket cannot be closed the first time.
-/
theorem run_cleans_up_visit : Transition.Always (step 2) (CleansUp 2) secondOpened visit :=
  (run_cleans_up_iff secondOpened_opened visit_run).2 (by decide +kernel)

example : visited.place = .ended := by decide +kernel

/-- Bytes of a frame that fit only fill the buffer. -/
theorem run_fill {c : Int} {s : BlockingConnection} (hReading : s.place = .reading)
    (hGoesOn : s.goesOn c = true) {b : UInt8} (hByte : b ≠ 0) (n : Nat)
    (hFits : s.encdec.byteBuffer.length + n ≤ 1024) :
    ∃ t, Transition.run (step c) s (List.replicate n (.read b)) = some t ∧ t.place = .reading ∧
      t.goesOn c = true ∧ t.server = s.server ∧
      t.encdec.byteBuffer.length = s.encdec.byteBuffer.length + n := by
  induction n generalizing s with
  | zero => exact ⟨s, rfl, hReading, hGoesOn, rfl, rfl⟩
  | succ n ih =>
      have hRoom : s.encdec.byteBuffer.length < 1024 := by omega
      have hNext : s.handleByte c b = { s with encdec :=
          ⟨s.encdec.byteBuffer ++ [b], by simpa using Nat.succ_le_of_lt hRoom⟩ } := by
        rw [handleByte, StompMsgEncDec.decodeNextByte, if_neg hByte, dif_pos hRoom]
      have hLength : (s.handleByte c b).encdec.byteBuffer.length =
          s.encdec.byteBuffer.length + 1 := by
        rw [hNext, List.length_append]
        rfl
      have hStep : step c s (.read b) = some (s.handleByte c b) := by
        rw [step, if_pos ⟨hReading, hGoesOn⟩]
      obtain ⟨t, hRun, hPlace, hLive, hServer, hFilled⟩ :=
        ih (s := s.handleByte c b) (by rw [hNext, hReading]) (by rw [hNext]; exact hGoesOn)
          (by omega)
      refine ⟨t, Transition.run_cons_eq_some.2 ⟨_, hStep, hRun⟩, hPlace, hLive, ?_, ?_⟩
      · rw [hServer, hNext]
      · rw [hFilled, hLength]
        omega

/-- The 1025th byte of a frame ends the thread with an exception that no one catches, and the
connection stays registered. -/
theorem run_leaves_connection : ¬∀ c start, Opened c start → ∀ moves t,
    Transition.run (step c) start moves = some t → t.CleansUp c := by
  intro h
  obtain ⟨t, hRun, hReading, hGoesOn, hServer, hFilled⟩ :=
    run_fill (c := 1) (s := { firstOpened with place := .reading }) rfl rfl
      (show (0x61 : UInt8) ≠ 0 by decide) 1024 (by decide)
  have hLast : step 1 t (.read 0x61) = some { t with place := .ended } := by
    have hFull : ¬t.encdec.byteBuffer.length < 1024 := by
      rw [hFilled]
      decide
    rw [step, if_pos ⟨hReading, hGoesOn⟩, handleByte, StompMsgEncDec.decodeNextByte,
      if_neg (by decide), dif_neg hFull]
  have hWhole : Transition.run (step 1) firstOpened
      (.openStreams true :: (List.replicate 1024 (.read 0x61) ++ [.read 0x61])) =
        some { t with place := .ended } := by
    apply Transition.run_cons_eq_some.2
    refine ⟨{ firstOpened with place := .reading }, rfl, ?_⟩
    exact Transition.run_append_eq_some.2 ⟨t, hRun, Transition.run_cons_eq_some.2 ⟨_, hLast, rfl⟩⟩
  have hFreed := h 1 firstOpened firstOpened_opened _ _ hWhole rfl
  have hHandler : t.server.cManager.connecetions 1 = none := hFreed.handler
  rw [hServer] at hHandler
  cases hHandler

end BlockingConnection
end StompGames
