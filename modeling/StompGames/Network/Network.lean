import StompGames.Network.ReportDelivery
import StompGames.Client.GameHistory

/-! The server and its clients while games are reported on: a client goes through its `report`
command turn by turn, and between any two turns the server handles a frame that was sent, or a
listening thread one that was handed to its client, or another client writes a summary. -/
namespace StompGames

open Client Imperative
open Cpp (CppException)

/-- Where a client is in the loop of `handleReport`. -/
structure Reporting where
  game : Text
  filePath : Option Text
  events : List Client.Event

namespace StompClient

/-- A `report` command up to its loop. -/
def startReport (env : Env) (filePath : Text) : Method CppException StompClient Reporting :=
  match env.parseEventsFile filePath with
  | .error e => throw e
  | .ok data => pure ⟨data.teamAName ++ '_' :: data.teamBName, some filePath, data.events⟩

/-- One turn of the loop, or what follows the last one. -/
def turn (env : Env) (r : Reporting) : Method CppException StompClient (Option Reporting) :=
  match r.events with
  | [] => do
      print "Report was sent.\n".toList
      pure none
  | e :: rest => do
      let s ← get
      sendOrFail (reportFrame r.game r.filePath s.protocol.username e)
      addUpdate env r.game s.protocol.username e
      pure (some ⟨r.game, none, rest⟩)

/-- What is left of a `report` command. -/
def restOfReport (env : Env) (r : Reporting) : Method CppException StompClient Unit := do
  reportEvents env r.game r.filePath r.events
  print "Report was sent.\n".toList

/-- The rest of the command is one turn and the rest after it. -/
theorem restOfReport_eq (env : Env) (r : Reporting) : restOfReport env r = (do
    match ← turn env r with
    | some next => restOfReport env next
    | none => pure ()) := by
  obtain ⟨game, filePath, events⟩ := r
  cases events with
  | nil => rfl
  | cons e rest =>
      funext s
      simp only [restOfReport, turn, reportEvents_cons, Method.bind_apply, Method.get_apply]
      rcases sendOrFail (reportFrame game filePath s.protocol.username e) s with ⟨_ | _, t⟩
      · rfl
      · rfl

/-- A typed `report` is its beginning and its turns. -/
theorem process_report_eq (env : Env) (filePath : Text) (receiptIdGen subIdGen : Int) :
    process env ["report".toList, filePath] receiptIdGen subIdGen = (do
      let r ← startReport env filePath
      restOfReport env r) := by
  change (do
    handleReport env filePath
    print "Report was sent.\n".toList : Method CppException StompClient Unit) = _
  unfold handleReport startReport
  cases env.parseEventsFile filePath <;> rfl

end StompClient

/-- The clients by the id of their connection. `served` counts the frames of a client that the
server has handled, `read` the frames handed to it that it has read. -/
structure Network where
  server : Server
  clients : Int → StompClient
  reporting : Int → Option Reporting
  served : Int → Nat
  read : Int → Nat

/-- What happens in the network: a client begins a report or writes a summary, a turn of the loop
of a report sends the next event, the server takes the next frame of a client, and a client reads
the next frame that was handed to it. The server decodes the bytes that it takes, and the client
reads the bytes up to the zero. -/
inductive NetworkEvent where
  | report (c : Int) (filePath : Text)
  | summary (c : Int) (game user filePath : Text)
  | turn (c : Int)
  | serve (c : Int)
  | receive (d : Int)

namespace Network

/-- The main thread of a client goes on in its command, which an exception ends. -/
def advance (c : Int) (body : Method CppException StompClient (Option Reporting)) (n : Network) :
    Network :=
  match body (n.clients c) with
  | (.ok next, client) => { n with
      clients := Function.update n.clients c client
      reporting := Function.update n.reporting c next }
  | (.error e, client) => { n with
      clients := Function.update n.clients c
        (StompClient.catching (fun what => StompClient.print (what ++ ['\n'])) (throw e) client).2
      reporting := Function.update n.reporting c none }

/-- Commands are typed one after the other, and a listening thread reads while its client is
connected. -/
def step (envs : Int → Env) (n : Network) : NetworkEvent → Option Network
  | .report c filePath =>
      if (n.clients c).protocol.isConnected && (n.reporting c).isNone then
        some (n.advance c (do
          let r ← StompClient.startReport (envs c) filePath
          pure (some r)))
      else none
  | .summary c game user filePath =>
      if (n.clients c).protocol.isConnected && (n.reporting c).isNone then
        some (n.advance c (do
          StompClient.process (envs c) ["summary".toList, game, user, filePath] 0 0
          pure none))
      else none
  | .turn c => match n.reporting c with
      | some r => some (n.advance c (StompClient.turn (envs c) r))
      | none => none
  | .serve c => match (n.clients c).sent[n.served c]? with
      | some frame => (n.server.liveStep (.process c (Cpp.decoded frame))).map fun server =>
          { n with
            server := server
            served := Function.update n.served c (n.served c + 1) }
      | none => none
  | .receive d =>
      if (n.clients d).protocol.isConnected then
        match (n.server.handedTo d)[n.read d]? with
        | some frame => some { n with
            clients := Function.update n.clients d
              (StompClient.handleFrame (envs d) (some (bytesText frame)) (n.clients d)).2
            read := Function.update n.read d (n.read d + 1) }
        | none => none
      else none

end Network

namespace StompClient
variable {s : StompClient} {username : Text}

/-- After `addUpdate`. -/
def updated (env : Env) (game user : Text) (e : Client.Event) (s : StompClient) : StompClient :=
  { s with protocol := { s.protocol with
    Games := Function.update s.protocol.Games game
      (some ((gameOf s.protocol game).addUpdate env.sort user e)) } }

theorem addUpdate_apply (env : Env) (game user : Text) (e : Client.Event) (s : StompClient) :
    addUpdate env game user e s = (.ok (), s.updated env game user e) := rfl

theorem gameOf_updated (env : Env) (game other user : Text) (e : Client.Event) (s : StompClient) :
    gameOf (s.updated env game user e).protocol other =
      if game = other then (gameOf s.protocol other).addUpdate env.sort user e
      else gameOf s.protocol other := gameOf_addUpdate env game other user e s

/-- A client that takes part: logged in, and its connection takes frames. -/
structure Online (username : Text) (s : StompClient) : Prop where
  session : s.InSession
  isConnected : s.protocol.isConnected = true
  writable : s.writable = true
  username : s.protocol.username = username

theorem Online.updated (h : s.Online username) (env : Env) (game user : Text) (e : Client.Event) :
    (s.updated env game user e).Online username :=
  ⟨⟨h.session.receiptIdGen, h.session.subIdGen, h.session.running, h.session.connected⟩,
    h.isConnected, h.writable, h.username⟩

theorem Online.wrote (h : s.Online username) (frame : Text) : (s.wrote frame).Online username := by
  obtain ⟨ch, hCh⟩ := Option.isSome_iff_exists.1 h.session.connected
  refine ⟨⟨h.session.receiptIdGen, h.session.subIdGen, h.session.running, ?_⟩, h.isConnected, ?_,
    h.username⟩
  · simp [StompClient.wrote, hCh]
  · simpa [StompClient.wrote, StompClient.writable, hCh] using h.writable

theorem Online.print (h : s.Online username) (text : Text) :
    (StompClient.print text s).2.Online username :=
  ⟨⟨h.session.receiptIdGen, h.session.subIdGen, h.session.running, h.session.connected⟩,
    h.isConnected, h.writable, h.username⟩

theorem wrote_sent (h : s.protocol.ch.isSome) (frame : Text) :
    (s.wrote frame).sent = s.sent ++ [frame] := by
  obtain ⟨ch, hCh⟩ := Option.isSome_iff_exists.1 h
  simp [wrote, sent, hCh]

/-- What a summary needs and does not change: all but its file and the console. -/
def board (s : StompClient) : (Int × Int) × StompProtocol × (Text → Game) :=
  ((s.receiptIdGen, s.subIdGen), { s.protocol with Games := fun _ => none }, gameOf s.protocol)

theorem leaves_board_summary (env : Env) (game user filePath : Text) (receiptId subId : Int) :
    Method.Leaves board (process env ["summary".toList, game, user, filePath] receiptId subId) := by
  change Method.Leaves board (do
    handleSummary env game user filePath
    print ("A summary was created at:".toList ++ filePath ++ ['\n']))
  apply Method.Leaves.bind
  · unfold handleSummary
    apply Method.leaves_ite (Method.leaves_throw _)
    apply Method.Leaves.bind
    · exact fun _ => rfl
    intro _
    apply Method.Leaves.bind
    · intro s
      have hGames : ∀ games, games = Function.update s.protocol.Games game
          (some (gameOf s.protocol game)) →
          gameOf { s.protocol with Games := games } = gameOf s.protocol := by
        rintro _ rfl
        funext other
        by_cases hOther : other = game <;> simp [gameOf, hOther]
      exact congrArg (fun games => (_, _, games)) (hGames _ rfl)
    intro _
    apply Method.leaves_get.bind
    intro s
    apply (Cpp.leaves_index board _ 0).bind
    intro teamA
    apply (Cpp.leaves_index board _ 1).bind
    intro teamB
    repeat apply Method.Leaves.bind (fun _ => rfl); intro _
    exact fun _ => rfl
  · exact fun _ _ => rfl

theorem Online.of_board {t : StompClient} (h : s.Online username) (hSame : t.board = s.board) :
    t.Online username := by
  obtain ⟨hIds, hProtocol, -⟩ := by simpa only [board, Prod.mk.injEq] using hSame
  simp only [StompProtocol.mk.injEq] at hProtocol
  obtain ⟨hCh, hUser, hRunning, hConnected, -⟩ := hProtocol
  exact ⟨⟨hIds.1.trans h.session.receiptIdGen, hIds.2.trans h.session.subIdGen,
    hRunning.trans h.session.running, hCh ▸ h.session.connected⟩, hConnected.trans h.isConnected,
    by rw [StompClient.writable, hCh]; exact h.writable, hUser.trans h.username⟩

/-- A turn that sends an event. -/
theorem Online.turn_apply (h : s.Online username) (env : Env) (game : Text) (filePath : Option Text)
    (e : Client.Event) (rest : List Client.Event) :
    turn env ⟨game, filePath, e :: rest⟩ s = (.ok (some ⟨game, none, rest⟩),
      (s.wrote (reportFrame game filePath username e)).updated env game username e) := by
  simp only [turn, Method.bind_apply, Method.get_apply, sendOrFail_apply h.session, h.writable,
    if_true, h.username, addUpdate_apply, Method.pure_apply]

end StompClient
end StompGames
