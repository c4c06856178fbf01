import StompGames.Client.StompClient
import StompGames.Lib.Transition

/-! The two threads of the client, `main` and `threadLoop`, with each access to the
protocol object as a step of its own. Connections are numbered in the order in which
they were made; a number stands for the pointers to a connection. -/
namespace StompGames.ClientThreads

open Client

/-- What `main` does next. -/
inductive MainPlace where
  | getline
  -- the branch `login`, and `start`
  | setNotConnected
  | connect
  | start
  | setConnected
  -- `process`, once `getIsConnected` was true
  | process
  /-- In `handleJoin`, after the frame was sent. -/
  | join (game : Text)
  /-- In `handleExit`, after the frame was sent. -/
  | exit (game : Text)
  deriving DecidableEq

/-- What `threadLoop` does next. -/
inductive ReceiverPlace where
  | wait
  | parseResponse
  /-- In `getFrameAscii`, or at work on the frame it returned. -/
  | reading (connection : Nat)
  /-- In the handler. `ends` says that the exception is about the end of the
  connection: a failed read, an `ERROR` or the receipt of a logout. -/
  | handler (connection : Nat) (ends : Bool)
  deriving DecidableEq

/-- The fields of the protocol object, the variables of `main`, and what has happened. -/
structure State where
  ch : Option Nat
  username : Text
  isConnected : Bool
  Games : Text → Option Game
  con : Option Nat
  subscriptions : Text → Bool
  main : MainPlace
  receiver : ReceiverPlace
  /-- How many connections were made. -/
  connections : Nat
  /-- The connection that `start` returned for last. -/
  started : Option Nat
  /-- The connections that `main` has closed. -/
  closed : Nat → Bool
  /-- The connections that have failed, were rejected or have logged out. -/
  ended : Nat → Bool
  /-- A `SUBSCRIBE` for the game was sent, and no `UNSUBSCRIBE` since. -/
  joined : Text → Bool
  /-- What came from other users since that `SUBSCRIBE`, with its users. -/
  received : Text → List (Text × Event)

/-- What one of the two threads does next. Steps of the main thread that send a frame say whether
it was written; the listening thread has the last one. -/
inductive Step where
  | login
  | setNotConnected
  | connect (succeeds : Bool)
  | start (username : Text)
  | setConnected
  | process
  | subscribe (game : Text) (sent : Bool)
  | assignGame
  | unsubscribe (game : Text) (sent : Bool)
  | eraseGame
  /-- One turn of the loop of `handleReport`, after the frame was sent. -/
  | report (game : Text) (e : Event)
  /-- `handleSummary` looks the game up. -/
  | summary (game : Text)
  | processed
  | wake
  | read
  /-- A `MESSAGE` that parses. -/
  | message (game user : Text) (e : Event)
  /-- Any other frame that is handled without an exception. -/
  | frame
  | throws (ends : Bool)
  | setFailed

/-- The part of `StompProtocol.addUpdate` under the lock. -/
def addUpdate (env : Env) (game user : Text) (e : Event) (games : Text → Option Game) :
    Text → Option Game :=
  Function.update games game
    (some (((games game).getD (.new [])).addUpdate env.sort user e))

/-- `addUpdate` for a `MESSAGE` of another user; the client's own are stored when
they are sent. -/
def State.message (env : Env) (game user : Text) (e : Event) (s : State) : State :=
  if user ≠ s.username then
    { s with
      Games := addUpdate env game user e s.Games
      received := if s.joined game then
          Function.update s.received game (s.received game ++ [(user, e)])
        else s.received }
  else s

/-- One step of one of the threads, which is only taken from the place that comes before it. -/
def step (env : Env) (s : State) : Step → Option State
  | .login =>
      if s.main = .getline then match s.con with
        | some con => some { s with
            closed := Function.update s.closed con true
            main := .setNotConnected }
        | none => some { s with subscriptions := fun _ => false, main := .connect }
      else none
  | .setNotConnected =>
      if s.main = .setNotConnected then
        -- `con` is deleted; `ch` is not touched.
        some { s with
          isConnected := false
          con := none
          subscriptions := fun _ => false
          main := .connect }
      else none
  | .connect succeeds =>
      if s.main = .connect then
        some (if succeeds then { s with
            con := some s.connections
            connections := s.connections + 1
            main := .start }
          else { s with main := .getline })
      else none
  | .start username =>
      if s.main = .start then
        some { s with ch := s.con, username := username, main := .setConnected }
      else none
  | .setConnected =>
      if s.main = .setConnected then
        -- `handleLogin` only writes to the socket.
        some { s with isConnected := true, started := s.con, main := .getline }
      else none
  | .process =>
      if s.main = .getline ∧ s.isConnected = true then some { s with main := .process } else none
  | .subscribe game sent =>
      if s.main = .process ∧ s.subscriptions game = false then
        some (if sent then { s with
            subscriptions := Function.update s.subscriptions game true
            joined := Function.update s.joined game true
            main := .join game }
          else { s with
            subscriptions := Function.update s.subscriptions game true
            main := .getline })
      else none
  | .assignGame =>
      match s.main with
      | .join game => some { s with
          Games := Function.update s.Games game (some (.new game))
          main := .getline }
      | _ => none
  | .unsubscribe game sent =>
      if s.main = .process ∧ s.subscriptions game = true then
        some (if sent then { s with
            joined := Function.update s.joined game false
            received := Function.update s.received game []
            main := .exit game }
          else { s with main := .getline })
      else none
  | .eraseGame =>
      match s.main with
      | .exit game => some { s with
          Games := Function.update s.Games game none
          subscriptions := Function.update s.subscriptions game false
          main := .getline }
      | _ => none
  | .report game e =>
      if s.main = .process then
        some { s with Games := addUpdate env game s.username e s.Games }
      else none
  | .summary game =>
      if s.main = .process then
        some { s with
          Games := Function.update s.Games game (some ((s.Games game).getD (.new []))) }
      else none
  | .processed => if s.main = .process then some { s with main := .getline } else none
  | .wake =>
      if s.receiver = .wait ∧ s.isConnected = true then
        some { s with receiver := .parseResponse }
      else none
  | .read =>
      if s.receiver = .parseResponse then
        s.ch.map fun connection => { s with receiver := .reading connection }
      else none
  | .message game user e =>
      match s.receiver with
      | .reading _ => some { s.message env game user e with receiver := .wait }
      | _ => none
  | .frame =>
      match s.receiver with
      | .reading _ => some { s with receiver := .wait }
      | _ => none
  | .throws ends =>
      match s.receiver with
      | .reading connection => some { s with
          ended := if ends then Function.update s.ended connection true else s.ended
          receiver := .handler connection ends }
      | _ => none
  | .setFailed =>
      match s.receiver with
      | .handler _ _ => some { s with isConnected := false, receiver := .wait }
      | _ => none

/-- The client when both threads start. -/
def new : State where
  ch := none
  username := []
  isConnected := false
  Games _ := none
  con := none
  subscriptions _ := false
  main := .getline
  receiver := .wait
  connections := 0
  started := none
  closed _ := false
  ended _ := false
  joined _ := false
  received _ := []

/-- A sort by time, no files, and a host that accepts. -/
def sorting : Env :=
  ⟨fun events => events.mergeSort fun a b => a.time ≤ b.time, fun _ => .error .unchecked,
    fun _ => false, fun _ _ => true⟩

end StompGames.ClientThreads
