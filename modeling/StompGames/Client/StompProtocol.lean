import StompGames.Client.Game
import StompGames.Cpp.Strings

/-! `StompProtocol.h` and the protocol's part of `StompClient.cpp`. The two
threads of the client share the protocol object and the variables of `main`, so
one state holds them all. A `Text` of the client is a `std::string`, one character
for each byte. It may be read as the text that the bytes encode where the client
compares, splits and cuts at ASCII only, as it does in the frames that it writes. -/
namespace StompGames.Client

open Cpp (CppException)
open Imperative

/-- What the client uses of other code: `std::sort` by time, the reader of event
files, whether a file opens for writing, and whether a host accepts on a port. -/
structure Env where
  sort : List Event → List Event
  parseEventsFile : Text → Except CppException NamesAndEvents
  opens : Text → Bool
  connects : Text → Int → Bool

/-- The connection of the client. `sent` lists the frames written to the socket. -/
structure ConnectionHandler where
  writable : Bool
  sent : List Text
  deriving DecidableEq

/-- `ch` is `none` before the first connection and after the handler is deleted.
It stands for the variable `con` of `main` too. -/
structure StompProtocol where
  ch : Option ConnectionHandler
  username : Text
  shouldTerminateField : Bool
  isConnected : Bool
  Games : Text → Option Game

end Client

open Client Imperative
open Cpp (CppException)

/-- The protocol, the local variables of `main`, the files written, and what was
printed. -/
structure StompClient where
  receiptIdGen : Int
  subIdGen : Int
  reciepts : Int → Option Text
  subscriptions : Text → Option Int
  protocol : StompProtocol
  files : Text → Text
  console : List Text

namespace StompClient

/-- The client when `main` starts: no connection, no games, and both counters at zero. -/
def new : StompClient :=
  { receiptIdGen := 0
    subIdGen := 0
    reciepts := fun _ => none
    subscriptions := fun _ => none
    protocol := ⟨none, [], false, false, fun _ => none⟩
    files := fun _ => []
    console := [] }

/-- What goes to `cout` or `cerr`; both are the console. -/
def print (text : Text) : Method CppException StompClient Unit :=
  modify fun s => { s with console := s.console ++ [text] }

/-- A change of the protocol object, which the client owns. -/
def modifyProtocol (f : StompProtocol → StompProtocol) : Method CppException StompClient Unit :=
  modify fun s => { s with protocol := f s.protocol }

/-- `setIsConnected(status)`, the flag that both threads look at. -/
def setIsConnected (status : Bool) : Method CppException StompClient Unit :=
  modifyProtocol fun p => { p with isConnected := status }

/-- `start(connectionHandler, username)`: the connection is taken over, and the flag is set last.
-/
def start (ch : ConnectionHandler) (username : Text) : Method CppException StompClient Unit := do
  modifyProtocol fun p => { p with ch := some ch, username := username }
  setIsConnected true

/-- `sendFrameAscii(frame)`, which tells whether the frame was written. It is called only with a
connection, and without one the behaviour is undefined. -/
def sendFrameAscii (frame : Text) : Method CppException StompClient Bool := do
  let s ← get
  match s.protocol.ch with
  | none => throw .unchecked
  | some ch =>
      if ch.writable then do
        modifyProtocol fun p => { p with ch := some { ch with sent := ch.sent ++ [frame] } }
        pure true
      else pure false

/-- The part that all commands share: a frame is written or the command fails. -/
def sendOrFail (frame : Text) : Method CppException StompClient Unit := do
  let s ← get
  let done ← if s.protocol.shouldTerminateField then pure false else sendFrameAscii frame
  if done then pure ()
  else throw (.runtime_error "A frame could not be sent to the server - shuting down".toList)

/-- The frame of `handleLogin`. It has no `receipt`, and the answer to it is no receipt either.
-/
def connectFrame (host username password : Text) : Text :=
  "CONNECT\naccept-version:1.2\nhost:".toList ++ host ++ "\nlogin:".toList ++ username ++
    "\npasscode:".toList ++ password ++ "\n\n".toList

/-- The scan of the host has no bound. -/
def handleLogin (hostInfo username password : Text) : Method CppException StompClient Unit :=
  if ':' ∈ hostInfo then
    sendOrFail (connectFrame (hostInfo.takeWhile (· != ':')) username password)
  else throw .unchecked

/-- The frame of `handleJoin`: the topic is the name of the game behind a slash. -/
def subscribeFrame (game : Text) (subId receiptId : Int) : Text :=
  "SUBSCRIBE\nid:".toList ++ Decimal.decimal subId ++ "\ndestination:/".toList ++ game ++
    "\nreceipt:".toList ++ Decimal.decimal receiptId ++ "\n\n".toList

/-- `handleJoin(game, subId, receiptId)`. The game is created when the frame has been written,
before the server has answered. -/
def handleJoin (game : Text) (subId receiptId : Int) : Method CppException StompClient Unit := do
  sendOrFail (subscribeFrame game subId receiptId)
  modifyProtocol fun p => { p with Games := Function.update p.Games game (some (.new game)) }

/-- The frame of `handleExit`. -/
def unsubscribeFrame (subId receiptId : Int) : Text :=
  "UNSUBSCRIBE\nid:".toList ++ Decimal.decimal subId ++ "\nreceipt:".toList ++
    Decimal.decimal receiptId ++ "\n\n".toList

/-- `handleExit(game, subId, receiptId)`. The game and its reports are dropped when the frame has
been written. -/
def handleExit (game : Text) (subId receiptId : Int) : Method CppException StompClient Unit := do
  sendOrFail (unsubscribeFrame subId receiptId)
  modifyProtocol fun p => { p with Games := Function.update p.Games game none }

/-- The frame of `handleLogout`. -/
def disconnectFrame (receiptId : Int) : Text :=
  "DISCONNECT\nreceipt:".toList ++ Decimal.decimal receiptId ++ "\n\n".toList

/-- `handleLogout(receiptId)`. The connection is closed later, when the receipt has come. -/
def handleLogout (receiptId : Int) : Method CppException StompClient Unit :=
  sendOrFail (disconnectFrame receiptId)

/-- `Games[game]`, which makes a missing entry. -/
def gameOf (p : StompProtocol) (game : Text) : Game := (p.Games game).getD (.new [])

/-- `addUpdate(game, user, event)`. A game that is not there is created, and after the event has
been put in its half the half is sorted. -/
def addUpdate (env : Env) (game user : Text) (e : Event) : Method CppException StompClient Unit :=
  modifyProtocol fun p =>
    let updated := (gameOf p game).addUpdate env.sort user e
    { p with Games := Function.update p.Games game (some updated) }

/-- The lines of one section of updates, in the order of the keys. -/
def updateLines (updates : SortedMap Text Text) : Text :=
  updates.entries.flatMap fun entry =>
    "    ".toList ++ entry.1 ++ ": ".toList ++ entry.2 ++ ['\n']

/-- `ConstructEventFrame`: the fields of an event in a fixed order, one after another. Texts are
written as they are, and a line break in one of them is a line break of the frame. -/
def ConstructEventFrame (username : Text) (e : Event) : Text :=
  "user: ".toList ++ username ++ "\nteam a: ".toList ++ e.teamAName ++
    "\nteam b: ".toList ++ e.teamBName ++ "\nevent name: ".toList ++ e.name ++
    "\ntime: ".toList ++ Decimal.decimal e.time ++ "\ngeneral game updates:\n".toList ++
    updateLines e.gameUpdates ++ "team a updates:\n".toList ++ updateLines e.teamAUpdates ++
    "team b updates:\n".toList ++ updateLines e.teamBUpdates ++
    "description:\n".toList ++ e.description ++ ['\n']

/-- The loop of `handleReport`. Only the first frame names the file. -/
def reportEvents (env : Env) (game : Text) :
    Option Text → List Event → Method CppException StompClient Unit
  | _, [] => pure ()
  | filePath, curr :: rest => do
      let s ← get
      let fileName := match filePath with
        | some filePath => "\nfile-name:".toList ++ filePath
        | none => []
      sendOrFail ("SEND\ndestination:/".toList ++ game ++ fileName ++ "\n\n".toList ++
        ConstructEventFrame s.protocol.username curr)
      addUpdate env game s.protocol.username curr
      reportEvents env game none rest

/-- `handleReport(filePath)`: the file is read first, and its events are sent in their order to
the topic of the two teams. -/
def handleReport (env : Env) (filePath : Text) : Method CppException StompClient Unit :=
  match env.parseEventsFile filePath with
  | .error e => throw e
  | .ok data =>
      reportEvents env (data.teamAName ++ '_' :: data.teamBName) (some filePath) data.events

/-- One text that is written to the file that `handleSummary` has open. It goes to its end. -/
def write (filePath text : Text) : Method CppException StompClient Unit :=
  modify fun s =>
    { s with files := Function.update s.files filePath (s.files filePath ++ text) }

/-- The value of a statistic after the loops over the two halves. -/
def lastUpdate (key : Text) (updates : Event → SortedMap Text Text)
    (beforeHalf afterHalf : List Event) : Text :=
  (beforeHalf ++ afterHalf).foldl (fun value e => ((updates e).find? key).getD value) []

/-- The lines of one team in a summary, each with the last value of its update. -/
def teamStats (team : Text) (updates : Event → SortedMap Text Text)
    (beforeHalf afterHalf : List Event) : Text :=
  team ++ " stats:\ngoals: ".toList ++
    lastUpdate "goals".toList updates beforeHalf afterHalf ++ "\npossession: ".toList ++
    lastUpdate "possession".toList updates beforeHalf afterHalf ++ ['\n']

/-- The lines of one event in a summary. -/
def eventReport (e : Event) : Text :=
  Decimal.decimal e.time ++ " - ".toList ++ e.name ++ "\n\n".toList ++ e.description ++
    "\n\n\n".toList

/-- Opening the file empties it. -/
def handleSummary (env : Env) (game user filePath : Text) :
    Method CppException StompClient Unit :=
  if !env.opens filePath then
    throw (.runtime_error "Cannot open traget file, closing...".toList)
  else do
    modify fun s => { s with files := Function.update s.files filePath [] }
    modifyProtocol fun p => { p with Games := Function.update p.Games game (some (gameOf p game)) }
    let s ← get
    let beforeHalf := (gameOf s.protocol game).updateByUserBefore user
    let afterHalf := (gameOf s.protocol game).updateByUserAfter user
    let teams := Cpp.split game '_'
    let teamA ← Cpp.index teams 0
    let teamB ← Cpp.index teams 1
    write filePath (teamA ++ " vs ".toList ++ teamB ++ ['\n'])
    write filePath "Game stats:\nGeneral stats:\n".toList
    let isActive := if !(gameOf s.protocol game).isDone user then "true".toList
      else "false".toList
    let isBeforeHalf := if !(gameOf s.protocol game).halfTimeFalgs user then "true".toList
      else "false".toList
    write filePath ("active: ".toList ++ isActive ++ ['\n'])
    write filePath ("before halftime: ".toList ++ isBeforeHalf ++ ['\n'])
    write filePath (teamStats teamA Event.teamAUpdates beforeHalf afterHalf)
    write filePath (teamStats teamB Event.teamBUpdates beforeHalf afterHalf)
    write filePath "Game event reports:\n".toList
    write filePath ((beforeHalf ++ afterHalf).flatMap eventReport)

/-- The value of a `name: value` line. `substr(1)` drops the byte after the colon, and not
more of the character that it may begin. -/
def fieldOf (line : Text) : Method CppException StompClient Text := do
  let value ← Cpp.index (Cpp.split line ':') 1
  Cpp.substr value 1 none

/-- The indented lines at the beginning, without their first four bytes, and the rest.
Past the last line the source reads on without a check. -/
def readSection : List Text → Method CppException StompClient (List Text × List Text)
  | [] => throw .unchecked
  | line :: rest =>
      if line.head? = some ' ' then do
        let entry ← Cpp.substr line 4 none
        let (entries, after) ← readSection rest
        pure (entry :: entries, after)
      else pure ([], line :: rest)

/-- The loop over the lines of one section. The first piece is the name, and what follows the
first colon the value; a name that comes twice keeps the later one. -/
def readUpdates (entries : List Text) (updates : SortedMap Text Text) :
    Method CppException StompClient (SortedMap Text Text) :=
  match entries with
  | [] => pure updates
  | entry :: rest => do
      let key ← Cpp.index (Cpp.split entry ':') 0
      let value ← fieldOf entry
      readUpdates rest (updates.insert key value)

/-- One section and the line that heads the next. -/
def parseSection (lines : List Text) :
    Method CppException StompClient (SortedMap Text Text × List Text) := do
  let (entries, rest) ← readSection lines
  let updates ← readUpdates entries .empty
  pure (updates, rest.drop 1)

/-- The lines of the description are joined without their line breaks. -/
def parseToEvent (lines : List Text) : Method CppException StompClient Event := do
  let teamA ← fieldOf (← Cpp.index lines 6)
  let teamB ← fieldOf (← Cpp.index lines 7)
  let eventName ← fieldOf (← Cpp.index lines 8)
  let time ← Cpp.stoi (← fieldOf (← Cpp.index lines 9))
  let (gameUpdates, rest) ← parseSection (lines.drop 11)
  let (teamAUpdates, rest) ← parseSection rest
  let (teamBUpdates, rest) ← parseSection rest
  pure ⟨teamA, teamB, eventName, time, gameUpdates, teamAUpdates, teamBUpdates, rest.flatten⟩

/-- `addReceipt(rec, action)`. An action that waits under the same id is written over. -/
def addReceipt (rec : Int) (action : Text) : Method CppException StompClient Unit :=
  modify fun s => { s with reciepts := Function.update s.reciepts rec (some action) }

/-- A missing entry reads as the empty string. -/
def removeReceipt (rec : Int) : Method CppException StompClient Text := do
  let s ← get
  modify fun s => { s with reciepts := Function.update s.reciepts rec none }
  pure ((s.reciepts rec).getD [])

/-- The number in a receipt. Without a `receipt-id:` the sum of `npos` and the
length of the word wraps around to 10. -/
def receiptNumber (mes : Text) : Method CppException StompClient Int := do
  let i := match Cpp.find "receipt-id:".toList mes with
    | some found => found + 11
    | none => 10
  let digits ← Cpp.substr mes i ((Cpp.findFrom '\n' i mes).map (· - i))
  Cpp.stoi digits

/-- The action that a receipt stands for, which is forgotten. -/
def receiptAction (mes : Text) : Method CppException StompClient Text := do
  let receiptNum ← receiptNumber mes
  removeReceipt receiptNum

/-- What is done on the receipt of an action. -/
def handleReceipt (action : List Text) : Method CppException StompClient Unit := do
  let kind ← Cpp.index action 0
  if kind = "SUB".toList then do
    let topic ← Cpp.index action 1
    print ("Joined channel ".toList ++ topic ++ ['\n'])
  else if kind = "UNSUB".toList then do
    let topic ← Cpp.index action 1
    print ("Exited channel ".toList ++ topic ++ ['\n'])
  else do
    print "Disconnected from the server\n".toList
    throw (.runtime_error "Connection was terimnated.".toList)

/-- `mes` is the frame that `getFrameAscii` reads, `none` where it fails. -/
def parseResponse (env : Env) (mes : Option Text) : Method CppException StompClient Unit :=
  match mes with
  | none => do
      print "Disconnected. Exiting...\n\n".toList
      throw (.runtime_error "Connection was closed, login:\n".toList)
  | some mes => do
      let frameType ← Cpp.substr mes 0 (Cpp.findFrom '\n' 0 mes)
      if frameType = "ERROR".toList then do
        print (mes ++ ['\n'])
        throw (.runtime_error "Connection was closed, login:\n".toList)
      else if frameType = "CONNECTED".toList then print "Login successful\n".toList
      else if frameType = "RECEIPT".toList then do
        let action ← receiptAction mes
        handleReceipt (Cpp.split action ':')
      else if frameType = "MESSAGE".toList then do
        let lines := Cpp.getLines mes
        let username ← fieldOf (← Cpp.index lines 5)
        let s ← get
        if username ≠ s.protocol.username then do
          let game ← fieldOf (← Cpp.index lines 3)
          let e ← parseToEvent lines
          addUpdate env game username e
        else pure ()
      else pure ()

end StompClient
end StompGames
