import StompGames.Server.ConnectionsManager

/-! `StompMsgProtocol.java`. All protocol objects work on one `Database` and one
`ConnectionsManager`, so the server's state holds these and every protocol
object under its connection id. -/
namespace StompGames

open Imperative

/-- The mutable fields of a protocol object. `userName` is the empty literal until a login goes
well, and again after a teardown that reaches its end. -/
structure StompMsgProtocol where
  userName : Java.JString
  shouldTerminate : Bool
  deriving DecidableEq

/-- The state of the server. `emptyInterned` says whether the empty strings that `split` makes
are the object of the literal `""`, as they are on some Java runtimes and not on others. -/
structure Server where
  db : Database
  cManager : ConnectionsManager
  protocols : Int → StompMsgProtocol
  accepted : Int → Bool
  emptyInterned : Bool

/-- The map of the headers. A name that comes twice keeps the later value. -/
abbrev Headers := Text → Option Text

/-- Header lines up to the first empty line. The headers read before a line that
is none are kept, the handler of the exception reads them. -/
def readHeaders (headers : Headers) : List Text → Headers × Except JavaException (List Text)
  | [] => (headers, .ok [])
  | line :: rest =>
      if line.isEmpty || line.head? == some '\x00' then (headers, .ok (line :: rest))
      else match Java.splitColon line with
        | [name, value] => readHeaders (Function.update headers name (some value)) rest
        | _ => (headers, .error (.illegalArgument "Header line is incorrect format.".toList))

/-- The command and the body of a message, with the headers read until the end or
until the exception. -/
def parseFrame (message : Text) : Headers × Except JavaException (Text × Text) :=
  match Java.splitLines message with
  | [] | [] :: _ => (fun _ => none,
      .error (.illegalArgument "Empty message or missing command".toList))
  | command :: lines =>
      match readHeaders (fun _ => none) lines with
      | (headers, .error e) => (headers, .error e)
      | (headers, .ok rest) => (headers, .ok (command, ['\n'].intercalate (rest.drop 1)))

/-- `Integer.parseInt`, whose exception names the text that is no number. -/
def parseInt {σ : Type} (s : Text) : Method JavaException σ Int :=
  match Java.parseInt s with
  | none => throw (.numberFormat s)
  | some n => pure n

namespace Server

/-- A server that nobody has connected to. -/
def new (emptyInterned : Bool) (sqlService : Nat → SqlOutcome) : Server :=
  ⟨.new sqlService, .new, fun _ => ⟨.empty, false⟩, fun _ => false, emptyInterned⟩

/-- A call of a method of the database, which changes no other part of the state. -/
def onDb {α : Type} (m : Method JavaException Database α) : Method JavaException Server α :=
  m.zoom db fun db s => { s with db := db }

/-- A call of a method of the connections manager, which changes no other part of the state. -/
def onCManager {α : Type} (m : Method JavaException ConnectionsManager α) :
    Method JavaException Server α :=
  m.zoom cManager fun cManager s => { s with cManager := cManager }

/-- The protocol object of one connection, those of the others stay. -/
def setProtocol (conId : Int) (protocol : StompMsgProtocol) (s : Server) : Server :=
  { s with protocols := Function.update s.protocols conId protocol }

/-- The assignment to `userName`. The string is kept with its identity, since `conCheck` compares
it with `==`. -/
def setUserName (conId : Int) (userName : Java.JString) (s : Server) : Server :=
  s.setProtocol conId { s.protocols conId with userName := userName }

/-- The assignment to `shouldTerminate`. It is set only in `handleDisconnect`, and never taken
back. -/
def setShouldTerminate (conId : Int) (s : Server) : Server :=
  s.setProtocol conId { s.protocols conId with shouldTerminate := true }

/-- `send(conId, msg)`; no caller looks at the result. -/
def send (conId : Int) (msg : Text) : Method JavaException Server Unit := do
  let _ ← onCManager (ConnectionsManager.send conId msg)
  pure ()

/-- The frame of `sendRecipt`, with the id as it was parsed: `007` is answered with `7`. -/
def receiptFrame (receiptId : Int) : Text :=
  "RECEIPT\nreceipt-id:".toList ++ Decimal.decimal receiptId ++ "\n\n\x00".toList

/-- `sendRecipt(receiptId)`: the frame is handed to the connection's own handler. -/
def sendRecipt (conId receiptId : Int) : Method JavaException Server Unit :=
  send conId (receiptFrame receiptId)

/-- What every command does with its `receipt` header, at the end and for `DISCONNECT` before the
teardown. An id that is no number throws, after what the command did. -/
def answerReceipt (conId : Int) (headers : Headers) : Method JavaException Server Unit :=
  match headers "receipt".toList with
  | none => pure ()
  | some receipt => do
      let receiptId ← parseInt receipt
      sendRecipt conId receiptId

/-- `conCheck()`. The name is compared with the empty literal by identity, and the second test
looks the name up and not the connection. -/
def conCheck (conId : Int) : Method JavaException Server Unit := do
  let s ← get
  if (s.protocols conId).userName.isEmptyLiteral ||
      !s.db.isLoggedIn (s.protocols conId).userName.chars then
    throw (.illegalState "Client is not logged in to the server.".toList)
  else pure ()

/-- `handleDisconnect()`: the flag, the handler with its subscriptions, the session, the name, in
this order. When the SQL call of `logout` throws, the session and the name stay. -/
def handleDisconnect (conId : Int) : Method JavaException Server Unit := do
  modify (setShouldTerminate conId)
  onCManager (ConnectionsManager.disconnect conId)
  let s ← get
  if s.db.isLoggedIn (s.protocols conId).userName.chars then onDb (Database.logout conId)
  else pure ()
  modify (setUserName conId .empty)

/-- The frame of `solveError`. The message stands in a header, behind what the client gave as its
receipt, and there is no body. -/
def errorFrame (errorMsg : Text) (receipt : Option Text) : Text :=
  match receipt with
  | some receipt => "ERROR\nreceipt-id: message-".toList ++ receipt ++ "\nmessage:".toList ++
      errorMsg ++ "\n\n\x00".toList
  | none => "ERROR\nmessage:".toList ++ errorMsg ++ "\n\n\x00".toList

/-- `solveError(errorMsg, receipt)`: the frame is handed over, and the teardown of the connection
follows at once. -/
def solveError (conId : Int) (errorMsg : Text) (receipt : Option Text) :
    Method JavaException Server Unit := do
  send conId (errorFrame errorMsg receipt)
  handleDisconnect conId

/-- The answer to a login, the same for all. -/
def connectedFrame : Text := "CONNECTED\nversion:1.2\n\n\x00".toList

/-- `solveConnect(headers)`: both headers are needed, and every status but the two that open a
session is an exception. The name is kept only when the login went well. -/
def solveConnect (conId : Int) (headers : Headers) : Method JavaException Server Unit :=
  match headers "login".toList, headers "passcode".toList with
  | some user, some pass => do
      let status ← onDb (Database.login conId user pass)
      if status = .alreadyLoggedIn then throw (.runtime "User already logged in.".toList)
      else if status = .clientAlreadyConnected then
        throw (.runtime "Client already connected.".toList)
      else if status = .wrongPassword then
        throw (.runtime ("Wrong password for user:".toList ++ user))
      else do
        modify fun s => s.setUserName conId ⟨user, s.emptyInterned⟩
        send conId connectedFrame
  | _, _ => throw (.illegalArgument
      "Did not contain login or passcode headers, which are required for connection.".toList)

/-- `solveSend(headers, body)`: the checks, then the file that is tracked, and the broadcast
last. A file is tracked for any `SEND` that names one, whatever the body holds. -/
def solveSend (conId : Int) (headers : Headers) (body : Text) :
    Method JavaException Server Unit :=
  match headers "destination".toList with
  | none => throw (.illegalArgument
      ("Did not contain a destination header, which is required for " ++
        "message propagation.").toList)
  | some channel => do
      let s ← get
      if !s.cManager.isSubscribed conId channel then
        throw (.illegalArgument
          "Cant send message to a channel the user is not subscribed to.".toList)
      else do
        match headers "file-name".toList with
        | none => pure ()
        | some fileName =>
            onDb (Database.trackFileUpload (s.protocols conId).userName.chars fileName channel)
        onCManager (ConnectionsManager.sendToChannel channel body)

/-- `solveSubscribe(headers)`. The destination is asked for before the id, and no check is made
that the id is new. -/
def solveSubscribe (conId : Int) (headers : Headers) : Method JavaException Server Unit :=
  match headers "destination".toList, headers "id".toList with
  | none, _ => throw (.illegalArgument
      "Did not contain a destination header, which is required for subscription.".toList)
  | some _, none => throw (.illegalArgument
      "Did not contain an id header, which is required for subscription.".toList)
  | some channel, some id => do
      let subId ← parseInt id
      onCManager (ConnectionsManager.subscribe channel conId subId)

/-- `solveUnsubscribe(headers)`, where an id that the connection does not have is no error. -/
def solveUnsubscribe (conId : Int) (headers : Headers) : Method JavaException Server Unit :=
  match headers "id".toList with
  | none => throw (.illegalArgument
      "Did not contain an id header, which is required for unsubscription.".toList)
  | some id => do
      let subId ← parseInt id
      onCManager (ConnectionsManager.unsubscribe subId conId)

/-- The `switch` of `process`. -/
def dispatch (conId : Int) (command : Text) (headers : Headers) (body : Text) :
    Method JavaException Server Unit :=
  if command = "CONNECT".toList then do
    solveConnect conId headers
    answerReceipt conId headers
  else if command = "SEND".toList then do
    conCheck conId
    solveSend conId headers body
    answerReceipt conId headers
  else if command = "SUBSCRIBE".toList then do
    conCheck conId
    solveSubscribe conId headers
    answerReceipt conId headers
  else if command = "UNSUBSCRIBE".toList then do
    conCheck conId
    solveUnsubscribe conId headers
    answerReceipt conId headers
  else if command = "DISCONNECT".toList then do
    conCheck conId
    answerReceipt conId headers
    handleDisconnect conId
  else throw (.runtime ("Unknown command ".toList ++ command))

/-- The body of the `try` of `process`. -/
def attempt (conId : Int) (message : Text) : Method JavaException Server Unit :=
  match (parseFrame message).2 with
  | .error e => throw e
  | .ok (command, body) => dispatch conId command (parseFrame message).1 body

/-- `process(message)`: every exception of the body ends in `solveError`, with the `receipt`
header as far as the headers were read. An exception of `solveError` itself is not caught. -/
def process (conId : Int) (message : Text) : Method JavaException Server Unit :=
  tryCatch (attempt conId message) fun e =>
    solveError conId e.getMessage ((parseFrame message).1 "receipt".toList)

end Server
end StompGames
