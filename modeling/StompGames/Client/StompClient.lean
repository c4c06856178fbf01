import StompGames.Client.StompProtocol
import StompGames.Cpp.Input

/-! `StompClient.cpp`: what `main` does with a typed line, and what the listening
thread does with a frame. -/
namespace StompGames.StompClient

open Client Imperative
open Cpp (CppException)

/-- `connect(host, port)`: the announcement, then the socket. A port that is no number throws
before anything is tried, and a failure is printed and thrown. -/
def connect (env : Env) (host port : Text) :
    Method CppException StompClient Client.ConnectionHandler := do
  print ("Connecting to ".toList ++ host ++ " on port: ".toList ++ port ++ ['\n'])
  let number ← Cpp.stoi port
  -- the port is passed on as a `short`
  if env.connects host (number.bmod (2 ^ 16)) then pure ⟨true, []⟩
  else do
    let failed := "Cannot connect to ".toList ++ host ++ ':' :: port
    print (failed ++ ['\n'])
    throw (.runtime_error failed)

/-- The ids are passed by value: what `process` adds to them is lost when it returns. -/
def process (env : Env) (command : List Text) (receiptIdGen subIdGen : Int) :
    Method CppException StompClient Unit := do
  let action ← Cpp.index command 0
  if action = "join".toList then do
    let topic ← Cpp.index command 1
    let s ← get
    if (s.subscriptions topic).isSome then print "User already subscribed to the topic.\n".toList
    else do
      modify fun s => { s with
        subscriptions := Function.update s.subscriptions topic (some subIdGen) }
      addReceipt receiptIdGen ("SUB:".toList ++ topic)
      handleJoin topic subIdGen receiptIdGen
  else if action = "exit".toList then do
    let topic ← Cpp.index command 1
    let s ← get
    if (s.subscriptions topic).isNone then print "You are subscribed to that topic.\n".toList
    else do
      addReceipt receiptIdGen ("UNSUB:".toList ++ topic)
      let s ← get
      handleExit topic ((s.subscriptions topic).getD 0) receiptIdGen
      modify fun s => { s with subscriptions := Function.update s.subscriptions topic none }
  else if action = "report".toList then do
    let filePath ← Cpp.index command 1
    handleReport env filePath
    print "Report was sent.\n".toList
  else if action = "logout".toList then do
    addReceipt receiptIdGen "LOGOUT:LOGOUT".toList
    handleLogout receiptIdGen
  else if action = "summary".toList then do
    let topic ← Cpp.index command 1
    let user ← Cpp.index command 2
    let filePath ← Cpp.index command 3
    handleSummary env topic user filePath
    print ("A summary was created at:".toList ++ filePath ++ ['\n'])
  else print ("Unknown command: ".toList ++ action ++ " try again.\n".toList)

/-- The last connection is closed and deleted, and what was noted about it is cleared. -/
def forget : Method CppException StompClient Unit := do
  let s ← get
  if s.protocol.ch.isSome then do
    setIsConnected false
    modifyProtocol fun p => { p with ch := none }
  else pure ()
  modify fun s => { s with reciepts := fun _ => none, subscriptions := fun _ => none }

/-- The `login` branch of `main`. -/
def login (env : Env) (command : List Text) : Method CppException StompClient Unit := do
  let address ← Cpp.index command 1
  let hostInfo := Cpp.split address ':'
  forget
  let host ← Cpp.index hostInfo 0
  let port ← Cpp.index hostInfo 1
  let ch ← connect env host port
  let username ← Cpp.index command 2
  start ch username
  let password ← Cpp.index command 3
  handleLogin address username password

/-- A standard exception is printed. An unchecked access leaves the language. -/
def catching (report : Text → Method CppException StompClient Unit)
    (body : Method CppException StompClient Unit) : Method CppException StompClient Unit :=
  tryCatch body fun e =>
    match e with
    | .runtime_error what => report what
    | .invalid_argument what => report what
    | .out_of_range what => report what
    | .unchecked => throw .unchecked

/-- The `else` branch of `main`. -/
def otherCommand (env : Env) (command : List Text) : Method CppException StompClient Unit := do
  let s ← get
  if !s.protocol.isConnected then
    print ("You first must login to host before using any commands other " ++
      "than login.\n").toList
  else process env command s.receiptIdGen s.subIdGen

/-- The body of the `try` in the loop of `main`. -/
def command (env : Env) (command : List Text) : Method CppException StompClient Unit := do
  let comm ← Cpp.index command 0
  if comm = "login".toList then login env command else otherCommand env command

/-- The `try` of the loop of `main` and its handler, once `line` is the line that was read. -/
def runLine (env : Env) (line : Text) : Method CppException StompClient Unit :=
  catching (fun what => print (what ++ ['\n'])) (command env (Cpp.parseCommand line))

/-- `bufsize`. -/
def bufsize : Nat := 1024

/-- The line that `main` makes of what is typed: at most 1023 bytes of it, and of these the
ones before the first zero. -/
def lineOf (cin : Cpp.IStream) : Text := Cpp.cString (cin.getline bufsize).1

/-- One turn of the loop of `main`. It returns what is left to be read. -/
def runCommand (env : Env) (cin : Cpp.IStream) :
    Method CppException StompClient Cpp.IStream := do
  runLine env (lineOf cin)
  pure (cin.getline bufsize).2

/-- One turn of the loop of `threadLoop` once connected, with the frame it reads. -/
def handleFrame (env : Env) (mes : Option Text) : Method CppException StompClient Unit :=
  catching (fun what => do
      print (what ++ ['\n'])
      setIsConnected false)
    (parseResponse env mes)

end StompGames.StompClient
