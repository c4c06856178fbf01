import StompGames.Client.StompClient
import StompGames.Server.Requests

/-! The commands that wait for a receipt. Each of them first makes its notes and
then writes its frame, and the listening thread may come in between. -/
namespace StompGames

open Client Imperative
open Cpp (CppException)

/-- A topic that can be typed and sent. -/
structure Topic where
  name : Text
  no_space : ' ' ∉ name
  no_break : ∀ ch ∈ name, Java.isLineBreak ch = false
  deriving DecidableEq

/-- The topic of the game that the data files of the repository are about. -/
def germany : Topic := ⟨"germany_japan".toList, by decide, Java.noBreak_of_any (by decide)⟩

/-- A topic that shares no team with the other one. -/
def spain : Topic := ⟨"spain_italy".toList, by decide, Java.noBreak_of_any (by decide)⟩

/-- The commands of a connected client whose frames ask for a receipt. -/
inductive Command where
  | join (topic : Topic)
  | exit (topic : Topic)
  | logout
  deriving DecidableEq

namespace Command

/-- The words of a command, as they are typed. -/
def words : Command → List Text
  | join topic => ["join".toList, topic.name]
  | exit topic => ["exit".toList, topic.name]
  | logout => ["logout".toList]

/-- The line of a command, once `main` has read it. -/
def line (command : Command) : Text := [' '].intercalate command.words

/-- The action under which a command waits for its receipt. -/
def action : Command → Text
  | join topic => "SUB:".toList ++ topic.name
  | exit topic => "UNSUB:".toList ++ topic.name
  | logout => "LOGOUT:LOGOUT".toList

/-- Whether `process` only prints something: joining twice, leaving what was not joined. -/
def refused (s : StompClient) : Command → Bool
  | join topic => (s.subscriptions topic.name).isSome
  | exit topic => (s.subscriptions topic.name).isNone
  | logout => false

/-- What is printed in place of a frame. The text for `exit` says that the user is subscribed,
and is printed where the user is not. -/
def refusal : Command → Text
  | join _ => "User already subscribed to the topic.\n".toList
  | exit _ => "You are subscribed to that topic.\n".toList
  | logout => []

/-- The frame of a command. -/
def frame (s : StompClient) : Command → Text
  | join topic => StompClient.subscribeFrame topic.name s.subIdGen s.receiptIdGen
  | exit topic =>
      StompClient.unsubscribeFrame ((s.subscriptions topic.name).getD 0) s.receiptIdGen
  | logout => StompClient.disconnectFrame s.receiptIdGen

theorem parseCommand_line (command : Command) : Cpp.parseCommand command.line = command.words := by
  cases command with
  | join topic =>
      have hWord : ' ' ∉ "join".toList := by decide
      have hSplit := Cpp.parseCommand_two hWord topic.no_space
      simpa [line, words] using hSplit
  | exit topic =>
      have hWord : ' ' ∉ "exit".toList := by decide
      have hSplit := Cpp.parseCommand_two hWord topic.no_space
      simpa [line, words] using hSplit
  | logout => rfl

theorem action_ne_nil (command : Command) : command.action ≠ [] := by
  cases command with
  | join topic => exact List.append_ne_nil_of_left_ne_nil (by decide) _
  | exit topic => exact List.append_ne_nil_of_left_ne_nil (by decide) _
  | logout => decide

end Command

namespace StompClient

/-- The notes of a command: the receipt it waits for, and the subscription of a join. -/
def noted (command : Command) (s : StompClient) : StompClient :=
  { s with
    subscriptions := match command with
      | .join topic => Function.update s.subscriptions topic.name (some s.subIdGen)
      | _ => s.subscriptions
    reciepts := Function.update s.reciepts s.receiptIdGen (some command.action) }

/-- What a command does before its frame is written, and whether there is one. -/
def record (command : Command) : Method CppException StompClient Bool := do
  let s ← get
  if command.refused s then do
    print command.refusal
    pure false
  else do
    modify (noted command)
    pure true

/-- The frame of a command is written, and what follows it. -/
def transmit (command : Command) : Method CppException StompClient Unit := do
  let s ← get
  match command with
  | .join topic => handleJoin topic.name s.subIdGen s.receiptIdGen
  | .exit topic => do
      handleExit topic.name ((s.subscriptions topic.name).getD 0) s.receiptIdGen
      modify fun s => { s with
        subscriptions := Function.update s.subscriptions topic.name none }
  | .logout => handleLogout s.receiptIdGen

/-- `process` makes the notes of a command and then writes its frame. -/
theorem process_eq (env : Env) (command : Command) (s : StompClient) :
    process env command.words s.receiptIdGen s.subIdGen s =
      (do if ← record command then transmit command else pure ()) s := by
  cases command with
  | join topic =>
      change (do
        let t ← get
        if (t.subscriptions topic.name).isSome then
          print "User already subscribed to the topic.\n".toList
        else do
          modify fun t => { t with
            subscriptions := Function.update t.subscriptions topic.name (some s.subIdGen) }
          addReceipt s.receiptIdGen (Command.join topic).action
          handleJoin topic.name s.subIdGen s.receiptIdGen :
            Method CppException StompClient Unit) s = _
      have hRefused : (Command.join topic).refused s = (s.subscriptions topic.name).isSome := rfl
      unfold record transmit
      cases hTopic : (s.subscriptions topic.name).isSome <;>
        simp only [Method.bind_apply, Method.get_apply, hRefused, hTopic] <;> rfl
  | exit topic =>
      change (do
        let t ← get
        if (t.subscriptions topic.name).isNone then
          print "You are subscribed to that topic.\n".toList
        else do
          addReceipt s.receiptIdGen (Command.exit topic).action
          let t ← get
          handleExit topic.name ((t.subscriptions topic.name).getD 0) s.receiptIdGen
          modify fun t => { t with
            subscriptions := Function.update t.subscriptions topic.name none } :
            Method CppException StompClient Unit) s = _
      have hRefused : (Command.exit topic).refused s = (s.subscriptions topic.name).isNone := rfl
      unfold record transmit
      cases hTopic : (s.subscriptions topic.name).isNone <;>
        simp only [Method.bind_apply, Method.get_apply, hRefused, hTopic] <;> rfl
  | logout => rfl

/-- None of these commands is the login. -/
theorem command_words (env : Env) (command : Command) :
    StompClient.command env command.words = otherCommand env command.words := by
  have hOther : ∀ (word : Text) (rest : List Text), word ≠ "login".toList →
      StompClient.command env (word :: rest) = otherCommand env (word :: rest) := by
    intro word rest hWord
    show (if word = "login".toList then login env (word :: rest)
      else otherCommand env (word :: rest)) = _
    rw [if_neg hWord]
  cases command with
  | join topic => exact hOther _ _ (by decide)
  | exit topic => exact hOther _ _ (by decide)
  | logout => exact hOther _ _ (by decide)

/-- A typed command of a connected client. -/
theorem runLine_eq (env : Env) (command : Command) {s : StompClient}
    (hConnected : s.protocol.isConnected = true) :
    runLine env command.line s =
      catching (fun what => print (what ++ ['\n']))
        (do if ← record command then transmit command else pure ()) s := by
  have hProcess : StompClient.command env command.words s =
      (do if ← record command then transmit command else pure ()) s := by
    rw [command_words, ← process_eq env]
    simp only [otherCommand, Method.bind_apply, Method.get_apply, hConnected, Bool.not_true,
      Bool.false_eq_true, if_false]
  unfold runLine catching
  rw [command.parseCommand_line, Method.tryCatch_apply, Method.tryCatch_apply, hProcess]

/-- A client that is not connected only prints something. -/
theorem runLine_disconnected (env : Env) (command : Command) {s : StompClient}
    (hConnected : s.protocol.isConnected = false) : ∃ text,
      runLine env command.line s = (.ok (), { s with console := s.console ++ [text] }) := by
  unfold runLine catching
  rw [command.parseCommand_line, command_words, Method.tryCatch_apply]
  simp only [otherCommand, Method.bind_apply, Method.get_apply, hConnected, Bool.not_false,
    if_true, print, Method.modify_apply]
  exact ⟨_, rfl⟩

/-- A client that has logged in at least once. Nothing ever changes the ids, and
nothing ends the program. -/
structure InSession (s : StompClient) : Prop where
  receiptIdGen : s.receiptIdGen = 0
  subIdGen : s.subIdGen = 0
  running : s.protocol.shouldTerminateField = false
  connected : s.protocol.ch.isSome

/-- The frames written on the present connection. -/
def sent (s : StompClient) : List Text := (s.protocol.ch.map ConnectionHandler.sent).getD []

/-- Whether the present connection still takes frames. -/
def writable (s : StompClient) : Bool := s.protocol.ch.any ConnectionHandler.writable

/-- The frame is on the socket, and nothing else about the client is changed. -/
def wrote (frame : Text) (s : StompClient) : StompClient :=
  { s with protocol := { s.protocol with
    ch := s.protocol.ch.map fun ch => { ch with sent := ch.sent ++ [frame] } } }

/-- After the frame of a command was written. -/
def transmitted (command : Command) (s : StompClient) : StompClient :=
  let t := s.wrote (command.frame s)
  match command with
  | .join topic => { t with protocol := { t.protocol with
      Games := Function.update t.protocol.Games topic.name (some (.new topic.name)) } }
  | .exit topic => { t with
      subscriptions := Function.update t.subscriptions topic.name none
      protocol := { t.protocol with
        Games := Function.update t.protocol.Games topic.name none } }
  | .logout => t

/-- What the login command leaves behind. -/
structure JustLoggedIn (s : StompClient) : Prop where
  inSession : s.InSession
  isConnected : s.protocol.isConnected = true
  writable : s.writable = true
  noTopics : s.subscriptions = fun _ => none
  noReceipts : s.reciepts = fun _ => none

theorem record_apply (command : Command) (s : StompClient) : record command s =
    if command.refused s then (.ok false, { s with console := s.console ++ [command.refusal] })
    else (.ok true, s.noted command) := by
  simp only [record, Method.bind_apply, Method.get_apply, Method.ite_apply]
  split <;> rfl

theorem sendFrameAscii_apply {s : StompClient} (h : s.protocol.ch.isSome) (frame : Text) :
    sendFrameAscii frame s = (.ok s.writable, if s.writable then s.wrote frame else s) := by
  obtain ⟨ch, hCh⟩ := Option.isSome_iff_exists.1 h
  have hWritable : s.writable = ch.writable := by simp [writable, hCh]
  have hWrote : s.wrote frame = { s with protocol := { s.protocol with
      ch := some { ch with sent := ch.sent ++ [frame] } } } := by simp [wrote, hCh]
  rw [hWritable, hWrote]
  simp only [sendFrameAscii, Method.bind_apply, Method.get_apply, hCh, Method.ite_apply]
  split
  · simp [*, modifyProtocol]
  · simp [*]

/-- Writing a frame fails as a whole. -/
theorem sendOrFail_apply {s : StompClient} (h : s.InSession) (frame : Text) :
    sendOrFail frame s = if s.writable then (.ok (), s.wrote frame) else
      (.error (.runtime_error
        "A frame could not be sent to the server - shuting down".toList), s) := by
  simp only [sendOrFail, Method.bind_apply, Method.get_apply, h.running, Bool.false_eq_true,
    if_false, sendFrameAscii_apply h.connected]
  cases s.writable <;> rfl

theorem transmit_apply {s : StompClient} (h : s.InSession) (command : Command) :
    transmit command s = if s.writable then (.ok (), s.transmitted command) else
      (.error (.runtime_error
        "A frame could not be sent to the server - shuting down".toList), s) := by
  cases command <;>
    simp only [transmit, Method.bind_apply, Method.get_apply, handleJoin, handleExit,
      handleLogout, sendOrFail_apply h] <;> cases s.writable <;> rfl

theorem InSession.noted {s : StompClient} (h : s.InSession) (command : Command) :
    (s.noted command).InSession := ⟨h.receiptIdGen, h.subIdGen, h.running, h.connected⟩

theorem InSession.transmitted {s : StompClient} (h : s.InSession) (command : Command) :
    (s.transmitted command).InSession := by
  have hCh : (s.wrote (command.frame s)).protocol.ch.isSome := by
    simpa [wrote] using h.connected
  cases command <;> exact ⟨h.receiptIdGen, h.subIdGen, h.running, hCh⟩

theorem transmitted_sent {s : StompClient} (h : s.InSession) (command : Command) :
    (s.transmitted command).sent = s.sent ++ [command.frame s] := by
  obtain ⟨ch, hCh⟩ := Option.isSome_iff_exists.1 h.connected
  have hWrote : (s.wrote (command.frame s)).sent = s.sent ++ [command.frame s] := by
    simp [wrote, sent, hCh]
  cases command <;> exact hWrote

theorem transmitted_reciepts (command : Command) (s : StompClient) :
    (s.transmitted command).reciepts = s.reciepts := by
  cases command <;> rfl

theorem transmitted_writable (command : Command) (s : StompClient) :
    (s.transmitted command).writable = s.writable := by
  have hWrote : (s.wrote (command.frame s)).writable = s.writable := by
    cases hCh : s.protocol.ch <;> simp [wrote, writable, hCh]
  cases command <;> exact hWrote

/-- The client after `start`: the connection, the name, and the flag. -/
def started (ch : Client.ConnectionHandler) (username : Text) (s : StompClient) : StompClient :=
  { s with
    protocol := { s.protocol with ch := some ch, username := username, isConnected := true } }

theorem start_apply (ch : Client.ConnectionHandler) (username : Text) (s : StompClient) :
    start ch username s = (.ok (), s.started ch username) := rfl

/-- A login on a host that accepts the connection, whatever the client did before. -/
theorem login_justLoggedIn {env : Env} {s : StompClient} (hReceipt : s.receiptIdGen = 0)
    (hSub : s.subIdGen = 0) (hRunning : s.protocol.shouldTerminateField = false)
    {host port username password : Text} (hHost : ':' ∉ host) (hPort : ':' ∉ port) {number : Int}
    (hNumber : Cpp.leadingInt (port.dropWhile Cpp.isSpace) = some number)
    (hRange : -2 ^ 31 ≤ number ∧ number < 2 ^ 31)
    (hConnects : env.connects host (number.bmod (2 ^ 16)) = true) :
    ∃ t, login env ["login".toList, host ++ ':' :: port, username, password] s = (.ok (), t) ∧
      t.JustLoggedIn ∧ t.sent = [connectFrame host username password] := by
  have hSplit : Cpp.split (host ++ ':' :: port) ':' = [host, port] := by
    rw [Cpp.split, Cpp.splitLoop_append hHost, Cpp.splitLoop_of_not_mem hPort]
    rfl
  have hScan : (host ++ ':' :: port).takeWhile (· != ':') = host :=
    Framing.upTo_append hHost port
  have hPortNumber : ∀ t : StompClient, Cpp.stoi port t = (.ok number, t) := by
    intro t
    simp only [Cpp.stoi, hNumber, if_pos hRange, Method.pure_apply]
  have hConnect : ∀ t : StompClient, ∃ console, connect env host port t =
      (.ok ⟨true, []⟩, { t with console := console }) := by
    intro t
    simp only [connect, Method.bind_apply, print, Method.modify_apply, hPortNumber, hConnects,
      if_true, Method.pure_apply]
    exact ⟨_, rfl⟩
  obtain ⟨mid, hForget, hNoTopics, hNoReceipts, hIds, hStill⟩ : ∃ mid, forget s = (.ok (), mid) ∧
      mid.subscriptions = (fun _ => none) ∧ mid.reciepts = (fun _ => none) ∧
      (mid.receiptIdGen = 0 ∧ mid.subIdGen = 0) ∧ mid.protocol.shouldTerminateField = false := by
    unfold forget
    cases hCh : s.protocol.ch <;>
      simp [hCh, setIsConnected, modifyProtocol, hReceipt, hSub, hRunning]
  obtain ⟨console, hConnected⟩ := hConnect mid
  have hSend : ∀ t : StompClient, handleLogin (host ++ ':' :: port) username password t =
      sendOrFail (connectFrame host username password) t := by
    intro t
    rw [handleLogin, if_pos (by simp), hScan]
  have hLast : (({ mid with console := console } : StompClient).started ⟨true, []⟩
      username).InSession := ⟨hIds.1, hIds.2, hStill, rfl⟩
  refine ⟨(({ mid with console := console } : StompClient).started ⟨true, []⟩ username).wrote
    (connectFrame host username password), ?_, ?_, rfl⟩
  · simp only [login, Method.bind_apply, Cpp.index, List.getElem?_cons_succ,
      List.getElem?_cons_zero, Method.pure_apply, hForget, hSplit, hConnected, start_apply, hSend]
    exact sendOrFail_apply hLast _
  · exact ⟨⟨hIds.1, hIds.2, hStill, rfl⟩, rfl, rfl, hNoTopics, hNoReceipts⟩

/-- A host that accepts, and no files. -/
def oneHost : Env := ⟨id, fun _ => .error .unchecked, fun _ => false, fun _ _ => true⟩

/-- A new client after its login. -/
def loggedIn : StompClient :=
  (runLine oneHost "login 127.0.0.1:7777 meni films".toList .new).2

theorem loggedIn_justLoggedIn : loggedIn.JustLoggedIn := by
  have hHost : ':' ∉ "127.0.0.1".toList := by decide
  have hPort : ':' ∉ "7777".toList := by decide
  have hNumber : Cpp.leadingInt ("7777".toList.dropWhile Cpp.isSpace) = some 7777 := by decide
  have hLogin : ∃ t, login oneHost ["login".toList, "127.0.0.1".toList ++ ':' :: "7777".toList,
      "meni".toList, "films".toList] .new = (.ok (), t) ∧ t.JustLoggedIn ∧ t.sent =
        [connectFrame "127.0.0.1".toList "meni".toList "films".toList] :=
    login_justLoggedIn rfl rfl rfl hHost hPort hNumber (by decide) rfl
  obtain ⟨t, hRun, hLogged, -⟩ := hLogin
  have hWords : Cpp.parseCommand "login 127.0.0.1:7777 meni films".toList =
      ["login".toList, "127.0.0.1".toList ++ ':' :: "7777".toList, "meni".toList,
        "films".toList] := by decide
  have hCommand : ∀ words : List Text,
      StompClient.command oneHost ("login".toList :: words) .new =
        login oneHost ("login".toList :: words) .new := fun _ => rfl
  have hEnd : loggedIn = t := by
    rw [loggedIn, runLine, hWords, catching, Method.tryCatch_apply, hCommand, hRun]
  rw [hEnd]
  exact hLogged

/-- A command of a client whose connection takes frames. -/
theorem runLine_apply (env : Env) {s : StompClient} (h : s.InSession)
    (hConnected : s.protocol.isConnected = true) (hWritable : s.writable = true)
    (command : Command) : (runLine env command.line s).2 =
      if command.refused s then { s with console := s.console ++ [command.refusal] }
      else (s.noted command).transmitted command := by
  have hNoted : (s.noted command).writable = true := hWritable
  rw [runLine_eq env command hConnected, catching, Method.tryCatch_apply, Method.bind_apply,
    record_apply]
  cases command.refused s
  · simp only [Bool.false_eq_true, if_false, if_true, transmit_apply (h.noted command), hNoted]
  · rfl

theorem headerOk_id (n : Int) : Server.HeaderOk ("id".toList, Decimal.decimal n) :=
  Server.HeaderOk.withValue ⟨by decide, by decide, by decide,
    Java.noBreak_of_any (by decide), nofun⟩
    fun _ => Java.isLineBreak_of_mem_decimal

theorem headerOk_receipt (n : Int) : Server.HeaderOk ("receipt".toList, Decimal.decimal n) :=
  Server.HeaderOk.withValue ⟨by decide, by decide, by decide,
    Java.noBreak_of_any (by decide), nofun⟩
    fun _ => Java.isLineBreak_of_mem_decimal

theorem headerOk_destination (topic : Topic) :
    Server.HeaderOk ("destination".toList, '/' :: topic.name) := by
  refine Server.HeaderOk.withValue ⟨by decide, by decide, by decide,
    Java.noBreak_of_any (by decide), nofun⟩ ?_
  intro ch hMem
  rcases List.mem_cons.1 hMem with rfl | hMem
  · rfl
  · exact topic.no_break ch hMem

/-- The ends of the frames. -/
theorem line_receipt : "\nreceipt:".toList = '\n' :: ("receipt".toList ++ [':']) := by rfl

theorem line_end : "\n\n".toList = ['\n', '\n'] := by rfl

/-- The header lines of `SUBSCRIBE`, with a slash that the server takes as part of the name. -/
def subscribeHeaders (topic : Topic) (subId receiptId : Int) : List (Text × Text) :=
  [("id".toList, Decimal.decimal subId), ("destination".toList, '/' :: topic.name),
    ("receipt".toList, Decimal.decimal receiptId)]

/-- The header lines of `UNSUBSCRIBE`, where the topic is not named. -/
def unsubscribeHeaders (subId receiptId : Int) : List (Text × Text) :=
  [("id".toList, Decimal.decimal subId), ("receipt".toList, Decimal.decimal receiptId)]

theorem subscribeHeaders_values (topic : Topic) (subId receiptId : Int) :
    Server.headersOf (subscribeHeaders topic subId receiptId) "id".toList =
        some (Decimal.decimal subId) ∧
      Server.headersOf (subscribeHeaders topic subId receiptId) "destination".toList =
        some ('/' :: topic.name) ∧
      Server.headersOf (subscribeHeaders topic subId receiptId) "receipt".toList =
        some (Decimal.decimal receiptId) := ⟨rfl, rfl, rfl⟩

theorem unsubscribeHeaders_values (subId receiptId : Int) :
    Server.headersOf (unsubscribeHeaders subId receiptId) "id".toList =
        some (Decimal.decimal subId) ∧
      Server.headersOf (unsubscribeHeaders subId receiptId) "receipt".toList =
        some (Decimal.decimal receiptId) := ⟨rfl, rfl⟩

theorem parseFrame_subscribeFrame (topic : Topic) (subId receiptId : Int) :
    parseFrame (subscribeFrame topic.name subId receiptId) =
      (Server.headersOf (subscribeHeaders topic subId receiptId),
        .ok ("SUBSCRIBE".toList, [])) := by
  have hText : subscribeFrame topic.name subId receiptId =
      Server.requestText "SUBSCRIBE".toList (subscribeHeaders topic subId receiptId) := by
    have hFirst : "SUBSCRIBE\nid:".toList =
        "SUBSCRIBE".toList ++ '\n' :: ("id".toList ++ [':']) := by rfl
    have hSecond : "\ndestination:/".toList = '\n' :: ("destination".toList ++ [':', '/']) := by rfl
    unfold subscribeFrame subscribeHeaders
    rw [hFirst, hSecond, line_receipt, line_end]
    generalize "SUBSCRIBE".toList = command, "id".toList = id,
      "destination".toList = destination, "receipt".toList = receipt
    simp [Server.requestText]
  rw [hText]
  apply Server.parseFrame_requestText (by decide) (Java.noBreak_of_any (by decide))
  intro header hMem
  rcases List.mem_cons.1 hMem with rfl | hMem
  · exact headerOk_id subId
  · rcases List.mem_cons.1 hMem with rfl | hMem
    · exact headerOk_destination topic
    · rw [List.mem_singleton.1 hMem]
      exact headerOk_receipt receiptId

theorem parseFrame_unsubscribeFrame (subId receiptId : Int) :
    parseFrame (unsubscribeFrame subId receiptId) =
      (Server.headersOf (unsubscribeHeaders subId receiptId),
        .ok ("UNSUBSCRIBE".toList, [])) := by
  have hText : unsubscribeFrame subId receiptId =
      Server.requestText "UNSUBSCRIBE".toList (unsubscribeHeaders subId receiptId) := by
    have hFirst : "UNSUBSCRIBE\nid:".toList =
        "UNSUBSCRIBE".toList ++ '\n' :: ("id".toList ++ [':']) := by rfl
    unfold unsubscribeFrame unsubscribeHeaders
    rw [hFirst, line_receipt, line_end]
    generalize "UNSUBSCRIBE".toList = command, "id".toList = id, "receipt".toList = receipt
    simp [Server.requestText]
  rw [hText]
  apply Server.parseFrame_requestText (by decide) (Java.noBreak_of_any (by decide))
  intro header hMem
  rcases List.mem_cons.1 hMem with rfl | hMem
  · exact headerOk_id subId
  · rw [List.mem_singleton.1 hMem]
    exact headerOk_receipt receiptId

theorem parseFrame_disconnectFrame (receiptId : Int) :
    parseFrame (disconnectFrame receiptId) =
      (Server.headersOf [("receipt".toList, Decimal.decimal receiptId)],
        .ok ("DISCONNECT".toList, [])) := by
  have hText : disconnectFrame receiptId = Server.requestText "DISCONNECT".toList
      [("receipt".toList, Decimal.decimal receiptId)] := by
    have hFirst : "DISCONNECT\nreceipt:".toList =
        "DISCONNECT".toList ++ '\n' :: ("receipt".toList ++ [':']) := by rfl
    unfold disconnectFrame
    rw [hFirst, line_end]
    generalize "DISCONNECT".toList = command, "receipt".toList = receipt
    simp [Server.requestText]
  rw [hText]
  apply Server.parseFrame_requestText (by decide) (Java.noBreak_of_any (by decide))
  intro header hMem
  rw [List.mem_singleton.1 hMem]
  exact headerOk_receipt receiptId

end StompClient
end StompGames
