import StompGames.Client.Commands

/-! Which command a receipt is taken for. Main makes the note of a command and
then writes its frame, the server answers in order, and the listening thread
handles the answers. Every note is made under the id 0, so a receipt is taken for
the command that made the last note. -/
namespace StompGames

open Client Imperative
open Cpp (CppException)

/-- A receipt that was handled: the command that it answers, the action that
`removeReceipt` returned, and whether it ended the connection as a logout. -/
structure Receipt where
  command : Command
  returned : Text
  loggedOut : Bool
  deriving DecidableEq

/-- One session. `sending` is a command that has made its note and not yet written
its frame. Frames in flight go with the command they come from or answer.
`recorded` is the last command that made a note since a receipt was handled. -/
structure Exchange where
  client : StompClient
  sending : Option Command
  frames : List (Text × Command)
  closed : Bool
  answers : List (Text × Option Command)
  recorded : Option Command
  log : List Receipt

/-- What happens between the client and the server: a line is typed, its frame is written or the
connection is lost, the server answers with a receipt or an error, and the listening thread reads
an answer. -/
inductive Exchange.Event where
  | type (command : Command)
  | write
  | lose
  | answer
  | refuse (errorMsg : Text)
  | receive
  deriving DecidableEq

namespace Exchange

/-- A client that waits for nothing, and a server that has nothing to answer. -/
def begin (client : StompClient) : Exchange := ⟨client, none, [], false, [], none, []⟩

/-- What the client reads of a frame. -/
def upToNul (frame : Text) : Text := frame.takeWhile (· != '\x00')

/-- How a receipt in answer to a command is handled. -/
def handled (env : Env) (mes : Text) (client : StompClient) (command : Command) : Receipt where
  command := command
  returned := match (StompClient.receiptAction mes client).1 with
    | .ok action => action
    | .error _ => []
  loggedOut := match (StompClient.parseResponse env (some mes) client).1 with
    | .error (.runtime_error what) => what = "Connection was terimnated.".toList
    | _ => false

/-- A command is typed: main refuses it, or makes its note. -/
def typed (env : Env) (command : Command) (s : Exchange) : Exchange :=
  if !s.client.protocol.isConnected then
    { s with client := (StompClient.runLine env command.line s.client).2 }
  else match StompClient.record command s.client with
    | (.ok true, client) =>
        { s with client := client, sending := some command, recorded := some command }
    | (_, client) => { s with client := client }

/-- The frame of the command is written, where the connection takes it. -/
def written (command : Command) (s : Exchange) : Exchange :=
  let client := (StompClient.catching (fun what => StompClient.print (what ++ ['\n']))
    (StompClient.transmit command) s.client).2
  { s with
    client := client
    sending := none
    frames := s.frames ++
      (client.sent.drop s.client.sent.length).map fun frame => (frame, command) }

/-- The server carries out a frame, and after a logout it closes the connection. -/
def answered (frame : Text) (command : Command) (rest : List (Text × Command)) (s : Exchange) :
    Exchange :=
  { s with
    frames := rest
    closed := decide (command = .logout)
    answers := s.answers ++ (Server.answerOf (parseFrame frame).1).map fun answer =>
      (answer, some command) }

/-- The server answers a frame with an error and closes the connection. -/
def refused (frame errorMsg : Text) (rest : List (Text × Command)) (s : Exchange) : Exchange :=
  { s with
    frames := rest
    closed := true
    answers := s.answers ++
      [(Server.errorFrame errorMsg ((parseFrame frame).1 "receipt".toList), none)] }

/-- The listening thread handles an answer. -/
def received (env : Env) (mes : Text) (command : Option Command)
    (rest : List (Text × Option Command)) (s : Exchange) : Exchange :=
  { s with
    client := (StompClient.handleFrame env (some mes) s.client).2
    answers := rest
    recorded := if command.isSome then none else s.recorded
    log := s.log ++ (command.map (handled env mes s.client)).toList }

/-- The connection is gone, and writes to it fail from now on. -/
def lost (s : Exchange) : Exchange :=
  { s with client := { s.client with protocol := { s.client.protocol with
      ch := s.client.protocol.ch.map fun ch => { ch with writable := false } } } }

/-- One event. The main thread takes no line while a frame of the last one is to be written, and
the listening thread reads only while the client is connected. -/
def step (env : Env) (s : Exchange) : Event → Option Exchange
  | .type command => if s.sending.isSome then none else some (s.typed env command)
  | .write => s.sending.map fun command => s.written command
  | .lose => some s.lost
  | .answer => match s.frames with
      | [] => none
      | (frame, command) :: rest => if s.closed then none else some (s.answered frame command rest)
  | .refuse errorMsg => match s.frames with
      | [] => none
      | (frame, _) :: rest => if s.closed then none else some (s.refused frame errorMsg rest)
  | .receive => match s.answers with
      | [] => none
      | (frame, command) :: rest =>
          if s.client.protocol.isConnected then
            some (s.received env (upToNul frame) command rest)
          else none

/-- Every receipt so far was taken for the command that it answers. -/
def Matched (s : Exchange) : Prop :=
  ∀ receipt ∈ s.log, receipt.returned = receipt.command.action ∧
    (receipt.loggedOut = true → receipt.command = .logout)

/-- When a receipt is handled, the last note made since the receipt before it is
that of the command it answers, or reads the same. -/
def Timely (s : Exchange) (event : Event) : Prop :=
  event = .receive → s.client.protocol.isConnected = true →
    ∀ frame command rest, s.answers = (frame, some command) :: rest →
      s.recorded.map Command.action = some command.action

instance (s : Exchange) : ∀ event, Decidable (s.Timely event)
  | .receive =>
      match hAnswers : s.answers with
      | (frame, some command) :: rest =>
          decidable_of_iff (s.client.protocol.isConnected = true →
              s.recorded.map Command.action = some command.action) <| by
            constructor
            · intro h _ hConnected frame' command' rest' hSame
              cases hAnswers.symm.trans hSame
              exact h hConnected
            · exact fun h hConnected => h rfl hConnected frame command rest hAnswers
      | (_, none) :: _ => isTrue fun _ _ _ _ _ hSame => nomatch hAnswers.symm.trans hSame
      | [] => isTrue fun _ _ _ _ _ hSame => nomatch hAnswers.symm.trans hSame
  | .type _ | .write | .lose | .answer | .refuse _ => isTrue nofun

end Exchange

namespace StompClient

/-- The text of every receipt the client is ever sent. -/
def receiptText : Text := "RECEIPT\nreceipt-id:0\n\n".toList

theorem receiptAction_apply (s : StompClient) : receiptAction receiptText s =
    (.ok ((s.reciepts 0).getD []), { s with reciepts := Function.update s.reciepts 0 none }) := by
  have hFound : Cpp.find "receipt-id:".toList receiptText = some 8 := by decide
  have hLine : Cpp.findFrom '\n' 19 receiptText = some 20 := by decide
  have hPiece : (receiptText.drop 19).take 1 = ['0'] := by decide
  have hDigits : Cpp.substr receiptText 19 (some 1) s = (.ok ['0'], s) := by
    rw [Cpp.substr, if_neg (by decide), hPiece]
    rfl
  have hLeading : Cpp.leadingInt (['0'].dropWhile Cpp.isSpace) = some 0 := by decide
  have hZero : Cpp.stoi ['0'] s = (.ok 0, s) := by
    simp only [Cpp.stoi, hLeading]
    rfl
  have hNumber : receiptNumber receiptText s = (.ok 0, s) := by
    simp only [receiptNumber, hFound, hLine, Option.map_some, Method.bind_apply]
    rw [hDigits]
    exact hZero
  simp only [receiptAction, Method.bind_apply, hNumber, removeReceipt, Method.get_apply,
    Method.modify_apply, Method.pure_apply]

theorem parseResponse_receipt (env : Env) (s : StompClient) :
    parseResponse env (some receiptText) s =
      handleReceipt (Cpp.split ((s.reciepts 0).getD []) ':')
        { s with reciepts := Function.update s.reciepts 0 none } := by
  have hBranch : parseResponse env (some receiptText) s =
      (do
        let action ← receiptAction receiptText
        handleReceipt (Cpp.split action ':')) s := by rfl
  rw [hBranch, Method.bind_apply, receiptAction_apply]

/-- The action of a join or an exit does not end the connection. -/
theorem handleReceipt_action (command : Command) :
    command = .logout ∨ ∀ s, (handleReceipt (Cpp.split command.action ':') s).1 = .ok () := by
  cases command with
  | join topic =>
      right
      intro s
      have hWord : ':' ∉ "SUB".toList := by decide
      have hSplit : Cpp.split (Command.join topic).action ':' =
          "SUB".toList :: Cpp.split topic.name ':' :=
        Cpp.splitLoop_append hWord [] topic.name
      rw [hSplit]
      obtain ⟨first, rest, hTopic⟩ := List.exists_cons_of_ne_nil (Cpp.split_ne_nil topic.name ':')
      rw [hTopic]
      rfl
  | exit topic =>
      right
      intro s
      have hWord : ':' ∉ "UNSUB".toList := by decide
      have hSplit : Cpp.split (Command.exit topic).action ':' =
          "UNSUB".toList :: Cpp.split topic.name ':' :=
        Cpp.splitLoop_append hWord [] topic.name
      rw [hSplit]
      obtain ⟨first, rest, hTopic⟩ := List.exists_cons_of_ne_nil (Cpp.split_ne_nil topic.name ':')
      rw [hTopic]
      rfl
  | logout => exact Or.inl rfl

/-- The client is in a session and has made these notes. -/
def Awaits (reciepts : Int → Option Text) (s : StompClient) : Prop :=
  s.InSession ∧ s.reciepts = reciepts

section
variable {reciepts : Int → Option Text}

theorem preserves_print (text : Text) : Method.Preserves (Awaits reciepts) (print text) :=
  Method.preserves_modify fun _ hs =>
    ⟨⟨hs.1.receiptIdGen, hs.1.subIdGen, hs.1.running, hs.1.connected⟩, hs.2⟩

theorem preserves_setIsConnected (status : Bool) :
    Method.Preserves (Awaits reciepts) (setIsConnected status) :=
  Method.preserves_modify fun _ hs =>
    ⟨⟨hs.1.receiptIdGen, hs.1.subIdGen, hs.1.running, hs.1.connected⟩, hs.2⟩

theorem awaits_catching {report : Text → Method CppException StompClient Unit}
    (hReport : ∀ what, Method.Preserves (Awaits reciepts) (report what))
    {body : Method CppException StompClient Unit} {s : StompClient}
    (hBody : Awaits reciepts (body s).2) : Awaits reciepts (catching report body s).2 := by
  rw [catching, Method.tryCatch_apply]
  rcases hRun : body s with ⟨e | _, t⟩ <;> rw [hRun] at hBody
  · cases e with
    | runtime_error what => exact hReport what t hBody
    | invalid_argument what => exact hReport what t hBody
    | out_of_range what => exact hReport what t hBody
    | unchecked => exact hBody
  · exact hBody

theorem awaits_handleFrame {env : Env} {mes : Option Text} {s : StompClient}
    (hBody : Awaits reciepts (parseResponse env mes s).2) :
    Awaits reciepts (handleFrame env mes s).2 :=
  awaits_catching (fun _ => Method.preserves_bind (preserves_print _)
    fun _ => preserves_setIsConnected false) hBody

theorem preserves_handleReceipt (action : List Text) :
    Method.Preserves (Awaits reciepts) (handleReceipt action) := by
  have hWord : ∀ i, Method.Preserves (Awaits reciepts) (Cpp.index action i) := fun i =>
    (Cpp.leaves_index id action i).preserves (Awaits reciepts)
  apply Method.preserves_bind (hWord 0)
  intro kind
  refine Method.preserves_ite (fun _ => ?_) fun _ => Method.preserves_ite (fun _ => ?_) fun _ => ?_
  · exact Method.preserves_bind (hWord 1) fun _ => preserves_print _
  · exact Method.preserves_bind (hWord 1) fun _ => preserves_print _
  · exact Method.preserves_bind (preserves_print _) fun _ => Method.preserves_throw _

end

/-- Handling a receipt takes the note under its id away. -/
theorem handleFrame_receipt (env : Env) {s : StompClient} (h : s.InSession) :
    Awaits (Function.update s.reciepts 0 none) (handleFrame env (some receiptText) s).2 := by
  apply awaits_handleFrame
  rw [parseResponse_receipt]
  exact preserves_handleReceipt _ _
    ⟨⟨h.receiptIdGen, h.subIdGen, h.running, h.connected⟩, rfl⟩

/-- An error leaves the notes as they are. -/
theorem handleFrame_error (env : Env) {s : StompClient} (h : s.InSession) (rest : Text) :
    Awaits s.reciepts (handleFrame env (some ("ERROR\n".toList ++ rest)) s).2 := by
  apply awaits_handleFrame
  have hBranch : parseResponse env (some ("ERROR\n".toList ++ rest)) s =
      (do
        print ("ERROR\n".toList ++ rest ++ ['\n'])
        throw (.runtime_error "Connection was closed, login:\n".toList) :
          Method CppException StompClient Unit) s := by rfl
  rw [hBranch]
  exact Method.preserves_bind (preserves_print _) (fun _ => Method.preserves_throw _) s ⟨h, rfl⟩

/-- What the server answers to the frame of a command. -/
theorem answerOf_frame {s : StompClient} (h : s.InSession) (command : Command) :
    Server.answerOf (parseFrame (command.frame s)).1 = [Server.receiptFrame 0] := by
  have hNumber : Java.parseInt (Decimal.decimal 0) = some 0 :=
    Java.parseInt_decimal (by decide) (by decide)
  have hAnswer : ∀ headers : Headers, headers "receipt".toList = some (Decimal.decimal 0) →
      Server.answerOf headers = [Server.receiptFrame 0] := by
    intro headers hReceipt
    simp only [Server.answerOf, hReceipt, hNumber]
  apply hAnswer
  cases command with
  | join topic =>
      rw [Command.frame, h.receiptIdGen, parseFrame_subscribeFrame]
      exact (subscribeHeaders_values topic s.subIdGen 0).2.2
  | exit topic =>
      rw [Command.frame, h.receiptIdGen, parseFrame_unsubscribeFrame]
      exact (unsubscribeHeaders_values ((s.subscriptions topic.name).getD 0) 0).2
  | logout =>
      rw [Command.frame, h.receiptIdGen, parseFrame_disconnectFrame]
      rfl

/-- The server hands over this answer, and no other, for a frame it carries out. -/
theorem frame_answered {client : StompClient} (h : client.InSession) (command : Command)
    {s t : Server} (hIndexed : s.Indexed) {c : Int}
    (hHandler : s.cManager.connecetions c = some ⟨c⟩)
    (hDone : Server.attempt c (command.frame client) s = (.ok (), t)) :
    Server.process c (command.frame client) s = (.ok (), t) ∧
      t.handedTo c = s.handedTo c ++ [Server.receiptFrame 0] := by
  rw [← answerOf_frame h command]
  cases command with
  | join topic =>
      have hParse := parseFrame_subscribeFrame topic client.subIdGen client.receiptIdGen
      have hAnswered := Server.request_answered hIndexed hHandler hParse (Or.inl rfl) hDone
      rwa [Command.frame, hParse]
  | exit topic =>
      have hParse := parseFrame_unsubscribeFrame
        ((client.subscriptions topic.name).getD 0) client.receiptIdGen
      have hAnswered :=
        Server.request_answered hIndexed hHandler hParse (Or.inr (Or.inl rfl)) hDone
      rwa [Command.frame, hParse]
  | logout =>
      have hParse := parseFrame_disconnectFrame client.receiptIdGen
      have hAnswered :=
        Server.request_answered hIndexed hHandler hParse (Or.inr (Or.inr rfl)) hDone
      rwa [Command.frame, hParse]

theorem upToNul_receipt : Exchange.upToNul (Server.receiptFrame 0) = receiptText := by decide

theorem upToNul_error (errorMsg : Text) (receipt : Option Text) :
    ∃ rest, Exchange.upToNul (Server.errorFrame errorMsg receipt) = "ERROR\n".toList ++ rest := by
  have hPrefix : ∃ rest, Server.errorFrame errorMsg receipt = "ERROR\n".toList ++ rest := by
    cases receipt <;> exact ⟨_, rfl⟩
  obtain ⟨rest, hRest⟩ := hPrefix
  have hVisible : ∀ ch ∈ "ERROR\n".toList, (ch != '\x00') = true :=
    List.all_eq_true.1 (by decide)
  exact ⟨rest.takeWhile (· != '\x00'), by
    rw [Exchange.upToNul, hRest, List.takeWhile_append_of_pos hVisible]⟩

end StompClient

namespace Exchange

/-- What holds between steps: one note at most, under the id 0, and only receipts
for the id 0 under way. -/
structure Consistent (s : Exchange) : Prop where
  client : StompClient.Awaits
    (Function.update (fun _ => none) 0 (s.recorded.map Command.action)) s.client
  frames : ∀ sent ∈ s.frames, Server.answerOf (parseFrame sent.1).1 = [Server.receiptFrame 0]
  answers : ∀ answer ∈ s.answers, (answer.2.isSome → answer.1 = Server.receiptFrame 0) ∧
    (answer.2 = none → ∃ errorMsg receipt, answer.1 = Server.errorFrame errorMsg receipt)

theorem begin_consistent {client : StompClient} (h : client.JustLoggedIn) :
    Consistent (begin client) where
  client := ⟨h.inSession, h.noReceipts.trans (Function.update_eq_self 0 _).symm⟩
  frames := nofun
  answers := nofun

section
variable {s : Exchange}

theorem Consistent.typed (h : s.Consistent) (env : Env) (command : Command) :
    (s.typed env command).Consistent ∧ (s.typed env command).log = s.log := by
  have hPrinted : ∀ text, StompClient.Awaits
      (Function.update (fun _ => none) 0 (s.recorded.map Command.action))
      { s.client with console := s.client.console ++ [text] } := fun text =>
    StompClient.preserves_print text s.client h.client
  unfold Exchange.typed
  cases hConnected : s.client.protocol.isConnected with
  | false =>
      obtain ⟨text, hRun⟩ := StompClient.runLine_disconnected env command hConnected
      rw [Bool.not_false, if_pos rfl, hRun]
      exact ⟨⟨hPrinted text, h.frames, h.answers⟩, rfl⟩
  | true =>
      rw [Bool.not_true, if_neg Bool.false_ne_true, StompClient.record_apply]
      cases command.refused s.client with
      | true => exact ⟨⟨hPrinted command.refusal, h.frames, h.answers⟩, rfl⟩
      | false =>
          refine ⟨⟨⟨h.client.1.noted command, ?_⟩, h.frames, h.answers⟩, rfl⟩
          change Function.update s.client.reciepts s.client.receiptIdGen (some command.action) = _
          rw [h.client.1.receiptIdGen, h.client.2, Function.update_idem]
          rfl

theorem Consistent.written (h : s.Consistent) (command : Command) :
    (s.written command).Consistent := by
  have hRun := StompClient.transmit_apply h.client.1 command
  cases hWritable : s.client.writable with
  | true =>
      rw [hWritable, if_pos rfl] at hRun
      have hClient : (s.written command).client = s.client.transmitted command := by
        simp only [Exchange.written, StompClient.catching, Method.tryCatch_apply, hRun]
      have hFrames : (s.written command).frames =
          s.frames ++ [(command.frame s.client, command)] := by
        change s.frames ++ ((s.written command).client.sent.drop s.client.sent.length).map _ = _
        rw [hClient, StompClient.transmitted_sent h.client.1, List.drop_left, List.map_singleton]
      refine ⟨?_, ?_, h.answers⟩
      · rw [hClient]
        exact ⟨h.client.1.transmitted command,
          (StompClient.transmitted_reciepts command s.client).trans h.client.2⟩
      · intro sent hSent
        rw [hFrames] at hSent
        rcases List.mem_append.1 hSent with hSent | hSent
        · exact h.frames sent hSent
        · rw [List.mem_singleton.1 hSent]
          exact StompClient.answerOf_frame h.client.1 command
  | false =>
      rw [hWritable, if_neg Bool.false_ne_true] at hRun
      have hClient : ∃ text, (s.written command).client =
          { s.client with console := s.client.console ++ [text] } := by
        simp only [Exchange.written, StompClient.catching, Method.tryCatch_apply, hRun]
        exact ⟨_, rfl⟩
      obtain ⟨text, hClient⟩ := hClient
      have hFrames : (s.written command).frames = s.frames := by
        change s.frames ++ ((s.written command).client.sent.drop s.client.sent.length).map _ = _
        rw [hClient]
        exact (congrArg (s.frames ++ List.map _ ·) List.drop_length).trans (List.append_nil _)
      refine ⟨?_, fun sent hSent => h.frames sent (hFrames ▸ hSent), h.answers⟩
      rw [hClient]
      exact StompClient.preserves_print text s.client h.client

theorem Consistent.lost (h : s.Consistent) : s.lost.Consistent where
  client := ⟨⟨h.client.1.receiptIdGen, h.client.1.subIdGen, h.client.1.running, by
    simpa [Exchange.lost] using h.client.1.connected⟩, h.client.2⟩
  frames := h.frames
  answers := h.answers

theorem Consistent.answered (h : s.Consistent) {frame : Text} {command : Command}
    {rest : List (Text × Command)} (hFrames : s.frames = (frame, command) :: rest) :
    (s.answered frame command rest).Consistent where
  client := h.client
  frames sent hSent := h.frames sent (hFrames ▸ List.mem_cons_of_mem _ hSent)
  answers answer hAnswer := by
    rw [Exchange.answered, h.frames (frame, command) (hFrames ▸ List.mem_cons_self)] at hAnswer
    rcases List.mem_append.1 hAnswer with hAnswer | hAnswer
    · exact h.answers answer hAnswer
    · rw [List.map_singleton, List.mem_singleton] at hAnswer
      subst hAnswer
      exact ⟨fun _ => rfl, nofun⟩

theorem Consistent.refused (h : s.Consistent) {frame : Text} {command : Command}
    {rest : List (Text × Command)} (hFrames : s.frames = (frame, command) :: rest)
    (errorMsg : Text) : (s.refused frame errorMsg rest).Consistent where
  client := h.client
  frames sent hSent := h.frames sent (hFrames ▸ List.mem_cons_of_mem _ hSent)
  answers answer hAnswer := by
    rcases List.mem_append.1 hAnswer with hAnswer | hAnswer
    · exact h.answers answer hAnswer
    · rw [List.mem_singleton] at hAnswer
      subst hAnswer
      exact ⟨nofun, fun _ => ⟨errorMsg, _, rfl⟩⟩

/-- An answer is either the receipt of a command or an error. -/
theorem Consistent.received (h : s.Consistent) (env : Env) {frame : Text}
    {command : Option Command} {rest : List (Text × Option Command)}
    (hAnswers : s.answers = (frame, command) :: rest) :
    (s.received env (upToNul frame) command rest).Consistent := by
  obtain ⟨hReceipt, hError⟩ := h.answers (frame, command) (hAnswers ▸ List.mem_cons_self)
  refine ⟨?_, h.frames, fun answer hAnswer =>
    h.answers answer (hAnswers ▸ List.mem_cons_of_mem _ hAnswer)⟩
  cases command with
  | none =>
      obtain ⟨errorMsg, receipt, rfl⟩ := hError rfl
      obtain ⟨text, hText⟩ := StompClient.upToNul_error errorMsg receipt
      have hHandled := StompClient.handleFrame_error env h.client.1 text
      rw [← hText, h.client.2] at hHandled
      exact hHandled
  | some command =>
      have hFrame : frame = Server.receiptFrame 0 := hReceipt rfl
      have hHandled := StompClient.handleFrame_receipt env h.client.1
      rw [h.client.2, Function.update_idem, ← StompClient.upToNul_receipt, ← hFrame] at hHandled
      exact hHandled

/-- What a step can do. Only the handling of a receipt adds to the log. -/
theorem step_cases {env : Env} {event : Event} {t : Exchange} (h : s.Consistent)
    (hStep : step env s event = some t) :
    t.Consistent ∧ ((event ≠ .receive ∧ t.log = s.log) ∨
      ∃ frame command rest, event = .receive ∧ s.client.protocol.isConnected = true ∧
        s.answers = (frame, command) :: rest ∧
        t = s.received env (upToNul frame) command rest) := by
  cases event with
  | type command =>
      simp only [step] at hStep
      split at hStep
      · cases hStep
      · cases hStep
        exact ⟨(h.typed env command).1, Or.inl ⟨nofun, (h.typed env command).2⟩⟩
  | write =>
      obtain ⟨command, -, rfl⟩ := Option.map_eq_some_iff.1 hStep
      exact ⟨h.written command, Or.inl ⟨nofun, rfl⟩⟩
  | lose =>
      cases hStep
      exact ⟨h.lost, Or.inl ⟨nofun, rfl⟩⟩
  | answer =>
      cases hFrames : s.frames with
      | nil => simp [step, hFrames] at hStep
      | cons first rest =>
          simp only [step, hFrames] at hStep
          split at hStep
          · cases hStep
          · cases hStep
            exact ⟨h.answered hFrames, Or.inl ⟨nofun, rfl⟩⟩
  | refuse errorMsg =>
      cases hFrames : s.frames with
      | nil => simp [step, hFrames] at hStep
      | cons first rest =>
          simp only [step, hFrames] at hStep
          split at hStep
          · cases hStep
          · cases hStep
            exact ⟨h.refused hFrames errorMsg, Or.inl ⟨nofun, rfl⟩⟩
  | receive =>
      cases hAnswers : s.answers with
      | nil => simp [step, hAnswers] at hStep
      | cons first rest =>
          simp only [step, hAnswers] at hStep
          split at hStep
          · cases hStep
            exact ⟨h.received env hAnswers,
              Or.inr ⟨first.1, first.2, rest, rfl, ‹_›, rfl, rfl⟩⟩
          · cases hStep

/-- A receipt is taken for the command that made the last note. -/
theorem Consistent.returned (h : s.Consistent) (env : Env) (command : Command) :
    (handled env StompClient.receiptText s.client command).returned =
      (s.recorded.map Command.action).getD [] := by
  simp only [handled, StompClient.receiptAction_apply, h.client.2, Function.update_self]

theorem Consistent.loggedOut (h : s.Consistent) (env : Env) {command : Command}
    (hTimely : s.recorded.map Command.action = some command.action)
    (hOut : (handled env StompClient.receiptText s.client command).loggedOut = true) :
    command = .logout := by
  have hNote : (s.client.reciepts 0).getD [] = command.action := by
    rw [h.client.2, Function.update_self, hTimely, Option.getD_some]
  rw [handled, StompClient.parseResponse_receipt, hNote] at hOut
  rcases StompClient.handleReceipt_action command with hLogout | hReturn
  · exact hLogout
  · rw [hReturn] at hOut
    exact absurd hOut Bool.false_ne_true

theorem Consistent.frame_eq (h : s.Consistent) {frame : Text} {command : Command}
    {rest : List (Text × Option Command)} (hAnswers : s.answers = (frame, some command) :: rest) :
    upToNul frame = StompClient.receiptText := by
  have hFrame : frame = Server.receiptFrame 0 :=
    (h.answers (frame, some command) (hAnswers ▸ List.mem_cons_self)).1 rfl
  rw [hFrame, StompClient.upToNul_receipt]

theorem step_matched {env : Env} {event : Event} {t : Exchange} (h : s.Consistent)
    (hMatched : s.Matched) (hTimely : s.Timely event) (hStep : step env s event = some t) :
    t.Consistent ∧ t.Matched := by
  obtain ⟨hNext, ⟨-, hLog⟩ | ⟨frame, command, rest, rfl, hConnected, hAnswers, rfl⟩⟩ :=
    step_cases h hStep
  · exact ⟨hNext, fun receipt hReceipt => hMatched receipt (hLog ▸ hReceipt)⟩
  · refine ⟨hNext, fun receipt hReceipt => ?_⟩
    rcases List.mem_append.1 hReceipt with hReceipt | hReceipt
    · exact hMatched receipt hReceipt
    · cases command with
      | none => cases hReceipt
      | some command =>
          rw [h.frame_eq hAnswers] at hReceipt
          obtain rfl : receipt = handled env StompClient.receiptText s.client command :=
            List.mem_singleton.1 hReceipt
          have hNote := hTimely rfl hConnected frame command rest hAnswers
          refine ⟨?_, h.loggedOut env hNote⟩
          rw [h.returned, hNote, Option.getD_some]
          rfl

/-- A receipt that comes too late, or too early, is taken for another command. -/
theorem step_mismatched {env : Env} {event : Event} (h : s.Consistent)
    (hTimely : ¬s.Timely event) : ∃ t, step env s event = some t ∧ ¬t.Matched := by
  simp only [Timely, not_forall] at hTimely
  obtain ⟨rfl, hConnected, frame, command, rest, hAnswers, hNote⟩ := hTimely
  refine ⟨s.received env (upToNul frame) (some command) rest, ?_, fun hMatched => hNote ?_⟩
  · simp only [step, hAnswers, hConnected, if_true]
  · have hLast := (hMatched (handled env (upToNul frame) s.client command)
      (List.mem_append_right _ (List.mem_singleton_self _))).1
    rw [h.frame_eq hAnswers, h.returned] at hLast
    cases hRecorded : s.recorded with
    | none =>
        rw [hRecorded] at hLast
        exact absurd hLast.symm command.action_ne_nil
    | some last =>
        rw [hRecorded] at hLast
        exact congrArg some hLast

end

/-- In every session after a login, with commands, frames and receipts in any order, a receipt is
taken for the command it answers just as long as no other command comes in between. -/
theorem receipts_matched_iff (env : Env) {client : StompClient} (h : client.JustLoggedIn)
    (events : List Event) :
    Transition.Always (step env) Matched (begin client) events ↔
      Transition.Along (step env) Timely (begin client) events := by
  refine Transition.always_iff_along (I := fun s => s.Consistent ∧ s.Matched) (fun s hs => hs.2)
    (fun s event t hs hTimely hStep => step_matched hs.1 hs.2 hTimely hStep)
    (fun s event hs hLate => step_mismatched hs.1 hLate) ⟨begin_consistent h, nofun⟩

/-- Every command is answered before the next one is typed. -/
def joinsInTime : List Event :=
  [.join germany, .join spain, .exit germany, .logout].flatMap fun command =>
    [.type command, .write, .answer, .receive]

/-- Two joins, an exit and a logout, each of which waits for the receipt of the one before. -/
theorem receipts_matched_joinsInTime :
    Transition.Always (step StompClient.oneHost) Matched (begin .loggedIn) joinsInTime :=
  (receipts_matched_iff StompClient.oneHost StompClient.loggedIn_justLoggedIn joinsInTime).2
    (by decide +kernel)

/-- Two joins before the first receipt is handled. -/
def overlappingJoins : List Event :=
  [.type (.join germany), .write, .type (.join spain), .write, .answer, .answer, .receive, .receive]

/-- Both joins wait under one id. The first receipt is taken for the second join, and the second
receipt for a logout. -/
theorem overlappingJoins_mixed : StompClient.loggedIn.JustLoggedIn ∧
    (∃ t, Transition.run (step StompClient.oneHost) (begin .loggedIn) overlappingJoins = some t ∧
      t.log = [⟨.join germany, (Command.join spain).action, false⟩,
        ⟨.join spain, [], true⟩]) ∧
    ¬Transition.Always (step StompClient.oneHost) Matched (begin .loggedIn) overlappingJoins := by
  have hRun : ∃ t, Transition.run (step StompClient.oneHost) (begin .loggedIn) overlappingJoins =
      some t ∧ t.log = [⟨.join germany, (Command.join spain).action, false⟩,
        ⟨.join spain, [], true⟩] := ⟨_, rfl, by rfl⟩
  refine ⟨StompClient.loggedIn_justLoggedIn, hRun, fun hAll => ?_⟩
  obtain ⟨t, hEnd, hLog⟩ := hRun
  have hFirst := (hAll.last hEnd) _ (hLog ▸ List.mem_cons_self)
  exact absurd hFirst.1 (by decide)

end Exchange
end StompGames
