import StompGames.Server.FrameText
import StompGames.Server.System

/-! The frames that the server hands out. Each is a few header lines, an empty line, a
body and one zero character, whatever the clients have put into their own frames. -/
namespace StompGames

open Imperative

/-- The text of a frame. -/
def frameText (lines : List Text) (body : Text) : Text :=
  lines.flatMap (· ++ ['\n']) ++ '\n' :: (body ++ ['\x00'])

/-- A frame of the server, with the lines and the body it is composed of. -/
inductive Composed : Text → List Text → Text → Prop where
  | connected : Composed Server.connectedFrame ["CONNECTED".toList, "version:1.2".toList] []
  | receipt (receiptId : Int) : Composed (Server.receiptFrame receiptId)
      ["RECEIPT".toList, "receipt-id:".toList ++ Decimal.decimal receiptId] []
  | error {errorMsg : Text} (message : SingleLine errorMsg) :
      Composed (Server.errorFrame errorMsg none)
        ["ERROR".toList, "message:".toList ++ errorMsg] []
  | errorReceipt {errorMsg receipt : Text} (message : SingleLine errorMsg)
      (header : SingleLine receipt) : Composed (Server.errorFrame errorMsg (some receipt))
        ["ERROR".toList, "receipt-id: message-".toList ++ receipt,
          "message:".toList ++ errorMsg] []
  | message (subId id : Int) {channel body : Text} (destination : SingleLine channel)
      (content : '\x00' ∉ body) :
      Composed (ConnectionsManager.messageFrame subId (Decimal.decimal id) channel body)
        ["MESSAGE".toList, "subscription:".toList ++ Decimal.decimal subId,
          "message-id:".toList ++ Decimal.decimal id, "destination:".toList ++ channel] body

/-- `P` is kept, and what is thrown can be told in one line. -/
def Speaks {σ α : Type} (P : σ → Prop) (m : Method JavaException σ α) : Prop :=
  Method.Ensures P m (fun _ => P) fun e s => SingleLine e.getMessage ∧ P s

namespace Speaks
variable {σ τ α β : Type} {P : σ → Prop}

theorem pure (a : α) : Speaks P (pure a) := Method.ensures_pure a fun _ hs => hs

theorem throw {e : JavaException} (h : SingleLine e.getMessage) :
    Speaks P (throw e : Method JavaException σ α) := Method.ensures_throw e fun _ hs => ⟨h, hs⟩

theorem get : Speaks P (get : Method JavaException σ σ) := Method.ensures_get fun _ hs => hs

theorem modify {f : σ → σ} (h : ∀ s, P s → P (f s)) : Speaks P (modify f) :=
  Method.ensures_modify h

theorem bind {m : Method JavaException σ α} {next : α → Method JavaException σ β}
    (first : Speaks P m) (second : ∀ a, Speaks P (next a)) : Speaks P (m >>= next) :=
  Method.ensures_bind first second

theorem ite {p : Prop} [Decidable p] {m m' : Method JavaException σ α} (yes : p → Speaks P m)
    (no : ¬p → Speaks P m') : Speaks P (if p then m else m') := Method.ensures_ite yes no

theorem zoom {view : τ → σ} {put : σ → τ → τ} {Q : τ → Prop} {m : Method JavaException σ α}
    (h : Speaks P m) (hView : ∀ t, Q t → P (view t)) (hPut : ∀ t s, Q t → P s → Q (put s t)) :
    Speaks Q (m.zoom view put) :=
  Method.ensures_zoom h hView (fun t s _ ht hs => hPut t s ht hs)
    fun t s _ ht hs => ⟨hs.1, hPut t s ht hs.2⟩

theorem deref (entry : Option α) : Speaks P (deref entry : Method JavaException σ α) := by
  cases entry with
  | none => exact throw (.of_all (by decide))
  | some value => exact pure value

theorem parseInt {text : Text} (h : SingleLine text) :
    Speaks P (parseInt text : Method JavaException σ Int) := by
  unfold StompGames.parseInt
  split
  · apply throw
    exact ((SingleLine.of_all (by decide)).append h).append (.of_all (by decide))
  · exact pure _

theorem forM {list : List α} {m : α → Method JavaException σ Unit} (h : ∀ a, Speaks P (m a)) :
    Speaks P (forM list m) := by
  induction list with
  | nil => exact pure _
  | cons a rest ih =>
      rw [List.forM_cons]
      exact bind (h a) fun _ => ih

end Speaks

namespace SubscriptionManager

theorem speaks_removeSub (s : Subscription) : Speaks (fun _ => True) (removeSub s) := by
  unfold removeSub removeTopicIfNeeded
  refine .bind .get fun _ => .bind (.deref _) fun _ => .bind (.modify fun _ _ => trivial) fun _ => ?_
  refine .bind .get fun _ => .bind (.deref _) fun _ => .bind (.modify fun _ _ => trivial) fun _ => ?_
  exact .bind .get fun _ => .ite (fun _ => .modify fun _ _ => trivial) fun _ => .pure _

theorem speaks_subscribe (subId conId : Int) (channel : Option Text) :
    Speaks (fun _ => True) (subscribe subId conId channel) := by
  unfold subscribe addTopicIfNeeded
  refine .bind .get fun _ => .ite (fun _ => .throw (.of_all (by decide))) fun _ => ?_
  cases channel with
  | none => exact .throw (.of_all (by decide))
  | some channel =>
      refine .bind (.modify fun _ _ => trivial) fun _ => .bind ?_ fun _ => ?_
      · exact .bind .get fun _ => .ite (fun _ => .pure _) fun _ => .modify fun _ _ => trivial
      refine .bind .get fun _ => .bind (.deref _) fun _ => .bind (.modify fun _ _ => trivial)
        fun _ => .bind .get fun _ => ?_
      refine .ite (fun _ => ?_) fun _ => .bind (.modify fun _ _ => trivial) fun _ => ?_ <;>
        exact .bind .get fun _ => .bind (.deref _) fun _ => .modify fun _ _ => trivial

theorem speaks_unsubscribe (subId conId : Int) :
    Speaks (fun _ => True) (unsubscribe subId conId) := by
  unfold unsubscribe
  refine .bind .get fun m => ?_
  cases m.subDict conId with
  | none => exact .throw (.of_all (by decide))
  | some list =>
      dsimp only
      cases list.find? fun s => s.subId = subId with
      | none => exact .pure _
      | some s => exact speaks_removeSub s

theorem speaks_disconnectUser (conId : Int) : Speaks (fun _ => True) (disconnectUser conId) := by
  unfold disconnectUser
  refine .bind .get fun m => ?_
  cases m.subDict conId with
  | none => exact .pure _
  | some list => exact .bind (.forM speaks_removeSub) fun _ => .modify fun _ _ => trivial

end SubscriptionManager

namespace Database

/-- Whenever the SQL service fails, now or later, it says so in one line. -/
def OneLineFailures (db : Database) : Prop :=
  ∀ n message, db.sqlService n = .failure message → SingleLine message

/-- The only exception of an SQL call has the text of the socket's own behind `ERROR:`, and where
that is one line the exception is. -/
theorem speaks_executeSQL (sql : Text) : Speaks OneLineFailures (executeSQL sql) := by
  intro db h
  have hCalled : (db.called sql).OneLineFailures := fun n => h (n + 1)
  rw [executeSQL_apply]
  cases hOutcome : db.sqlService 0 with
  | reply response => exact hCalled
  | failure message => exact ⟨(SingleLine.of_all (by decide)).append (h 0 message hOutcome), hCalled⟩

theorem speaks_logLogin (username : Text) : Speaks OneLineFailures (logLogin username) :=
  .bind (speaks_executeSQL _) fun _ => .pure _

theorem speaks_userExistsCase (connectionId : Int) (username password : Text) :
    Speaks OneLineFailures (userExistsCase connectionId username password) := by
  unfold userExistsCase
  refine .bind .get fun db => ?_
  cases db.userMap username with
  | none => exact .throw (.of_all (by decide))
  | some user =>
      refine .ite (fun _ => .pure _) fun _ => .ite (fun _ => .pure _) fun _ => ?_
      exact .bind (.modify fun _ h => h) fun _ => .bind (.modify fun _ h => h) fun _ =>
        .bind (.modify fun _ h => h) fun _ => .pure _

theorem speaks_addNewUserCase (connectionId : Int) (username password : Text) :
    Speaks OneLineFailures (addNewUserCase connectionId username password) := by
  unfold addNewUserCase newUser addUser
  refine .bind .get fun _ => .ite (fun _ => .pure _) fun _ => .bind .get fun _ =>
    .ite (fun _ => .pure _) fun _ => .bind ?_ fun _ => ?_
  · exact .bind .get fun _ => .bind (.modify fun _ h => h) fun _ => .pure _
  · refine .bind (.modify fun _ h => h) fun _ => .bind ?_ fun _ => .pure _
    exact .bind (.modify fun _ h => h) fun _ => .modify fun _ h => h

/-- The rollback throws what it has caught. -/
theorem speaks_login (connectionId : Int) (username password : Text) :
    Speaks OneLineFailures (login connectionId username password) := by
  unfold login
  refine .bind .get fun _ => .ite (fun _ => .pure _) fun _ =>
    .bind (speaks_addNewUserCase _ _ _) fun new => .ite (fun _ => ?_) fun _ => ?_
  · refine .bind (Method.ensures_tryCatch (Speaks.bind (speaks_executeSQL _)
      fun _ => speaks_logLogin _) fun e => ?_) fun _ => .pure _
    intro db h
    exact h
  · refine .bind (speaks_userExistsCase _ _ _) fun status => .ite (fun _ => ?_) fun _ => .pure _
    exact .bind (speaks_logLogin _) fun _ => .pure _

theorem speaks_logout (connectionId : Int) : Speaks OneLineFailures (logout connectionId) := by
  unfold logout
  refine .bind .get fun db => ?_
  cases db.connectionsIdMap connectionId with
  | none => exact .pure _
  | some user =>
      exact .bind (speaks_executeSQL _) fun _ => .bind (.modify fun _ h => h) fun _ =>
        .modify fun _ h => h

end Database

namespace Server

/-- All frames handed out so far are composed ones. -/
structure Composes (s : Server) : Prop where
  frames : ∀ entry ∈ s.cManager.handed, ∃ lines body, Composed entry.2 lines body
  failures : s.db.OneLineFailures

/-- Frames that are composed may be handed out, whatever else of the state is the same as before.
-/
theorem Composes.handing {s t : Server} (h : s.Composes) (hDb : t.db = s.db)
    {handed : List (ConnectionHandler × Text)}
    (hHanded : t.cManager.handed = s.cManager.handed ++ handed)
    (hNew : ∀ entry ∈ handed, ∃ lines body, Composed entry.2 lines body) : t.Composes := by
  refine ⟨fun entry hEntry => ?_, hDb ▸ h.failures⟩
  rw [hHanded] at hEntry
  rcases List.mem_append.1 hEntry with hEntry | hEntry
  · exact h.frames entry hEntry
  · exact hNew entry hEntry

theorem speaks_send (c : Int) {msg body : Text} {lines : List Text}
    (hMsg : Composed msg lines body) : Speaks Composes (send c msg) := by
  intro s hs
  rw [send_apply]
  refine hs.handing rfl (ConnectionsManager.delivered_handed c msg s.cManager) fun entry hEntry => ?_
  obtain ⟨_, -, rfl⟩ := Option.map_eq_some_iff.1 (Option.mem_toList.1 hEntry)
  exact ⟨lines, body, hMsg⟩

theorem speaks_onDb {α : Type} {m : Method JavaException Database α}
    (h : Speaks Database.OneLineFailures m) : Speaks Composes (onDb m) :=
  h.zoom (fun _ hs => hs.failures) fun _ _ hs hDb => ⟨hs.frames, hDb⟩

/-- Work on the subscriptions hands nothing out. -/
theorem speaks_onSubManager {α : Type} {m : Method JavaException SubscriptionManager α}
    (h : Speaks (fun _ => True) m) :
    Speaks Composes (onCManager (ConnectionsManager.onSubManager m)) := by
  intro s hs
  have hInner := h s.cManager.subManager trivial
  have hAfter : ∀ m, Composes { s with cManager := { s.cManager with subManager := m } } :=
    fun m => ⟨hs.frames, hs.failures⟩
  simp only [onCManager, ConnectionsManager.onSubManager, Method.zoom_apply]
  rcases hRun : m s.cManager.subManager with ⟨e | a, t⟩ <;> rw [hRun] at hInner
  · exact ⟨hInner.1, hAfter t⟩
  · exact hAfter t

/-- A broadcast puts the body of the sender behind header lines of the server, and the body has
no zero character in it. -/
theorem speaks_sendToChannel {channel body : Text} (hChannel : SingleLine channel)
    (hBody : '\x00' ∉ body) :
    Speaks Composes (onCManager (ConnectionsManager.sendToChannel channel body)) := by
  intro s hs
  by_cases hIsSome : (s.cManager.subManager.subscriptions channel).isSome
  · simp only [onCManager, Method.zoom_apply, ConnectionsManager.sendToChannel_apply hIsSome]
    refine hs.handing rfl rfl fun entry hEntry => ?_
    obtain ⟨sub, -, hSub⟩ := List.mem_filterMap.1 hEntry
    obtain ⟨_, -, rfl⟩ := Option.map_eq_some_iff.1 hSub
    exact ⟨_, _, .message _ _ hChannel hBody⟩
  · have hNone : s.cManager.subManager.subscriptions channel = none := by simpa using hIsSome
    simp only [onCManager, Method.zoom_apply, ConnectionsManager.sendToChannel, Method.bind_apply,
      Method.modify_apply, Method.get_apply, hNone, deref, Method.throw_apply]
    exact ⟨.of_all (by decide), hs.frames, hs.failures⟩

section
variable {c : Int} {headers : Headers} (hHeaders : SingleLineHeaders headers)
include hHeaders

theorem speaks_answerReceipt : Speaks Composes (answerReceipt c headers) := by
  unfold answerReceipt
  split
  · exact .pure _
  · rename_i receipt hReceipt
    exact .bind (.parseInt (hHeaders _ _ hReceipt)) fun receiptId => speaks_send c (.receipt receiptId)

theorem speaks_solveConnect : Speaks Composes (solveConnect c headers) := by
  unfold solveConnect
  split
  · rename_i user pass hUser _
    refine .bind (speaks_onDb (Database.speaks_login c user pass)) fun status => ?_
    refine .ite (fun _ => .throw (.of_all (by decide))) fun _ => ?_
    refine .ite (fun _ => .throw (.of_all (by decide))) fun _ => ?_
    refine .ite (fun _ => .throw ?_) fun _ => ?_
    · exact (SingleLine.of_all (by decide)).append (hHeaders _ _ hUser)
    · exact .bind (.modify fun _ h => ⟨h.frames, h.failures⟩) fun _ => speaks_send c .connected
  · exact .throw (.of_all (by decide))

theorem speaks_solveSend {body : Text} (hBody : '\x00' ∉ body) :
    Speaks Composes (solveSend c headers body) := by
  unfold solveSend
  split
  · exact .throw (.of_all (by decide))
  · rename_i channel hChannel
    refine .bind .get fun s => .ite (fun _ => .throw (.of_all (by decide))) fun _ => ?_
    have hSend := speaks_sendToChannel (hHeaders _ _ hChannel) hBody
    cases headers "file-name".toList with
    | none => exact hSend
    | some fileName =>
        exact .bind (speaks_onDb (.bind (Database.speaks_executeSQL _) fun _ => .pure _))
          fun _ => hSend

theorem speaks_solveSubscribe : Speaks Composes (solveSubscribe c headers) := by
  unfold solveSubscribe
  split
  · exact .throw (.of_all (by decide))
  · exact .throw (.of_all (by decide))
  · rename_i channel id _ hId
    exact .bind (.parseInt (hHeaders _ _ hId)) fun subId =>
      speaks_onSubManager (SubscriptionManager.speaks_subscribe subId c channel)

theorem speaks_solveUnsubscribe : Speaks Composes (solveUnsubscribe c headers) := by
  unfold solveUnsubscribe
  split
  · exact .throw (.of_all (by decide))
  · rename_i id hId
    exact .bind (.parseInt (hHeaders _ _ hId)) fun subId =>
      speaks_onSubManager (SubscriptionManager.speaks_unsubscribe subId c)

end

theorem speaks_conCheck (c : Int) : Speaks Composes (conCheck c) :=
  .bind .get fun _ => .ite (fun _ => .throw (.of_all (by decide))) fun _ => .pure _

theorem speaks_disconnect (c : Int) :
    Speaks Composes (onCManager (ConnectionsManager.disconnect c)) := by
  have hFrames : Speaks (fun m : ConnectionsManager => ∀ entry ∈ m.handed,
      ∃ lines body, Composed entry.2 lines body) (ConnectionsManager.disconnect c) :=
    .bind (.modify fun _ h => h) fun _ =>
      (SubscriptionManager.speaks_disconnectUser c).zoom (fun _ _ => trivial) fun _ _ h _ => h
  exact hFrames.zoom (fun _ hs => hs.frames) fun _ _ hs h => ⟨h, hs.failures⟩

theorem speaks_handleDisconnect (c : Int) : Speaks Composes (handleDisconnect c) := by
  unfold handleDisconnect
  refine .bind (.modify fun _ h => ⟨h.frames, h.failures⟩) fun _ =>
    .bind (speaks_disconnect c) fun _ => .bind .get fun s => .ite (fun _ => ?_) fun _ => ?_
  · exact .bind (speaks_onDb (Database.speaks_logout c)) fun _ =>
      .modify fun _ h => ⟨h.frames, h.failures⟩
  · exact .modify fun _ h => ⟨h.frames, h.failures⟩

/-- The text of the exception and the receipt each go into a line, which they must not break. -/
theorem speaks_solveError {c : Int} {errorMsg : Text} (hMsg : SingleLine errorMsg)
    {receipt : Option Text} (hReceipt : ∀ text, receipt = some text → SingleLine text) :
    Speaks Composes (solveError c errorMsg receipt) := by
  refine .bind ?_ fun _ => speaks_handleDisconnect c
  cases receipt with
  | none => exact speaks_send c (.error hMsg)
  | some receipt => exact speaks_send c (.errorReceipt hMsg (hReceipt receipt rfl))

/-- Whatever the command, what is handed out is composed, and an exception has a text of one
line. -/
theorem speaks_dispatch {c : Int} {command body : Text} {headers : Headers}
    (hCommand : SingleLine command) (hHeaders : SingleLineHeaders headers)
    (hBody : '\x00' ∉ body) : Speaks Composes (dispatch c command headers body) := by
  have hReceipt : Speaks Composes (answerReceipt c headers) := speaks_answerReceipt hHeaders
  unfold dispatch
  refine .ite (fun _ => .bind (speaks_solveConnect hHeaders) fun _ => hReceipt) fun _ => ?_
  refine .ite (fun _ => .bind (speaks_conCheck c) fun _ =>
    .bind (speaks_solveSend hHeaders hBody) fun _ => hReceipt) fun _ => ?_
  refine .ite (fun _ => .bind (speaks_conCheck c) fun _ =>
    .bind (speaks_solveSubscribe hHeaders) fun _ => hReceipt) fun _ => ?_
  refine .ite (fun _ => .bind (speaks_conCheck c) fun _ =>
    .bind (speaks_solveUnsubscribe hHeaders) fun _ => hReceipt) fun _ => ?_
  refine .ite (fun _ => .bind (speaks_conCheck c) fun _ =>
    .bind hReceipt fun _ => speaks_handleDisconnect c) fun _ => .throw ?_
  exact (SingleLine.of_all (by decide)).append hCommand

/-- Whatever a frame without zero characters says, and however it ends. -/
theorem speaks_process {message : Text} (hMessage : '\x00' ∉ message) (c : Int) :
    Speaks Composes (process c message) := by
  obtain ⟨hHeaders, hOk, hError⟩ := parseFrame_singleLine hMessage
  have hAttempt : Speaks Composes (attempt c message) := by
    unfold attempt
    split
    · rename_i e hThrown
      exact .throw (hError e hThrown)
    · rename_i command body hParsed
      obtain ⟨hCommand, hBody⟩ := hOk command body hParsed
      exact speaks_dispatch hCommand hHeaders hBody
  refine Method.ensures_tryCatch hAttempt fun e s hs => ?_
  exact speaks_solveError hs.1 (hHeaders _) s hs.2

/-- The state a method leaves. -/
theorem Composes.after {α : Type} {m : Method JavaException Server α} {s : Server}
    (hs : s.Composes) (h : Speaks Composes m) : (m s).2.Composes := by
  have hEnd := h s hs
  rcases hRun : m s with ⟨_ | _, t⟩ <;> rw [hRun] at hEnd
  · exact hEnd.2
  · exact hEnd

/-- The steps of a server whose frames are cut out at zero characters. -/
def textStep (s : Server) (event : Event) : Option Server :=
  match event with
  | .process _ message => if '\x00' ∈ message then none else s.step event
  | _ => s.step event

/-- A step of the server whose frames are texts without a zero, as they are when they come out of
the decoder. -/
theorem textStep_cases {s t : Server} {event : Event} (h : s.textStep event = some t) :
    s.step event = some t ∧ ∀ c message, event = .process c message → '\x00' ∉ message := by
  cases event with
  | process c message =>
      simp only [textStep] at h
      split at h
      · cases h
      · rename_i hMessage
        refine ⟨h, fun c' message' hSame => ?_⟩
        cases hSame
        exact hMessage
  | accept c => exact ⟨h, nofun⟩
  | handleDisconnect c => exact ⟨h, nofun⟩

/-- Started with an SQL service that tells its failures in one line. -/
def StartedSpeaking (s : Server) : Prop := s.Started ∧ s.db.OneLineFailures

theorem textStep_composes {s t : Server} {event : Event} (hs : s.Composes)
    (h : s.textStep event = some t) : t.Composes := by
  obtain ⟨hStep, hText⟩ := textStep_cases h
  obtain ⟨c, rfl, -, rfl⟩ | ⟨c, message, rfl, -, rfl⟩ | ⟨c, rfl, -, rfl⟩ := step_cases hStep
  · exact ⟨hs.frames, hs.failures⟩
  · exact hs.after (speaks_process (hText c message rfl) c)
  · exact hs.after (speaks_handleDisconnect c)

/-- Every frame that was ever handed out is composed, in every reachable state. -/
theorem reachable_composes {s : Server} (h : Transition.Reachable StartedSpeaking textStep s) :
    s.Composes := by
  refine h.invariant ?_ fun _ _ _ hs hStep => textStep_composes hs hStep
  rintro s ⟨⟨emptyInterned, sqlService, rfl⟩, hFailures⟩
  exact ⟨nofun, hFailures⟩

end Server

namespace Composed
variable {frame body : Text} {lines : List Text}

/-- A composed frame is its lines, each with a line break, an empty line and its body. -/
theorem eq_frameText (h : Composed frame lines body) : frame = frameText lines body := by
  have hEnd : "\n\n\x00".toList = ['\n', '\n', '\x00'] := by rfl
  cases h with
  | connected => rfl
  | receipt receiptId =>
      have hReceipt : "RECEIPT\nreceipt-id:".toList =
          "RECEIPT".toList ++ '\n' :: "receipt-id:".toList := by rfl
      unfold Server.receiptFrame frameText
      rw [hReceipt, hEnd]
      generalize "RECEIPT".toList = command
      generalize "receipt-id:".toList = name
      simp
  | error message =>
      have hMessage : "ERROR\nmessage:".toList = "ERROR".toList ++ '\n' :: "message:".toList := by
        rfl
      unfold Server.errorFrame frameText
      rw [hMessage, hEnd]
      generalize "ERROR".toList = command
      generalize "message:".toList = name
      simp
  | errorReceipt message header =>
      have hReceipt : "ERROR\nreceipt-id: message-".toList =
          "ERROR".toList ++ '\n' :: "receipt-id: message-".toList := by rfl
      have hMessage : "\nmessage:".toList = '\n' :: "message:".toList := by rfl
      unfold Server.errorFrame frameText
      dsimp only
      rw [hReceipt, hMessage, hEnd]
      generalize "ERROR".toList = command
      generalize "receipt-id: message-".toList = receiptName
      generalize "message:".toList = messageName
      simp
  | message subId id destination content =>
      have hSubscription : "MESSAGE\nsubscription:".toList =
          "MESSAGE".toList ++ '\n' :: "subscription:".toList := by rfl
      have hId : "\nmessage-id:".toList = '\n' :: "message-id:".toList := by rfl
      have hDestination : "\ndestination:".toList = '\n' :: "destination:".toList := by rfl
      have hBreaks : "\n\n".toList = ['\n', '\n'] := by rfl
      unfold ConnectionsManager.messageFrame frameText
      rw [hSubscription, hId, hDestination, hBreaks]
      generalize "MESSAGE".toList = command
      generalize "subscription:".toList = subscription
      generalize "message-id:".toList = messageId
      generalize "destination:".toList = name
      simp

/-- A line that begins with a literal. -/
theorem line_of_literal {head text : Text} (hHead : head.isEmpty = false)
    (hAll : head.all (fun c => !Java.isLineBreak c && c != '\x00') = true)
    (hText : SingleLine text) : head ++ text ≠ [] ∧ SingleLine (head ++ text) := by
  refine ⟨fun hEmpty => ?_, (SingleLine.of_all hAll).append hText⟩
  rw [(List.append_eq_nil_iff.1 hEmpty).1] at hHead
  cases hHead

theorem singleLine (h : Composed frame lines body) :
    ∀ line ∈ lines, line ≠ [] ∧ SingleLine line := by
  have hLiteral : ∀ {line : Text}, line.isEmpty = false →
      line.all (fun c => !Java.isLineBreak c && c != '\x00') = true →
      line ≠ [] ∧ SingleLine line := by
    intro line hLine hAll
    simpa using line_of_literal hLine hAll (show SingleLine [] from nofun)
  cases h with
  | connected =>
      exact List.forall_mem_cons.2 ⟨hLiteral (by decide) (by decide),
        List.forall_mem_singleton.2 (hLiteral (by decide) (by decide))⟩
  | receipt receiptId =>
      exact List.forall_mem_cons.2 ⟨hLiteral (by decide) (by decide),
        List.forall_mem_singleton.2
          (line_of_literal (by decide) (by decide) (.of_decimal receiptId))⟩
  | error message =>
      exact List.forall_mem_cons.2 ⟨hLiteral (by decide) (by decide),
        List.forall_mem_singleton.2 (line_of_literal (by decide) (by decide) message)⟩
  | errorReceipt message header =>
      exact List.forall_mem_cons.2 ⟨hLiteral (by decide) (by decide),
        List.forall_mem_cons.2 ⟨line_of_literal (by decide) (by decide) header,
          List.forall_mem_singleton.2 (line_of_literal (by decide) (by decide) message)⟩⟩
  | message subId id destination content =>
      exact List.forall_mem_cons.2 ⟨hLiteral (by decide) (by decide),
        List.forall_mem_cons.2 ⟨line_of_literal (by decide) (by decide) (.of_decimal subId),
          List.forall_mem_cons.2 ⟨line_of_literal (by decide) (by decide) (.of_decimal id),
            List.forall_mem_singleton.2
              (line_of_literal (by decide) (by decide) destination)⟩⟩⟩

theorem zero_not_mem (h : Composed frame lines body) : '\x00' ∉ body := by
  cases h with
  | message subId id destination content => exact content
  | _ => exact List.not_mem_nil

end Composed
end StompGames
