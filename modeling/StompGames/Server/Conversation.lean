import StompGames.Server.Isolation
import StompGames.Server.RejectedFrames
import StompGames.Server.Requests

/-! What a client can hear from the server: each connection's frames are a conversation that
follows one protocol, whatever the other connections do and whatever the SQL service answers. -/
namespace StompGames.Server

open Imperative

/-- How far a conversation is. -/
inductive Stage where
  | opened
  | loggedIn
  | closed
  deriving DecidableEq

/-- Nothing in the receipt header of a request stops its answer. -/
def ReceiptReadable (headers : Headers) : Prop :=
  ∀ receipt, headers "receipt".toList = some receipt → (Java.parseInt receipt).isSome

/-- The requests of a client that were processed, and the frames that it was sent. A login is
answered first and only once, `MESSAGE` frames come between it and the end, a request that is
carried out is answered by its receipt, an `ERROR` is the last frame, and what a client still
says behind the end has no answer. -/
inductive Conversation : List Text → List Text → Stage → Prop where
  | start : Conversation [] [] .opened
  | connected {requests frames : List Text} {message body : Text} {headers : Headers}
      (h : Conversation requests frames .opened)
      (parse : parseFrame message = (headers, .ok ("CONNECT".toList, body)))
      (readable : ReceiptReadable headers) :
      Conversation (requests ++ [message]) (frames ++ connectedFrame :: answerOf headers) .loggedIn
  | unreadable {requests frames : List Text} {message body receipt errorMsg : Text}
      {headers : Headers} (h : Conversation requests frames .opened)
      (parse : parseFrame message = (headers, .ok ("CONNECT".toList, body)))
      (header : headers "receipt".toList = some receipt) (unread : Java.parseInt receipt = none) :
      Conversation (requests ++ [message])
        (frames ++ [connectedFrame, errorFrame errorMsg (some receipt)]) .closed
  | message {requests frames : List Text} (h : Conversation requests frames .loggedIn)
      (subId n : Int) (channel body : Text) : Conversation requests
        (frames ++ [ConnectionsManager.messageFrame subId (Decimal.decimal n) channel body])
        .loggedIn
  | answered {requests frames : List Text} {message command body : Text} {headers : Headers}
      (h : Conversation requests frames .loggedIn)
      (parse : parseFrame message = (headers, .ok (command, body)))
      (known : command = "SEND".toList ∨ command = "SUBSCRIBE".toList ∨
        command = "UNSUBSCRIBE".toList)
      (readable : ReceiptReadable headers) :
      Conversation (requests ++ [message]) (frames ++ answerOf headers) .loggedIn
  | disconnected {requests frames : List Text} {message body : Text} {headers : Headers}
      (h : Conversation requests frames .loggedIn)
      (parse : parseFrame message = (headers, .ok ("DISCONNECT".toList, body)))
      (readable : ReceiptReadable headers) :
      Conversation (requests ++ [message]) (frames ++ answerOf headers) .closed
  | rejected {requests frames : List Text} {stage : Stage}
      (h : Conversation requests frames stage) (going : stage ≠ .closed)
      (message errorMsg : Text) : Conversation (requests ++ [message])
        (frames ++ [errorFrame errorMsg ((parseFrame message).1 "receipt".toList)]) .closed
  | hungUp {requests frames : List Text} {stage : Stage}
      (h : Conversation requests frames stage) : Conversation requests frames .closed
  | ignored {requests frames : List Text} (h : Conversation requests frames .closed)
      (message : Text) : Conversation (requests ++ [message]) frames .closed

/-- The stage of a connection, as the server knows it. -/
def stage (s : Server) (c : Int) : Stage :=
  if (s.protocols c).shouldTerminate then .closed
  else if (s.db.connectionsIdMap c).isSome then .loggedIn else .opened

/-- The handlers are those of the connections that have not been torn down. -/
def Handled (s : Server) : Prop := ∀ c, s.cManager.connecetions c =
  if s.accepted c = true ∧ (s.protocols c).shouldTerminate = false then some ⟨c⟩ else none

section
variable {s t u : Server} {c d : Int} {requests : List Text}

theorem stage_eq_closed (h : (s.protocols c).shouldTerminate = true) : s.stage c = .closed := by
  rw [stage, if_pos h]

theorem stage_eq_loggedIn (hLive : (s.protocols c).shouldTerminate = false)
    (hBound : (s.db.connectionsIdMap c).isSome) : s.stage c = .loggedIn := by
  rw [stage, hLive, if_neg Bool.false_ne_true, if_pos hBound]

/-- The check of `conCheck` and the entry of the connection agree in a state where sessions are
aligned. -/
theorem LoggedIn.stage_eq (h : s.LoggedIn c) (hSessions : s.Sessions)
    (hLive : (s.protocols c).shouldTerminate = false) : s.stage c = .loggedIn := by
  obtain ⟨user, hBound, -⟩ := hSessions.owned c h.userName_ne
  exact stage_eq_loggedIn hLive (by rw [hBound]; rfl)

/-- Only who is logged in gets what is broadcast. -/
theorem stage_of_subscribed (hSessions : s.Sessions) (hHandled : s.Handled)
    (hHandler : (s.cManager.connecetions c).isSome)
    (h : s.cManager.subManager.ofConnection c ≠ []) : s.stage c = .loggedIn := by
  have hLive : (s.protocols c).shouldTerminate = false := by
    by_contra hFlag
    rw [hHandled c, if_neg fun hBoth => hFlag hBoth.2] at hHandler
    cases hHandler
  obtain ⟨user, hBound, -⟩ := hSessions.owned c (hSessions.subscribed c h)
  exact stage_eq_loggedIn hLive (by rw [hBound]; rfl)

theorem stage_ne_closed (hLive : (s.protocols c).shouldTerminate = false) : s.stage c ≠ .closed := by
  rw [stage, hLive, if_neg Bool.false_ne_true]
  split <;> exact nofun

theorem stage_congr (hProtocol : t.protocols c = s.protocols c)
    (hBound : t.db.connectionsIdMap c = s.db.connectionsIdMap c) : t.stage c = s.stage c := by
  rw [stage, stage, hProtocol, hBound]

theorem Handled.ownHandlers (h : s.Handled) : s.OwnHandlers := by
  intro c handler hHandler
  rw [h c] at hHandler
  split at hHandler
  · cases hHandler
    rfl
  · cases hHandler

/-- A step of `c` has to be checked for `c` only. -/
theorem Handled.next (h : s.Handled) (hOthers : OthersKept c s t)
    (hHandler : t.cManager.connecetions c =
      if t.accepted c = true ∧ (t.protocols c).shouldTerminate = false then some ⟨c⟩ else none) :
    t.Handled := by
  intro d
  by_cases hSame : d = c
  · rw [hSame]
    exact hHandler
  · rw [hOthers.handler d hSame, hOthers.accepted, hOthers.protocols d hSame]
    exact h d

/-- No effect of a frame changes a handler, or the flag of its connection. -/
theorem Handled.effect (h : s.Handled) (hIndexed : s.Indexed) (effect : Effect c s t) :
    t.Handled := by
  obtain ⟨hHandlers, hFlag⟩ := effect.handlers_kept
  have hOthers := effect.othersKept hIndexed
  apply h.next hOthers
  rw [hHandlers, hFlag, hOthers.accepted]
  exact h c

/-- A teardown takes the handler away and sets the flag. -/
theorem Handled.disconnected (h : s.Handled) (hIndexed : s.Indexed) (c : Int) :
    (handleDisconnect c s).2.Handled := by
  obtain ⟨-, hNone, -, hFlag⟩ := handleDisconnect_freed hIndexed c
  apply h.next (handleDisconnect_othersKept hIndexed c)
  rw [hNone, hFlag]
  simp

theorem Handled.process (h : s.Handled) (hIndexed : s.Indexed) (c : Int) (message : Text) :
    (process c message s).2.Handled :=
  (process_preserves (fun _ _ hMid hu effect => hu.effect hMid effect)
    (fun _ hMid hu => hu.disconnected hMid c) hIndexed h message).2

/-- A frame that is sent to a connection with a handler comes behind those it already has. -/
theorem handedTo_sent (hHandler : s.cManager.connecetions c = some ⟨c⟩) (frame : Text) :
    (s.sent c frame).handedTo c = s.handedTo c ++ [frame] := by
  simp [handedTo, sent, ConnectionsManager.delivered_handed, hHandler]

theorem handedTo_sent_of_gone (hGone : s.cManager.connecetions c = none) (frame : Text) :
    (s.sent c frame).handedTo c = s.handedTo c := by
  simp [handedTo, sent, ConnectionsManager.delivered_handed, hGone]

/-- A teardown hands nothing to anyone. -/
theorem handedTo_handleDisconnect (hIndexed : s.Indexed) (c d : Int) :
    (handleDisconnect c s).2.handedTo d = s.handedTo d := by
  obtain ⟨-, -, -, -, -, -, hHanded⟩ := ConnectionsManager.disconnect_apply hIndexed c
  rw [handedTo, (handleDisconnect_freed hIndexed c).1, hHanded]
  rfl

/-- Who is subscribed may be told of a broadcast. -/
theorem Conversation.broadcast {stage : Stage} (h : Conversation requests (s.handedTo d) stage)
    (hIndexed : s.Indexed) (hOwn : s.OwnHandlers)
    (hStage : (s.cManager.connecetions d).isSome → s.cManager.subManager.ofConnection d ≠ [] →
      stage = .loggedIn) (db : Database) (channel body : Text) :
    Conversation requests ((s.broadcasted db channel body).handedTo d) stage := by
  obtain ⟨sub, hSub, hFrames⟩ := broadcastFrames_filter hOwn hIndexed d channel body
  rw [broadcasted, handedTo, List.filter_append, List.map_append, hFrames]
  cases sub with
  | none => simpa [handedTo] using h
  | some sub =>
      have hLogged := hStage (hSub sub rfl).2 (List.ne_nil_of_mem (hSub sub rfl).1)
      subst hLogged
      exact h.message _ _ _ _

/-- After work of `c` that has neither answered nor touched the session. -/
structure Forwards (c : Int) (s u : Server) : Prop where
  indexed : u.Indexed
  handlers : u.cManager.connecetions = s.cManager.connecetions
  protocols : u.protocols = s.protocols
  session : u.db.connectionsIdMap = s.db.connectionsIdMap
  frames : ∀ requests, Conversation requests (s.handedTo c) .loggedIn →
    Conversation requests (u.handedTo c) .loggedIn

theorem Forwards.refl (hIndexed : s.Indexed) : Forwards c s s :=
  ⟨hIndexed, rfl, rfl, rfl, fun _ h => h⟩

/-- The sender itself may get the `MESSAGE`, and that is no answer to its request. -/
theorem forwards_solveSend (hIndexed : s.Indexed) (hOwn : s.OwnHandlers) (headers : Headers)
    (body : Text) : Forwards c s (solveSend c headers body s).2 := by
  have hKept := Forwards.refl (c := c) hIndexed
  unfold solveSend
  cases headers "destination".toList with
  | none => exact hKept
  | some channel =>
      simp only [Method.bind_apply, Method.get_apply, Method.ite_apply, Method.throw_apply]
      split
      · exact hKept
      · rename_i hNot
        have hSub : s.cManager.isSubscribed c channel = true := by simpa using hNot
        have hIsSome : (s.cManager.subManager.subscriptions channel).isSome := by
          unfold ConnectionsManager.isSubscribed SubscriptionManager.isSubscribedToChannel at hSub
          cases hEntry : s.cManager.subManager.subscriptions channel with
          | none => simp [hEntry] at hSub
          | some list => rfl
        have hSent : ∀ db : Database, db.connectionsIdMap = s.db.connectionsIdMap →
            Forwards c s (s.broadcasted db channel body) := fun db hDb =>
          ⟨hIndexed, rfl, rfl, hDb, fun requests h =>
            h.broadcast hIndexed hOwn (fun _ _ => rfl) db channel body⟩
        cases headers "file-name".toList with
        | none =>
            simp only [onCManager, Method.zoom_apply,
              ConnectionsManager.sendToChannel_apply hIsSome]
            exact hSent s.db rfl
        | some fileName =>
            simp only [Method.bind_apply, onDb, Method.zoom_apply, Database.trackFileUpload,
              Database.executeSQL_apply]
            cases s.db.sqlService 0 with
            | failure message => exact ⟨hIndexed, rfl, rfl, rfl, fun _ h => h⟩
            | reply response =>
                simp only [Method.pure_apply, onCManager, Method.zoom_apply,
                  ConnectionsManager.sendToChannel_apply hIsSome]
                exact hSent (s.db.called _) rfl

theorem forwards_solveSubscribe (hIndexed : s.Indexed) (headers : Headers) :
    Forwards c s (solveSubscribe c headers s).2 := by
  obtain ⟨e, hRun⟩ | ⟨channel, id, subId, -, -, hNew, hRun⟩ := solveSubscribe_cases c headers s
  · rw [hRun]
    exact Forwards.refl hIndexed
  · rw [hRun]
    exact ⟨SubscriptionManager.Consistent.added hIndexed hNew, rfl, rfl, rfl, fun _ h => h⟩

theorem forwards_solveUnsubscribe (hIndexed : s.Indexed) (headers : Headers) :
    Forwards c s (solveUnsubscribe c headers s).2 := by
  obtain ⟨e, hRun⟩ | ⟨id, subId, -, -, ⟨hRun, -⟩ | ⟨sub, hListed, -, hRun⟩⟩ :=
    solveUnsubscribe_cases hIndexed c headers
  · rw [hRun]
    exact Forwards.refl hIndexed
  · rw [hRun]
    exact Forwards.refl hIndexed
  · rw [hRun]
    exact ⟨SubscriptionManager.Consistent.removed hIndexed _, rfl, rfl, rfl, fun _ h => h⟩

/-- A receipt is sent, or its header cannot be read. -/
theorem answerReceipt_cases (c : Int) (headers : Headers) (s : Server) :
    (answerReceipt c headers s).1 = .ok () ∧ ReceiptReadable headers ∨
      ∃ receipt, headers "receipt".toList = some receipt ∧ Java.parseInt receipt = none ∧
        answerReceipt c headers s = (.error (.numberFormat receipt), s) := by
  rw [answerReceipt_apply, ReceiptReadable]
  cases headers "receipt".toList with
  | none => exact Or.inl ⟨rfl, nofun⟩
  | some receipt =>
      dsimp only
      cases hNumber : Java.parseInt receipt with
      | none => exact Or.inr ⟨receipt, rfl, hNumber, rfl⟩
      | some n =>
          refine Or.inl ⟨rfl, fun other hOther => ?_⟩
          rw [← Option.some.inj hOther, hNumber]
          rfl

/-- The answer is all that `answerReceipt` changes. -/
theorem answerReceipt_kept (c : Int) (headers : Headers) (s : Server) :
    (answerReceipt c headers s).2.protocols = s.protocols ∧
      (answerReceipt c headers s).2.db = s.db ∧
      (answerReceipt c headers s).2.cManager.connecetions = s.cManager.connecetions := by
  rw [answerReceipt_apply]
  split
  · exact ⟨rfl, rfl, rfl⟩
  · split
    · exact ⟨rfl, rfl, rfl⟩
    · exact ⟨rfl, rfl, ConnectionsManager.delivered_connecetions c _ _⟩

/-- After a teardown the connection is closed, even where the SQL call has failed. -/
theorem stage_handleDisconnect (hIndexed : s.Indexed) (c : Int) :
    (handleDisconnect c s).2.stage c = .closed :=
  stage_eq_closed (handleDisconnect_freed hIndexed c).2.2.2

/-- A rejected frame is answered by an `ERROR` and ends the conversation. -/
theorem Conversation.error {stage : Stage} {message : Text} {e : JavaException}
    (h : Conversation requests (u.handedTo c) stage) (hGoing : stage ≠ .closed) (hIndexed : u.Indexed)
    (hHandler : u.cManager.connecetions c = some ⟨c⟩)
    (hThrown : attempt c message s = (.error e, u)) :
    Conversation (requests ++ [message]) ((process c message s).2.handedTo c)
      ((process c message s).2.stage c) := by
  have hSent := hIndexed.sent c (errorFrame e.getMessage ((parseFrame message).1 "receipt".toList))
  rw [process_error hThrown, handedTo_handleDisconnect hSent, handedTo_sent hHandler,
    stage_handleDisconnect hSent]
  exact h.rejected hGoing message e.getMessage

/-- A command that is checked, worked through and answered. -/
theorem Conversation.checked (h : Conversation requests (s.handedTo c) (s.stage c))
    (hIndexed : s.Indexed) (hSessions : s.Sessions)
    (hLive : (s.protocols c).shouldTerminate = false)
    (hHandler : s.cManager.connecetions c = some ⟨c⟩) {message command body : Text}
    {headers : Headers} (hParse : parseFrame message = (headers, .ok (command, body)))
    (hKnown : command = "SEND".toList ∨ command = "SUBSCRIBE".toList ∨
      command = "UNSUBSCRIBE".toList) {m : Method JavaException Server Unit}
    (hWork : Forwards c s (m s).2) (hAttempt : attempt c message s =
      (do conCheck c; m; answerReceipt c headers : Method JavaException Server Unit) s) :
    Conversation (requests ++ [message]) ((process c message s).2.handedTo c)
      ((process c message s).2.stage c) := by
  simp only [Method.bind_apply, conCheck_apply] at hAttempt
  by_cases hLogged : s.LoggedIn c
  · have hStage := hLogged.stage_eq hSessions hLive
    rw [hStage] at h
    simp only [if_pos hLogged] at hAttempt
    rcases hRun : m s with ⟨e | _, u⟩ <;> rw [hRun] at hWork hAttempt
    · exact (hWork.frames requests h).error (by decide) hWork.indexed
        ((congrFun hWork.handlers c).trans hHandler) hAttempt
    · have hMid : u.cManager.connecetions c = some ⟨c⟩ :=
        (congrFun hWork.handlers c).trans hHandler
      dsimp only at hAttempt
      obtain ⟨hOk, hReadable⟩ | ⟨receipt, -, -, hError⟩ := answerReceipt_cases c headers u
      · obtain ⟨hProtocols, hDb, -⟩ := answerReceipt_kept c headers u
        rcases hAnswer : answerReceipt c headers u with ⟨e | _, v⟩ <;>
          rw [hAnswer] at hOk hProtocols hDb hAttempt
        · cases hOk
        · have hEnd : v.stage c = .loggedIn := by
            rw [← hStage]
            exact stage_congr (congrFun (hProtocols.trans hWork.protocols) c)
              ((congrArg (fun db => db.connectionsIdMap c) hDb).trans (congrFun hWork.session c))
          rw [process, Method.tryCatch_apply, hAttempt]
          dsimp only
          rw [hEnd, answerReceipt_handed hMid hAnswer]
          exact (hWork.frames requests h).answered hParse hKnown hReadable
      · rw [hError] at hAttempt
        exact (hWork.frames requests h).error (by decide) hWork.indexed hMid hAttempt
  · rw [if_neg hLogged] at hAttempt
    exact h.error (stage_ne_closed hLive) hIndexed hHandler hAttempt

/-- A `CONNECT` that is carried out: the greeting, then the receipt where one was asked for. -/
theorem Conversation.connect (h : Conversation requests (s.handedTo c) (s.stage c))
    (hIndexed : s.Indexed) (hLive : (s.protocols c).shouldTerminate = false)
    (hHandler : s.cManager.connecetions c = some ⟨c⟩) {message body : Text} {headers : Headers}
    (hParse : parseFrame message = (headers, .ok ("CONNECT".toList, body))) :
    Conversation (requests ++ [message]) ((process c message s).2.handedTo c)
      ((process c message s).2.stage c) := by
  have hAttempt : attempt c message s =
      (do solveConnect c headers; answerReceipt c headers : Method JavaException Server Unit) s := by
    simp only [attempt, hParse]
    rfl
  rw [Method.bind_apply] at hAttempt
  rcases hRun : solveConnect c headers s with ⟨e | _, u⟩ <;> rw [hRun] at hAttempt
  · obtain ⟨-, rfl⟩ | ⟨user, pass, -, -, rfl⟩ := solveConnect_error hRun
    · exact h.error (stage_ne_closed hLive) hIndexed hHandler hAttempt
    · have hSame : Conversation requests
          (Server.handedTo { s with db := (Database.login c user pass s.db).2 } c)
          (s.stage c) := h
      exact hSame.error (stage_ne_closed hLive) hIndexed hHandler hAttempt
  · have hOk : (solveConnect c headers s).1 = .ok () := by rw [hRun]
    obtain ⟨user, pass, hUser, hPass⟩ := solveConnect_headers hOk
    obtain ⟨status, db, hLogin, hSuccess, hSolve⟩ := solveConnect_ok hUser hPass hOk
    rw [hRun] at hSolve
    obtain ⟨hFree, hDb⟩ := Database.login_success hLogin hSuccess
    have hStage : s.stage c = .opened := by
      rw [stage, hLive, if_neg Bool.false_ne_true, hFree]
      rfl
    have hBound : (db.connectionsIdMap c).isSome := by
      obtain ⟨-, rfl⟩ | ⟨ref, -, -, -, rfl⟩ := hDb
      · simp [Database.registered]
      · simp [Database.opened]
    have hEq := (Prod.mk.inj hSolve).2
    have hIndexed' : u.Indexed := by
      rw [hEq]
      exact Indexed.sent hIndexed c connectedFrame
    have hHandler' : u.cManager.connecetions c = some ⟨c⟩ := by
      rw [hEq, sent, ConnectionsManager.delivered_connecetions]
      exact hHandler
    have hBefore : (({ s with db := db } : Server).setUserName c
        ⟨user, s.emptyInterned⟩).cManager.connecetions c = some ⟨c⟩ := hHandler
    have hHanded : u.handedTo c = s.handedTo c ++ [connectedFrame] := by
      rw [hEq]
      exact handedTo_sent hBefore connectedFrame
    have hLoggedIn : u.stage c = .loggedIn := by
      apply stage_eq_loggedIn
      · simpa [hEq, sent, setUserName, setProtocol] using hLive
      · rw [hEq]
        exact hBound
    rw [hStage] at h
    dsimp only at hAttempt
    obtain ⟨hAnswered, hReadable⟩ | ⟨receipt, hReceipt, hUnread, hError⟩ :=
      answerReceipt_cases c headers u
    · obtain ⟨hProtocols, hKept, -⟩ := answerReceipt_kept c headers u
      rcases hAnswer : answerReceipt c headers u with ⟨e | _, v⟩ <;>
        rw [hAnswer] at hAnswered hProtocols hKept hAttempt
      · cases hAnswered
      · have hEnd : v.stage c = .loggedIn := by
          rw [← hLoggedIn]
          exact stage_congr (congrFun hProtocols c)
            (congrArg (fun db : Database => db.connectionsIdMap c) hKept)
        rw [process, Method.tryCatch_apply, hAttempt]
        dsimp only
        rw [hEnd, answerReceipt_handed hHandler' hAnswer, hHanded, List.append_assoc]
        exact h.connected hParse hReadable
    · rw [hError] at hAttempt
      have hSent := hIndexed'.sent c (errorFrame (JavaException.numberFormat receipt).getMessage
        ((parseFrame message).1 "receipt".toList))
      rw [process_error hAttempt, handedTo_handleDisconnect hSent, handedTo_sent hHandler', hHanded,
        stage_handleDisconnect hSent, List.append_assoc, hParse]
      dsimp only
      rw [hReceipt]
      exact h.unreadable hParse hReceipt hUnread

/-- A `DISCONNECT` that is carried out: the receipt is the last frame, and the connection ends.
-/
theorem Conversation.disconnect (h : Conversation requests (s.handedTo c) (s.stage c))
    (hIndexed : s.Indexed) (hSessions : s.Sessions)
    (hLive : (s.protocols c).shouldTerminate = false)
    (hHandler : s.cManager.connecetions c = some ⟨c⟩) {message body : Text} {headers : Headers}
    (hParse : parseFrame message = (headers, .ok ("DISCONNECT".toList, body))) :
    Conversation (requests ++ [message]) ((process c message s).2.handedTo c)
      ((process c message s).2.stage c) := by
  have hAttempt : attempt c message s = (do
      conCheck c
      answerReceipt c headers
      handleDisconnect c : Method JavaException Server Unit) s := by
    simp only [attempt, hParse]
    rfl
  simp only [Method.bind_apply, conCheck_apply] at hAttempt
  by_cases hLogged : s.LoggedIn c
  · have hStage := hLogged.stage_eq hSessions hLive
    simp only [if_pos hLogged] at hAttempt
    obtain ⟨hAnswered, hReadable⟩ | ⟨receipt, -, -, hError⟩ := answerReceipt_cases c headers s
    · have hTouched := preserves_answerReceipt headers s (show Touched c s s from ⟨hIndexed, .refl⟩)
      rcases hAnswer : answerReceipt c headers s with ⟨e | _, v⟩ <;>
        rw [hAnswer] at hAnswered hTouched hAttempt
      · cases hAnswered
      · have hEnd : Conversation (requests ++ [message]) (v.handedTo c) .closed := by
          rw [answerReceipt_handed hHandler hAnswer]
          rw [hStage] at h
          exact h.disconnected hParse hReadable
        have hHanded := handedTo_handleDisconnect hTouched.1 c c
        have hClosed := stage_handleDisconnect hTouched.1 c
        dsimp only at hAttempt
        rcases hLeave : handleDisconnect c v with ⟨e | _, w⟩ <;>
          rw [hLeave] at hAttempt hHanded hClosed
        · have hGone := (handleDisconnect_freed hTouched.1 c).2.1
          have hLeft := handleDisconnect_indexed hTouched.1 c
          rw [hLeave] at hGone hLeft
          have hSent := hLeft.sent c
            (errorFrame e.getMessage ((parseFrame message).1 "receipt".toList))
          rw [process_error hAttempt, handedTo_handleDisconnect hSent,
            handedTo_sent_of_gone hGone, stage_handleDisconnect hSent, hHanded]
          exact hEnd
        · rw [process, Method.tryCatch_apply, hAttempt]
          dsimp only at hHanded hClosed ⊢
          rw [hHanded, hClosed]
          exact hEnd
    · rw [hError] at hAttempt
      exact h.error (stage_ne_closed hLive) hIndexed hHandler hAttempt
  · rw [if_neg hLogged] at hAttempt
    exact h.error (stage_ne_closed hLive) hIndexed hHandler hAttempt

/-- The conversation goes on with the frame that is processed. -/
theorem Conversation.process (h : Conversation requests (s.handedTo c) (s.stage c))
    (hIndexed : s.Indexed) (hSessions : s.Sessions) (hHandled : s.Handled)
    (hAccepted : s.accepted c = true) (hLive : (s.protocols c).shouldTerminate = false)
    (message : Text) :
    Conversation (requests ++ [message]) ((process c message s).2.handedTo c)
      ((process c message s).2.stage c) := by
  have hHandler : s.cManager.connecetions c = some ⟨c⟩ := by
    rw [hHandled c, if_pos ⟨hAccepted, hLive⟩]
  rcases hParse : parseFrame message with ⟨headers, e | ⟨command, body⟩⟩
  · refine h.error (e := e) (stage_ne_closed hLive) hIndexed hHandler ?_
    simp only [attempt, hParse]
    rfl
  have hAttempt : attempt c message s = dispatch c command headers body s := by
    simp only [attempt, hParse]
  by_cases hConnect : command = "CONNECT".toList
  · subst hConnect
    exact h.connect hIndexed hLive hHandler hParse
  by_cases hSend : command = "SEND".toList
  · subst hSend
    exact h.checked hIndexed hSessions hLive hHandler hParse (Or.inl rfl)
      (forwards_solveSend hIndexed hHandled.ownHandlers headers body) hAttempt
  by_cases hSubscribe : command = "SUBSCRIBE".toList
  · subst hSubscribe
    exact h.checked hIndexed hSessions hLive hHandler hParse (Or.inr (Or.inl rfl))
      (forwards_solveSubscribe hIndexed headers) hAttempt
  by_cases hUnsubscribe : command = "UNSUBSCRIBE".toList
  · subst hUnsubscribe
    exact h.checked hIndexed hSessions hLive hHandler hParse (Or.inr (Or.inr rfl))
      (forwards_solveUnsubscribe hIndexed headers) hAttempt
  by_cases hDisconnect : command = "DISCONNECT".toList
  · subst hDisconnect
    exact h.disconnect hIndexed hSessions hLive hHandler hParse
  · rw [dispatch, if_neg hConnect, if_neg hSend, if_neg hSubscribe, if_neg hUnsubscribe,
      if_neg hDisconnect] at hAttempt
    exact h.error (stage_ne_closed hLive) hIndexed hHandler hAttempt

/-- A frame that is processed after the end is not answered. -/
theorem Conversation.ignore (h : Conversation requests (s.handedTo c) (s.stage c))
    (hIndexed : s.Indexed) (hHandled : s.Handled)
    (hOver : (s.protocols c).shouldTerminate = true) (message : Text) :
    Conversation (requests ++ [message]) ((Server.process c message s).2.handedTo c)
      ((Server.process c message s).2.stage c) := by
  have hEnd := (process_preserves (c := c) (P := fun u => u.Handled ∧
    (u.protocols c).shouldTerminate = true ∧ u.handedTo c = s.handedTo c) ?_ ?_ hIndexed
      ⟨hHandled, hOver, rfl⟩ message).2
  · obtain ⟨-, hFlag, hHanded⟩ := hEnd
    rw [stage_eq_closed hOver] at h
    rw [hHanded, stage_eq_closed hFlag]
    exact h.ignored message
  · rintro u v hMid ⟨hKept, hFlag, hHanded⟩ effect
    have hGone : u.cManager.connecetions c = none := by
      rw [hKept c, hFlag]
      simp
    refine ⟨hKept.effect hMid effect, effect.handlers_kept.2.trans hFlag, ?_⟩
    rw [← hHanded]
    cases effect with
    | send reply => exact handedTo_sent_of_gone hGone _
    | @broadcast channel subscribed body =>
        obtain ⟨sub, hSub, hFrames⟩ := broadcastFrames_filter hKept.ownHandlers hMid c channel body
        rw [handedTo, List.filter_append, List.map_append, hFrames]
        cases sub with
        | none => simp [handedTo]
        | some sub =>
            have hSome := (hSub sub rfl).2
            rw [hGone] at hSome
            cases hSome
    | connect login success => rfl
    | connectFailed login => rfl
    | upload sql => rfl
    | subscribe loggedIn subId unsubscribed => rfl
    | unsubscribe listed => rfl
  · rintro u hMid ⟨hKept, -, hHanded⟩
    exact ⟨hKept.disconnected hMid c, (handleDisconnect_freed hMid c).2.2.2,
      (handedTo_handleDisconnect hMid c c).trans hHanded⟩

/-- A frame of another connection brings at most a `MESSAGE`. -/
theorem Conversation.other (h : Conversation requests (s.handedTo d) (s.stage d))
    (hIndexed : s.Indexed) (hSessions : s.Sessions) (hHandled : s.Handled) (hOther : d ≠ c)
    (message : Text) : Conversation requests ((Server.process c message s).2.handedTo d)
      ((Server.process c message s).2.stage d) := by
  have hEnd := (process_preserves (c := c) (P := fun u => OthersKept c s u ∧ u.OwnHandlers ∧
    Conversation requests (u.handedTo d) (s.stage d)) ?_ ?_ hIndexed
      ⟨OthersKept.refl c s, hHandled.ownHandlers, h⟩ message).2
  · rw [stage_congr (hEnd.1.protocols d hOther) (hEnd.1.session d hOther)]
    exact hEnd.2.2
  · rintro u v hMid ⟨hKept, hOwn, hConv⟩ effect
    refine ⟨hKept.trans (effect.othersKept hMid), effect.ownHandlers hOwn, ?_⟩
    cases effect with
    | send reply =>
        rw [hOwn.sent hOther]
        exact hConv
    | @broadcast channel subscribed body =>
        have hStage : (u.cManager.connecetions d).isSome →
            u.cManager.subManager.ofConnection d ≠ [] → s.stage d = .loggedIn := by
          rw [hKept.ofConnection hOther, hKept.handler d hOther]
          exact stage_of_subscribed hSessions hHandled
        exact hConv.broadcast hMid hOwn hStage u.db channel body
    | connect login success => exact hConv
    | connectFailed login => exact hConv
    | upload sql => exact hConv
    | subscribe loggedIn subId unsubscribed => exact hConv
    | unsubscribe listed => exact hConv
  · rintro u hMid ⟨hKept, hOwn, hConv⟩
    refine ⟨hKept.trans (handleDisconnect_othersKept hMid c),
      handleDisconnect_ownHandlers hOwn hMid, ?_⟩
    rw [handedTo_handleDisconnect hMid]
    exact hConv

/-- A connection that is not accepted yet has a protocol object as it was made. -/
def Unopened (s : Server) : Prop := ∀ c, s.accepted c = false → s.protocols c = ⟨.empty, false⟩

/-- What a run keeps: each connection's frames follow the protocol. -/
structure Converses (s : Server) (requests : Int → List Text) : Prop where
  indexed : s.Indexed
  sessions : s.Sessions
  handled : s.Handled
  unopened : s.Unopened
  conversation : ∀ c, Conversation (requests c) (s.handedTo c) (s.stage c)

theorem Unopened.next (h : s.Unopened) (hOthers : OthersKept c s t)
    (hAccepted : s.accepted c = true) : t.Unopened := by
  intro d hFresh
  rw [hOthers.accepted] at hFresh
  have hOther : d ≠ c := by
    rintro rfl
    rw [hAccepted] at hFresh
    cases hFresh
  rw [hOthers.protocols d hOther]
  exact h d hFresh

end

/-- One step, and the request that it processes. -/
theorem Converses.next {s t : Server} {requests : Int → List Text} (h : s.Converses requests)
    {event : Event} (hStep : s.step event = some t) :
    t.Converses fun c => requests c ++ framesOf c [event] := by
  have hIndexed := step_indexed h.indexed hStep
  have hSessions := step_sessions h.indexed h.sessions hStep
  obtain ⟨c, rfl, hFresh, rfl⟩ | ⟨c, message, rfl, hAccepted, rfl⟩ | ⟨c, rfl, hAccepted, rfl⟩ :=
    step_cases hStep
  · have hSame : ∀ d, (s.accept c).protocols d = s.protocols d := by
      intro d
      by_cases hEq : d = c
      · subst hEq
        simp [accept, h.unopened d hFresh]
      · simp [accept, hEq]
    refine ⟨hIndexed, hSessions, fun d => ?_, fun d hUnopened => ?_, fun d => ?_⟩
    · rw [hSame]
      by_cases hEq : d = c
      · subst hEq
        simp [accept, ConnectionsManager.connect, h.unopened d hFresh]
      · simpa [accept, ConnectionsManager.connect, hEq] using h.handled d
    · rw [hSame]
      apply h.unopened
      by_cases hEq : d = c
      · rwa [hEq]
      · simpa [accept, hEq] using hUnopened
    · have hNone : framesOf d [.accept c] = [] := rfl
      rw [hNone, List.append_nil, stage_congr (hSame d) rfl]
      exact h.conversation d
  · refine ⟨hIndexed, hSessions, h.handled.process h.indexed c message,
      h.unopened.next (process_othersKept h.indexed c message) hAccepted, fun d => ?_⟩
    by_cases hEq : d = c
    · have hOne : framesOf c [.process c message] = [message] := by simp [framesOf]
      rw [hEq, hOne]
      cases hOver : (s.protocols c).shouldTerminate with
      | true => exact (h.conversation c).ignore h.indexed h.handled hOver message
      | false =>
          exact (h.conversation c).process h.indexed h.sessions h.handled hAccepted hOver message
    · have hNone : framesOf d [.process c message] = [] := by simp [framesOf, Ne.symm hEq]
      rw [hNone, List.append_nil]
      exact (h.conversation d).other h.indexed h.sessions h.handled hEq message
  · have hKept := handleDisconnect_othersKept h.indexed c
    refine ⟨hIndexed, hSessions, h.handled.disconnected h.indexed c,
      h.unopened.next hKept hAccepted, fun d => ?_⟩
    have hNone : framesOf d [.handleDisconnect c] = [] := rfl
    rw [hNone, List.append_nil, handedTo_handleDisconnect h.indexed]
    by_cases hEq : d = c
    · rw [hEq, stage_handleDisconnect h.indexed]
      exact (h.conversation c).hungUp
    · rw [stage_congr (hKept.protocols d hEq) (hKept.session d hEq)]
      exact h.conversation d

theorem Started.converses {s : Server} (h : s.Started) : s.Converses fun _ => [] := by
  have hSessions := started_sessions h
  obtain ⟨emptyInterned, sqlService, rfl⟩ := h
  exact ⟨indexed_new _ _, hSessions, fun _ => rfl, fun _ _ => rfl, fun _ => .start⟩

/-- The run lemma: what each connection has been handed goes on as a conversation with the frames
that were processed for it. -/
theorem run_converses {s t : Server} {requests : Int → List Text} {events : List Event}
    (h : s.Converses requests) (hRun : Transition.run step s events = some t) :
    t.Converses fun c => requests c ++ framesOf c events := by
  induction events generalizing s requests with
  | nil =>
      cases hRun
      simpa [framesOf] using h
  | cons event rest ih =>
      obtain ⟨u, hStep, hRest⟩ := Transition.run_cons_eq_some.1 hRun
      have hEnd := ih (h.next hStep) hRest
      simpa only [List.append_assoc, ← framesOf_append, List.singleton_append] using hEnd

/-- In every run the frames of every connection, together with its requests, are a conversation,
and the server knows how far it is. -/
theorem conversation {s t : Server} {events : List Event} (hStart : s.Started)
    (hRun : Transition.run step s events = some t) (c : Int) :
    Conversation (framesOf c events) (t.handedTo c) (t.stage c) := by
  have hEnd := (run_converses hStart.converses hRun).conversation c
  rwa [List.nil_append] at hEnd

/-- Of two subscribers the second one asks for a subscription without a destination, and says
something more behind the `ERROR`. -/
def noDestination : List Event := joining ++
  [.process 1 "SEND\ndestination:/a\nreceipt:4\n\ngoal".toList,
    .process 2 "SUBSCRIBE\nid:8\nreceipt:3\n\n".toList,
    .process 1 "SEND\ndestination:/a\n\ngoal".toList, .process 2 "X".toList]

/-- The server after a client has sent a frame that is not accepted, with another one there. -/
def turnedAway : Server :=
  (Transition.run step (.new true fun _ => .reply []) noDestination).getD (.new true fun _ => .reply [])

theorem turnedAway_run :
    Transition.run step (.new true fun _ => .reply []) noDestination = some turnedAway := by
  have hRuns : (Transition.run step (.new true fun _ => .reply []) noDestination).isSome = true := by
    decide +kernel
  rw [Option.eq_some_of_isSome hRuns, Option.get_eq_getD]
  rfl

/-- A client that is turned away, and one that goes on. -/
theorem conversation_turnedAway :
    Conversation (framesOf 2 noDestination) (turnedAway.handedTo 2) (turnedAway.stage 2) :=
  conversation (s := .new true fun _ => .reply []) ⟨true, _, rfl⟩ turnedAway_run 2

/-- The frames that are no `MESSAGE`. -/
def replies (frames : List Text) : List Text :=
  frames.filter fun frame => !"MESSAGE".toList.isPrefixOf frame

/-- What a client is sent for a request that is carried out. -/
def answerTo (message : Text) : List Text :=
  match parseFrame message with
  | (headers, .ok (command, _)) =>
      (if command = "CONNECT".toList then [connectedFrame] else []) ++ answerOf headers
  | (_, .error _) => []

theorem Reply.replies {frame : Text} (reply : Reply frame) : replies [frame] = [frame] := by
  cases reply with
  | connected => rfl
  | receipt receiptId => rfl
  | error errorMsg receipt => cases receipt <;> rfl

theorem replies_answerOf {headers : Headers} (h : ReceiptReadable headers) :
    replies (answerOf headers) = answerOf headers := by
  unfold answerOf
  cases hReceipt : headers "receipt".toList with
  | none => rfl
  | some receipt =>
      dsimp only
      obtain ⟨n, hNumber⟩ := Option.isSome_iff_exists.1 (h receipt hReceipt)
      rw [hNumber]
      exact (Reply.receipt n).replies

theorem replies_append (first second : List Text) :
    replies (first ++ second) = replies first ++ replies second := List.filter_append ..

/-- A `MESSAGE` is no reply, whoever sent the body in it. -/
theorem replies_messageFrame (subId n : Int) (channel body : Text) :
    replies [ConnectionsManager.messageFrame subId (Decimal.decimal n) channel body] = [] := rfl

/-- How a conversation can end: without an answer, with the error that a request is answered by, or,
where the receipt header of a login is no number, with the error behind the answer to the login. -/
inductive Ending : List Text → List Text → Prop where
  | quiet : Ending [] []
  | rejected (message errorMsg : Text) : Ending [message]
      [errorFrame errorMsg ((parseFrame message).1 "receipt".toList)]
  | unreadable {message body : Text} {headers : Headers}
      (parse : parseFrame message = (headers, .ok ("CONNECT".toList, body)))
      (unread : ¬ReceiptReadable headers) (errorMsg : Text) : Ending [message]
      [connectedFrame, errorFrame errorMsg (headers "receipt".toList)]

/-- The login is answered first, and only one is. -/
def Greeted (frames : List Text) : Prop :=
  ∃ rest, frames = connectedFrame :: rest ∧ connectedFrame ∉ rest

/-- Requests are answered one after the other, each once, and only the last can fail. -/
structure AnsweredInTurn (requests frames : List Text) (stage : Stage) : Prop where
  going : stage ≠ .closed → replies frames = requests.flatMap answerTo
  ended : ∃ accepted last ignored ending, requests = accepted ++ last ++ ignored ∧
    Ending last ending ∧ replies frames = accepted.flatMap answerTo ++ ending
  loggedIn : stage = .loggedIn → Greeted frames
  first : frames = [] ∨ Greeted frames ∨ ∃ errorMsg receipt, frames = [errorFrame errorMsg receipt]

theorem connectedFrame_ne {frame : Text} (h : frame.head? ≠ some 'C') : connectedFrame ≠ frame := by
  rintro rfl
  exact h rfl

theorem errorFrame_head (errorMsg : Text) (receipt : Option Text) :
    (errorFrame errorMsg receipt).head? = some 'E' := by
  cases receipt <;> rfl

theorem Greeted.append {frames more : List Text} (h : Greeted frames) (hMore : connectedFrame ∉ more) :
    Greeted (frames ++ more) := by
  obtain ⟨rest, rfl, hRest⟩ := h
  exact ⟨rest ++ more, rfl, fun hMem => (List.mem_append.1 hMem).elim hRest hMore⟩

theorem connectedFrame_not_mem_answerOf {headers : Headers} (h : ReceiptReadable headers) :
    connectedFrame ∉ answerOf headers := by
  unfold answerOf
  cases hReceipt : headers "receipt".toList with
  | none => exact List.not_mem_nil
  | some receipt =>
      dsimp only
      obtain ⟨n, hNumber⟩ := Option.isSome_iff_exists.1 (h receipt hReceipt)
      rw [hNumber, List.mem_singleton]
      exact connectedFrame_ne (by show some 'R' ≠ some 'C'; decide)

theorem connectedFrame_not_mem_error (errorMsg : Text) (receipt : Option Text) :
    connectedFrame ∉ [errorFrame errorMsg receipt] := by
  rw [List.mem_singleton]
  apply connectedFrame_ne
  rw [errorFrame_head]
  decide

/-- Every request of a connection that is not logged in either logs it in or closes it. -/
theorem Conversation.of_opened {requests frames : List Text}
    (h : Conversation requests frames .opened) : requests = [] ∧ frames = [] := by
  cases h with
  | start => exact ⟨rfl, rfl⟩

/-- What a request is answered with, once it is known how it is parsed. -/
theorem answerTo_of_parse {message command body : Text} {headers : Headers}
    (h : parseFrame message = (headers, .ok (command, body))) : answerTo message =
      (if command = "CONNECT".toList then [connectedFrame] else []) ++ answerOf headers := by
  rw [answerTo, h]

/-- Without the `MESSAGE` frames, a conversation is the answers to its requests, in turn. -/
theorem Conversation.answers {requests frames : List Text} {stage : Stage}
    (h : Conversation requests frames stage) : AnsweredInTurn requests frames stage := by
  induction h with
  | start => exact ⟨fun _ => rfl, ⟨[], [], [], [], rfl, .quiet, rfl⟩, nofun, Or.inl rfl⟩
  | @connected requests frames message body headers h parse readable ih =>
      obtain ⟨rfl, rfl⟩ := h.of_opened
      have hReplies : replies ([] ++ connectedFrame :: answerOf headers) = answerTo message := by
        rw [answerTo_of_parse parse, if_pos rfl, List.nil_append, ← List.singleton_append,
          replies_append, Reply.connected.replies, replies_answerOf readable]
      have hGreeted : Greeted ([] ++ connectedFrame :: answerOf headers) :=
        ⟨_, rfl, connectedFrame_not_mem_answerOf readable⟩
      refine ⟨fun _ => by simpa using hReplies, ?_, fun _ => hGreeted, Or.inr (Or.inl hGreeted)⟩
      exact ⟨[message], [], [], [], rfl, .quiet, by simpa using hReplies⟩
  | @unreadable requests frames message body receipt errorMsg headers h parse header unread ih =>
      obtain ⟨rfl, rfl⟩ := h.of_opened
      have hNotRead : ¬ReceiptReadable headers := by
        intro hReadable
        have hNumber := hReadable receipt header
        rw [unread] at hNumber
        cases hNumber
      have hEnd := Ending.unreadable parse hNotRead errorMsg
      rw [header] at hEnd
      refine ⟨nofun, ⟨[], [message], [], _, rfl, hEnd, ?_⟩, nofun, Or.inr (Or.inl ?_)⟩
      · rw [List.nil_append, ← List.singleton_append, replies_append, Reply.connected.replies,
          (Reply.error errorMsg (some receipt)).replies]
        rfl
      · exact ⟨_, rfl, connectedFrame_not_mem_error errorMsg (some receipt)⟩
  | message h subId n channel body ih =>
      have hMore : connectedFrame ∉
          [ConnectionsManager.messageFrame subId (Decimal.decimal n) channel body] := by
        rw [List.mem_singleton]
        exact Reply.connected.ne_messageFrame subId _ channel body
      have hGreeted := (ih.loggedIn rfl).append hMore
      refine ⟨?_, ?_, fun _ => hGreeted, Or.inr (Or.inl hGreeted)⟩
      · rw [replies_append, replies_messageFrame, List.append_nil]
        exact ih.going
      · rw [replies_append, replies_messageFrame, List.append_nil]
        exact ih.ended
  | @answered requests frames message command body headers h parse known readable ih =>
      have hReplies : replies (frames ++ answerOf headers) =
          (requests ++ [message]).flatMap answerTo := by
        have hCommand : command ≠ "CONNECT".toList := by
          rintro rfl
          rcases known with h | h | h <;> exact absurd h (by decide)
        rw [replies_append, replies_answerOf readable, ih.going nofun, List.flatMap_append,
          List.flatMap_singleton, answerTo_of_parse parse, if_neg hCommand, List.nil_append]
      have hGreeted := (ih.loggedIn rfl).append (connectedFrame_not_mem_answerOf readable)
      refine ⟨fun _ => hReplies, ?_, fun _ => hGreeted, Or.inr (Or.inl hGreeted)⟩
      refine ⟨requests ++ [message], [], [], [], by simp, .quiet, ?_⟩
      rw [hReplies, List.append_nil]
  | @disconnected requests frames message body headers h parse readable ih =>
      have hGreeted := (ih.loggedIn rfl).append (connectedFrame_not_mem_answerOf readable)
      refine ⟨nofun, ?_, nofun, Or.inr (Or.inl hGreeted)⟩
      refine ⟨requests ++ [message], [], [], [], by simp, .quiet, ?_⟩
      rw [replies_append, replies_answerOf readable, ih.going nofun, List.flatMap_append,
        List.flatMap_singleton, answerTo_of_parse parse, if_neg (by decide), List.nil_append,
        List.append_nil]
  | @rejected requests frames stage h going message errorMsg ih =>
      have hReply := Reply.error errorMsg ((parseFrame message).1 "receipt".toList)
      refine ⟨nofun, ⟨requests, [message], [], _, by simp, .rejected message errorMsg, ?_⟩, nofun,
        Or.inr ?_⟩
      · rw [replies_append, ih.going going, hReply.replies]
      · cases stage with
        | opened =>
            obtain ⟨-, rfl⟩ := h.of_opened
            exact Or.inr ⟨_, _, rfl⟩
        | loggedIn =>
            exact Or.inl ((ih.loggedIn rfl).append (connectedFrame_not_mem_error errorMsg _))
        | closed => exact absurd rfl going
  | hungUp h ih => exact ⟨nofun, ih.ended, nofun, ih.first⟩
  | ignored h message ih =>
      obtain ⟨accepted, last, ignored, ending, rfl, hEnding, hReplies⟩ := ih.ended
      refine ⟨nofun, ⟨accepted, last, ignored ++ [message], ending, ?_, hEnding, hReplies⟩, nofun,
        ih.first⟩
      rw [List.append_assoc _ ignored]

/-- In every run a connection is answered request by request, and nothing but `MESSAGE` frames
comes between the answers. -/
theorem requests_answered {s t : Server} {events : List Event} (hStart : s.Started)
    (hRun : Transition.run step s events = some t) (c : Int) :
    AnsweredInTurn (framesOf c events) (t.handedTo c) (t.stage c) := by
  have hEnd := (run_converses hStart.converses hRun).conversation c
  rw [List.nil_append] at hEnd
  exact hEnd.answers

/-- The client that is turned away has had its login answered, and then the `ERROR`. -/
theorem requests_answered_turnedAway :
    AnsweredInTurn (framesOf 2 noDestination) (turnedAway.handedTo 2) (turnedAway.stage 2) :=
  requests_answered (s := .new true fun _ => .reply []) ⟨true, _, rfl⟩ turnedAway_run 2

/-- The login, the goal and the `ERROR`, and nothing behind it. -/
example : (turnedAway.handedTo 2).length = 3 ∧ turnedAway.stage 2 = .closed := by decide +kernel

end StompGames.Server
