import StompGames.Lib.Framing
import StompGames.Server.Sessions

/-! Who receives a broadcast. The handlers process no frame of a connection once
its protocol object says that it should terminate. -/
namespace StompGames.Server

open Imperative

/-- The steps of a server whose handlers look at `shouldTerminate` before a frame. -/
def liveStep (s : Server) (event : Event) : Option Server :=
  match event with
  | .process c _ => if (s.protocols c).shouldTerminate then none else s.step event
  | _ => s.step event

theorem step_of_liveStep {s t : Server} {event : Event} (h : s.liveStep event = some t) :
    s.step event = some t := by
  cases event with
  | process c message =>
      simp only [liveStep] at h
      split at h
      · cases h
      · exact h
  | accept c => exact h
  | handleDisconnect c => exact h

theorem reachable_of_live {s : Server} (h : Transition.Reachable StartedWorking liveStep s) :
    Transition.Reachable StartedWorking step s :=
  h.invariant (fun _ => Transition.Reachable.init)
    (fun _ _ _ hs hStep => hs.next (step_of_liveStep hStep))

/-- The handler map holds exactly the connections that have not been torn down,
and only these have subscriptions. -/
structure Handlers (s : Server) : Prop where
  handler : ∀ c, s.cManager.connecetions c =
    if s.accepted c = true ∧ (s.protocols c).shouldTerminate = false then some ⟨c⟩ else none
  quiet : ∀ c, (s.protocols c).shouldTerminate = true →
    s.cManager.subManager.ofConnection c = []

/-- Only the connection whose frame is processed can gain or lose a handler. -/
theorem Handlers.next {c : Int} {s t : Server} (h : s.Handlers) (hOthers : OthersKept c s t)
    (hHandler : t.cManager.connecetions c =
      if t.accepted c = true ∧ (t.protocols c).shouldTerminate = false then some ⟨c⟩ else none)
    (hQuiet : (t.protocols c).shouldTerminate = true →
      t.cManager.subManager.ofConnection c = []) : t.Handlers := by
  refine ⟨fun other => ?_, fun other => ?_⟩
  · by_cases hOther : other = c
    · subst hOther
      exact hHandler
    · rw [hOthers.handler other hOther, hOthers.accepted, hOthers.protocols other hOther]
      exact h.handler other
  · by_cases hOther : other = c
    · subst hOther
      exact hQuiet
    · rw [hOthers.protocols other hOther, hOthers.ofConnection hOther]
      exact h.quiet other

/-- Before its teardown a frame changes neither the handlers nor the flag. -/
theorem Effect.handlers_kept {c : Int} {s t : Server} (effect : Effect c s t) :
    t.cManager.connecetions = s.cManager.connecetions ∧
      (t.protocols c).shouldTerminate = (s.protocols c).shouldTerminate := by
  cases effect with
  | send reply => exact ⟨ConnectionsManager.delivered_connecetions c _ _, rfl⟩
  | connect login success => exact ⟨rfl, by simp [setUserName, setProtocol]⟩
  | _ => exact ⟨rfl, rfl⟩

/-- A frame of a connection that is not torn down. -/
theorem Effect.handlers {c : Int} {s t : Server} (h : s.Handlers) (hIndexed : s.Indexed)
    (hLive : (s.protocols c).shouldTerminate = false) (effect : Effect c s t) : t.Handlers := by
  obtain ⟨hHandlers, hFlag⟩ := effect.handlers_kept
  have hOthers := effect.othersKept hIndexed
  apply h.next hOthers
  · rw [hHandlers, hFlag, hOthers.accepted]
    exact h.handler c
  · rw [hFlag, hLive]
    exact nofun

theorem Closing.handlers {c : Int} {s t : Server} (h : s.Handlers) (hIndexed : s.Indexed)
    (closing : Closing c s t) : t.Handlers := by
  cases closing with
  | @send msg reply =>
      obtain ⟨hHandlers, -⟩ := (Effect.send (c := c) (s := s) reply).handlers_kept
      refine ⟨fun other => ?_, fun other hFlag => ?_⟩
      · rw [hHandlers]
        exact h.handler other
      · unfold SubscriptionManager.ofConnection sent
        rw [ConnectionsManager.delivered_subManager]
        exact h.quiet other hFlag
  | disconnect =>
      obtain ⟨-, hHandler, hSubs, hFlag⟩ := handleDisconnect_freed hIndexed c
      refine h.next (handleDisconnect_othersKept hIndexed c) ?_ (fun _ => hSubs)
      rw [hHandler, hFlag]
      simp

/-- A whole frame keeps a handler with each connection that is live, and none with those that are
not. -/
theorem process_handlers {c : Int} {s : Server} (h : s.Handlers) (hIndexed : s.Indexed)
    (hLive : (s.protocols c).shouldTerminate = false) (message : Text) :
    (process c message s).2.Handlers := by
  refine (process_phases (P := fun t => t.Handlers ∧ (t.protocols c).shouldTerminate = false)
    (Q := Handlers) ?_ (fun _ hP => hP.1) (fun _ _ hT hQ closing => closing.handlers hQ hT)
    hIndexed ⟨h, hLive⟩ message).2
  exact fun t u hT hP effect =>
    ⟨effect.handlers hP.1 hT hP.2, effect.handlers_kept.2.trans hP.2⟩

/-- The lines of a `MESSAGE` frame. -/
theorem messageFrame_lines (subId : Int) (id channel msg : Text) :
    ConnectionsManager.messageFrame subId id channel msg = "MESSAGE".toList ++ '\n' ::
      (("subscription:".toList ++ Decimal.decimal subId) ++ '\n' ::
        (("message-id:".toList ++ id) ++ '\n' ::
          (("destination:".toList ++ channel) ++ '\n' :: '\n' :: (msg ++ ['\x00'])))) := by
  have hShape : ∀ p p' q r : Text, p = "MESSAGE".toList ++ '\n' :: "subscription:".toList →
      p' = '\n' :: "message-id:".toList → q = '\n' :: "destination:".toList → r = ['\n', '\n'] →
      p ++ Decimal.decimal subId ++ p' ++ id ++ q ++ channel ++ r ++ msg ++ ['\x00'] =
        "MESSAGE".toList ++ '\n' :: (("subscription:".toList ++ Decimal.decimal subId) ++ '\n' ::
          (("message-id:".toList ++ id) ++ '\n' ::
            (("destination:".toList ++ channel) ++ '\n' :: '\n' :: (msg ++ ['\x00'])))) := by
    rintro _ _ _ _ rfl rfl rfl rfl
    simp only [List.append_assoc, List.cons_append, List.nil_append]
  exact hShape _ _ _ _ (by simp) (by simp) (by simp) (by simp)

theorem numeral_noBreak {name : Text} (hName : '\n' ∉ name) (n : Int) :
    '\n' ∉ name ++ Decimal.decimal n := by
  intro hMem
  rcases List.mem_append.1 hMem with hMem | hMem
  · exact hName hMem
  · exact Decimal.not_mem_decimal (by decide) (by decide) hMem

/-- The subscription id can be read off a `MESSAGE` frame, and what comes after it. -/
theorem messageFrame_subId {subId subId' : Int} {id id' channel channel' msg msg' : Text}
    (h : ConnectionsManager.messageFrame subId id channel msg =
      ConnectionsManager.messageFrame subId' id' channel' msg') :
    subId = subId' ∧ ("message-id:".toList ++ id) ++ '\n' ::
        (("destination:".toList ++ channel) ++ '\n' :: '\n' :: (msg ++ ['\x00'])) =
      ("message-id:".toList ++ id') ++ '\n' ::
        (("destination:".toList ++ channel') ++ '\n' :: '\n' :: (msg' ++ ['\x00'])) := by
  have hName : '\n' ∉ "MESSAGE".toList := by simp
  have hSub : ∀ k, '\n' ∉ "subscription:".toList ++ Decimal.decimal k :=
    numeral_noBreak (by simp)
  rw [messageFrame_lines, messageFrame_lines] at h
  obtain ⟨-, h⟩ := (Framing.append_cons_inj hName hName).1 h
  obtain ⟨hIds, h⟩ := (Framing.append_cons_inj (hSub _) (hSub _)).1 h
  exact ⟨Decimal.decimal_injective (List.append_cancel_left hIds), h⟩

/-- The message id can be read off a `MESSAGE` frame. -/
theorem messageFrame_id {subId subId' m n : Int} {channel channel' msg msg' : Text}
    (h : ConnectionsManager.messageFrame subId (Decimal.decimal m) channel msg =
      ConnectionsManager.messageFrame subId' (Decimal.decimal n) channel' msg') : m = n := by
  have hId : ∀ k, '\n' ∉ "message-id:".toList ++ Decimal.decimal k :=
    numeral_noBreak (by simp)
  obtain ⟨h, -⟩ := (Framing.append_cons_inj (hId _) (hId _)).1 (messageFrame_subId h).2
  exact Decimal.decimal_injective (List.append_cancel_left h)

/-- No reply looks like a `MESSAGE` frame. -/
theorem Reply.ne_messageFrame {frame : Text} (reply : Reply frame) (subId : Int)
    (id channel msg : Text) : frame ≠ ConnectionsManager.messageFrame subId id channel msg := by
  have hLetter : ∀ (word rest : Text) (c : Char), word.head? = some c → c ≠ 'M' →
      word ++ rest ≠ ConnectionsManager.messageFrame subId id channel msg := by
    intro word rest c hHead hc hEq
    have hFirst := congrArg List.head? hEq
    have hWord : word ≠ [] := by
      rintro rfl
      cases hHead
    rw [List.head?_append_of_ne_nil _ hWord, hHead, messageFrame_lines] at hFirst
    simp [hc] at hFirst
  cases reply with
  | connected =>
      rw [← List.append_nil connectedFrame]
      exact hLetter _ _ 'C' (by rfl) (by decide)
  | receipt receiptId =>
      unfold receiptFrame
      rw [List.append_assoc]
      exact hLetter _ _ 'R' (by simp) (by decide)
  | error errorMsg receipt =>
      cases receipt with
      | none =>
          unfold errorFrame
          dsimp only
          rw [List.append_assoc]
          exact hLetter _ _ 'E' (by simp) (by decide)
      | some receipt =>
          unfold errorFrame
          dsimp only
          simp only [List.append_assoc]
          exact hLetter _ _ 'E' (by simp) (by decide)

/-- Every `MESSAGE` frame handed out so far carries the id of an earlier broadcast. -/
def IdsUsed (s : Server) : Prop :=
  ∀ handler frame, (handler, frame) ∈ s.cManager.handed → ∀ subId n channel body,
    frame = ConnectionsManager.messageFrame subId (Decimal.decimal n) channel body →
      ∃ k, 0 < k ∧ k ≤ s.cManager.idGen ∧ n = atomicInteger k

theorem IdsUsed.reply {c : Int} {s : Server} {msg : Text} (h : s.IdsUsed) (reply : Reply msg) :
    (s.sent c msg).IdsUsed := by
  intro handler frame hMem subId n channel body hFrame
  simp only [sent, ConnectionsManager.delivered_handed, ConnectionsManager.delivered_idGen]
    at hMem ⊢
  rcases List.mem_append.1 hMem with hMem | hMem
  · exact h handler frame hMem subId n channel body hFrame
  · obtain ⟨_, -, hEq⟩ : ∃ a, s.cManager.connecetions c = some a ∧ (a, msg) = (handler, frame) := by
      simpa [Option.mem_toList] using hMem
    obtain ⟨-, rfl⟩ := Prod.mk.inj hEq
    exact absurd hFrame (reply.ne_messageFrame subId _ channel body)

/-- A broadcast draws the next id, and no frame with a larger one was handed out before. -/
theorem Effect.idsUsed {c : Int} {s t : Server} (h : s.IdsUsed) (effect : Effect c s t) :
    t.IdsUsed := by
  cases effect with
  | send reply => exact h.reply reply
  | @broadcast channel subscribed body =>
      intro handler frame hMem subId n channel' body' hFrame
      rcases List.mem_append.1 hMem with hMem | hMem
      · obtain ⟨k, hPos, hLe, hk⟩ := h handler frame hMem subId n channel' body' hFrame
        exact ⟨k, hPos, Nat.le_succ_of_le hLe, hk⟩
      · obtain ⟨sub, -, hSome⟩ := List.mem_filterMap.1 hMem
        obtain ⟨_, -, hEq⟩ := Option.map_eq_some_iff.1 hSome
        obtain ⟨-, rfl⟩ := Prod.mk.inj hEq
        exact ⟨s.cManager.idGen + 1, Nat.succ_pos _, Nat.le_refl _, (messageFrame_id hFrame).symm⟩
  | _ => exact h

theorem handleDisconnect_idsUsed {c : Int} {s : Server} (h : s.IdsUsed) (hIndexed : s.Indexed) :
    (handleDisconnect c s).2.IdsUsed := by
  unfold IdsUsed
  obtain ⟨-, -, -, -, -, hIds, hHanded⟩ := ConnectionsManager.disconnect_apply hIndexed c
  rw [(handleDisconnect_freed hIndexed c).1, hIds, hHanded]
  exact h

/-- What the live runs keep. -/
structure Live (s : Server) : Prop where
  handlers : s.Handlers
  idsUsed : s.IdsUsed

theorem liveStep_live {s t : Server} {event : Event} (hIndexed : s.Indexed) (h : s.Live)
    (hStep : s.liveStep event = some t) : t.Live := by
  obtain ⟨c, rfl, hFresh, rfl⟩ | ⟨c, message, rfl, -, rfl⟩ | ⟨c, rfl, -, rfl⟩ :=
    step_cases (step_of_liveStep hStep)
  · refine ⟨⟨fun other => ?_, fun other hFlag => ?_⟩, h.idsUsed⟩
    · by_cases hOther : other = c
      · subst hOther
        simp [accept, ConnectionsManager.connect]
      · simpa [accept, ConnectionsManager.connect, hOther] using h.handlers.handler other
    · by_cases hOther : other = c
      · subst hOther
        simp [accept] at hFlag
      · exact h.handlers.quiet other (by simpa [accept, hOther] using hFlag)
  · have hLive : (s.protocols c).shouldTerminate = false := by
      by_contra hFlag
      simp [liveStep, hFlag] at hStep
    exact ⟨process_handlers h.handlers hIndexed hLive message,
      (process_preserves (fun _ _ _ hP effect => effect.idsUsed hP)
        (fun _ hT hP => handleDisconnect_idsUsed hP hT) hIndexed h.idsUsed message).2⟩
  · exact ⟨Closing.disconnect.handlers h.handlers hIndexed,
      handleDisconnect_idsUsed h.idsUsed hIndexed⟩

/-- The invariant of the run, from the step lemma. -/
theorem reachable_live {s : Server} (h : Transition.Reachable StartedWorking liveStep s) :
    s.Live := by
  refine Transition.Reachable.invariant_of (J := Indexed)
    (fun _ hs => reachable_indexed (reachable_started (reachable_of_live hs))) ?_
    (fun _ _ _ => liveStep_live) h
  rintro s ⟨⟨emptyInterned, sqlService, rfl⟩, -⟩
  exact ⟨⟨fun _ => rfl, nofun⟩, nofun⟩

/-- The frames handed to one connection's handler so far. -/
def handedTo (s : Server) (c : Int) : List Text :=
  (s.cManager.handed.filter fun handed => handed.1.conId = c).map Prod.snd

/-- What the sender of a frame that was carried out is sent in answer. -/
def answerOf (headers : Headers) : List Text :=
  match headers "receipt".toList with
  | none => []
  | some receipt => match Java.parseInt receipt with
      | some receiptId => [receiptFrame receiptId]
      | none => [errorFrame (JavaException.numberFormat receipt).getMessage (some receipt)]

/-- Only a connection with a session, a handler and a live protocol object subscribes. -/
theorem subscriber_live {s : Server} (hWorks : s.Works) (hLive : s.Live) {c : Int}
    (hSubs : s.cManager.subManager.ofConnection c ≠ []) :
    s.cManager.connecetions c = some ⟨c⟩ ∧ s.LoggedIn c := by
  have hFlag : (s.protocols c).shouldTerminate = false := by
    by_contra hFlag
    exact hSubs (hLive.handlers.quiet c (by simpa using hFlag))
  have hAccepted : s.accepted c = true := by
    by_contra hFresh
    exact hSubs (hWorks.sessions.fresh c (by simpa using hFresh)).2
  have hName := hWorks.sessions.subscribed c hSubs
  obtain ⟨user, hBound, -⟩ := hWorks.sessions.owned c hName
  refine ⟨?_, ?_, hWorks.sessions.isLoggedIn_of_matched (hWorks.matched c) hBound⟩
  · rw [hLive.handlers.handler c, if_pos ⟨hAccepted, hFlag⟩]
  · by_contra hLiteral
    obtain ⟨hNil, hInterned⟩ : (s.protocols c).userName.chars = [] ∧
        (s.protocols c).userName.interned = true := by
      simpa [Java.JString.isEmptyLiteral] using hLiteral
    exact hName (by
      rcases hUser : (s.protocols c).userName with ⟨chars, interned⟩
      rw [hUser] at hNil hInterned
      simp only at hNil hInterned
      rw [hNil, hInterned]
      rfl)

/-- After the broadcast, whatever the file tracking made of the database. -/
def broadcasted (s : Server) (db : Database) (channel body : Text) : Server :=
  { s with
    db := db
    cManager := { s.cManager with
      idGen := s.cManager.idGen + 1
      handed := s.cManager.handed ++ s.cManager.broadcastFrames channel body } }

/-- A permitted `SEND` broadcasts and returns, unless its upload cannot be recorded. -/
theorem solveSend_apply {s : Server} {c : Int} {headers : Headers} {channel : Text}
    (hDest : headers "destination".toList = some channel)
    (hSub : s.cManager.isSubscribed c channel = true)
    (hFile : headers "file-name".toList = none ∨ (s.db.sqlService 0).succeeds = true)
    (body : Text) :
    ∃ db, solveSend c headers body s = (.ok (), s.broadcasted db channel body) := by
  have hIsSome : (s.cManager.subManager.subscriptions channel).isSome := by
    unfold ConnectionsManager.isSubscribed SubscriptionManager.isSubscribedToChannel at hSub
    cases hEntry : s.cManager.subManager.subscriptions channel with
    | none => simp [hEntry] at hSub
    | some list => rfl
  simp only [solveSend, hDest, Method.bind_apply, Method.get_apply, hSub, Method.ite_apply,
    Bool.not_true, Bool.false_eq_true, if_false]
  cases hName : headers "file-name".toList with
  | none =>
      refine ⟨s.db, ?_⟩
      simp only [onCManager, Method.zoom_apply, ConnectionsManager.sendToChannel_apply hIsSome]
      rfl
  | some fileName =>
      have hWorks : (s.db.sqlService 0).succeeds = true := by
        rcases hFile with hNone | hWorks
        · rw [hName] at hNone
          cases hNone
        · exact hWorks
      cases hService : s.db.sqlService 0 with
      | failure message => simp [hService, SqlOutcome.succeeds] at hWorks
      | reply response =>
          refine ⟨s.db.called (Database.trackFileUploadSql (s.protocols c).userName.chars fileName
            channel), ?_⟩
          simp only [onDb, Method.zoom_apply, Database.trackFileUpload, Method.bind_apply,
            Database.executeSQL_apply, hService, Method.pure_apply, onCManager,
            ConnectionsManager.sendToChannel_apply hIsSome]
          rfl

/-- Otherwise it has changed nothing but the list of the SQL calls. -/
theorem solveSend_refused {s : Server} {c : Int} {headers : Headers}
    (h : ¬∃ channel, headers "destination".toList = some channel ∧
      s.cManager.isSubscribed c channel = true ∧
      (headers "file-name".toList = none ∨ (s.db.sqlService 0).succeeds = true)) (body : Text) :
    ∃ e db, solveSend c headers body s = (.error e, { s with db := db }) ∧
      (db = s.db ∨ ∃ sql, db = s.db.called sql ∧ (s.db.sqlService 0).succeeds = false) := by
  cases hDest : headers "destination".toList with
  | none =>
      obtain ⟨e, hRun⟩ : ∃ e, solveSend c headers body s = (.error e, s) := by
        simp only [solveSend, hDest]
        exact ⟨_, rfl⟩
      exact ⟨e, s.db, hRun, Or.inl rfl⟩
  | some channel =>
      cases hSub : s.cManager.isSubscribed c channel with
      | false =>
          obtain ⟨e, hRun⟩ : ∃ e, solveSend c headers body s = (.error e, s) := by
            simp only [solveSend, hDest, Method.bind_apply, Method.get_apply, hSub,
              Method.ite_apply, Bool.not_false, if_true]
            exact ⟨_, rfl⟩
          exact ⟨e, s.db, hRun, Or.inl rfl⟩
      | true =>
          have hName : headers "file-name".toList ≠ none := fun hNone =>
            h ⟨channel, hDest, hSub, Or.inl hNone⟩
          have hFails : (s.db.sqlService 0).succeeds ≠ true := fun hWorks =>
            h ⟨channel, hDest, hSub, Or.inr hWorks⟩
          obtain ⟨fileName, hName⟩ := Option.ne_none_iff_exists'.1 hName
          cases hService : s.db.sqlService 0 with
          | reply response => simp [hService, SqlOutcome.succeeds] at hFails
          | failure message =>
              refine ⟨Database.sqlError message, s.db.called (Database.trackFileUploadSql
                (s.protocols c).userName.chars fileName channel), ?_, Or.inr ⟨_, rfl, rfl⟩⟩
              simp only [solveSend, hDest, Method.bind_apply, Method.get_apply, hSub,
                Method.ite_apply, Bool.not_true, Bool.false_eq_true, if_false, hName, onDb,
                Method.zoom_apply, Database.trackFileUpload, Database.executeSQL_apply, hService]

/-- A `SEND` broadcasts, or it changes nothing but the list of the SQL calls. -/
theorem solveSend_cases (c : Int) (headers : Headers) (body : Text) (s : Server) :
    (∃ channel db, headers "destination".toList = some channel ∧
      s.cManager.isSubscribed c channel = true ∧
      (headers "file-name".toList = none ∨ (s.db.sqlService 0).succeeds = true) ∧
      solveSend c headers body s = (.ok (), s.broadcasted db channel body)) ∨
    ∃ e db, solveSend c headers body s = (.error e, { s with db := db }) ∧
      (db = s.db ∨ ∃ sql, db = s.db.called sql ∧ (s.db.sqlService 0).succeeds = false) := by
  by_cases hStarts : ∃ channel, headers "destination".toList = some channel ∧
      s.cManager.isSubscribed c channel = true ∧
      (headers "file-name".toList = none ∨ (s.db.sqlService 0).succeeds = true)
  · obtain ⟨channel, hDest, hSub, hFile⟩ := hStarts
    obtain ⟨db, hSend⟩ := solveSend_apply hDest hSub hFile body
    exact Or.inl ⟨channel, db, hDest, hSub, hFile, hSend⟩
  · exact Or.inr (solveSend_refused hStarts body)

/-- The receipt, or the error that an unreadable receipt header makes, goes to
the sender after the broadcast. -/
theorem process_send_handed {s : Server} (hIndexed : s.Indexed) (hSql : s.SqlWorks) {c : Int}
    (hHandler : s.cManager.connecetions c = some ⟨c⟩) (hLogged : s.LoggedIn c)
    {message body channel : Text} {headers : Headers}
    (hParse : parseFrame message = (headers, .ok ("SEND".toList, body)))
    (hDest : headers "destination".toList = some channel)
    (hSub : s.cManager.isSubscribed c channel = true) :
    (process c message s).2.cManager.handed = s.cManager.handed ++
      s.cManager.broadcastFrames channel body ++
      (answerOf headers).map fun frame => (⟨c⟩, frame) := by
  obtain ⟨db, hSend⟩ := solveSend_apply hDest hSub (Or.inr (hSql 0)) body
  have hDispatch : dispatch c "SEND".toList headers body s =
      (do conCheck c; solveSend c headers body; answerReceipt c headers) s := rfl
  rw [process_eq hParse, hDispatch]
  simp only [Method.bind_apply, conCheck_apply, if_pos hLogged, hSend, answerReceipt_apply]
  unfold answerOf
  cases hReceipt : headers "receipt".toList with
  | none => simp [broadcasted]
  | some receipt =>
      dsimp only
      cases hNumber : Java.parseInt receipt with
      | some receiptId =>
          change
            (ConnectionsManager.delivered c _ (s.broadcasted db channel body).cManager).handed = _
          rw [ConnectionsManager.delivered_handed,
            show (s.broadcasted db channel body).cManager.connecetions c = some ⟨c⟩ from hHandler]
          rfl
      | none =>
          simp only [solveError, Method.bind_apply, send_apply]
          have hSent : ∀ t : Server, t.Indexed → t.cManager.connecetions c = some ⟨c⟩ →
              ∀ frame, (handleDisconnect c (t.sent c frame)).2.cManager.handed =
                t.cManager.handed ++ [(⟨c⟩, frame)] := by
            intro t hT hCon frame
            have hMid := hT.sent c frame
            obtain ⟨-, -, -, -, -, -, hHanded⟩ := ConnectionsManager.disconnect_apply hMid c
            rw [(handleDisconnect_freed hMid c).1, hHanded]
            simp only [sent, ConnectionsManager.delivered_handed, hCon]
            rfl
          exact hSent (s.broadcasted db channel body) hIndexed hHandler _

/-- What a broadcast does in state `s`, leading to state `t`. -/
structure BroadcastExact (s t : Server) (c : Int) (channel body : Text) (answer : List Text) :
    Prop where
  subscriber : ∀ d, ∀ sub ∈ s.cManager.subManager.ofConnection d, sub.channel = channel →
    s.cManager.connecetions d = some ⟨d⟩ ∧ t.handedTo d = s.handedTo d ++
      [ConnectionsManager.messageFrame sub.subId
        (Decimal.decimal (atomicInteger (s.cManager.idGen + 1))) channel body] ++
      if d = c then answer else []
  others : ∀ d, (∀ sub ∈ s.cManager.subManager.ofConnection d, sub.channel ≠ channel) →
    t.handedTo d = s.handedTo d
  newId : ∀ handler frame, (handler, frame) ∈ s.cManager.handed → ∀ subId channel' body',
    frame ≠ ConnectionsManager.messageFrame subId
      (Decimal.decimal (atomicInteger (s.cManager.idGen + 1))) channel' body'

/-- The list of a channel has one subscription of each subscriber. -/
theorem ofChannel_filter {s : Server} (hIndexed : s.Indexed) {d : Int} {channel : Text} :
    (∀ sub ∈ s.cManager.subManager.ofConnection d, sub.channel = channel →
      (s.cManager.subManager.ofChannel channel).filter (fun other => other.conId = d) = [sub]) ∧
    ((∀ sub ∈ s.cManager.subManager.ofConnection d, sub.channel ≠ channel) →
      (s.cManager.subManager.ofChannel channel).filter (fun other => other.conId = d) = []) := by
  have hMem : ∀ other, other ∈ (s.cManager.subManager.ofChannel channel).filter
      (fun other => other.conId = d) ↔
        other ∈ s.cManager.subManager.ofConnection d ∧ other.channel = channel := by
    intro other
    rw [List.mem_filter, hIndexed.indexes.mem_key_iff, hIndexed.indexes.mem_owner_iff d,
      hIndexed.indexes.same, decide_eq_true_eq]
    tauto
  constructor
  · intro sub hSub hChannel
    rw [← List.perm_singleton,
      List.perm_ext_iff_of_nodup ((hIndexed.indexes.nodup_key channel).filter _)
        (List.nodup_singleton sub)]
    intro other
    rw [hMem, List.mem_singleton]
    constructor
    · rintro ⟨hOther, hSame⟩
      exact hIndexed.indexes.unique d other hOther sub hSub (hSame.trans hChannel.symm)
    · rintro rfl
      exact ⟨hSub, hChannel⟩
  · intro hNone
    rw [List.eq_nil_iff_forall_not_mem]
    intro other hOther
    obtain ⟨hListed, hChannel⟩ := (hMem other).1 hOther
    exact hNone other hListed hChannel

/-- Fewer than `2 ^ 32` increments give distinct numbers. -/
theorem atomicInteger_ne {k n : Nat} (hk : 0 < k) (hLe : k ≤ n) (hn : n < 2 ^ 32) :
    atomicInteger (n + 1) ≠ atomicInteger k := by
  intro hEq
  have hMod : ∀ j : Nat, atomicInteger j % ((2 ^ 32 : Nat) : Int) = j % ((2 ^ 32 : Nat) : Int) :=
    fun _ => Int.bmod_emod
  have hSame := (hMod (n + 1)).symm.trans
    ((congrArg (· % ((2 ^ 32 : Nat) : Int)) hEq).trans (hMod k))
  simp only [Nat.reducePow] at hSame hn
  omega

/-- A `SEND` to a channel that the sender is subscribed to reaches every subscription of the
channel once, in the order of the list and with one id, and reaches nobody else. -/
theorem broadcast_exact {s : Server} (h : Transition.Reachable StartedWorking liveStep s)
    {c : Int} {message body channel : Text} {headers : Headers}
    (hParse : parseFrame message = (headers, .ok ("SEND".toList, body)))
    (hDest : headers "destination".toList = some channel)
    (hSub : s.cManager.isSubscribed c channel = true) (hCount : s.cManager.idGen < 2 ^ 32) :
    BroadcastExact s (process c message s).2 c channel body (answerOf headers) := by
  have hReach := reachable_of_live h
  have hIndexed := reachable_indexed (reachable_started hReach)
  have hWorks := reachable_works hReach
  have hLive := reachable_live h
  have hSender : s.cManager.connecetions c = some ⟨c⟩ ∧ s.LoggedIn c := by
    obtain ⟨sub, hListed, -⟩ := (isSubscribed_iff hIndexed c channel).1 hSub
    exact subscriber_live hWorks hLive (List.ne_nil_of_mem hListed)
  have hHanded := process_send_handed hIndexed hWorks.sqlWorks hSender.1 hSender.2 hParse hDest hSub
  have hFrames : s.cManager.broadcastFrames channel body =
      (s.cManager.subManager.ofChannel channel).map fun sub => (⟨sub.conId⟩,
        ConnectionsManager.messageFrame sub.subId
          (Decimal.decimal (atomicInteger (s.cManager.idGen + 1))) channel body) := by
    unfold ConnectionsManager.broadcastFrames
    rw [← List.filterMap_eq_map]
    apply List.filterMap_congr
    intro sub hMem
    have hOwner := ((hIndexed.indexes.mem_key_iff channel sub).1 hMem).2
    rw [(subscriber_live hWorks hLive (List.ne_nil_of_mem hOwner)).1]
    rfl
  have hTo : ∀ d, (process c message s).2.handedTo d = s.handedTo d ++
      ((s.cManager.subManager.ofChannel channel).filter fun sub => sub.conId = d).map (fun sub =>
        ConnectionsManager.messageFrame sub.subId
          (Decimal.decimal (atomicInteger (s.cManager.idGen + 1))) channel body) ++
      if d = c then answerOf headers else [] := by
    intro d
    unfold handedTo
    rw [hHanded, hFrames]
    simp only [List.filter_append, List.map_append, List.filter_map, List.map_map]
    congr 1
    by_cases hd : d = c
    · subst hd
      simp [Function.comp_def]
    · simp [Function.comp_def, hd, Ne.symm hd]
  constructor
  · intro d sub hListed hChannel
    refine ⟨(subscriber_live hWorks hLive (List.ne_nil_of_mem hListed)).1, ?_⟩
    rw [hTo d, (ofChannel_filter hIndexed).1 sub hListed hChannel]
    rfl
  · intro d hNone
    have hd : d ≠ c := by
      rintro rfl
      obtain ⟨sub, hListed, hChannel⟩ := (isSubscribed_iff hIndexed d channel).1 hSub
      exact hNone sub hListed hChannel
    rw [hTo d, (ofChannel_filter hIndexed).2 hNone, if_neg hd]
    simp
  · intro handler frame hMem subId channel' body' hFrame
    obtain ⟨k, hPos, hLe, hSame⟩ := hLive.idsUsed handler frame hMem subId _ channel' body' hFrame
    exact atomicInteger_ne hPos hLe hCount hSame

/-- A user that has subscribed to one channel. -/
def oneSubscriber : Server :=
  (process 1 "SUBSCRIBE\nid:7\ndestination:/a\n\n".toList
    (process 1 (connectFrame "meni" "films") ((Server.new true fun _ => .reply []).accept 1)).2).2

/-- A second user joins it, with an id of its own. -/
def joining : List Event :=
  [.accept 1, .process 1 (connectFrame "meni" "films"),
    .process 1 "SUBSCRIBE\nid:7\ndestination:/a\n\n".toList, .accept 2,
    .process 2 (connectFrame "dana" "music"),
    .process 2 "SUBSCRIBE\nid:5\ndestination:/a\n\n".toList]

/-- Two connections that are subscribed to one channel under ids of their own. -/
def twoSubscribers : Server :=
  (process 2 "SUBSCRIBE\nid:5\ndestination:/a\n\n".toList
    (process 2 (connectFrame "dana" "music") (oneSubscriber.accept 2)).2).2

/-- Both have logged in and subscribed. -/
theorem twoSubscribers_reachable : Transition.Reachable StartedWorking liveStep twoSubscribers :=
  ⟨.new true fun _ => .reply [], joining, ⟨⟨true, _, rfl⟩, fun _ => rfl⟩, rfl⟩

/-- A goal that is sent by one of two subscribers to the channel of both. -/
theorem broadcast_exact_twoSubscribers :
    BroadcastExact twoSubscribers
      (process 1 "SEND\ndestination:/a\nreceipt:4\n\ngoal".toList twoSubscribers).2 1 "/a".toList
      "goal".toList
      (answerOf (parseFrame "SEND\ndestination:/a\nreceipt:4\n\ngoal".toList).1) :=
  broadcast_exact twoSubscribers_reachable (Prod.ext rfl (by rfl)) (by rfl) (by decide) (by decide)

end StompGames.Server
