import StompGames.Server.Accounts
import StompGames.Server.StompMsgProtocol
import Mathlib.Logic.Relation

/-! What processing one frame can do to the server. A frame first works through a
short list of elementary effects of its own connection, and then it may tear the
connection down, so an invariant has to be checked for these only. -/
namespace StompGames.Server

open Imperative Relation

/-- The subscription indexes are aligned. -/
def Indexed (s : Server) : Prop := s.cManager.subManager.Consistent

/-- Delivery of a frame to one connection. -/
def sent (s : Server) (conId : Int) (msg : Text) : Server :=
  { s with cManager := s.cManager.delivered conId msg }

/-- Teardown up to the call of `logout`: the handler and the subscriptions are gone. -/
def detached (s : Server) (conId : Int) : Server :=
  { s.setShouldTerminate conId with cManager := s.cManager.disconnected conId }

theorem Indexed.sent {s : Server} (h : s.Indexed) (conId : Int) (msg : Text) :
    (s.sent conId msg).Indexed := by
  unfold Indexed Server.sent
  rw [ConnectionsManager.delivered_subManager]
  exact h

theorem send_apply (conId : Int) (msg : Text) (s : Server) :
    send conId msg s = (.ok (), s.sent conId msg) := by
  simp only [send, Method.bind_apply, onCManager, Method.zoom_apply,
    ConnectionsManager.send_apply, Method.pure_apply, sent]

/-- The three outcomes of `answerReceipt`: no header, one that is no number, and one that is. -/
theorem answerReceipt_apply (conId : Int) (headers : Headers) (s : Server) :
    answerReceipt conId headers s = match headers "receipt".toList with
      | none => (.ok (), s)
      | some receipt => match Java.parseInt receipt with
          | none => (.error (.numberFormat receipt), s)
          | some receiptId => (.ok (), s.sent conId (receiptFrame receiptId)) := by
  unfold answerReceipt
  cases headers "receipt".toList with
  | none => rfl
  | some receipt =>
      simp only [Method.bind_apply, parseInt]
      cases Java.parseInt receipt with
      | none => rfl
      | some receiptId => exact send_apply conId (receiptFrame receiptId) s

/-- A receipt header that is no number is found before anything is sent. -/
theorem answerReceipt_error {conId : Int} {headers : Headers} {s t : Server} {e : JavaException}
    (h : answerReceipt conId headers s = (.error e, t)) : t = s := by
  rw [answerReceipt_apply] at h
  split at h
  · cases h
  · split at h
    · exact (Prod.mk.inj h).2.symm
    · cases h

/-- The condition `conCheck` tests. -/
def LoggedIn (s : Server) (conId : Int) : Prop :=
  (s.protocols conId).userName.isEmptyLiteral = false ∧
    s.db.isLoggedIn (s.protocols conId).userName.chars = true

instance (s : Server) (conId : Int) : Decidable (s.LoggedIn conId) :=
  inferInstanceAs (Decidable (_ ∧ _))

/-- `conCheck` passes just where the connection is logged in, and never changes the state. -/
theorem conCheck_apply (conId : Int) (s : Server) :
    conCheck conId s = if s.LoggedIn conId then (.ok (), s)
      else (.error (.illegalState "Client is not logged in to the server.".toList), s) := by
  simp only [conCheck, Method.bind_apply, Method.get_apply, Method.ite_apply, Method.throw_apply,
    Method.pure_apply]
  by_cases h : s.LoggedIn conId
  · rw [if_pos h, h.1, h.2]
    rfl
  · rw [if_neg h, if_pos]
    simpa [LoggedIn, imp_iff_not_or] using h

theorem LoggedIn.userName_ne {s : Server} {conId : Int} (h : s.LoggedIn conId) :
    (s.protocols conId).userName ≠ .empty := by
  intro hEmpty
  have hLiteral := h.1
  rw [hEmpty] at hLiteral
  exact absurd hLiteral (by decide)

/-- Teardown. The SQL call is the only part that can fail, and it comes before
the session is closed and before the protocol forgets its user. -/
theorem handleDisconnect_apply {s : Server} (h : s.Indexed) (conId : Int) :
    handleDisconnect conId s =
      if s.db.isLoggedIn (s.protocols conId).userName.chars then
        match s.db.connectionsIdMap conId with
        | none => (.ok (), (s.detached conId).setUserName conId .empty)
        | some user =>
            let db₁ := s.db.called (Database.logoutSql (s.db.users user).name)
            match s.db.sqlService 0 with
            | .failure message =>
                (.error (Database.sqlError message), { s.detached conId with db := db₁ })
            | .reply _ => (.ok (),
                ({ s.detached conId with db := db₁.closed conId user }).setUserName conId .empty)
      else (.ok (), (s.detached conId).setUserName conId .empty) := by
  have hName : (Function.update s.protocols conId
      { s.protocols conId with shouldTerminate := true } conId).userName =
        (s.protocols conId).userName := by simp
  simp only [handleDisconnect, Method.bind_apply, Method.modify_apply, onCManager,
    Method.zoom_apply, setShouldTerminate, setProtocol,
    (ConnectionsManager.disconnect_apply h conId).1, Method.get_apply, hName]
  split
  · cases hConnection : s.db.connectionsIdMap conId with
    | none =>
        simp only [onDb, Method.bind_apply, Method.zoom_apply, Database.logout_none hConnection,
          Method.modify_apply]
        rfl
    | some user =>
        simp only [onDb, Method.bind_apply, Method.zoom_apply, Database.logout_some hConnection]
        cases s.db.sqlService 0 <;> rfl
  · rfl

/-- The frames a connection is sent in answer to its own frames. -/
inductive Reply : Text → Prop where
  | connected : Reply connectedFrame
  | receipt (receiptId : Int) : Reply (receiptFrame receiptId)
  | error (errorMsg : Text) (receipt : Option Text) : Reply (errorFrame errorMsg receipt)

/-- The elementary effects of connection `c`. -/
inductive Effect (c : Int) : Server → Server → Prop where
  | send {s : Server} {msg : Text} (reply : Reply msg) : Effect c s (s.sent c msg)
  | connect {s : Server} {user pass : Text} {status : LoginStatus} {db : Database}
      (login : Database.login c user pass s.db = (.ok status, db))
      (success : status = .addedNewUser ∨ status = .loggedInSuccessfully) :
      Effect c s (({ s with db := db }).setUserName c ⟨user, s.emptyInterned⟩)
  | connectFailed {s : Server} {user pass : Text} {e : JavaException} {db : Database}
      (login : Database.login c user pass s.db = (.error e, db)) :
      Effect c s { s with db := db }
  | upload {s : Server} (sql : Text) : Effect c s { s with db := s.db.called sql }
  | broadcast {s : Server} {channel : Text} (subscribed : s.cManager.isSubscribed c channel)
      (body : Text) : Effect c s { s with cManager := { s.cManager with
        idGen := s.cManager.idGen + 1
        handed := s.cManager.handed ++ s.cManager.broadcastFrames channel body } }
  | subscribe {s : Server} (loggedIn : s.LoggedIn c) (subId : Int) {channel : Text}
      (unsubscribed : ∀ sub ∈ s.cManager.subManager.ofConnection c, sub.channel ≠ channel) :
      Effect c s { s with cManager := { s.cManager with
        subManager := s.cManager.subManager.added
          ⟨s.cManager.subManager.allocated, subId, c, channel⟩ } }
  | unsubscribe {s : Server} {sub : Subscription}
      (listed : sub ∈ s.cManager.subManager.ofConnection c) :
      Effect c s { s with cManager := { s.cManager with
        subManager := s.cManager.subManager.removed sub } }

/-- What may still follow once the connection is being torn down. -/
inductive Closing (c : Int) : Server → Server → Prop where
  | send {s : Server} {msg : Text} (reply : Reply msg) : Closing c s (s.sent c msg)
  | disconnect {s : Server} : Closing c s (handleDisconnect c s).2

/-- The search in the list of the channel finds what is in the list of the connection, since the
two indexes hold the same subscriptions. -/
theorem isSubscribed_iff {s : Server} (h : s.Indexed) (c : Int) (channel : Text) :
    s.cManager.isSubscribed c channel = true ↔
      ∃ sub ∈ s.cManager.subManager.ofConnection c, sub.channel = channel :=
  SubscriptionManager.Consistent.isSubscribedToChannel_iff h channel c

theorem handleDisconnect_indexed {s : Server} (h : s.Indexed) (c : Int) :
    (handleDisconnect c s).2.Indexed := by
  have hCons := (ConnectionsManager.disconnect_apply h c).2.1
  rw [handleDisconnect_apply h c]
  split
  · split
    · exact hCons
    · split <;> exact hCons
  · exact hCons

theorem Effect.indexed {c : Int} {s t : Server} (h : s.Indexed) (effect : Effect c s t) :
    t.Indexed := by
  cases effect with
  | send reply => exact h.sent c _
  | connect login success => exact h
  | connectFailed login => exact h
  | upload sql => exact h
  | broadcast subscribed body => exact h
  | subscribe loggedIn subId unsubscribed => exact SubscriptionManager.Consistent.added h unsubscribed
  | unsubscribe listed => exact SubscriptionManager.Consistent.removed h _

theorem Closing.indexed {c : Int} {s t : Server} (h : s.Indexed) (closing : Closing c s t) :
    t.Indexed := by
  cases closing with
  | send reply => exact h.sent c _
  | disconnect => exact handleDisconnect_indexed h c

/-- Reached from `start` by effects of connection `c`. -/
def Touched (c : Int) (start s : Server) : Prop := s.Indexed ∧ ReflTransGen (Effect c) start s

/-- Reached from `start` by effects of connection `c`, then by its teardown. -/
def Left (c : Int) (start s : Server) : Prop :=
  ∃ mid, Touched c start mid ∧ s.Indexed ∧ ReflTransGen (Closing c) mid s

theorem Touched.next {c : Int} {start s t : Server} (h : Touched c start s)
    (effect : Effect c s t) : Touched c start t :=
  ⟨effect.indexed h.1, h.2.tail effect⟩

theorem Touched.left {c : Int} {start s : Server} (h : Touched c start s) : Left c start s :=
  ⟨s, h, h.1, .refl⟩

theorem Left.next {c : Int} {start s t : Server} (h : Left c start s) (closing : Closing c s t) :
    Left c start t := by
  obtain ⟨mid, hMid, hIndexed, hChain⟩ := h
  exact ⟨mid, hMid, closing.indexed hIndexed, hChain.tail closing⟩

section
variable {c : Int} {start : Server}

theorem preserves_answerReceipt (headers : Headers) :
    Method.Preserves (Touched c start) (answerReceipt c headers) := by
  intro s hs
  rw [answerReceipt_apply]
  split
  · exact hs
  · split
    · exact hs
    · exact hs.next (.send (.receipt _))

theorem preserves_handleDisconnect :
    Method.Preserves (Left c start) (handleDisconnect c) :=
  fun _ hs => hs.next .disconnect

theorem preserves_solveError (errorMsg : Text) (receipt : Option Text) :
    Method.Preserves (Left c start) (solveError c errorMsg receipt) := by
  refine Method.preserves_bind ?_ (fun _ => preserves_handleDisconnect)
  intro s hs
  rw [send_apply]
  exact hs.next (.send (.error errorMsg receipt))

/-- A `CONNECT` that returns had both headers. -/
theorem solveConnect_headers {headers : Headers} {s : Server}
    (h : (solveConnect c headers s).1 = .ok ()) :
    ∃ user pass, headers "login".toList = some user ∧ headers "passcode".toList = some pass := by
  cases hUser : headers "login".toList with
  | none =>
      simp only [solveConnect, hUser] at h
      cases h
  | some user =>
      cases hPass : headers "passcode".toList with
      | none =>
          simp only [solveConnect, hUser, hPass] at h
          cases h
      | some pass => exact ⟨user, pass, rfl, rfl⟩

/-- A `CONNECT` that returns has opened a session. -/
theorem solveConnect_ok {headers : Headers} {user pass : Text} {s : Server}
    (hUser : headers "login".toList = some user) (hPass : headers "passcode".toList = some pass)
    (h : (solveConnect c headers s).1 = .ok ()) :
    ∃ status db, Database.login c user pass s.db = (.ok status, db) ∧
      (status = .addedNewUser ∨ status = .loggedInSuccessfully) ∧
      solveConnect c headers s = (.ok (),
        (({ s with db := db } : Server).setUserName c ⟨user, s.emptyInterned⟩).sent c
          connectedFrame) := by
  simp only [solveConnect, hUser, hPass, Method.bind_apply, onDb, Method.zoom_apply,
    Method.ite_apply, Method.throw_apply, Method.modify_apply, send_apply] at h ⊢
  rcases hLogin : Database.login c user pass s.db with ⟨e | status, db⟩
  · simp [hLogin] at h
  · refine ⟨status, db, rfl, ?_⟩
    cases status <;> simp [hLogin] at h ⊢

/-- A `CONNECT` that throws has done no more than its login. -/
theorem solveConnect_error {headers : Headers} {s t : Server} {e : JavaException}
    (h : solveConnect c headers s = (.error e, t)) :
    ((headers "login".toList = none ∨ headers "passcode".toList = none) ∧ t = s) ∨
      ∃ user pass, headers "login".toList = some user ∧ headers "passcode".toList = some pass ∧
        t = { s with db := (Database.login c user pass s.db).2 } := by
  cases hUser : headers "login".toList with
  | none =>
      simp only [solveConnect, hUser] at h
      cases h
      exact Or.inl ⟨Or.inl rfl, rfl⟩
  | some user =>
      cases hPass : headers "passcode".toList with
      | none =>
          simp only [solveConnect, hUser, hPass] at h
          cases h
          exact Or.inl ⟨Or.inr rfl, rfl⟩
      | some pass =>
          refine Or.inr ⟨user, pass, rfl, rfl, ?_⟩
          simp only [solveConnect, hUser, hPass, Method.bind_apply, onDb, Method.zoom_apply,
            Method.ite_apply, Method.throw_apply, Method.modify_apply, send_apply] at h
          rcases hLogin : Database.login c user pass s.db with ⟨e' | status, db⟩ <;>
            rw [hLogin] at h
          · exact (Prod.mk.inj h).2.symm
          · cases status with
            | alreadyLoggedIn | clientAlreadyConnected | wrongPassword =>
                simp only [reduceCtorEq, if_false, if_true] at h
                exact (Prod.mk.inj h).2.symm
            | addedNewUser | loggedInSuccessfully => simp at h

/-- However `login` ends, `solveConnect` is some effects on the connection. -/
theorem preserves_solveConnect (headers : Headers) :
    Method.Preserves (Touched c start) (solveConnect c headers) := by
  unfold solveConnect
  split
  · rename_i user pass _ _
    intro s hs
    rcases hLogin : Database.login c user pass s.db with ⟨e | status, db⟩
    · simp only [Method.bind_apply, onDb, Method.zoom_apply, hLogin]
      exact hs.next (.connectFailed hLogin)
    · simp only [Method.bind_apply, onDb, Method.zoom_apply, hLogin, Method.ite_apply,
        Method.throw_apply, Method.modify_apply, send_apply]
      have hSame : status = .alreadyLoggedIn ∨ status = .clientAlreadyConnected ∨
          status = .wrongPassword → ({ s with db := db } : Server) = s := by
        intro hStatus
        rw [Database.login_rejected hLogin hStatus]
      split
      · rw [hSame (Or.inl ‹_›)]
        exact hs
      · split
        · rw [hSame (Or.inr (Or.inl ‹_›))]
          exact hs
        · split
          · rw [hSame (Or.inr (Or.inr ‹_›))]
            exact hs
          · have hSuccess : status = .addedNewUser ∨ status = .loggedInSuccessfully := by
              cases status <;> simp_all
            exact (hs.next (.connect hLogin hSuccess)).next (.send .connected)
  · exact Method.preserves_throw _

/-- The upload is an SQL call, and the broadcast hands out frames and changes nothing else. -/
theorem preserves_solveSend (headers : Headers) (body : Text) :
    Method.Preserves (Touched c start) (solveSend c headers body) := by
  unfold solveSend
  split
  · exact Method.preserves_throw _
  · rename_i channel _
    intro s hs
    simp only [Method.bind_apply, Method.get_apply, Method.ite_apply, Method.throw_apply]
    split
    · exact hs
    · rename_i hNot
      have hSub : s.cManager.isSubscribed c channel = true := by simpa using hNot
      have hIsSome : (s.cManager.subManager.subscriptions channel).isSome := by
        unfold ConnectionsManager.isSubscribed SubscriptionManager.isSubscribedToChannel at hSub
        cases hEntry : s.cManager.subManager.subscriptions channel with
        | none => simp [hEntry] at hSub
        | some list => rfl
      cases headers "file-name".toList with
      | none =>
          simp only [onCManager, Method.zoom_apply,
            ConnectionsManager.sendToChannel_apply hIsSome]
          exact hs.next (.broadcast hSub body)
      | some fileName =>
          simp only [Method.bind_apply, onDb, Method.zoom_apply, Database.trackFileUpload,
            Database.executeSQL_apply]
          cases s.db.sqlService 0 with
          | failure message => exact hs.next (.upload _)
          | reply response =>
              simp only [Method.pure_apply, onCManager, Method.zoom_apply,
                ConnectionsManager.sendToChannel_apply hIsSome]
              refine (hs.next (.upload _)).next (Effect.broadcast ?_ body)
              exact hSub

theorem ensures_conCheck :
    Method.Ensures (Touched c start) (conCheck c)
      (fun _ s => Touched c start s ∧ s.LoggedIn c) (fun _ => Touched c start) := by
  intro s hs
  rw [conCheck_apply]
  by_cases h : s.LoggedIn c
  · simpa [h] using hs
  · simpa [h] using hs

/-- A `SUBSCRIBE` changes nothing, or it makes the subscription it names. -/
theorem solveSubscribe_cases (c : Int) (headers : Headers) (s : Server) :
    (∃ e, solveSubscribe c headers s = (.error e, s)) ∨
    ∃ channel id subId, headers "id".toList = some id ∧ Java.parseInt id = some subId ∧
      (∀ sub ∈ s.cManager.subManager.ofConnection c, sub.channel ≠ channel) ∧
      solveSubscribe c headers s = (.ok (), { s with cManager := { s.cManager with
        subManager := s.cManager.subManager.added
          ⟨s.cManager.subManager.allocated, subId, c, channel⟩ } }) := by
  unfold solveSubscribe
  cases headers "destination".toList with
  | none => exact Or.inl ⟨_, rfl⟩
  | some channel =>
      cases headers "id".toList with
      | none => exact Or.inl ⟨_, rfl⟩
      | some id =>
          simp only [Method.bind_apply, parseInt]
          cases hSubId : Java.parseInt id with
          | none => exact Or.inl ⟨_, rfl⟩
          | some subId =>
              simp only [Method.pure_apply, onCManager, ConnectionsManager.subscribe,
                ConnectionsManager.onSubManager, Method.zoom_apply]
              by_cases hDup : ∃ sub ∈ s.cManager.subManager.ofConnection c, sub.channel = channel
              · obtain ⟨sub, hSub, hChannel⟩ := hDup
                rw [SubscriptionManager.subscribe_duplicate hSub hChannel]
                exact Or.inl ⟨_, rfl⟩
              · have hNew : ∀ sub ∈ s.cManager.subManager.ofConnection c, sub.channel ≠ channel :=
                  fun sub hSub hChannel => hDup ⟨sub, hSub, hChannel⟩
                rw [SubscriptionManager.subscribe_new hNew]
                exact Or.inr ⟨channel, id, subId, rfl, hSubId, hNew, rfl⟩

/-- An `UNSUBSCRIBE` changes nothing, or it takes out a subscription with its id. -/
theorem solveUnsubscribe_cases {s : Server} (h : s.Indexed) (c : Int) (headers : Headers) :
    (∃ e, solveUnsubscribe c headers s = (.error e, s)) ∨
    ∃ id subId, headers "id".toList = some id ∧ Java.parseInt id = some subId ∧
      ((solveUnsubscribe c headers s = (.ok (), s) ∧
          ∀ sub ∈ s.cManager.subManager.ofConnection c, sub.subId ≠ subId) ∨
        ∃ sub ∈ s.cManager.subManager.ofConnection c, sub.subId = subId ∧
          solveUnsubscribe c headers s = (.ok (), { s with cManager := { s.cManager with
            subManager := s.cManager.subManager.removed sub } })) := by
  unfold solveUnsubscribe
  cases headers "id".toList with
  | none => exact Or.inl ⟨_, rfl⟩
  | some id =>
      simp only [Method.bind_apply, parseInt]
      cases hSubId : Java.parseInt id with
      | none => exact Or.inl ⟨_, rfl⟩
      | some subId =>
          simp only [Method.pure_apply, onCManager, ConnectionsManager.unsubscribe,
            ConnectionsManager.onSubManager, Method.zoom_apply,
            SubscriptionManager.unsubscribe_apply h]
          cases hEntry : s.cManager.subManager.subDict c with
          | none => exact Or.inl ⟨_, rfl⟩
          | some list =>
              have hList : s.cManager.subManager.ofConnection c = list := by
                simp [SubscriptionManager.ofConnection, hEntry]
              apply Or.inr
              refine ⟨id, subId, rfl, hSubId, ?_⟩
              dsimp only
              rw [hList]
              cases hFind : list.find? fun sub => sub.subId = subId with
              | none =>
                  have hNone : ∀ sub ∈ list, sub.subId ≠ subId := by simpa using hFind
                  exact Or.inl ⟨rfl, hNone⟩
              | some sub =>
                  have hId : sub.subId = subId := by simpa using List.find?_some hFind
                  exact Or.inr ⟨sub, List.mem_of_find?_eq_some hFind, hId, rfl⟩

/-- A connection that is logged in may subscribe, which is an effect on it. -/
theorem ensures_solveSubscribe (headers : Headers) :
    Method.Ensures (fun s => Touched c start s ∧ s.LoggedIn c) (solveSubscribe c headers)
      (fun _ => Touched c start) (fun _ => Touched c start) := by
  rintro s ⟨hs, hLogged⟩
  obtain ⟨e, hRun⟩ | ⟨channel, id, subId, -, -, hNew, hRun⟩ := solveSubscribe_cases c headers s
  · rw [hRun]
    exact hs
  · rw [hRun]
    exact hs.next (.subscribe hLogged subId hNew)

theorem preserves_solveUnsubscribe (headers : Headers) :
    Method.Preserves (Touched c start) (solveUnsubscribe c headers) := by
  intro s hs
  obtain ⟨e, hRun⟩ | ⟨id, subId, -, -, ⟨hRun, -⟩ | ⟨sub, hListed, -, hRun⟩⟩ :=
    solveUnsubscribe_cases hs.1 c headers
  · rw [hRun]
    exact hs
  · rw [hRun]
    exact hs
  · rw [hRun]
    exact hs.next (.unsubscribe hListed)

theorem ensures_left {m : Method JavaException Server Unit}
    (h : Method.Preserves (Touched c start) m) :
    Method.Ensures (Touched c start) m (fun _ => Left c start) (fun _ => Left c start) :=
  (Method.preserves_iff_ensures.1 h).weaken (fun _ hs => hs) (fun _ _ hs => hs.left)
    (fun _ _ hs => hs.left)

/-- A command that is only worked through after `conCheck`. -/
theorem preserves_checked {m : Method JavaException Server Unit}
    (h : Method.Ensures (fun s => Touched c start s ∧ s.LoggedIn c) m
      (fun _ => Touched c start) (fun _ => Touched c start)) :
    Method.Preserves (Touched c start) (do conCheck c; m) :=
  Method.preserves_iff_ensures.2 (Method.ensures_bind ensures_conCheck (fun _ => h))

theorem preserves_checked_of {m : Method JavaException Server Unit}
    (h : Method.Preserves (Touched c start) m) :
    Method.Preserves (Touched c start) (do conCheck c; m) :=
  preserves_checked ((Method.preserves_iff_ensures.1 h).weaken (fun _ hs => hs.1)
    (fun _ _ hs => hs) (fun _ _ hs => hs))

/-- Every command but `DISCONNECT` is some effects on the connection, whatever its outcome. -/
theorem preserves_command {command : Text} (h : command ≠ "DISCONNECT".toList) (headers : Headers)
    (body : Text) : Method.Preserves (Touched c start) (dispatch c command headers body) := by
  unfold dispatch
  split
  · exact Method.preserves_bind (preserves_solveConnect headers)
      (fun _ => preserves_answerReceipt headers)
  split
  · exact preserves_checked_of (Method.preserves_bind
      (preserves_solveSend headers body) (fun _ => preserves_answerReceipt headers))
  split
  · exact preserves_checked (Method.ensures_bind (ensures_solveSubscribe headers)
      (fun _ => Method.preserves_iff_ensures.1 (preserves_answerReceipt headers)))
  split
  · exact preserves_checked_of (Method.preserves_bind
      (preserves_solveUnsubscribe headers) (fun _ => preserves_answerReceipt headers))
  exact Method.preserves_throw _

/-- Only `DISCONNECT` tears the connection down, as the last thing it does. -/
theorem ensures_dispatch (command : Text) (headers : Headers) (body : Text) :
    Method.Ensures (Touched c start) (dispatch c command headers body)
      (fun _ => Left c start) (fun _ => Left c start) := by
  by_cases hCommand : command = "DISCONNECT".toList
  · rw [hCommand]
    refine Method.ensures_bind (R := fun _ => Touched c start) ?_ fun _ =>
      Method.ensures_bind (R := fun _ => Left c start) ?_ fun _ =>
        Method.preserves_iff_ensures.1 preserves_handleDisconnect
    · exact ensures_conCheck.weaken (fun _ hs => hs) (fun _ _ hs => hs.1) (fun _ _ hs => hs.left)
    · exact ensures_left (preserves_answerReceipt headers)
  · exact ensures_left (preserves_command hCommand headers body)

/-- The body of `process`: some effects, and behind them what `DISCONNECT` does. -/
theorem ensures_attempt (message : Text) :
    Method.Ensures (Touched c start) (attempt c message)
      (fun _ => Left c start) (fun _ => Left c start) := by
  unfold attempt
  split
  · exact Method.ensures_throw _ fun _ hs => hs.left
  · exact ensures_dispatch _ _ _

/-- The whole of `process`: some effects, and behind them only replies and teardowns. -/
theorem ensures_process (message : Text) :
    Method.Ensures (Touched c start) (process c message)
      (fun _ => Left c start) (fun _ => Left c start) :=
  Method.ensures_tryCatch (ensures_attempt message)
    (fun _ => Method.preserves_iff_ensures.1 (preserves_solveError _ _))

end

/-- A frame that parses is dispatched, and an exception is answered and ends the connection. -/
theorem process_eq {message : Text} {headers : Headers} {command body : Text}
    (hParse : parseFrame message = (headers, .ok (command, body))) (c : Int) (s : Server) :
    process c message s = match dispatch c command headers body s with
      | (.ok done, t) => (.ok done, t)
      | (.error e, t) => solveError c e.getMessage (headers "receipt".toList) t := by
  simp only [process, attempt, hParse, Method.tryCatch_apply]
  rcases dispatch c command headers body s with ⟨_ | _, t⟩ <;> rfl

/-- The `catch` of `process` ends in the teardown. -/
theorem process_error {c : Int} {s u : Server} {message : Text} {e : JavaException}
    (thrown : attempt c message s = (.error e, u)) :
    process c message s = handleDisconnect c (u.sent c (errorFrame e.getMessage
      ((parseFrame message).1 "receipt".toList))) := by
  simp only [process, Method.tryCatch_apply, thrown, solveError, Method.bind_apply, send_apply]

/-- A frame does its work first, in states that meet `K`, and only then its teardown. -/
theorem process_work {K : Server → Prop} {c : Int} {s : Server} {message : Text}
    (hWork : ∀ headers command body, parseFrame message = (headers, .ok (command, body)) →
      command ≠ "DISCONNECT".toList → K (dispatch c command headers body s).2)
    (hOther : (∀ headers body, parseFrame message ≠ (headers, .ok ("CONNECT".toList, body))) →
      K s ∧ ∀ headers, K (answerReceipt c headers s).2) :
    ∃ mid, K mid ∧ ReflTransGen (Closing c) mid (process c message s).2 := by
  have hCatch : ∀ (u : Server) (errorMsg : Text) (receipt : Option Text),
      ReflTransGen (Closing c) u (solveError c errorMsg receipt u).2 := by
    intro u errorMsg receipt
    simp only [solveError, Method.bind_apply, send_apply]
    exact ReflTransGen.tail (.single (.send (.error errorMsg receipt))) .disconnect
  rcases hParse : parseFrame message with ⟨headers, e | ⟨command, body⟩⟩
  · refine ⟨s, (hOther (by simp [hParse])).1, ?_⟩
    simp only [process, attempt, hParse, Method.tryCatch_apply, Method.throw_apply]
    exact hCatch s _ _
  · rw [process_eq hParse]
    by_cases hCommand : command = "DISCONNECT".toList
    · have hDispatch : dispatch c command headers body s = (do
          conCheck c
          answerReceipt c headers
          handleDisconnect c : Method JavaException Server Unit) s := by
        rw [hCommand]
        rfl
      have hNoConnect : ∀ headers body,
          parseFrame message ≠ (headers, .ok ("CONNECT".toList, body)) := by
        simp [hParse, hCommand]
      obtain ⟨hs, hReceipt⟩ := hOther hNoConnect
      simp only [hDispatch, Method.bind_apply, conCheck_apply]
      by_cases hLogged : s.LoggedIn c
      · have hMid := hReceipt headers
        rw [if_pos hLogged]
        rcases hAnswer : answerReceipt c headers s with ⟨e | _, t⟩ <;>
          simp only [hAnswer] at hMid ⊢
        · exact ⟨t, hMid, hCatch t _ _⟩
        · refine ⟨t, hMid, ?_⟩
          have hFirst : ReflTransGen (Closing c) t (handleDisconnect c t).2 := .single .disconnect
          rcases hRun : handleDisconnect c t with ⟨e | _, u⟩ <;>
            simp only [hRun] at hFirst ⊢
          · exact hFirst.trans (hCatch u _ _)
          · exact hFirst
      · rw [if_neg hLogged]
        exact ⟨s, hs, hCatch s _ _⟩
    · have hMid := hWork headers command body hParse hCommand
      rcases hRun : dispatch c command headers body s with ⟨e | _, t⟩ <;> rw [hRun] at hMid
      · exact ⟨t, hMid, hCatch t _ _⟩
      · exact ⟨t, hMid, .refl⟩

/-- After a `CONNECT` is accepted only its receipt, or the lack of one, is left. -/
theorem process_connect {s : Server} {c : Int} {message : Text} {headers : Headers} {body : Text}
    (hParse : parseFrame message = (headers, .ok ("CONNECT".toList, body)))
    (hConnect : (solveConnect c headers s).1 = .ok ())
    (hIndexed : (solveConnect c headers s).2.Indexed) :
    Left c (solveConnect c headers s).2 (process c message s).2 := by
  rw [process_eq hParse]
  simp only [dispatch, if_true, Method.bind_apply]
  rcases hRun : solveConnect c headers s with ⟨_ | _, mid⟩
  · simp [hRun] at hConnect
  · rw [hRun] at hIndexed
    have hTouched := preserves_answerReceipt headers mid
      (show Touched c mid mid from ⟨hIndexed, .refl⟩)
    dsimp only
    rcases hReceipt : answerReceipt c headers mid with ⟨e | _, t⟩ <;> rw [hReceipt] at hTouched
    · exact preserves_solveError _ _ t hTouched.left
    · exact hTouched.left

/-- Processing a frame is a chain of effects of its connection, then a chain of
the steps of its teardown. -/
theorem process_left {s : Server} (h : s.Indexed) (c : Int) (message : Text) :
    Left c s (process c message s).2 := by
  have hEnd := ensures_process message s (show Touched c s s from ⟨h, .refl⟩)
  rcases hRun : process c message s with ⟨_ | _, t⟩ <;> simpa [hRun] using hEnd

/-- The proof rule for frames. `P` holds while the frame is worked through and
`Q` from the moment on when the connection may be torn down. -/
theorem Left.phases {P Q : Server → Prop} {c : Int}
    (hEffect : ∀ s t, s.Indexed → P s → Effect c s t → P t) (hTurn : ∀ s, P s → Q s)
    (hClosing : ∀ s t, s.Indexed → Q s → Closing c s t → Q t) {s t : Server} (hIndexed : s.Indexed)
    (h : P s) (hLeft : Left c s t) : t.Indexed ∧ Q t := by
  obtain ⟨mid, ⟨-, hWork⟩, hEnd, hClose⟩ := hLeft
  have hMid : mid.Indexed ∧ P mid := by
    clear hClose
    induction hWork with
    | refl => exact ⟨hIndexed, h⟩
    | tail _ effect ih => exact ⟨effect.indexed ih.1, hEffect _ _ ih.1 ih.2 effect⟩
  clear hEnd
  induction hClose with
  | refl => exact ⟨hMid.1, hTurn _ hMid.2⟩
  | tail _ closing ih => exact ⟨closing.indexed ih.1, hClosing _ _ ih.1 ih.2 closing⟩

/-- The rule for invariants that change when a frame comes to its end: `P` through the effects,
`Q` through the replies and teardowns behind them. -/
theorem process_phases {P Q : Server → Prop} {c : Int}
    (hEffect : ∀ s t, s.Indexed → P s → Effect c s t → P t) (hTurn : ∀ s, P s → Q s)
    (hClosing : ∀ s t, s.Indexed → Q s → Closing c s t → Q t) {s : Server} (hIndexed : s.Indexed)
    (h : P s) (message : Text) :
    (process c message s).2.Indexed ∧ Q (process c message s).2 :=
  (process_left hIndexed c message).phases hEffect hTurn hClosing hIndexed h

/-- An invariant of effects and teardown is an invariant of frames. -/
theorem Left.preserves {P : Server → Prop} {c : Int}
    (hEffect : ∀ s t, s.Indexed → P s → Effect c s t → P t)
    (hDisconnect : ∀ s, s.Indexed → P s → P (handleDisconnect c s).2) {s t : Server}
    (hIndexed : s.Indexed) (h : P s) (hLeft : Left c s t) : t.Indexed ∧ P t := by
  refine hLeft.phases hEffect (fun _ hs => hs) ?_ hIndexed h
  intro s t hs hP closing
  cases closing with
  | send reply => exact hEffect _ _ hs hP (.send reply)
  | disconnect => exact hDisconnect _ hs hP

/-- The rule for invariants of whole frames, which have to be kept by each effect and by the
teardown. -/
theorem process_preserves {P : Server → Prop} {c : Int}
    (hEffect : ∀ s t, s.Indexed → P s → Effect c s t → P t)
    (hDisconnect : ∀ s, s.Indexed → P s → P (handleDisconnect c s).2) {s : Server}
    (hIndexed : s.Indexed) (h : P s) (message : Text) :
    (process c message s).2.Indexed ∧ P (process c message s).2 :=
  (process_left hIndexed c message).preserves hEffect hDisconnect hIndexed h

end StompGames.Server
