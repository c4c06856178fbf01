import StompGames.Server.Broadcast

/-! What a frame has done by the time it is rejected. The checks of a command, the
calls of the SQL service and the parsing of its numbers come between its effects. -/
namespace StompGames

open Imperative

namespace Database

/-- The statements that the SQL service has carried out. -/
def executed (db : Database) : List Text :=
  (db.sqlLog.filter fun call => call.2.succeeds).map Prod.fst

/-- Nothing is recorded, and no account and no session is another one. -/
structure Unchanged (db db' : Database) : Prop where
  userMap : db'.userMap = db.userMap
  connectionsIdMap : db'.connectionsIdMap = db.connectionsIdMap
  users : ∀ ref, ref < db.allocated → db'.users ref = db.users ref
  executed : db'.executed = db.executed

theorem Unchanged.refl (db : Database) : db.Unchanged db := ⟨rfl, rfl, fun _ _ => rfl, rfl⟩

theorem executed_failed {db : Database} (h : (db.sqlService 0).succeeds = false) (sql : Text) :
    (db.called sql).executed = db.executed := by
  simp [executed, called, h]

theorem executed_succeeded {db : Database} (h : (db.sqlService 0).succeeds = true) (sql : Text) :
    (db.called sql).executed = db.executed ++ [sql] := by
  simp [executed, called, h]

theorem length_executed_le (db : Database) (sql : Text) :
    db.executed.length ≤ (db.called sql).executed.length := by
  cases hService : (db.sqlService 0).succeeds with
  | false => rw [executed_failed hService]
  | true =>
      rw [executed_succeeded hService, List.length_append]
      exact Nat.le_add_right _ _

/-- A login that is not turned away at once: the connection is free, and either the
name is new and can be recorded, or its user is logged out and gives its password. -/
def StartsLogin (db : Database) (c : Int) (user pass : Text) : Prop :=
  db.connectionsIdMap c = none ∧
    ((db.userMap user = none ∧ (db.sqlService 0).succeeds = true) ∨
      ∃ ref, db.userMap user = some ref ∧ (db.users ref).isLoggedIn = false ∧
        (db.users ref).password = pass)

/-- Only such a login succeeds. -/
theorem login_starts {db db' : Database} {c : Int} {user pass : Text} {status : LoginStatus}
    (h : login c user pass db = (.ok status, db'))
    (success : status = .addedNewUser ∨ status = .loggedInSuccessfully) :
    db.StartsLogin c user pass := by
  obtain ⟨hConnection, ⟨hUser, -⟩ | ⟨ref, hUser, hOut, hPass, -⟩⟩ := login_success h success
  · refine ⟨hConnection, Or.inl ⟨hUser, ?_⟩⟩
    rw [login_unknown hConnection hUser] at h
    cases hService : db.sqlService 0 with
    | reply response => rfl
    | failure message =>
        simp only [hService] at h
        cases h
  · exact ⟨hConnection, Or.inr ⟨ref, hUser, hOut, hPass⟩⟩

/-- Any other login changes nothing. -/
theorem login_unchanged {db : Database} {c : Int} {user pass : Text}
    (h : ¬db.StartsLogin c user pass) : db.Unchanged (login c user pass db).2 := by
  cases hConnection : db.connectionsIdMap c with
  | some other =>
      rw [login_connected (by rw [hConnection]; rfl)]
      exact .refl db
  | none =>
      cases hUser : db.userMap user with
      | none =>
          have hFails : (db.sqlService 0).succeeds = false := by
            by_contra hWorks
            exact h ⟨hConnection, Or.inl ⟨hUser, Bool.eq_true_of_not_eq_false hWorks⟩⟩
          obtain ⟨hUserMap, hConnections⟩ := registered_unregistered hConnection hUser pass
          rw [login_unknown hConnection hUser]
          cases hService : db.sqlService 0 with
          | reply response => simp [hService, SqlOutcome.succeeds] at hFails
          | failure message =>
              refine ⟨hUserMap, hConnections, fun ref hRef => ?_, ?_⟩
              · exact Function.update_of_ne (Nat.ne_of_lt hRef) _ _
              · have hCall : ((db.registered c user pass).sqlService 0).succeeds = false := hFails
                exact executed_failed hCall _
      | some ref =>
          rw [login_known hConnection hUser]
          split
          · exact .refl db
          · split
            · exact .refl db
            · rename_i hOut hPass
              exact absurd ⟨hConnection, Or.inr ⟨ref, hUser, Bool.eq_false_of_not_eq_true hOut,
                not_not.1 hPass⟩⟩ h

/-- Such a login opens a session, or the failure of a later call leaves traces. -/
theorem login_changes {db : Database} {c : Int} {user pass : Text}
    (h : db.StartsLogin c user pass) : ¬db.Unchanged (login c user pass db).2 := by
  intro hUnchanged
  obtain ⟨hConnection, ⟨hUser, hWorks⟩ | ⟨ref, hUser, hOut, hPass⟩⟩ := h
  · have hExecuted := hUnchanged.executed
    rw [login_unknown hConnection hUser] at hExecuted
    have hCall : ((db.registered c user pass).sqlService 0).succeeds = true := hWorks
    have hFirst := executed_succeeded hCall (insertUserSql user pass)
    cases hService : db.sqlService 0 with
    | failure message => simp [hService, SqlOutcome.succeeds] at hWorks
    | reply response =>
        have hLonger := length_executed_le ((db.registered c user pass).called
          (insertUserSql user pass)) (logLoginSql user)
        rw [hFirst, List.length_append, List.length_singleton] at hLonger
        have hSame : (db.registered c user pass).executed = db.executed := rfl
        cases hSecond : db.sqlService 1 <;> simp only [hService, hSecond] at hExecuted
        all_goals
          have hLength := congrArg List.length hExecuted
          rw [← hSame] at hLength
          exact absurd (hLonger.trans_eq hLength) (Nat.not_succ_le_self _)
  · have hSession := congrFun hUnchanged.connectionsIdMap c
    have hOpened : (db.opened c ref).connectionsIdMap c = some ref := Function.update_self ..
    have hNotLoggedIn : ¬(db.users ref).isLoggedIn = true := Bool.eq_false_iff.1 hOut
    rw [login_known hConnection hUser, if_neg hNotLoggedIn, if_neg (not_not.2 hPass)] at hSession
    dsimp only at hSession
    split at hSession <;> rw [hConnection, called_connectionsIdMap, hOpened] at hSession <;>
      cases hSession

end Database

namespace Server

/-- Nothing that anybody can notice once the connection is torn down: no frame was
handed out, nothing was recorded, and at most the connection's own subscriptions changed. -/
structure Unnoticed (c : Int) (s u : Server) : Prop where
  handed : u.cManager.handed = s.cManager.handed
  database : s.db.Unchanged u.db
  others : OthersKept c s u
  own : u.protocols c = s.protocols c
  handlers : u.cManager.connecetions = s.cManager.connecetions
  channels : ∀ channel,
    (u.cManager.subManager.ofChannel channel).filter (fun sub => sub.conId ≠ c) =
      (s.cManager.subManager.ofChannel channel).filter fun sub => sub.conId ≠ c

theorem Unnoticed.refl (c : Int) (s : Server) : Unnoticed c s s :=
  ⟨rfl, .refl _, .refl c s, rfl, rfl, fun _ => rfl⟩

/-- Work on the database only. -/
theorem unnoticed_onDb_iff (c : Int) (s : Server) (db : Database) :
    Unnoticed c s { s with db := db } ↔ s.db.Unchanged db := by
  constructor
  · exact fun h => h.database
  · intro h
    refine ⟨rfl, h, ⟨rfl, fun _ _ => rfl, fun other _ => ?_, fun _ _ => rfl, fun _ _ => rfl⟩, rfl,
      rfl, fun _ => rfl⟩
    exact congrFun h.connectionsIdMap other

/-- A frame that has been handed out is noticed. -/
theorem not_unnoticed_of_handed {c : Int} {s u : Server}
    {frames : List (ConnectionHandler × Text)}
    (hHanded : u.cManager.handed = s.cManager.handed ++ frames) (hSome : frames ≠ []) :
    ¬Unnoticed c s u := by
  intro h
  exact hSome (List.append_right_eq_self.1 (hHanded.symm.trans h.handed))

/-- The work of a frame leaves the handlers alone. -/
theorem Touched.handlers {c : Int} {s u : Server} (h : Touched c s u) :
    u.cManager.connecetions = s.cManager.connecetions := by
  obtain ⟨-, hChain⟩ := h
  induction hChain with
  | refl => rfl
  | tail _ effect ih => exact effect.handlers_kept.1.trans ih

/-- A `CONNECT` that gets as far as its login. -/
def StartsLogin (s : Server) (c : Int) (headers : Headers) : Prop :=
  ∃ user pass, headers "login".toList = some user ∧ headers "passcode".toList = some pass ∧
    s.db.StartsLogin c user pass

/-- A `SEND` that gets as far as its broadcast. -/
def StartsBroadcast (s : Server) (c : Int) (headers : Headers) : Prop :=
  s.LoggedIn c ∧ ∃ channel, headers "destination".toList = some channel ∧
    s.cManager.isSubscribed c channel = true ∧
    (headers "file-name".toList = none ∨ (s.db.sqlService 0).succeeds = true)

/-- A frame that acts before the last of its checks. -/
def ActsFirst (s : Server) (c : Int) (message : Text) : Prop :=
  ∃ headers command body, parseFrame message = (headers, .ok (command, body)) ∧
    ((command = "CONNECT".toList ∧ s.StartsLogin c headers) ∨
      (command = "SEND".toList ∧ s.StartsBroadcast c headers))

section
variable {c : Int} {s u : Server} {headers : Headers} {e : JavaException}

theorem connect_unnoticed_iff (hHandler : (s.cManager.connecetions c).isSome)
    (h : (do solveConnect c headers; answerReceipt c headers) s = (.error e, u)) :
    Unnoticed c s u ↔ ¬s.StartsLogin c headers := by
  obtain hLogin | ⟨done, t, hConnect, hReceipt⟩ := Method.bind_eq_error_iff.1 h
  · obtain ⟨hMissing, rfl⟩ | ⟨user, pass, hUser, hPass, rfl⟩ := solveConnect_error hLogin
    · refine iff_of_true (.refl c u) ?_
      rintro ⟨user, pass, hUser, hPass, -⟩
      rcases hMissing with hNone | hNone
      · rw [hUser] at hNone
        cases hNone
      · rw [hPass] at hNone
        cases hNone
    · rw [unnoticed_onDb_iff]
      constructor
      · rintro hSame ⟨user', pass', hUser', hPass', hStarts⟩
        obtain rfl := Option.some.inj (hUser.symm.trans hUser')
        obtain rfl := Option.some.inj (hPass.symm.trans hPass')
        exact Database.login_changes hStarts hSame
      · intro hNot
        exact Database.login_unchanged fun hStarts => hNot ⟨user, pass, hUser, hPass, hStarts⟩
  · obtain rfl := answerReceipt_error hReceipt
    obtain ⟨user, pass, hUser, hPass⟩ := solveConnect_headers (by rw [hConnect])
    obtain ⟨status, db, hLogin, success, hRun⟩ := solveConnect_ok hUser hPass (by rw [hConnect])
    obtain ⟨-, rfl⟩ := Prod.mk.inj (hConnect.symm.trans hRun)
    obtain ⟨handler, hHandler⟩ := Option.isSome_iff_exists.1 hHandler
    refine iff_of_false (not_unnoticed_of_handed (ConnectionsManager.delivered_handed c
      connectedFrame _) ?_) (not_not.2 ⟨user, pass, hUser, hPass,
        Database.login_starts hLogin success⟩)
    change ((s.cManager.connecetions c).map _).toList ≠ []
    rw [hHandler]
    exact List.cons_ne_nil _ _

/-- What is left of a rejected `SEND`. -/
theorem send_unnoticed_iff {body : Text} (hHandler : (s.cManager.connecetions c).isSome)
    (h : (do solveSend c headers body; answerReceipt c headers) s = (.error e, u))
    (hLogged : s.LoggedIn c) : Unnoticed c s u ↔ ¬s.StartsBroadcast c headers := by
  by_cases hStarts : s.StartsBroadcast c headers
  · obtain ⟨-, channel, hDest, hSub, hFile⟩ := id hStarts
    obtain ⟨db, hSend⟩ := solveSend_apply hDest hSub hFile body
    obtain hThrown | ⟨done, t, hSent, hReceipt⟩ := Method.bind_eq_error_iff.1 h
    · rw [hSend] at hThrown
      cases hThrown
    · obtain rfl := answerReceipt_error hReceipt
      obtain ⟨-, rfl⟩ := Prod.mk.inj (hSent.symm.trans hSend)
      refine iff_of_false (not_unnoticed_of_handed rfl ?_) (not_not.2 hStarts)
      obtain ⟨handler, hHandler⟩ := Option.isSome_iff_exists.1 hHandler
      obtain ⟨sub, hMem, hCon⟩ := List.any_eq_true.1 hSub
      have hFrame : (handler, ConnectionsManager.messageFrame sub.subId
          (Decimal.decimal (atomicInteger (s.cManager.idGen + 1))) channel body) ∈
            s.cManager.broadcastFrames channel body := by
        refine List.mem_filterMap.2 ⟨sub, hMem, ?_⟩
        rw [of_decide_eq_true hCon, hHandler]
        rfl
      exact List.ne_nil_of_mem hFrame
  · have hRefused : ¬∃ channel, headers "destination".toList = some channel ∧
        s.cManager.isSubscribed c channel = true ∧
        (headers "file-name".toList = none ∨ (s.db.sqlService 0).succeeds = true) :=
      fun hPermitted => hStarts ⟨hLogged, hPermitted⟩
    obtain ⟨e', db, hSend, hDb⟩ := solveSend_refused hRefused body
    rw [Method.bind_apply, hSend] at h
    obtain ⟨-, rfl⟩ := Prod.mk.inj h
    refine iff_of_true ((unnoticed_onDb_iff c s db).2 ?_) hStarts
    rcases hDb with rfl | ⟨sql, rfl, hFails⟩
    · exact .refl _
    · exact ⟨rfl, rfl, fun _ _ => rfl, Database.executed_failed hFails sql⟩

/-- Subscriptions of the connection itself. -/
theorem unnoticed_added (hIndexed : s.Indexed) (hLogged : s.LoggedIn c) (subId : Int)
    {channel : Text} (hNew : ∀ sub ∈ s.cManager.subManager.ofConnection c, sub.channel ≠ channel) :
    Unnoticed c s { s with cManager := { s.cManager with
      subManager := s.cManager.subManager.added
        ⟨s.cManager.subManager.allocated, subId, c, channel⟩ } } where
  handed := rfl
  database := .refl _
  others := (Effect.subscribe hLogged subId hNew).othersKept hIndexed
  own := rfl
  handlers := rfl
  channels other := by
    rw [SubscriptionManager.added_ofChannel]
    by_cases hOther : other = channel
    · subst hOther
      rw [Function.update_self, List.filter_append]
      simp
    · rw [Function.update_of_ne hOther]

theorem unnoticed_removed (hIndexed : s.Indexed) {sub : Subscription}
    (hListed : sub ∈ s.cManager.subManager.ofConnection c) :
    Unnoticed c s { s with cManager := { s.cManager with
      subManager := s.cManager.subManager.removed sub } } where
  handed := rfl
  database := .refl _
  others := (Effect.unsubscribe hListed).othersKept hIndexed
  own := rfl
  handlers := rfl
  channels channel := by
    have hOwner := hIndexed.indexes.owner_of_mem c sub hListed
    have hLists := (SubscriptionManager.Consistent.removed_lists hIndexed sub).1
    have hChannel := congrFun hLists channel
    rw [hChannel, List.filter_filter]
    apply List.filter_congr
    intro other _
    by_cases hOther : other = sub
    · simp [hOther, hOwner]
    · simp [hOther]

theorem subscribe_unnoticed (hIndexed : s.Indexed) (hLogged : s.LoggedIn c) (headers : Headers) :
    Unnoticed c s (solveSubscribe c headers s).2 := by
  obtain ⟨e, hRun⟩ | ⟨channel, id, subId, -, -, hNew, hRun⟩ := solveSubscribe_cases c headers s
  · rw [hRun]
    exact .refl c s
  · rw [hRun]
    exact unnoticed_added hIndexed hLogged subId hNew

theorem unsubscribe_unnoticed (hIndexed : s.Indexed) (headers : Headers) :
    Unnoticed c s (solveUnsubscribe c headers s).2 := by
  obtain ⟨e, hRun⟩ | ⟨id, subId, -, -, ⟨hRun, -⟩ | ⟨sub, hListed, -, hRun⟩⟩ :=
    solveUnsubscribe_cases hIndexed c headers
  · rw [hRun]
    exact .refl c s
  · rw [hRun]
    exact .refl c s
  · rw [hRun]
    exact unnoticed_removed hIndexed hListed

/-- Work that is followed by nothing but a receipt header. -/
theorem unnoticed_before_receipt {m : Method JavaException Server Unit}
    (hWork : Unnoticed c s (m s).2)
    (h : (do m; answerReceipt c headers) s = (.error e, u)) : Unnoticed c s u := by
  obtain hThrown | ⟨done, t, hDone, hReceipt⟩ := Method.bind_eq_error_iff.1 h
  · rwa [hThrown] at hWork
  · obtain rfl := answerReceipt_error hReceipt
    rwa [hDone] at hWork

/-- A command that begins with `conCheck`. -/
theorem checked_error {m : Method JavaException Server Unit}
    (h : (do conCheck c; m) s = (.error e, u)) :
    (u = s ∧ ¬s.LoggedIn c) ∨ s.LoggedIn c ∧ m s = (.error e, u) := by
  rw [Method.bind_apply, conCheck_apply] at h
  by_cases hLogged : s.LoggedIn c
  · rw [if_pos hLogged] at h
    exact Or.inr ⟨hLogged, h⟩
  · rw [if_neg hLogged] at h
    exact Or.inl ⟨(Prod.mk.inj h).2.symm, hLogged⟩

/-- A `DISCONNECT` that fails in its teardown has lost its handler. -/
theorem disconnect_unnoticed (hIndexed : s.Indexed) (hHandler : (u.cManager.connecetions c).isSome)
    (h : (do answerReceipt c headers; handleDisconnect c) s = (.error e, u)) :
    Unnoticed c s u := by
  obtain hThrown | ⟨done, t, hReceipt, hTeardown⟩ := Method.bind_eq_error_iff.1 h
  · rw [answerReceipt_error hThrown]
    exact .refl c s
  · have hTouched := preserves_answerReceipt headers s (show Touched c s s from ⟨hIndexed, .refl⟩)
    rw [hReceipt] at hTouched
    have hNone := (handleDisconnect_freed hTouched.1 c).2.1
    rw [hTeardown] at hNone
    rw [hNone] at hHandler
    cases hHandler

/-- Of two commands only the one that the frame names matters. -/
theorem actsFirst_iff {message command body : Text}
    (hParse : parseFrame message = (headers, .ok (command, body))) :
    s.ActsFirst c message ↔ (command = "CONNECT".toList ∧ s.StartsLogin c headers) ∨
      (command = "SEND".toList ∧ s.StartsBroadcast c headers) := by
  constructor
  · rintro ⟨headers', command', body', hParse', hActs⟩
    obtain ⟨rfl, hOk⟩ := Prod.mk.inj (hParse.symm.trans hParse')
    obtain ⟨rfl, -⟩ := Prod.mk.inj (Except.ok.inj hOk)
    exact hActs
  · exact fun hActs => ⟨headers, command, body, hParse, hActs⟩

end

end Server
end StompGames
