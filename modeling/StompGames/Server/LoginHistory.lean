import StompGames.Server.Sessions
import StompGames.Server.UserTables

/-! The rows of `login_history` against the sessions, while every statement the server
sends is executed. -/
namespace StompGames

open Imperative Relation

namespace Database

/-- The SQL service executes every statement from now on. -/
def Executing (db : Database) : Prop := ∀ n, db.sqlService n = .reply "SUCCESS".toList

/-- The tables once all calls so far were served, the `n`-th of them at `clock n`. -/
def tablesAt (clock : Nat → Nat) (db : Database) : Option SqlTables :=
  SqlTables.replay (fun n => ⟨clock n, false⟩) db.sqlLog .empty

/-- The tables hold what the statements sent so far have made of them, whenever they were
served: the users, an open row for each user who is logged in, and `logins` rows for each
name. -/
def Mirrored (db : Database) (logins : Text → Nat) : Prop :=
  ∀ clock, ∃ tables, db.tablesAt clock = some tables ∧
    db.Agrees tables ∧ ∀ username, rowsOf username tables.login_history = logins username ∧
      openRowsOf username tables.login_history = if db.isLoggedIn username then 1 else 0

/-- One more statement in the log is one more statement that was executed. -/
theorem tablesAt_called {db : Database} {tables : SqlTables} (h : db.Executing) {clock : Nat → Nat}
    (hTables : db.tablesAt clock = some tables) (sql : Text) :
    (db.called sql).tablesAt clock = tables.execute_sql_command (clock db.sqlLog.length) sql := by
  have hServed : tables.served ⟨clock db.sqlLog.length, false⟩ (sql, db.sqlService 0) =
      tables.execute_sql_command (clock db.sqlLog.length) sql := by
    rw [h 0]
    rfl
  unfold tablesAt at hTables ⊢
  rw [show (db.called sql).sqlLog = db.sqlLog ++ [(sql, db.sqlService 0)] from rfl,
    SqlTables.replay_append, hTables, Option.bind_some]
  simp only [SqlTables.replay, Nat.zero_add, hServed, Option.bind_fun_some]

theorem Executing.called {db : Database} (h : db.Executing) (sql : Text) :
    (db.called sql).Executing := fun n => h (n + 1)

/-- An upload does not touch the history. -/
theorem Mirrored.upload {db : Database} {logins : Text → Nat} (h : db.Mirrored logins)
    (hExecuting : db.Executing) (username filename gameChannel : Text) :
    (db.called (trackFileUploadSql username filename gameChannel)).Mirrored logins := by
  intro clock
  obtain ⟨tables, hTables, hAgrees, hRows⟩ := h clock
  refine ⟨tables, ?_, hAgrees, hRows⟩
  rw [tablesAt_called hExecuting hTables, SqlTables.execute_trackFileUploadSql]

/-- A registration logs its own user in, and nobody else. -/
theorem isLoggedIn_registered {db : Database} (h : db.Sessions) (c : Int)
    (username password name : Text) : (db.registered c username password).isLoggedIn name =
      if name = username then true else db.isLoggedIn name := by
  by_cases hName : name = username
  · subst hName
    simp [isLoggedIn, Database.registered]
  · simp only [isLoggedIn, Database.registered, Function.update_of_ne hName, if_neg hName]
    cases hUser : db.userMap name with
    | none => rfl
    | some user =>
        have hOld : user ≠ db.allocated := Nat.ne_of_lt (h.named name user hUser).2
        simp [hOld]

/-- A change of one user's object is a change for that user's name only. -/
theorem isLoggedIn_changed {db : Database} (h : db.Sessions) {ref : UserRef} {username : Text}
    (hUser : db.userMap username = some ref) (db' : Database) (user : User)
    (hMap : db'.userMap = db.userMap) (hUsers : db'.users = Function.update db.users ref user) (name : Text) :
    db'.isLoggedIn name = if name = username then user.isLoggedIn else db.isLoggedIn name := by
  by_cases hName : name = username
  · subst hName
    simp [isLoggedIn, hMap, hUser, hUsers]
  · simp only [isLoggedIn, hMap, hUsers, if_neg hName]
    cases hOther : db.userMap name with
    | none => rfl
    | some other =>
        have hNe : other ≠ ref := by
          rintro rfl
          exact hName ((h.named name other hOther).1.symm.trans (h.named username other hUser).1)
        simp [hNe]

/-- What a new row makes of the rows. -/
theorem rows_opened {db db' : Database} {rows : List LoginRow} {logins : Text → Nat}
    {username : Text} (now : Nat) (hRows : ∀ name, rowsOf name rows = logins name ∧
      openRowsOf name rows = if db.isLoggedIn name then 1 else 0)
    (hOut : db.isLoggedIn username = false) (hLogged : ∀ name, db'.isLoggedIn name =
      if name = username then true else db.isLoggedIn name) (name : Text) :
    rowsOf name (rows ++ [⟨username, now, false⟩]) =
        (logins name + if username = name then 1 else 0) ∧
      openRowsOf name (rows ++ [⟨username, now, false⟩]) =
        if db'.isLoggedIn name then 1 else 0 := by
  obtain ⟨hAll, hOpen⟩ := hRows name
  rw [hLogged name, rowsOf_insert, openRowsOf_insert, hAll, hOpen]
  refine ⟨rfl, ?_⟩
  by_cases hName : name = username
  · subst hName
    simp [hOut]
  · simp [hName, Ne.symm hName]

/-- A login that succeeds adds an open row, for a user who had none. -/
theorem Mirrored.login_success {db db' : Database} {logins : Text → Nat} (h : db.Mirrored logins)
    (hExecuting : db.Executing) (hSessions : db.Sessions) {c : Int} {username password : Text}
    {status : LoginStatus} (hLogin : login c username password db = (.ok status, db'))
    (success : status = .addedNewUser ∨ status = .loggedInSuccessfully) :
    db'.Mirrored (fun name => logins name + if username = name then 1 else 0) ∧ db'.Executing := by
  obtain ⟨hConnection, ⟨hUser, rfl⟩ | ⟨ref, hUser, hOut, hPassword, rfl⟩⟩ :=
    Database.login_success hLogin success
  · have hRegistered : (db.registered c username password).Executing := hExecuting
    refine ⟨fun clock => ?_, fun n => hExecuting (n + 2)⟩
    obtain ⟨tables, hTables, hAgrees, hRows⟩ := h clock
    have hNew : tables.users username = none := by rw [hAgrees username, hUser]; rfl
    have hInsert := tablesAt_called hRegistered hTables (insertUserSql username password)
    rw [SqlTables.execute_insertUserSql _ hNew] at hInsert
    have hLog := tablesAt_called (Executing.called hRegistered _) hInsert (logLoginSql username)
    rw [SqlTables.execute_logLoginSql] at hLog
    refine ⟨_, hLog, hAgrees.registered hSessions c username password rfl, ?_⟩
    apply rows_opened _ hRows
    · simp [isLoggedIn, hUser]
    · exact isLoggedIn_registered hSessions c username password
  · have hOpened : (db.opened c ref).Executing := hExecuting
    refine ⟨fun clock => ?_, fun n => hExecuting (n + 1)⟩
    obtain ⟨tables, hTables, hAgrees, hRows⟩ := h clock
    have hLog := tablesAt_called hOpened hTables (logLoginSql username)
    rw [SqlTables.execute_logLoginSql] at hLog
    refine ⟨_, hLog, hAgrees.of_changed rfl rfl rfl rfl, ?_⟩
    apply rows_opened _ hRows
    · simp [isLoggedIn, hUser, hOut]
    · exact isLoggedIn_changed hSessions hUser _
        { db.users ref with isLoggedIn := true, connectionId := c } rfl rfl

/-- The one open row of the user is closed when the user is logged out. -/
theorem Mirrored.closed {db : Database} {logins : Text → Nat} (h : db.Mirrored logins)
    (hExecuting : db.Executing) (hSessions : db.Sessions) {c : Int} {ref : UserRef}
    (hBound : db.connectionsIdMap c = some ref) :
    ((db.called (logoutSql (db.users ref).name)).closed c ref).Mirrored logins := by
  intro clock
  obtain ⟨tables, hTables, hAgrees, hRows⟩ := h clock
  obtain ⟨hUser, hLogged, -⟩ := hSessions.bound c ref hBound
  have hUpdate := tablesAt_called hExecuting hTables (logoutSql (db.users ref).name)
  rw [SqlTables.execute_logoutSql] at hUpdate
  refine ⟨_, hUpdate, hAgrees.of_changed rfl rfl rfl rfl, fun name => ?_⟩
  obtain ⟨hAll, hOpen⟩ := hRows name
  have hAfter : ((db.called (logoutSql (db.users ref).name)).closed c ref).isLoggedIn name =
      if name = (db.users ref).name then false else db.isLoggedIn name :=
    isLoggedIn_changed hSessions hUser ((db.called (logoutSql (db.users ref).name)).closed c ref)
      { db.users ref with isLoggedIn := false } rfl rfl name
  rw [hAfter, rowsOf_closeLatest]
  refine ⟨hAll, ?_⟩
  by_cases hName : name = (db.users ref).name
  · have hIn : db.isLoggedIn name = true := by simp [isLoggedIn, hName, hUser, hLogged]
    rw [hIn] at hOpen
    rw [← hName, openRowsOf_closeLatest, hOpen]
    simp
  · rw [openRowsOf_closeLatest_of_ne hName, hOpen, if_neg hName]

end Database

namespace Server

section
variable {Q : Database → Prop}

theorem answerReceipt_db (c : Int) (headers : Headers) (s : Server) :
    (answerReceipt c headers s).2.db = s.db := by
  rw [answerReceipt_apply]
  split
  · rfl
  · split <;> rfl

theorem preserves_conCheck_db (c : Int) : Method.Preserves (fun s => Q s.db) (conCheck c) := by
  intro s hs
  rw [conCheck_apply]
  split <;> exact hs

theorem preserves_answerReceipt_db (c : Int) (headers : Headers) :
    Method.Preserves (fun s => Q s.db) (answerReceipt c headers) := by
  intro s hs
  rwa [answerReceipt_db]

theorem preserves_parseInt_db (text : Text) :
    Method.Preserves (fun s : Server => Q s.db) (parseInt text) := by
  unfold parseInt
  split
  · exact Method.preserves_throw _
  · exact Method.preserves_pure _

theorem preserves_onCManager_db {α : Type} (m : Method JavaException ConnectionsManager α) :
    Method.Preserves (fun s => Q s.db) (onCManager m) := fun _ hs => hs

/-- Apart from logins and logouts only uploads change the database. -/
theorem preserves_command_db (hUpload : ∀ db username filename gameChannel, Q db →
      Q (db.called (Database.trackFileUploadSql username filename gameChannel)))
    {command : Text} (hConnect : command ≠ "CONNECT".toList)
    (hDisconnect : command ≠ "DISCONNECT".toList) (c : Int) (headers : Headers) (body : Text) :
    Method.Preserves (fun s => Q s.db) (dispatch c command headers body) := by
  have hSend : Method.Preserves (fun s => Q s.db) (solveSend c headers body) := by
    unfold solveSend
    split
    · exact Method.preserves_throw _
    · rename_i channel _
      intro s hs
      simp only [Method.bind_apply, Method.get_apply, Method.ite_apply, Method.throw_apply]
      split
      · exact hs
      · cases headers "file-name".toList with
        | none => exact hs
        | some fileName =>
            have hAfter := hUpload s.db (s.protocols c).userName.chars fileName channel hs
            simp only [Method.bind_apply, onDb, Method.zoom_apply, Database.trackFileUpload,
              Database.executeSQL_apply]
            cases s.db.sqlService 0 <;> exact hAfter
  have hSubscribe : Method.Preserves (fun s => Q s.db) (solveSubscribe c headers) := by
    unfold solveSubscribe
    split
    · exact Method.preserves_throw _
    · exact Method.preserves_throw _
    · exact Method.preserves_bind (preserves_parseInt_db _) fun _ => preserves_onCManager_db _
  have hUnsubscribe : Method.Preserves (fun s => Q s.db) (solveUnsubscribe c headers) := by
    unfold solveUnsubscribe
    split
    · exact Method.preserves_throw _
    · exact Method.preserves_bind (preserves_parseInt_db _) fun _ => preserves_onCManager_db _
  have hChecked : ∀ m : Method JavaException Server Unit, Method.Preserves (fun s => Q s.db) m →
      Method.Preserves (fun s => Q s.db) (do conCheck c; m; answerReceipt c headers) :=
    fun m hm => Method.preserves_bind (preserves_conCheck_db c) fun _ =>
      Method.preserves_bind hm fun _ => preserves_answerReceipt_db c headers
  unfold dispatch
  rw [if_neg hConnect, if_neg hDisconnect]
  refine Method.preserves_ite (fun _ => hChecked _ hSend) fun _ => ?_
  refine Method.preserves_ite (fun _ => hChecked _ hSubscribe) fun _ => ?_
  exact Method.preserves_ite (fun _ => hChecked _ hUnsubscribe)
    fun _ => Method.preserves_throw _

end

/-- A `CONNECT` that is refused leaves the database alone while the service works. -/
theorem solveConnect_refused {c : Int} {headers : Headers} {s t : Server} {e : JavaException}
    (hSql : s.SqlWorks) (h : solveConnect c headers s = (.error e, t)) : t.db = s.db := by
  obtain ⟨-, rfl⟩ | ⟨user, pass, hUser, hPass, rfl⟩ := solveConnect_error h
  · rfl
  rcases hLogin : Database.login c user pass s.db with ⟨e' | status, db⟩
  · obtain ⟨-, ⟨-, -, -, -, -, hFirst | hSecond⟩ | ⟨ref, -, -, -, hFirst, -⟩⟩ :=
      Database.login_throw hLogin
    · simp [hSql 0] at hFirst
    · simp [hSql 1] at hSecond
    · simp [hSql 0] at hFirst
  · cases status with
    | alreadyLoggedIn | clientAlreadyConnected | wrongPassword =>
        exact Database.login_rejected hLogin (by simp)
    | addedNewUser | loggedInSuccessfully =>
        simp only [solveConnect, hUser, hPass, Method.bind_apply, onDb, Method.zoom_apply, hLogin,
          Method.ite_apply, Method.throw_apply, Method.modify_apply, send_apply] at h
        simp at h

/-- The tables are up to date, and every later statement will be executed. -/
structure Audited (s : Server) (logins : Text → Nat) : Prop where
  indexed : s.Indexed
  works : s.Works
  executing : s.db.Executing
  mirrored : s.db.Mirrored logins

/-- A teardown counts no login, and closes the row that is open. -/
theorem handleDisconnect_audited {c : Int} {s : Server} {logins : Text → Nat}
    (h : s.Audited logins) (hAccepted : s.accepted c = true) :
    (handleDisconnect c s).2.Audited logins := by
  have hDb : (handleDisconnect c s).2.db.Executing ∧
      (handleDisconnect c s).2.db.Mirrored logins := by
    obtain ⟨-, hDb, -⟩ | ⟨user, -, -, hFails, -⟩ | ⟨user, -, hBound, -, hDb, -⟩ :=
      handleDisconnect_cases h.indexed c
    · rw [hDb]
      exact ⟨h.executing, h.mirrored⟩
    · simp [h.works.sqlWorks 0] at hFails
    · rw [hDb]
      exact ⟨fun n => h.executing (n + 1),
        h.mirrored.closed h.executing h.works.sessions.database hBound⟩
  exact ⟨handleDisconnect_indexed h.indexed c, handleDisconnect_works h.works h.indexed hAccepted,
    hDb.1, hDb.2⟩

theorem Closing.audited {c : Int} {s t : Server} {logins : Text → Nat} (h : s.Audited logins)
    (hAccepted : s.accepted c = true) (closing : Closing c s t) :
    t.Audited logins ∧ t.accepted c = true := by
  cases closing with
  | send reply =>
      have hWorks := (Effect.send reply : Effect c s _).works h.works h.indexed hAccepted
      exact ⟨⟨h.indexed.sent c _, hWorks, h.executing, h.mirrored⟩, hAccepted⟩
  | disconnect =>
      exact ⟨handleDisconnect_audited h hAccepted,
        (congrFun (handleDisconnect_othersKept h.indexed c).accepted c).trans hAccepted⟩

/-- The same of all that comes at the end of a frame. -/
theorem closing_audited {c : Int} {s t : Server} {logins : Text → Nat} (h : s.Audited logins)
    (hAccepted : s.accepted c = true) (hClosing : ReflTransGen (Closing c) s t) :
    t.Audited logins := by
  have hBoth : t.Audited logins ∧ t.accepted c = true := by
    induction hClosing with
    | refl => exact ⟨h, hAccepted⟩
    | tail _ closing ih => exact closing.audited ih.1 ih.2
  exact hBoth.1

/-- The user whose `CONNECT` this is, if the server accepts it. -/
def connectedAs (s : Server) : Event → Option Text
  | .process c message => (s.acceptedLogin c message).map Prod.fst
  | _ => none

/-- A frame that counts as a login is a `CONNECT` whose `solveConnect` returns. -/
theorem connectedAs_cases {s : Server} {c : Int} {message name : Text}
    (h : s.connectedAs (.process c message) = some name) : ∃ headers body,
      parseFrame message = (headers, .ok ("CONNECT".toList, body)) ∧
      (solveConnect c headers s).1 = .ok () := by
  obtain ⟨⟨user, pass⟩, hAccepted, -⟩ := Option.map_eq_some_iff.1 h
  obtain ⟨headers, body, _, _, hParse, -, -, hConnect⟩ := acceptedLogin_cases hAccepted
  exact ⟨headers, body, hParse, by rw [hConnect]⟩

/-- The work of a frame adds a row for the user it logs in, and none otherwise. -/
theorem dispatch_mirrored {c : Int} {s : Server} {logins : Text → Nat} (h : s.Audited logins)
    {message command body : Text} {headers : Headers}
    (hParse : parseFrame message = (headers, .ok (command, body)))
    (hCommand : command ≠ "DISCONNECT".toList) :
    (dispatch c command headers body s).2.db.Executing ∧
      (dispatch c command headers body s).2.db.Mirrored fun name => logins name +
        if s.connectedAs (.process c message) = some name then 1 else 0 := by
  have hSame : s.connectedAs (.process c message) = none → s.db.Mirrored fun name =>
      logins name + if s.connectedAs (.process c message) = some name then 1 else 0 := by
    intro hNone
    simpa [hNone] using h.mirrored
  by_cases hConnect : command = "CONNECT".toList
  · have hDb : (dispatch c command headers body s).2.db = (solveConnect c headers s).2.db := by
      simp only [dispatch, if_pos hConnect, Method.bind_apply]
      rcases solveConnect c headers s with ⟨e | _, t⟩
      · rfl
      · exact answerReceipt_db c headers t
    rw [hDb]
    rcases hRun : solveConnect c headers s with ⟨e | _, t⟩
    · have hNone : s.connectedAs (.process c message) = none := by
        by_contra hSome
        obtain ⟨name, hName⟩ := Option.ne_none_iff_exists'.1 hSome
        obtain ⟨headers', body', hParse', hOk⟩ := connectedAs_cases hName
        obtain rfl : headers = headers' := congrArg Prod.fst (hParse.symm.trans hParse')
        simp [hRun] at hOk
      rw [solveConnect_refused h.works.sqlWorks hRun]
      exact ⟨h.executing, hSame hNone⟩
    · have hOk : (solveConnect c headers s).1 = .ok () := by rw [hRun]
      obtain ⟨user, pass, hUser, hPass⟩ := solveConnect_headers hOk
      obtain ⟨status, db, hLogin, success, hAfter⟩ := solveConnect_ok hUser hPass hOk
      have hSome : s.connectedAs (.process c message) = some user := by
        rw [connectedAs, acceptedLogin, hParse]
        dsimp only
        rw [if_pos hConnect, hUser, hPass, hOk]
        rfl
      obtain ⟨hMirrored, hExecuting⟩ :=
        h.mirrored.login_success h.executing h.works.sessions.database hLogin success
      obtain rfl : t = _ := congrArg Prod.snd (hRun.symm.trans hAfter)
      simp only [hSome, Option.some.injEq]
      exact ⟨hExecuting, hMirrored⟩
  · have hNone : s.connectedAs (.process c message) = none := by
      by_contra hSome
      obtain ⟨name, hName⟩ := Option.ne_none_iff_exists'.1 hSome
      obtain ⟨headers', body', hParse', -⟩ := connectedAs_cases hName
      have hSameCommand := congrArg Prod.snd (hParse.symm.trans hParse')
      exact hConnect (congrArg Prod.fst (Except.ok.inj hSameCommand))
    exact preserves_command_db (Q := fun db => db.Executing ∧ db.Mirrored _)
      (fun db username filename gameChannel hQ => ⟨hQ.1.called _, hQ.2.upload hQ.1 _ _ _⟩)
      hConnect hCommand c headers body s ⟨h.executing, hSame hNone⟩

/-- A frame adds one to the logins of at most one name. -/
theorem process_audited {c : Int} {s : Server} {logins : Text → Nat} (h : s.Audited logins)
    (hAccepted : s.accepted c = true) (message : Text) :
    (process c message s).2.Audited fun name => logins name +
      if s.connectedAs (.process c message) = some name then 1 else 0 := by
  obtain ⟨mid, ⟨hTouched, hExecuting, hMirrored⟩, hClosing⟩ : ∃ mid, (Touched c s mid ∧
      mid.db.Executing ∧ mid.db.Mirrored fun name => logins name +
        if s.connectedAs (.process c message) = some name then 1 else 0) ∧
      ReflTransGen (Closing c) mid (process c message s).2 := by
    have hSelf : Touched c s s := ⟨h.indexed, .refl⟩
    apply process_work
    · intro headers command body hParse hCommand
      exact ⟨preserves_command hCommand headers body s hSelf,
        dispatch_mirrored h hParse hCommand⟩
    · intro hOther
      have hNone : s.connectedAs (.process c message) = none := by
        by_contra hSome
        obtain ⟨name, hName⟩ := Option.ne_none_iff_exists'.1 hSome
        obtain ⟨headers, body, hParse, -⟩ := connectedAs_cases hName
        exact hOther headers body hParse
      have hSame : s.db.Mirrored fun name => logins name +
          if s.connectedAs (.process c message) = some name then 1 else 0 := by
        simpa [hNone] using h.mirrored
      refine ⟨⟨hSelf, h.executing, hSame⟩, fun headers => ?_⟩
      rw [answerReceipt_db]
      exact ⟨preserves_answerReceipt headers s hSelf, h.executing, hSame⟩
  obtain ⟨hIndexed, hWorks, hStill⟩ := hTouched.left.works h.indexed h.works hAccepted
  exact closing_audited ⟨hIndexed, hWorks, hExecuting, hMirrored⟩ hStill hClosing

/-- Each event keeps it, with the logins counted on. -/
theorem step_audited {s t : Server} {logins : Text → Nat} (h : s.Audited logins) {event : Event}
    (hStep : s.step event = some t) : t.Audited fun name => logins name +
      if s.connectedAs event = some name then 1 else 0 := by
  obtain ⟨c, rfl, hFresh, rfl⟩ | ⟨c, message, rfl, hAccepted, rfl⟩ | ⟨c, rfl, hAccepted, rfl⟩ :=
    step_cases hStep
  · exact ⟨h.indexed, accept_works h.works hFresh, h.executing, h.mirrored⟩
  · exact process_audited h hAccepted message
  · exact handleDisconnect_audited h hAccepted

/-- How often the server has accepted a `CONNECT` of this user in a run. -/
def successfulConnects (username : Text) : Server → List Event → Nat
  | _, [] => 0
  | s, event :: rest => (if s.connectedAs event = some username then 1 else 0) +
      match s.step event with
      | none => 0
      | some t => successfulConnects username t rest

/-- The run lemma: the logins of a run are counted from its start. -/
theorem run_audited {s t : Server} {events : List Event} {logins : Text → Nat}
    (h : s.Audited logins) (hRun : Transition.run step s events = some t) :
    t.Audited fun name => logins name + successfulConnects name s events := by
  induction events generalizing s logins with
  | nil =>
      cases hRun
      exact h
  | cons event rest ih =>
      obtain ⟨mid, hStep, hRest⟩ := Transition.run_cons_eq_some.1 hRun
      have hEnd := ih (step_audited h hStep) hRest
      simpa only [successfulConnects, hStep, Nat.add_assoc] using hEnd

/-- Each user has one open row while logged in and none otherwise, and one row for
each `CONNECT` that was accepted, at whatever times the statements are executed. -/
theorem login_history_mirrors_sessions {start s : Server} (hStart : start.Started)
    (hExecuting : start.db.Executing) {events : List Event}
    (hRun : Transition.run step start events = some s) (clock : Nat → Nat) :
    ∃ tables, s.db.tablesAt clock = some tables ∧
      ∀ username, openRowsOf username tables.login_history =
          (if s.db.isLoggedIn username then 1 else 0) ∧
        rowsOf username tables.login_history = successfulConnects username start events := by
  have hFirst : start.Audited fun _ => 0 := by
    obtain ⟨emptyInterned, sqlService, rfl⟩ := hStart
    have hWorks : SqlWorks (.new emptyInterned sqlService) := fun n => by
      rw [show (Server.new emptyInterned sqlService).db.sqlService n = _ from hExecuting n]
      rfl
    refine ⟨indexed_new emptyInterned sqlService, ?_, hExecuting, ?_⟩
    · exact ⟨started_sessions ⟨emptyInterned, sqlService, rfl⟩, hWorks, nofun⟩
    · exact fun _ => ⟨.empty, rfl, fun _ => rfl, fun _ => ⟨rfl, rfl⟩⟩
  obtain ⟨tables, hTables, -, hRows⟩ := (run_audited hFirst hRun).mirrored clock
  exact ⟨tables, hTables, fun username =>
    ⟨(hRows username).2, (hRows username).1.trans (Nat.zero_add _)⟩⟩

/-- A server that sends its statements to a service that executes them all. -/
def executingServer : Server := .new true fun _ => .reply "SUCCESS".toList

/-- Meni registers, logs out and comes back on another connection, and dana registers. -/
def visits : List Event :=
  [.accept 1, .process 1 (connectFrame "meni" "films"), .process 1 "DISCONNECT\n\n".toList,
    .accept 2, .process 2 (connectFrame "dana" "sushi"), .accept 3,
    .process 3 (connectFrame "meni" "films")]

/-- The server after the visits. -/
def visited : Server := (Transition.run step executingServer visits).getD executingServer

/-- Two users come and go, and one of them comes twice. -/
theorem login_history_visits :
    ∃ tables, visited.db.tablesAt (fun n => n / 2) = some tables ∧
      ∀ username, openRowsOf username tables.login_history =
          (if visited.db.isLoggedIn username then 1 else 0) ∧
        rowsOf username tables.login_history =
          successfulConnects username executingServer visits :=
  login_history_mirrors_sessions ⟨true, _, rfl⟩ (fun _ => rfl)
    (by rfl : Transition.run step executingServer visits = some visited) fun n => n / 2

end Server
end StompGames
