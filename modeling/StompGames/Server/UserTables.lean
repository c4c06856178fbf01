import StompGames.Server.Accounts
import StompGames.Server.SqlServer
import StompGames.Lib.Transition

/-! The users in memory and the users in the table. Registration changes both, with
calls that can fail in between. -/
namespace StompGames

/-- The same usernames with the same passwords. -/
def Database.Agrees (db : Database) (tables : SqlTables) : Prop :=
  ∀ username, tables.users username =
    (db.userMap username).map fun user => (db.users user).password

namespace Database.Agrees
variable {db db' : Database} {tables tables' : SqlTables}

theorem of_same (h : db.Agrees tables) (hMap : db'.userMap = db.userMap)
    (hPassword : ∀ username user, db.userMap username = some user →
      (db'.users user).password = (db.users user).password)
    (hUsers : tables'.users = tables.users) : db'.Agrees tables' := by
  intro username
  rw [hUsers, hMap, h username]
  cases hUser : db.userMap username with
  | none => rfl
  | some user => exact congrArg some (hPassword username user hUser).symm

/-- A change of an object that leaves its password alone. -/
theorem of_changed (h : db.Agrees tables) {ref : UserRef} {user : User}
    (hMap : db'.userMap = db.userMap) (hUsers : db'.users = Function.update db.users ref user)
    (hPassword : user.password = (db.users ref).password)
    (hTables : tables'.users = tables.users) : db'.Agrees tables' := by
  apply h.of_same hMap _ hTables
  intro _ other _
  rw [hUsers]
  by_cases hOther : other = ref
  · subst hOther
    simpa using hPassword
  · rw [Function.update_of_ne hOther]

/-- An object that no name stands for yet. -/
theorem of_allocated (h : db.Agrees tables) (hSessions : db.Sessions) {user : User}
    (hMap : db'.userMap = db.userMap)
    (hUsers : db'.users = Function.update db.users db.allocated user)
    (hTables : tables'.users = tables.users) : db'.Agrees tables' := by
  apply h.of_same hMap _ hTables
  intro username ref hUser
  rw [hUsers, Function.update_of_ne (Nat.ne_of_lt (hSessions.named username ref hUser).2)]

theorem registered (h : db.Agrees tables) (hSessions : db.Sessions) (c : Int)
    (username password : Text)
    (hUsers : tables'.users = Function.update tables.users username (some password)) :
    (db.registered c username password).Agrees tables' := by
  intro other
  rw [hUsers]
  by_cases hOther : other = username
  · subst hOther
    simp [Database.registered]
  · simp only [Database.registered, Function.update_of_ne hOther]
    rw [h other]
    cases hUser : db.userMap other with
    | none => rfl
    | some user =>
        have hOld : user ≠ db.allocated := Nat.ne_of_lt (hSessions.named other user hUser).2
        simp [hOld]

theorem not_of_missing {username : Text} (hUser : db.userMap username = none) {password : Text}
    (hTable : tables.users username = some password) : ¬db.Agrees tables := by
  intro h
  have hSame := h username
  simp [hUser, hTable] at hSame

theorem not_of_extra {username : Text} {user : UserRef} (hUser : db.userMap username = some user)
    (hTable : tables.users username = none) : ¬db.Agrees tables := by
  intro h
  have hSame := h username
  simp [hUser, hTable] at hSame

end Database.Agrees

/-- The calls that change the users and their sessions. -/
inductive DatabaseCall where
  | login (connectionId : Int) (username password : Text)
  | logout (connectionId : Int)

open Imperative in
/-- The method that is called. Its result is dropped, the state and the exception are what
counts. -/
def DatabaseCall.run : DatabaseCall → Method JavaException Database Unit
  | .login connectionId username password => do
      let _ ← Database.login connectionId username password
      pure ()
  | .logout connectionId => Database.logout connectionId

/-- A call, and what becomes of the statements it sends: how the `n`-th of them ends, when
it is served, and whether one that ends without a reply was executed all the same. -/
structure ServedCall where
  call : DatabaseCall
  outcomes : Nat → SqlOutcome
  executions : Nat → SqlTables.Execution

/-- The `n`-th statement is executed. -/
def ServedCall.Executes (served : ServedCall) (n : Nat) : Prop :=
  served.outcomes n = .reply "SUCCESS".toList ∨
    (served.outcomes n).succeeds = false ∧ (served.executions n).executed = true

/-- The server's memory and the tables of the SQL service. -/
structure Stores where
  db : Database
  tables : SqlTables

namespace Stores

/-- Both empty. No call has been made, so no outcome is fixed. -/
def empty : Stores := ⟨.new fun _ => .reply [], .empty⟩

/-- The outcomes have to be possible for the tables there are. -/
def step (s : Stores) (served : ServedCall) : Option Stores :=
  let db := (served.call.run { s.db with sqlService := served.outcomes }).2
  (SqlTables.replay served.executions (db.sqlLog.drop s.db.sqlLog.length) s.tables).map (Stores.mk db)

/-- The maps of the server and the tables of the service tell the same of every user. -/
def Agree (s : Stores) : Prop := s.db.Agrees s.tables

/-- The `INSERT` of a registration is executed if and only if both calls of the
registration end without an exception. -/
def Recorded (s : Stores) (served : ServedCall) : Prop :=
  ∀ c username password, served.call = .login c username password →
    s.db.connectionsIdMap c = none → s.db.userMap username = none →
      (served.Executes 0 ↔
        (served.outcomes 0).succeeds = true ∧ (served.outcomes 1).succeeds = true)

theorem step_eq_some {s t : Stores} {served : ServedCall} (h : s.step served = some t) :
    t.db = (served.call.run { s.db with sqlService := served.outcomes }).2 ∧
      SqlTables.replay served.executions (t.db.sqlLog.drop s.db.sqlLog.length) s.tables =
        some t.tables := by
  obtain ⟨tables, hReplay, rfl⟩ := Option.map_eq_some_iff.1 h
  exact ⟨rfl, hReplay⟩

/-- A statement about `login_history` leaves `users` alone, however it ends. -/
theorem served_users {tables tables' : SqlTables} {sql : Text} {rows : List LoginRow}
    {execution : SqlTables.Execution} (hExecute : tables.execute_sql_command execution.now sql =
      some { tables with login_history := rows }) {outcome : SqlOutcome}
    (h : tables.served execution (sql, outcome) = some tables') : tables'.users = tables.users := by
  cases outcome with
  | reply response =>
      simp only [SqlTables.served, hExecute] at h
      split at h
      · cases h
        rfl
      · split at h
        · cases h
          rfl
        · cases h
  | failure message =>
      simp only [SqlTables.served, hExecute] at h
      split at h <;> cases h <;> rfl

/-- What the `INSERT` of a registration does to `users`. -/
theorem served_insert {tables tables' : SqlTables} {username : Text}
    (hNew : tables.users username = none) (password : Text) {served : ServedCall}
    (h : tables.served (served.executions 0)
      (Database.insertUserSql username password, served.outcomes 0) = some tables') :
    (served.Executes 0 → tables'.users = Function.update tables.users username (some password)) ∧
      (¬served.Executes 0 → tables'.users = tables.users) := by
  unfold ServedCall.Executes
  cases hOutcome : served.outcomes 0 with
  | reply response =>
      simp only [SqlTables.served, hOutcome, SqlTables.execute_insertUserSql _ hNew] at h
      split at h
      · rename_i hSuccess
        cases h
        exact ⟨fun _ => rfl, fun hNot => absurd (Or.inl (by rw [hSuccess])) hNot⟩
      · rename_i hOther
        split at h
        · cases h
          refine ⟨fun hExecutes => ?_, fun _ => rfl⟩
          rcases hExecutes with hSame | ⟨hFails, -⟩
          · exact absurd (SqlOutcome.reply.inj hSame) hOther
          · cases hFails
        · cases h
  | failure message =>
      simp only [SqlTables.served, hOutcome, SqlTables.execute_insertUserSql _ hNew] at h
      split at h
      · rename_i hExecuted
        cases h
        exact ⟨fun _ => rfl, fun hNot => absurd (Or.inr ⟨rfl, hExecuted⟩) hNot⟩
      · rename_i hNot
        cases h
        refine ⟨fun hExecutes => ?_, fun _ => rfl⟩
        simp [hNot] at hExecutes

/-- What a registration does to `users`: its second statement is none of theirs. -/
theorem registration_users {s t : Stores} {served : ServedCall} {c : Int}
    {username password : Text} (hCall : served.call = .login c username password)
    (hConnection : s.db.connectionsIdMap c = none) (hUser : s.db.userMap username = none)
    (hNew : s.tables.users username = none) (h : s.step served = some t) :
    (served.Executes 0 → t.tables.users =
      Function.update s.tables.users username (some password)) ∧
      (¬served.Executes 0 → t.tables.users = s.tables.users) := by
  obtain ⟨hDb, hReplay⟩ := step_eq_some h
  have hFree : ({ s.db with sqlService := served.outcomes } : Database).connectionsIdMap c =
      none := hConnection
  have hLogin := Database.login_unknown hFree hUser password
  simp only [hCall, DatabaseCall.run, Imperative.Method.bind_apply, hLogin] at hDb
  have hLog : ∃ second, t.db.sqlLog = s.db.sqlLog ++
      ((Database.insertUserSql username password, served.outcomes 0) :: second) ∧
      (second = [] ∨ second = [(Database.logLoginSql username, served.outcomes 1)]) := by
    cases hFirst : served.outcomes 0 with
    | failure message =>
        simp only [hFirst] at hDb
        refine ⟨[], ?_, Or.inl rfl⟩
        rw [hDb, ← hFirst]
        rfl
    | reply response =>
        refine ⟨_, ?_, Or.inr rfl⟩
        cases hSecond : served.outcomes 1 <;> simp only [hFirst, hSecond] at hDb <;>
          rw [hDb, ← hFirst, ← hSecond] <;>
          exact List.append_assoc s.db.sqlLog [_] [_]
  obtain ⟨second, hLog, hSecond⟩ := hLog
  rw [hLog, List.drop_left] at hReplay
  obtain ⟨tables, hFirst, hRest⟩ := Option.bind_eq_some_iff.1 hReplay
  have hSame : t.tables.users = tables.users := by
    rcases hSecond with rfl | rfl
    · cases hRest
      rfl
    · obtain ⟨_, hServed, hLast⟩ := Option.bind_eq_some_iff.1 hRest
      cases hLast
      exact served_users (SqlTables.execute_logLoginSql _ tables username) hServed
  rw [hSame]
  exact served_insert hNew password hFirst

/-- What a registration leaves in memory: the user, or nothing where an SQL call threw. -/
theorem registration_memory {s t : Stores} {served : ServedCall} {c : Int}
    {username password : Text} (hCall : served.call = .login c username password)
    (hConnection : s.db.connectionsIdMap c = none) (hUser : s.db.userMap username = none)
    (h : s.step served = some t) :
    ((served.outcomes 0).succeeds = true ∧ (served.outcomes 1).succeeds = true →
      t.db.userMap = (s.db.registered c username password).userMap ∧
        t.db.users = (s.db.registered c username password).users) ∧
    (¬((served.outcomes 0).succeeds = true ∧ (served.outcomes 1).succeeds = true) →
      t.db.userMap = s.db.userMap ∧
        ∃ user, t.db.users = Function.update s.db.users s.db.allocated user) := by
  obtain ⟨hDb, -⟩ := step_eq_some h
  have hFree : ({ s.db with sqlService := served.outcomes } : Database).connectionsIdMap c =
      none := hConnection
  have hLogin := Database.login_unknown hFree hUser password
  simp only [hCall, DatabaseCall.run, Imperative.Method.bind_apply, hLogin] at hDb
  constructor
  · intro hSucceeds
    cases hFirst : served.outcomes 0 <;> cases hSecond : served.outcomes 1 <;>
      simp only [hFirst, hSecond, SqlOutcome.succeeds, Bool.false_eq_true, and_false,
        false_and] at hSucceeds hDb
    rw [hDb]
    exact ⟨rfl, rfl⟩
  · intro hFails
    have hThrown : ∃ e, Database.login c username password
        { s.db with sqlService := served.outcomes } = (.error e, t.db) := by
      rw [hLogin]
      dsimp only
      cases hFirst : served.outcomes 0 <;> cases hSecond : served.outcomes 1 <;>
        simp only [hFirst, hSecond, SqlOutcome.succeeds, and_true, true_and, not_true_eq_false]
          at hFails hDb ⊢ <;> exact ⟨_, by rw [hDb]⟩
    obtain ⟨e, hThrown⟩ := hThrown
    obtain ⟨-, ⟨-, hMap, -, -, hUsers, -⟩ | ⟨ref, hKnown, -⟩⟩ := Database.login_throw hThrown
    · exact ⟨hMap, _, hUsers⟩
    · rw [show s.db.userMap username = some ref from hKnown] at hUser
      cases hUser

/-- A registration keeps the stores in agreement just where it is recorded. -/
theorem registration_agrees_iff {s t : Stores} {served : ServedCall} {c : Int}
    {username password : Text} (hSessions : s.db.Sessions) (hAgree : s.Agree)
    (hCall : served.call = .login c username password)
    (hConnection : s.db.connectionsIdMap c = none) (hUser : s.db.userMap username = none)
    (h : s.step served = some t) : t.Agree ↔ (served.Executes 0 ↔
      (served.outcomes 0).succeeds = true ∧ (served.outcomes 1).succeeds = true) := by
  have hNew : s.tables.users username = none := by rw [hAgree username, hUser]; rfl
  obtain ⟨hInserted, hNotInserted⟩ := registration_users hCall hConnection hUser hNew h
  obtain ⟨hReturned, hThrown⟩ := registration_memory hCall hConnection hUser h
  by_cases hSucceeds : (served.outcomes 0).succeeds = true ∧ (served.outcomes 1).succeeds = true
  · obtain ⟨hMap, hUsers⟩ := hReturned hSucceeds
    constructor
    · refine fun hAfter => ⟨fun _ => hSucceeds, fun _ => ?_⟩
      by_contra hNot
      have hKnown : t.db.userMap username = some s.db.allocated := by
        rw [hMap]
        exact Function.update_self ..
      exact Database.Agrees.not_of_extra hKnown ((hNotInserted hNot).symm ▸ hNew) hAfter
    · intro hExecutes
      have hRegistered := hAgree.registered hSessions c username password
        (hInserted (hExecutes.2 hSucceeds))
      exact hRegistered.of_same hMap (fun _ _ _ => by rw [hUsers]) rfl
  · obtain ⟨hMap, user, hUsers⟩ := hThrown hSucceeds
    constructor
    · refine fun hAfter => ⟨fun hExecutes => ?_, fun hBoth => absurd hBoth hSucceeds⟩
      have hMissing : t.db.userMap username = none := hMap ▸ hUser
      have hTable : t.tables.users username = some password := by
        rw [hInserted hExecutes]
        exact Function.update_self ..
      exact absurd hAfter (Database.Agrees.not_of_missing hMissing hTable)
    · intro hExecutes
      exact hAgree.of_allocated hSessions hMap hUsers
        (hNotInserted fun hBoth => hSucceeds (hExecutes.1 hBoth))

/-- A statement about `login_history`. -/
def AboutHistory (sql : Text) : Prop :=
  ∀ (tables : SqlTables) (now : Nat), ∃ rows, tables.execute_sql_command now sql =
    some { tables with login_history := rows }

/-- No username and no password has changed. At most one statement has been sent, and it
is about `login_history`. -/
structure UsersKept (db db' : Database) : Prop where
  userMap : db'.userMap = db.userMap
  password : ∀ user, (db'.users user).password = (db.users user).password
  log : db'.sqlLog = db.sqlLog ∨ ∃ sql, db'.sqlLog = db.sqlLog ++ [(sql, db.sqlService 0)] ∧
    AboutHistory sql

theorem UsersKept.refl (db : Database) : UsersKept db db := ⟨rfl, fun _ => rfl, Or.inl rfl⟩

/-- The session of a user changes, and the change is logged. -/
theorem UsersKept.changed {db db' : Database} {ref : UserRef} {user : User} {sql : Text}
    (hUserMap : db'.userMap = db.userMap) (hUsers : db'.users = Function.update db.users ref user)
    (hPassword : user.password = (db.users ref).password)
    (hLog : db'.sqlLog = db.sqlLog ++ [(sql, db.sqlService 0)]) (hAbout : AboutHistory sql) :
    UsersKept db db' := by
  refine ⟨hUserMap, fun other => ?_, Or.inr ⟨sql, hLog, hAbout⟩⟩
  rw [hUsers]
  by_cases hSame : other = ref
  · subst hSame
    simpa using hPassword
  · rw [Function.update_of_ne hSame]

/-- What the calls do that register nobody. -/
theorem other_call {db : Database} {call : DatabaseCall}
    (hOther : ∀ c username password, call = .login c username password →
      db.connectionsIdMap c = none → db.userMap username ≠ none) {db' : Database}
    (hDb : db' = (call.run db).2) : UsersKept db db' := by
  cases call with
  | login c username password =>
      have hOpened : ∀ ref, db' = (db.opened c ref).called (Database.logLoginSql username) →
          UsersKept db db' := by
        rintro ref rfl
        exact .changed rfl rfl rfl rfl fun tables now =>
          ⟨_, SqlTables.execute_logLoginSql now tables username⟩
      simp only [DatabaseCall.run, Imperative.Method.bind_apply] at hDb
      rcases hLogin : Database.login c username password db with ⟨e | status, after⟩
      · obtain rfl : db' = after := by simpa [hLogin] using hDb
        obtain ⟨hConnection, ⟨hUser, -⟩ | ⟨ref, -, -, -, -, hAfter⟩⟩ := Database.login_throw hLogin
        · exact absurd hUser (hOther c username password rfl hConnection)
        · exact hOpened ref hAfter
      · obtain rfl : db' = after := by simpa [hLogin] using hDb
        cases status with
        | addedNewUser | loggedInSuccessfully =>
            obtain ⟨hConnection, ⟨hUser, -⟩ | ⟨ref, -, -, -, hAfter⟩⟩ :=
              Database.login_success hLogin (by simp)
            · exact absurd hUser (hOther c username password rfl hConnection)
            · exact hOpened ref hAfter
        | clientAlreadyConnected | alreadyLoggedIn | wrongPassword =>
            rw [Database.login_rejected hLogin (by simp)]
            exact .refl db
  | logout c =>
      simp only [DatabaseCall.run] at hDb
      cases hBound : db.connectionsIdMap c with
      | none =>
          rw [Database.logout_none hBound] at hDb
          rw [hDb]
          exact .refl db
      | some ref =>
          rw [Database.logout_some hBound] at hDb
          have hAbout : AboutHistory (Database.logoutSql (db.users ref).name) :=
            fun tables now => ⟨_, SqlTables.execute_logoutSql now tables _⟩
          cases hOutcome : db.sqlService 0 with
          | reply response =>
              simp only [hOutcome] at hDb
              rw [hDb]
              exact .changed rfl rfl rfl rfl hAbout
          | failure message =>
              simp only [hOutcome] at hDb
              rw [hDb]
              exact ⟨rfl, fun _ => rfl, Or.inr ⟨_, rfl, hAbout⟩⟩

theorem other_agrees {s t : Stores} {served : ServedCall} (hAgree : s.Agree)
    (hOther : ∀ c username password, served.call = .login c username password →
      s.db.connectionsIdMap c = none → s.db.userMap username ≠ none)
    (h : s.step served = some t) : t.Agree := by
  obtain ⟨hDb, hReplay⟩ := step_eq_some h
  have hBefore : ∀ c username password, served.call = .login c username password →
      ({ s.db with sqlService := served.outcomes } : Database).connectionsIdMap c = none →
        s.db.userMap username ≠ none := hOther
  obtain ⟨hMap, hPassword, hLog⟩ := other_call hBefore hDb
  refine hAgree.of_same hMap (fun _ user _ => hPassword user) ?_
  dsimp only at hLog
  rcases hLog with hLog | ⟨sql, hLog, hAbout⟩
  · rw [hLog, List.drop_length] at hReplay
    exact congrArg SqlTables.users (Option.some.inj hReplay).symm
  · rw [hLog, List.drop_left] at hReplay
    obtain ⟨_, hServed, hLast⟩ := Option.bind_eq_some_iff.1 hReplay
    obtain ⟨rows, hExecute⟩ := hAbout s.tables (served.executions 0).now
    cases hLast
    exact served_users hExecute hServed

/-- Whatever a call ends in, the maps stay aligned. -/
theorem step_sessions {s t : Stores} {served : ServedCall} (hSessions : s.db.Sessions)
    (h : s.step served = some t) : t.db.Sessions := by
  obtain ⟨hDb, -⟩ := step_eq_some h
  have hBefore : ({ s.db with sqlService := served.outcomes } : Database).Sessions :=
    ⟨hSessions.named, hSessions.bound, hSessions.opened⟩
  cases hCall : served.call with
  | login c username password =>
      simp only [hCall, DatabaseCall.run, Imperative.Method.bind_apply] at hDb
      rcases hLogin : Database.login c username password
        { s.db with sqlService := served.outcomes } with ⟨e | status, db⟩
      · obtain rfl : t.db = db := by simpa [hLogin] using hDb
        exact hBefore.login_throw hLogin
      · obtain rfl : t.db = db := by simpa [hLogin] using hDb
        cases status with
        | addedNewUser | loggedInSuccessfully => exact hBefore.login_success hLogin (by simp)
        | clientAlreadyConnected | alreadyLoggedIn | wrongPassword =>
            rw [Database.login_rejected hLogin (by simp)]
            exact hBefore
  | logout c =>
      simp only [hCall, DatabaseCall.run] at hDb
      cases hBound : s.db.connectionsIdMap c with
      | none =>
          rw [Database.logout_none (by exact hBound)] at hDb
          rw [hDb]
          exact hBefore
      | some ref =>
          rw [Database.logout_some (by exact hBound)] at hDb
          dsimp only at hDb
          cases hOutcome : served.outcomes 0 <;> simp only [hOutcome] at hDb <;> rw [hDb]
          · exact (hBefore.called _).closed hBound
          · exact hBefore.called _

/-- Throughout a run the users in memory and in the table are the same with the same
passwords if and only if every registration in it is recorded. -/
theorem tables_agree_iff {t : Stores} {calls : List ServedCall}
    (hRun : Transition.run step empty calls = some t) :
    Transition.Always step Agree empty calls ↔ Transition.Along step Recorded empty calls := by
  have hStart : empty.db.Sessions ∧ empty.Agree := ⟨Database.Sessions.new _, fun _ => rfl⟩
  refine Transition.always_iff_along_of_run (I := fun s => s.db.Sessions ∧ s.Agree)
    (fun _ hs => hs.2) ?_ ?_ hRun hStart
  · intro s served s' hs hRecorded hStep
    refine ⟨step_sessions hs.1 hStep, ?_⟩
    by_cases hNew : ∃ c username password, served.call = .login c username password ∧
        s.db.connectionsIdMap c = none ∧ s.db.userMap username = none
    · obtain ⟨c, username, password, hCall, hConnection, hUser⟩ := hNew
      exact (registration_agrees_iff hs.1 hs.2 hCall hConnection hUser hStep).2
        (hRecorded c username password hCall hConnection hUser)
    · apply other_agrees hs.2 _ hStep
      intro c username password hCall hConnection hUser
      exact hNew ⟨c, username, password, hCall, hConnection, hUser⟩
  · intro s served s' hs hNot hStep hAfter
    apply hNot
    intro c username password hCall hConnection hUser
    exact (registration_agrees_iff hs.1 hs.2 hCall hConnection hUser hStep).1 hAfter

/-- A registration whose `INSERT` is answered with an error. -/
def refusedRegistration : ServedCall where
  call := .login 1 "meni".toList "films".toList
  outcomes n := .reply (if n = 0 then
    "ERROR:Couldnot execute command:database is locked".toList else "SUCCESS".toList)
  executions _ := ⟨0, false⟩

theorem refusedRegistration_step : ∃ t, step empty refusedRegistration = some t := by
  have hLog : (refusedRegistration.call.run
      { empty.db with sqlService := refusedRegistration.outcomes }).2.sqlLog =
        [(Database.insertUserSql "meni".toList "films".toList, refusedRegistration.outcomes 0),
          (Database.logLoginSql "meni".toList, refusedRegistration.outcomes 1)] := rfl
  have hFirst : SqlTables.served .empty ⟨0, false⟩
      (Database.insertUserSql "meni".toList "films".toList, refusedRegistration.outcomes 0) =
        some .empty := rfl
  have hSecond : ∀ sql, SqlTables.served .empty ⟨0, false⟩ (sql, refusedRegistration.outcomes 1) =
      SqlTables.empty.execute_sql_command 0 sql := fun _ => rfl
  have hReplay : ∃ tables, SqlTables.replay refusedRegistration.executions
      [(Database.insertUserSql "meni".toList "films".toList, refusedRegistration.outcomes 0),
        (Database.logLoginSql "meni".toList, refusedRegistration.outcomes 1)] .empty =
          some tables :=
    ⟨_, Option.bind_eq_some_iff.2 ⟨_, hFirst, Option.bind_eq_some_iff.2
      ⟨_, (hSecond _).trans (SqlTables.execute_logLoginSql _ _ _), rfl⟩⟩⟩
  obtain ⟨tables, hReplay⟩ := hReplay
  rw [step, hLog]
  exact ⟨_, congrArg (Option.map _) hReplay⟩

/-- A registration whose row was refused by the service without an exception. -/
theorem tables_agree_iff_refused : ∃ t, Transition.run step empty [refusedRegistration] = some t ∧
    (Transition.Always step Agree empty [refusedRegistration] ↔
      Transition.Along step Recorded empty [refusedRegistration]) := by
  obtain ⟨t, hStep⟩ := refusedRegistration_step
  have hRun : Transition.run step empty [refusedRegistration] = some t :=
    Transition.run_cons_eq_some.2 ⟨t, hStep, rfl⟩
  exact ⟨t, hRun, tables_agree_iff hRun⟩

/-- The registration was answered with an error, which nobody looks at: the user is registered in
memory and not in the table. -/
theorem tables_disagree : ¬∀ calls t, Transition.run step empty calls = some t → t.Agree := by
  intro h
  obtain ⟨t, hStep⟩ := refusedRegistration_step
  have hAfter := h [refusedRegistration] t (Transition.run_cons_eq_some.2 ⟨t, hStep, rfl⟩)
  have hExecutes := ((registration_agrees_iff (Database.Sessions.new _) (fun _ => rfl) rfl rfl rfl
    hStep).1 hAfter).2 ⟨rfl, rfl⟩
  rcases hExecutes with hSuccess | ⟨hFails, -⟩
  · exact absurd hSuccess (by decide)
  · cases hFails

end Stores
end StompGames
