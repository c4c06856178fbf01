import StompGames.Java.Strings
import StompGames.Lib.Method
import StompGames.Lib.PartialMap

/-! `Database.java` and `User.java`. Both maps hold references to shared `User`
objects, so a `User` changed through one map is changed for the other. -/
namespace StompGames

open Imperative

/-- What the server's code throws, by the class of the exception. A `null` that is dereferenced
is one of them, the exceptions of sockets are those that `executeSQL` turns into its own. -/
inductive JavaException where
  | illegalArgument (message : Text)
  | illegalState (message : Text)
  | runtime (message : Text)
  | numberFormat (input : Text)
  | nullPointer
  deriving DecidableEq

/-- `getMessage()`, as string concatenation shows it. -/
def JavaException.getMessage : JavaException → Text
  | .illegalArgument message => message
  | .illegalState message => message
  | .runtime message => message
  | .numberFormat input => "For input string: \"".toList ++ input ++ "\"".toList
  | .nullPointer => "null".toList

/-- `user` and `password` never change, the other two fields are mutable. -/
structure User where
  name : Text
  password : Text
  connectionId : Int
  isLoggedIn : Bool
  deriving DecidableEq

/-- `login()` of a `User`. Nothing but the flag changes, the connection it was last logged in
over stays until `setConnectionId` is called. -/
def User.login (user : User) : User := { user with isLoggedIn := true }

/-- `logout()` of a `User`. The connection id stays as it is, as nothing reads it of a user that
is not logged in. -/
def User.logout (user : User) : User := { user with isLoggedIn := false }

/-- `setConnectionId` of a `User`, whom a known user's next login ties to another connection. -/
def User.setConnectionId (connectionId : Int) (user : User) : User :=
  { user with connectionId := connectionId }

/-- What `login` returns. Only `addedNewUser` and `loggedInSuccessfully` open a session, the
other three become the exceptions of `solveConnect`. -/
inductive LoginStatus where
  | clientAlreadyConnected | addedNewUser | alreadyLoggedIn | loggedInSuccessfully | wrongPassword
  deriving DecidableEq

/-- How one round trip to the SQL service ends: with some reply text, which may
report an error, or with an exception of the socket. -/
inductive SqlOutcome where
  | reply (response : Text)
  | failure (message : Text)
  deriving DecidableEq

/-- The round trip itself went well. A reply that reports an error counts here, since
`executeSQL` hands every reply on and no caller looks at it. -/
def SqlOutcome.succeeds : SqlOutcome → Bool
  | .reply _ => true
  | .failure _ => false

/-- The identity of a `User` object. -/
abbrev UserRef := Nat

/-- The state of the one `Database` object: the `User` objects that were allocated, the two maps
that refer to them, and the SQL service. `sqlService n` is how the `n`-th call from now on will
end, and `sqlLog` lists the statements sent so far with how each call ended. -/
structure Database where
  users : UserRef → User
  allocated : Nat
  userMap : Text → Option UserRef
  connectionsIdMap : Int → Option UserRef
  sqlService : Nat → SqlOutcome
  sqlLog : List (Text × SqlOutcome)

/-- `putIfAbsent` of a concurrent map: the entry that is there wins, and the value that was to be
put is dropped without a word. -/
def putIfAbsent {K V : Type} [DecidableEq K] (map : K → Option V) (key : K) (value : V) :
    K → Option V :=
  match map key with
  | none => Function.update map key (some value)
  | some _ => map

/-- An entry of the map after `putIfAbsent` is the one that was put, or was there before. -/
theorem eq_some_of_putIfAbsent {K V : Type} [DecidableEq K] {map : K → Option V} {k key : K}
    {v value : V} (h : putIfAbsent map k v key = some value) :
    (key = k ∧ value = v) ∨ map key = some value := by
  unfold putIfAbsent at h
  cases hMap : map k with
  | none =>
      rw [hMap] at h
      exact (PartialMap.put_eq_some.1 h).imp_right And.right
  | some old =>
      rw [hMap] at h
      exact Or.inr h

namespace Database

/-- The database of a server that just started: no users, and an SQL service of which nothing is
known but how each call to it will end. -/
def new (sqlService : Nat → SqlOutcome) : Database :=
  ⟨fun _ => ⟨[], [], 0, false⟩, 0, fun _ => none, fun _ => none, sqlService, []⟩

/-- The call of one statement is recorded and uses up one outcome. What the service does with the
statement is not seen from here, the reply is all there is of it. -/
def called (sql : Text) (db : Database) : Database :=
  { db with
    sqlService := fun n => db.sqlService (n + 1)
    sqlLog := db.sqlLog ++ [(sql, db.sqlService 0)] }

/-- `executeSQL(sql)`: one round trip to the service. The exceptions of the socket leave it as a
`RuntimeException` whose text starts with `ERROR:`. -/
def executeSQL (sql : Text) : Method JavaException Database Text := do
  let db ← get
  modify (called sql)
  match db.sqlService 0 with
  | .reply response => pure response
  | .failure message => throw (.runtime ("ERROR:".toList ++ message))

/-- `str.replace("'", "''")`, which makes a text fit for a literal between single quotes. -/
def escapeSql (str : Text) : Text :=
  str.flatMap fun c => if c = '\x27' then ['\x27', '\x27'] else [c]

/-- A change of one `User` object, seen by everyone who has a reference to it. -/
def onUser (user : UserRef) (change : User → User) (db : Database) : Database :=
  { db with users := Function.update db.users user (change (db.users user)) }

/-- `new User(connectionId, name, password)`: the next free reference, and a user who is not
logged in yet. -/
def newUser (connectionId : Int) (name password : Text) : Method JavaException Database UserRef :=
  do
  let db ← get
  modify fun db =>
    { db with
      users := Function.update db.users db.allocated ⟨name, password, connectionId, false⟩
      allocated := db.allocated + 1 }
  pure db.allocated

/-- `addUser(user)`: two calls of `putIfAbsent`, the map of the names first and that of the
connections after it. Neither looks at whether the other put anything. -/
def addUser (user : UserRef) : Method JavaException Database Unit := do
  modify fun db => { db with userMap := putIfAbsent db.userMap (db.users user).name user }
  modify fun db =>
    { db with
      connectionsIdMap := putIfAbsent db.connectionsIdMap (db.users user).connectionId user }

/-- `isLoggedIn(username)`, which asks for the flag of the user with this name and not for the
connection that the user is logged in over. -/
def isLoggedIn (db : Database) (username : Text) : Bool :=
  match db.userMap username with
  | none => false
  | some user => (db.users user).isLoggedIn

/-- The statement that `login` sends for a new user. The password is stored as it was sent. -/
def insertUserSql (username password : Text) : Text :=
  "INSERT INTO users (username, password, registration_date) VALUES ('".toList ++
    escapeSql username ++ "', '".toList ++ escapeSql password ++ "', datetime('now'))".toList

/-- The statement of `logLogin`, a row of `login_history` whose `logout_time` is not set. -/
def logLoginSql (username : Text) : Text :=
  "INSERT INTO login_history (username, login_time) VALUES ('".toList ++ escapeSql username ++
    "', datetime('now'))".toList

/-- The statement that `logout` sends. It is meant for the latest row of the user that is still
open, and for that row alone. -/
def logoutSql (username : Text) : Text :=
  "UPDATE login_history SET logout_time=datetime('now') WHERE username='".toList ++
    escapeSql username ++
    "' AND logout_time IS NULL ORDER BY login_time DESC LIMIT 1".toList

/-- The statement of `trackFileUpload`. The name of the file and the channel are what the headers
of the `SEND` say, and are looked at by nobody. -/
def trackFileUploadSql (username filename gameChannel : Text) : Text :=
  "INSERT INTO file_tracking (username, filename, upload_time, game_channel) VALUES ('".toList ++
    escapeSql username ++ "', '".toList ++ escapeSql filename ++ "', datetime('now'), '".toList ++
    escapeSql gameChannel ++ "')".toList

/-- `logLogin(username)`. Its exception is not caught here: in the case of a new user the
insertions are undone by `login`, in the case of a known user they are not. -/
def logLogin (username : Text) : Method JavaException Database Unit := do
  let _ ← executeSQL (logLoginSql username)
  pure ()

/-- `userExistsCase`: a user who is logged in keeps the session, a wrong password is refused, and
otherwise the user is moved to the new connection. Without other threads the user found by the
caller is still there, a missing one is the `NullPointerException` of `synchronized`. -/
def userExistsCase (connectionId : Int) (username password : Text) :
    Method JavaException Database LoginStatus := do
  let db ← get
  match db.userMap username with
  | none => throw .nullPointer
  | some user =>
      if (db.users user).isLoggedIn then pure .alreadyLoggedIn
      else if (db.users user).password ≠ password then pure .wrongPassword
      else do
        modify (onUser user User.login)
        modify (onUser user (User.setConnectionId connectionId))
        modify fun db =>
          { db with
            connectionsIdMap := Function.update db.connectionsIdMap connectionId (some user) }
        pure .loggedInSuccessfully

/-- `addNewUserCase`: whether the name was new. The key is looked up before and after taking the
lock, and the user is logged in before anyone else can find it. -/
def addNewUserCase (connectionId : Int) (username password : Text) :
    Method JavaException Database Bool := do
  let db ← get
  if (db.userMap username).isSome then pure false
  else do
    let db ← get
    if (db.userMap username).isSome then pure false
    else do
      let user ← newUser connectionId username password
      modify (onUser user User.login)
      addUser user
      pure true

/-- `login(connectionId, username, password)`: a connection with a session is refused first, a
new name is a new user, and a known name is checked. When the service fails on a new user both
entries are taken back; a known user stays logged in without a row. -/
def login (connectionId : Int) (username password : Text) :
    Method JavaException Database LoginStatus := do
  let db ← get
  if (db.connectionsIdMap connectionId).isSome then pure .clientAlreadyConnected
  else do
    if ← addNewUserCase connectionId username password then do
      tryCatch
        (do
          let _ ← executeSQL (insertUserSql username password)
          logLogin username)
        fun e => do
          modify fun db =>
            { db with connectionsIdMap := Function.update db.connectionsIdMap connectionId none }
          modify fun db => { db with userMap := Function.update db.userMap username none }
          throw e
      pure .addedNewUser
    else do
      let status ← userExistsCase connectionId username password
      if status = .loggedInSuccessfully then logLogin username
      else pure ()
      pure status

/-- `logout(connectionId)`, which does nothing for a connection without an entry. The session is
closed only after the SQL call has returned, so a call that throws leaves it open. -/
def logout (connectionId : Int) : Method JavaException Database Unit := do
  let db ← get
  match db.connectionsIdMap connectionId with
  | none => pure ()
  | some user => do
      let _ ← executeSQL (logoutSql (db.users user).name)
      modify (onUser user User.logout)
      modify fun db =>
        { db with connectionsIdMap := Function.update db.connectionsIdMap connectionId none }

/-- `trackFileUpload(username, filename, gameChannel)`: one statement, and the reply is dropped.
-/
def trackFileUpload (username filename gameChannel : Text) :
    Method JavaException Database Unit := do
  let _ ← executeSQL (trackFileUploadSql username filename gameChannel)
  pure ()

section called
variable (sql : Text) (db : Database)

@[simp] theorem called_users : (db.called sql).users = db.users := rfl

@[simp] theorem called_connectionsIdMap :
    (db.called sql).connectionsIdMap = db.connectionsIdMap := rfl

end called

/-- The exception an SQL call that fails with this message throws. -/
def sqlError (message : Text) : JavaException := .runtime ("ERROR:".toList ++ message)

/-- The two ends of a round trip. Either way the statement has been sent. -/
theorem executeSQL_apply (sql : Text) (db : Database) :
    executeSQL sql db = match db.sqlService 0 with
      | .reply response => (.ok response, db.called sql)
      | .failure message => (.error (sqlError message), db.called sql) := by
  simp only [executeSQL, Method.bind_apply, Method.get_apply, Method.modify_apply]
  cases db.sqlService 0 <;> rfl

/-- The session a new user starts on its connection. -/
def registered (db : Database) (connectionId : Int) (username password : Text) : Database :=
  { db with
    users := Function.update db.users db.allocated ⟨username, password, connectionId, true⟩
    allocated := db.allocated + 1
    userMap := Function.update db.userMap username (some db.allocated)
    connectionsIdMap := Function.update db.connectionsIdMap connectionId (some db.allocated) }

/-- The session a known user starts on its connection. -/
def opened (db : Database) (connectionId : Int) (user : UserRef) : Database :=
  { db with
    users := Function.update db.users user
      { db.users user with isLoggedIn := true, connectionId := connectionId }
    connectionsIdMap := Function.update db.connectionsIdMap connectionId (some user) }

/-- The rollback of a registration. -/
def unregistered (db : Database) (connectionId : Int) (username : Text) : Database :=
  { db with
    connectionsIdMap := Function.update db.connectionsIdMap connectionId none
    userMap := Function.update db.userMap username none }

/-- The session of a user ends on its connection. -/
def closed (db : Database) (connectionId : Int) (user : UserRef) : Database :=
  { db with
    users := Function.update db.users user { db.users user with isLoggedIn := false }
    connectionsIdMap := Function.update db.connectionsIdMap connectionId none }

/-- A known user is left as it is. -/
theorem addNewUserCase_known {db : Database} {username : Text} {user : UserRef}
    (h : db.userMap username = some user) (connectionId : Int) (password : Text) :
    addNewUserCase connectionId username password db = (.ok false, db) := by
  simp [addNewUserCase, h]

/-- A new user on a connection without a session gets both entries. -/
theorem addNewUserCase_unknown {db : Database} {connectionId : Int} {username : Text}
    (hUser : db.userMap username = none) (hConnection : db.connectionsIdMap connectionId = none)
    (password : Text) :
    addNewUserCase connectionId username password db =
      (.ok true, db.registered connectionId username password) := by
  simp [addNewUserCase, hUser, newUser, onUser, addUser, putIfAbsent, hConnection, registered,
    User.login]

/-- The three outcomes for a user whom the map still has. -/
theorem userExistsCase_known {db : Database} {username : Text} {user : UserRef}
    (h : db.userMap username = some user) (connectionId : Int) (password : Text) :
    userExistsCase connectionId username password db =
      if (db.users user).isLoggedIn then (.ok .alreadyLoggedIn, db)
      else if (db.users user).password ≠ password then (.ok .wrongPassword, db)
      else (.ok .loggedInSuccessfully, db.opened connectionId user) := by
  simp only [userExistsCase, Method.bind_apply, Method.get_apply, h]
  split
  · rfl
  · split
    · rfl
    · simp [onUser, opened, User.login, User.setConnectionId]

/-- A connection with a session is refused before the name is looked at. -/
theorem login_connected {db : Database} {connectionId : Int}
    (h : (db.connectionsIdMap connectionId).isSome) (username password : Text) :
    login connectionId username password db = (.ok .clientAlreadyConnected, db) := by
  simp [login, h]

/-- Registration: the two SQL calls decide, and either failure is rolled back. -/
theorem login_unknown {db : Database} {connectionId : Int} {username : Text}
    (hConnection : db.connectionsIdMap connectionId = none) (hUser : db.userMap username = none)
    (password : Text) :
    login connectionId username password db =
      let db₁ := (db.registered connectionId username password).called
        (insertUserSql username password)
      match db.sqlService 0 with
      | .failure message =>
          (.error (sqlError message), db₁.unregistered connectionId username)
      | .reply _ => match db.sqlService 1 with
          | .failure message => (.error (sqlError message),
              (db₁.called (logLoginSql username)).unregistered connectionId username)
          | .reply _ => (.ok .addedNewUser, db₁.called (logLoginSql username)) := by
  have hNew := addNewUserCase_unknown hUser hConnection password
  simp only [login, Method.bind_apply, Method.get_apply, hConnection, Option.isSome_none,
    Bool.false_eq_true, if_false, hNew, if_true, Method.tryCatch_apply, executeSQL_apply, logLogin]
  have hFirst : (db.registered connectionId username password).sqlService 0 = db.sqlService 0 := rfl
  have hSecond : ((db.registered connectionId username password).called
      (insertUserSql username password)).sqlService 0 = db.sqlService 1 := rfl
  rw [hFirst]
  cases db.sqlService 0 with
  | failure message => rfl
  | reply response =>
      simp only [hSecond]
      cases db.sqlService 1 <;> rfl

/-- A known user: only a logged-out user with the right password gets a session,
and the session stays even if the SQL call then fails. -/
theorem login_known {db : Database} {connectionId : Int} {username : Text} {user : UserRef}
    (hConnection : db.connectionsIdMap connectionId = none)
    (hUser : db.userMap username = some user) (password : Text) :
    login connectionId username password db =
      if (db.users user).isLoggedIn then (.ok .alreadyLoggedIn, db)
      else if (db.users user).password ≠ password then (.ok .wrongPassword, db)
      else
        let db₁ := (db.opened connectionId user).called (logLoginSql username)
        match db.sqlService 0 with
        | .failure message => (.error (sqlError message), db₁)
        | .reply _ => (.ok .loggedInSuccessfully, db₁) := by
  have hKnown := addNewUserCase_known hUser connectionId password
  have hExists := userExistsCase_known hUser connectionId password
  simp only [login, Method.bind_apply, Method.get_apply, hConnection, Option.isSome_none,
    Bool.false_eq_true, if_false, hKnown, hExists]
  by_cases hLogged : (db.users user).isLoggedIn = true
  · simp only [hLogged, if_true]
    rfl
  · by_cases hPassword : (db.users user).password = password
    · have hService : (db.opened connectionId user).sqlService 0 = db.sqlService 0 := rfl
      simp only [hLogged, hPassword, ne_eq, not_true_eq_false, Bool.false_eq_true, if_false,
        if_true, logLogin, Method.bind_apply, executeSQL_apply, hService]
      cases db.sqlService 0 <;> rfl
    · simp only [hLogged, hPassword, ne_eq, not_false_eq_true, Bool.false_eq_true, if_false,
        if_true]
      rfl

/-- Without a session there is nothing to close, and no statement is sent. -/
theorem logout_none {db : Database} {connectionId : Int}
    (h : db.connectionsIdMap connectionId = none) : logout connectionId db = (.ok (), db) := by
  simp [logout, h]

/-- The session of the connection, with the two ends of the SQL call. -/
theorem logout_some {db : Database} {connectionId : Int} {user : UserRef}
    (h : db.connectionsIdMap connectionId = some user) :
    logout connectionId db =
      let db₁ := db.called (logoutSql (db.users user).name)
      match db.sqlService 0 with
      | .failure message => (.error (sqlError message), db₁)
      | .reply _ => (.ok (), db₁.closed connectionId user) := by
  simp only [logout, Method.bind_apply, Method.get_apply, h, executeSQL_apply]
  cases db.sqlService 0 <;> rfl

end Database
end StompGames
