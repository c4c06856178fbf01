import StompGames.Lib.Threads
import StompGames.Server.Accounts

/-! Logins and teardowns of connections as several threads run them. The critical
sections of `Database.login` are single steps, and so is each statement of
`Database.logout`. The frames of a connection are handled by one thread of the pool
at a time, and its channel is closed by the selector thread. -/
namespace StompGames

open Imperative

/-- The two threads that can be at work for one connection: that of the pool with its frames, and
that of the selector at the end of its stream. -/
inductive Role where
  | pool | selector
  deriving DecidableEq

/-- `userName` is that of the protocol object of each connection. -/
structure SessionShared where
  db : Database
  userName : Int → Text

/-- What a thread does next for its connection. -/
inductive SessionPlace where
  | idle
  -- `solveConnect` and `Database.login`
  | containsConnection (username password : Text)
  | addNewUser (username password : Text)
  | insertUser (username password : Text)
  | insertLogin (username : Text)
  | removeConnection (username : Text)
  | removeUser (username : Text)
  | getUser (username password : Text)
  | userExists (user : UserRef) (username password : Text)
  | logLogin (username : Text)
  | setUserName (username : Text)
  -- `handleDisconnect` and `Database.logout`
  | isLoggedIn
  | getSession
  | updateHistory (user : UserRef)
  | logoutUser (user : UserRef)
  | removeSession
  | clearUserName
  deriving DecidableEq

/-- What a thread takes up when it is idle. -/
inductive Task where
  | login (username password : Text)
  | handleDisconnect
  | next

namespace SessionPlace

/-- The monitor of a user: `userExistsCase` after the user has been fetched. -/
def userExistsSection (connectionId : Int) (user : UserRef) (password : Text) (db : Database) :
    Database × LoginStatus :=
  if (db.users user).isLoggedIn then (db, .alreadyLoggedIn)
  else if (db.users user).password ≠ password then (db, .wrongPassword)
  else
    let db := (db.onUser user User.login).onUser user (User.setConnectionId connectionId)
    ({ db with connectionsIdMap := Function.update db.connectionsIdMap connectionId (some user) },
      .loggedInSuccessfully)

/-- An SQL call, and where it leads when it returns or throws. -/
def callSQL (sql : Text) (s : SessionShared) (returns throws : SessionPlace) :
    SessionShared × SessionPlace :=
  match Database.executeSQL sql s.db with
  | (.ok _, db) => ({ s with db := db }, returns)
  | (.error _, db) => ({ s with db := db }, throws)

/-- A thread that is idle again has returned or thrown. Only a thread of the pool
handles a `CONNECT`. -/
def act (thread : Int × Role) (task : Task) (s : SessionShared) :
    SessionPlace → Option (SessionShared × SessionPlace)
  | idle =>
      match task with
      | .login username password =>
          if thread.2 = .pool then some (s, containsConnection username password) else none
      | .handleDisconnect => some (s, isLoggedIn)
      | .next => none
  | containsConnection username password =>
      some (s, if (s.db.connectionsIdMap thread.1).isSome then idle
        else addNewUser username password)
  | addNewUser username password =>
      match Database.addNewUserCase thread.1 username password s.db with
      | (.ok true, db) => some ({ s with db := db }, insertUser username password)
      | (.ok false, db) => some ({ s with db := db }, getUser username password)
      | (.error _, db) => some ({ s with db := db }, idle)
  | insertUser username password =>
      some (callSQL (Database.insertUserSql username password) s (insertLogin username)
        (removeConnection username))
  | insertLogin username =>
      some (callSQL (Database.logLoginSql username) s (setUserName username)
        (removeConnection username))
  | removeConnection username =>
      some ({ s with db := { s.db with
        connectionsIdMap := Function.update s.db.connectionsIdMap thread.1 none } },
        removeUser username)
  | removeUser username =>
      some ({ s with db := { s.db with
        userMap := Function.update s.db.userMap username none } }, idle)
  | getUser username password =>
      some (s, match s.db.userMap username with
        | none => idle
        | some user => userExists user username password)
  | userExists user username password =>
      match userExistsSection thread.1 user password s.db with
      | (db, .loggedInSuccessfully) => some ({ s with db := db }, logLogin username)
      | (db, _) => some ({ s with db := db }, idle)
  | logLogin username =>
      some (callSQL (Database.logLoginSql username) s (setUserName username) idle)
  | setUserName username =>
      some ({ s with userName := Function.update s.userName thread.1 username }, idle)
  | isLoggedIn =>
      some (s, if s.db.isLoggedIn (s.userName thread.1) then getSession else clearUserName)
  | getSession =>
      some (s, match s.db.connectionsIdMap thread.1 with
        | none => clearUserName
        | some user => updateHistory user)
  | updateHistory user =>
      some (callSQL (Database.logoutSql (s.db.users user).name) s (logoutUser user) idle)
  | logoutUser user => some ({ s with db := s.db.onUser user User.logout }, removeSession)
  | removeSession =>
      some ({ s with db := { s.db with
        connectionsIdMap := Function.update s.db.connectionsIdMap thread.1 none } }, clearUserName)
  | clearUserName => some ({ s with userName := Function.update s.userName thread.1 [] }, idle)

/-- The thread is in `handleDisconnect`. -/
def inLogout : SessionPlace → Bool
  | isLoggedIn | getSession | updateHistory _ | logoutUser _ | removeSession | clearUserName => true
  | _ => false

/-- The thread has read this user from `connectionsIdMap` and will log it out. -/
def pending : SessionPlace → Option UserRef
  | updateHistory user | logoutUser user => some user
  | _ => none

end SessionPlace

/-- All connections, each with the threads that work for it. -/
abbrev SessionThreads : Type := Threads.State (Int × Role) SessionShared SessionPlace

namespace SessionThreads

/-- A step of one thread on the shared state, with the task that it begins where it is idle. -/
def step : SessionThreads → (Int × Role) × Task → Option SessionThreads :=
  Threads.step fun thread task s place => place.act thread task s

/-- No thread is in a teardown of the connection. -/
def Live (s : SessionThreads) (c : Int) : Prop := ∀ role, (s.place (c, role)).inLogout = false

/-- The stores are empty, and nobody does anything. -/
def Initial (s : SessionThreads) : Prop :=
  ∃ sqlService userName, s = ⟨⟨.new sqlService, userName⟩, fun _ => .idle⟩

end SessionThreads
end StompGames
