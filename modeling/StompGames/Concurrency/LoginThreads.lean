import StompGames.Lib.Threads
import StompGames.Server.Accounts

/-! `Database.login` as several threads run it. Each operation on a map or on a
user, each SQL call, and each entry to or exit from a synchronized block is a step
of its own. -/
namespace StompGames

open Imperative

/-- The monitors of `userMap` and of each user, with the connection whose thread
holds them. -/
structure LoginShared where
  db : Database
  mapLock : Option Int
  userLock : UserRef → Option Int

/-- What a call of `login` does next. -/
inductive LoginPlace where
  | notCalled
  -- `login`
  | containsConnection
  -- `addNewUserCase`
  | containsUser
  | enterMap
  | containsUserAgain
  | newUser
  | loginNew (user : UserRef)
  | putUser (user : UserRef)
  | putConnection (user : UserRef)
  | exitMap (added : Bool)
  -- the SQL calls of a registration, and its rollback
  | insertUser
  | insertLogin
  | removeConnection (e : JavaException)
  | removeUser (e : JavaException)
  -- `userExistsCase`
  | getUser
  | enterUser (user : UserRef)
  | isLoggedIn (user : UserRef)
  | equalsPassword (user : UserRef)
  | loginUser (user : UserRef)
  | setConnectionId (user : UserRef)
  | putSession (user : UserRef)
  | exitUser (user : UserRef) (status : LoginStatus)
  | logLogin (status : LoginStatus)
  | returned (status : LoginStatus)
  | thrown (e : JavaException)

namespace LoginPlace

/-- An SQL call, and where it leads when it returns or throws. -/
def callSQL (sql : Text) (s : LoginShared) (returns : LoginPlace)
    (throws : JavaException → LoginPlace) : LoginShared × LoginPlace :=
  match Database.executeSQL sql s.db with
  | (.ok _, db) => ({ s with db := db }, returns)
  | (.error e, db) => ({ s with db := db }, throws e)

/-- The call `login(connectionId, username, password)`. It waits for a monitor that
is held. -/
def act (username password : Text) (connectionId : Int) (s : LoginShared) :
    LoginPlace → Option (LoginShared × LoginPlace)
  | notCalled => none
  | containsConnection =>
      some (s, if (s.db.connectionsIdMap connectionId).isSome then
        returned .clientAlreadyConnected else containsUser)
  | containsUser => some (s, if (s.db.userMap username).isSome then getUser else enterMap)
  | enterMap =>
      if s.mapLock = none then some ({ s with mapLock := some connectionId }, containsUserAgain)
      else none
  | containsUserAgain =>
      some (s, if (s.db.userMap username).isSome then exitMap false else newUser)
  | newUser =>
      some ({ s with db := { s.db with
        users := Function.update s.db.users s.db.allocated ⟨username, password, connectionId, false⟩
        allocated := s.db.allocated + 1 } }, loginNew s.db.allocated)
  | loginNew user => some ({ s with db := s.db.onUser user User.login }, putUser user)
  | putUser user =>
      some ({ s with db := { s.db with
        userMap := putIfAbsent s.db.userMap (s.db.users user).name user } }, putConnection user)
  | putConnection user =>
      some ({ s with db := { s.db with
        connectionsIdMap := putIfAbsent s.db.connectionsIdMap (s.db.users user).connectionId user } },
        exitMap true)
  | exitMap added => some ({ s with mapLock := none }, if added then insertUser else getUser)
  | insertUser =>
      some (callSQL (Database.insertUserSql username password) s insertLogin removeConnection)
  | insertLogin =>
      some (callSQL (Database.logLoginSql username) s (returned .addedNewUser) removeConnection)
  | removeConnection e =>
      some ({ s with db := { s.db with
        connectionsIdMap := Function.update s.db.connectionsIdMap connectionId none } }, removeUser e)
  | removeUser e =>
      some ({ s with db := { s.db with
        userMap := Function.update s.db.userMap username none } }, thrown e)
  | getUser =>
      some (s, match s.db.userMap username with
        | none => thrown .nullPointer
        | some user => enterUser user)
  | enterUser user =>
      if s.userLock user = none then
        some ({ s with userLock := Function.update s.userLock user (some connectionId) },
          isLoggedIn user)
      else none
  | isLoggedIn user =>
      some (s, if (s.db.users user).isLoggedIn then exitUser user .alreadyLoggedIn
        else equalsPassword user)
  | equalsPassword user =>
      some (s, if (s.db.users user).password ≠ password then exitUser user .wrongPassword
        else loginUser user)
  | loginUser user => some ({ s with db := s.db.onUser user User.login }, setConnectionId user)
  | setConnectionId user =>
      some ({ s with db := s.db.onUser user (User.setConnectionId connectionId) }, putSession user)
  | putSession user =>
      some ({ s with db := { s.db with
        connectionsIdMap := Function.update s.db.connectionsIdMap connectionId (some user) } },
        exitUser user .loggedInSuccessfully)
  | exitUser user status =>
      some ({ s with userLock := Function.update s.userLock user none },
        if status = .loggedInSuccessfully then logLogin status else returned status)
  | logLogin status =>
      some (callSQL (Database.logLoginSql username) s (returned status) thrown)
  | returned _ => none
  | thrown _ => none

end LoginPlace

/-- Calls of `login` with one user name, by threads of different connections. -/
abbrev LoginThreads : Type := Threads.State Int LoginShared LoginPlace

namespace LoginThreads

/-- One step of the thread of a connection. -/
def step (username : Text) (password : Int → Text) :
    LoginThreads → Int × Unit → Option LoginThreads :=
  Threads.step fun connectionId (_ : Unit) s place =>
    place.act username (password connectionId) connectionId s

end LoginThreads
end StompGames
