import StompGames.Concurrency.LoginThreads

/-! Several connections log in as one user at the same time. The thread that creates
the user, or sets its flag, has won from that statement on, and no other thread
changes a map or a user any more. -/
namespace StompGames

open Threads

/-- The user name is unknown, or known and logged out. The references in the two maps are
those of users that have been created. -/
structure LoggedOut (username : Text) (db : Database) : Prop where
  loggedOut : ∀ user, db.userMap username = some user → (db.users user).isLoggedIn = false
  allocatedUser : ∀ name user, db.userMap name = some user → user < db.allocated
  allocatedSession : ∀ c user, db.connectionsIdMap c = some user → user < db.allocated

namespace LoginPlace

/-- A thread in the block that is synchronized on the map of the users. -/
def holdsMap : LoginPlace → Bool
  | containsUserAgain | newUser | loginNew _ | putUser _ | putConnection _ | exitMap _ => true
  | _ => false

/-- The user whose monitor a thread at this place is in, if it is in one. -/
def holdsUser : LoginPlace → Option UserRef
  | isLoggedIn user | equalsPassword user | loginUser user | setConnectionId user
  | putSession user | exitUser user _ => some user
  | _ => none

/-- The user has been created or its flag has been set. -/
def won : LoginPlace → Bool
  | loginNew _ | putUser _ | putConnection _ | exitMap true | insertUser | insertLogin
  | setConnectionId _ | putSession _ | exitUser _ .loggedInSuccessfully | logLogin _
  | returned .addedNewUser | returned .loggedInSuccessfully => true
  | _ => false

/-- The call has returned and opened a session. -/
def Success (place : LoginPlace) : Prop :=
  place = returned .addedNewUser ∨ place = returned .loggedInSuccessfully

/-- The call has returned and rejected the client. -/
def Rejected (place : LoginPlace) : Prop :=
  place = returned .alreadyLoggedIn ∨ place = returned .wrongPassword

end LoginPlace

namespace LoginContest

/-- The user that a winner has created and no map holds yet. -/
structure Unpublished (username password : Text) (c : Int) (isLoggedIn : Bool) (db : Database)
    (user : UserRef) : Prop where
  free : db.connectionsIdMap c = none
  unknown : db.userMap username = none
  allocated : user < db.allocated
  noSession : ∀ d, db.connectionsIdMap d ≠ some user
  fields : db.users user = ⟨username, password, c, isLoggedIn⟩

/-- The connection has an entry of the user: the session of a winner, or one from before. -/
def Opened (username : Text) (c : Int) (db : Database) : Prop :=
  ∃ user, db.userMap username = some user ∧ db.connectionsIdMap c = some user

section
variable (start : Database) (username : Text) (password : Int → Text)

/-- What a thread knows of the database where it stands. -/
def Stands (c : Int) (db : Database) : LoginPlace → Prop
  | .notCalled => True
  | .containsConnection | .containsUser | .enterMap | .containsUserAgain =>
      db.connectionsIdMap c = none
  | .newUser => db.connectionsIdMap c = none ∧ db.userMap username = none
  | .loginNew user => Unpublished username (password c) c false db user
  | .putUser user => Unpublished username (password c) c true db user
  | .putConnection user => db.connectionsIdMap c = none ∧ db.userMap username = some user ∧
      (db.users user).connectionId = c ∧ start.userMap username = none
  | .exitMap true | .insertUser | .insertLogin | .returned .addedNewUser =>
      start.userMap username = none ∧ Opened username c db
  | .exitMap false | .getUser => db.connectionsIdMap c = none ∧ db.userMap username ≠ none
  | .enterUser user | .isLoggedIn user =>
      db.connectionsIdMap c = none ∧ db.userMap username = some user
  | .equalsPassword user | .loginUser user => db.connectionsIdMap c = none ∧
      db.userMap username = some user ∧ (db.users user).isLoggedIn = false
  | .setConnectionId user | .putSession user => db.connectionsIdMap c = none ∧
      db.userMap username = some user ∧ start.userMap username ≠ none
  | .exitUser _ .loggedInSuccessfully | .logLogin .loggedInSuccessfully
  | .returned .loggedInSuccessfully => start.userMap username ≠ none ∧ Opened username c db
  | .exitUser _ .alreadyLoggedIn | .exitUser _ .wrongPassword | .returned .alreadyLoggedIn
  | .returned .wrongPassword => db.userMap username ≠ none
  | _ => False

/-- What holds of the shared state, with the connection that has won. The entries of the
user are the winner's and those that were there from the start. -/
structure Global (winner : Option Int) (s : LoginShared) : Prop where
  sql : ∀ n, (s.db.sqlService n).succeeds = true
  allocatedUser : ∀ name user, s.db.userMap name = some user → user < s.db.allocated
  allocatedSession : ∀ c user, s.db.connectionsIdMap c = some user → user < s.db.allocated
  session : ∀ user c, s.db.userMap username = some user → s.db.connectionsIdMap c = some user →
    winner = some c ∨ Opened username c start
  loggedIn : ∀ user, s.db.userMap username = some user →
    (s.db.users user).isLoggedIn = winner.isSome
  known : ∀ user, start.userMap username = some user → s.db.userMap username = some user
  new : start.userMap username = none → ∀ user, s.db.userMap username = some user →
    ∃ c, winner = some c ∧ (s.db.users user).password = password c
  unpublished : s.db.userMap username = none → ∀ c, winner = some c → s.mapLock = some c
  kept : ∀ c user, start.connectionsIdMap c = some user → s.db.connectionsIdMap c = some user

/-- What one thread knows: whether it is the winner, that the locks are held just by the threads
that stand inside, and what it has found out so far. -/
structure Own (winner : Option Int) (c : Int) (s : LoginShared) (place : LoginPlace) : Prop where
  won : winner = some c ↔ place.won = true
  map : s.mapLock = some c ↔ place.holdsMap = true
  user : ∀ user, s.userLock user = some c ↔ place.holdsUser = some user
  stands : Stands start username password c s.db place

/-- The outline of the proof. Which thread has won is not in any state of the program, and is
carried along as an auxiliary value. -/
def outline : Outline (Option Int) Int LoginShared LoginPlace :=
  ⟨Global start username password, Own start username password⟩

end

/-- The changes of a winner. -/
structure Changed (username : Text) (c : Int) (s : LoginShared) (db : Database) : Prop where
  session : ∀ d, d ≠ c → db.connectionsIdMap d = s.db.connectionsIdMap d
  published : ∀ user, s.db.userMap username = some user → db.userMap username = some user
  locked : ∀ d, d ≠ c → s.mapLock = some d → db.userMap username = s.db.userMap username
  held : ∀ user d, d ≠ c → s.userLock user = some d → s.db.userMap username = some user →
    db.users user = s.db.users user

/-- What a thread is allowed to do: the data are changed by the winner only. -/
structure Allowed (username : Text) (c : Int) (winner : Option Int) (s : LoginShared)
    (winner' : Option Int) (s' : LoginShared) : Prop where
  map : Handles c s.mapLock s'.mapLock
  user : ∀ user, Handles c (s.userLock user) (s'.userLock user)
  data : (winner' = winner ∧ s.db.SameData s'.db) ∨
    (winner' = some c ∧ (winner = none ∨ winner = some c) ∧ Changed username c s s'.db)

variable {start : Database} {username : Text} {password : Int → Text}

theorem Stands.same {c : Int} {db db' : Database} {place : LoginPlace} (hSame : db.SameData db')
    (h : Stands start username password c db place) :
    Stands start username password c db' place := by
  obtain ⟨users, allocated, userMap, connectionsIdMap, sqlService, sqlLog⟩ := db
  obtain ⟨users', allocated', userMap', connectionsIdMap', sqlService', sqlLog'⟩ := db'
  obtain ⟨hUsers, hAllocated, hUserMap, hSessions⟩ := hSame
  dsimp only at hUsers hAllocated hUserMap hSessions
  subst hUsers hAllocated hUserMap hSessions
  cases place
  case loginNew user => exact ⟨h.free, h.unknown, h.allocated, h.noSession, h.fields⟩
  case putUser user => exact ⟨h.free, h.unknown, h.allocated, h.noSession, h.fields⟩
  case exitMap added => cases added <;> exact h
  case exitUser user status => cases status <;> exact h
  case logLogin status => cases status <;> exact h
  case returned status => cases status <;> exact h
  all_goals exact h

/-- Where a thread has not won, it knows nothing that the winner would change. -/
theorem Stands.changed {c d : Int} (hOther : d ≠ c) {s : LoginShared} {db : Database}
    {place : LoginPlace} (hChanged : Changed username c s db)
    (hWon : place.won = false) (hMap : s.mapLock = some d ↔ place.holdsMap = true)
    (hUser : ∀ user, s.userLock user = some d ↔ place.holdsUser = some user)
    (h : Stands start username password d s.db place) :
    Stands start username password d db place := by
  have hSession := hChanged.session d hOther
  have hPublished : s.db.userMap username ≠ none → db.userMap username ≠ none := by
    intro hKnown
    obtain ⟨user, hUser⟩ := Option.ne_none_iff_exists'.1 hKnown
    rw [hChanged.published user hUser]
    exact Option.some_ne_none user
  cases place with
  | notCalled => trivial
  | containsConnection => exact hSession.trans h
  | containsUser => exact hSession.trans h
  | enterMap => exact hSession.trans h
  | containsUserAgain => exact hSession.trans h
  | newUser => exact ⟨hSession.trans h.1, (hChanged.locked d hOther (hMap.2 rfl)).trans h.2⟩
  | exitMap added =>
      cases added with
      | true => cases hWon
      | false => exact ⟨hSession.trans h.1, hPublished h.2⟩
  | getUser => exact ⟨hSession.trans h.1, hPublished h.2⟩
  | enterUser user => exact ⟨hSession.trans h.1, hChanged.published user h.2⟩
  | isLoggedIn user => exact ⟨hSession.trans h.1, hChanged.published user h.2⟩
  | equalsPassword user =>
      obtain ⟨hFree, hKnown, hLoggedIn⟩ := h
      refine ⟨hSession.trans hFree, hChanged.published user hKnown, ?_⟩
      rwa [hChanged.held user d hOther ((hUser user).2 rfl) hKnown]
  | loginUser user =>
      obtain ⟨hFree, hKnown, hLoggedIn⟩ := h
      refine ⟨hSession.trans hFree, hChanged.published user hKnown, ?_⟩
      rwa [hChanged.held user d hOther ((hUser user).2 rfl) hKnown]
  | exitUser user status =>
      cases status with
      | alreadyLoggedIn => exact hPublished h
      | wrongPassword => exact hPublished h
      | loggedInSuccessfully => cases hWon
      | _ => exact h
  | returned status =>
      cases status with
      | alreadyLoggedIn => exact hPublished h
      | wrongPassword => exact hPublished h
      | clientAlreadyConnected => exact h
      | _ => cases hWon
  | removeConnection => exact h
  | removeUser => exact h
  | thrown => exact h
  | _ => cases hWon

/-- What is allowed to one thread disturbs no other. -/
theorem Own.other {winner winner' : Option Int} {c d : Int} (hOther : d ≠ c) {s s' : LoginShared}
    {place : LoginPlace} (h : Own start username password winner d s place)
    (hAllowed : Allowed username c winner s winner' s') :
    Own start username password winner' d s' place := by
  have hMap := hAllowed.map.other hOther
  have hUser := fun user => (hAllowed.user user).other hOther
  obtain ⟨rfl, hSame⟩ | ⟨rfl, hWinner, hChanged⟩ := hAllowed.data
  · exact ⟨h.won, hMap.trans h.map, fun user => (hUser user).trans (h.user user),
      h.stands.same hSame⟩
  · have hBefore : winner ≠ some d := by
      rcases hWinner with rfl | rfl
      · exact nofun
      · exact fun hSame => hOther (Option.some.inj hSame).symm
    have hWon : place.won = false := Bool.eq_false_of_not_eq_true fun hWon => hBefore (h.won.2 hWon)
    refine ⟨?_, hMap.trans h.map, fun user => (hUser user).trans (h.user user),
      h.stands.changed hOther hChanged hWon h.map h.user⟩
    simp [hWon, Ne.symm hOther]

section
variable {winner : Option Int} {c : Int} {s s' : LoginShared} {place place' : LoginPlace}

/-- The step to a place is allowed, and what is claimed there holds. -/
def Reaches (start : Database) (username : Text) (password : Int → Text) (winner : Option Int)
    (c : Int) (s s' : LoginShared) (place' : LoginPlace) : Prop :=
  ∃ winner', Global start username password winner' s' ∧
    Own start username password winner' c s' place' ∧ Allowed username c winner s winner' s'

/-- A step that changes neither a map nor a user. -/
theorem reaches_quiet (hGlobal : Global start username password winner s)
    (hOwn : Own start username password winner c s place) (hData : s.db.SameData s'.db)
    (hSql : ∀ n, (s'.db.sqlService n).succeeds = true)
    (hMap : Handles c s.mapLock s'.mapLock)
    (hUser : ∀ user, Handles c (s.userLock user) (s'.userLock user))
    (hRelease : s.mapLock = some c → s'.mapLock = none → s.db.userMap username ≠ none)
    (hWon : place'.won = place.won) (hHoldsMap : s'.mapLock = some c ↔ place'.holdsMap = true)
    (hHoldsUser : ∀ user, s'.userLock user = some c ↔ place'.holdsUser = some user)
    (hStands : Stands start username password c s.db place') :
    Reaches start username password winner c s s' place' := by
  refine ⟨winner, ?_, ⟨?_, hHoldsMap, hHoldsUser, hStands.same hData⟩,
    ⟨hMap, hUser, Or.inl ⟨rfl, hData⟩⟩⟩
  · obtain ⟨hUsers, hAllocated, hUserMap, hSessions⟩ := hData
    refine ⟨hSql, ?_, ?_, ?_, ?_, ?_, ?_, ?_, ?_⟩
    · rw [hUserMap, hAllocated]
      exact hGlobal.allocatedUser
    · rw [hSessions, hAllocated]
      exact hGlobal.allocatedSession
    · rw [hUserMap, hSessions]
      exact hGlobal.session
    · rw [hUserMap, hUsers]
      exact hGlobal.loggedIn
    · rw [hUserMap]
      exact hGlobal.known
    · rw [hUserMap, hUsers]
      exact hGlobal.new
    · rw [hUserMap]
      intro hUnknown d hWinner
      have hHeld := hGlobal.unpublished hUnknown d hWinner
      rcases hMap with hSame | ⟨hFree, -⟩ | ⟨hMine, hNone⟩
      · rw [hSame, hHeld]
      · rw [hFree] at hHeld
        cases hHeld
      · exact absurd hUnknown (hRelease hMine hNone)
    · rw [hSessions]
      exact hGlobal.kept
  · rw [hWon]
    exact hOwn.won

/-- A quiet step that leaves the locks alone as well. -/
theorem reaches_unlocked (hGlobal : Global start username password winner s)
    (hOwn : Own start username password winner c s place) (hData : s.db.SameData s'.db)
    (hSql : ∀ n, (s'.db.sqlService n).succeeds = true) (hMap : s'.mapLock = s.mapLock)
    (hUser : s'.userLock = s.userLock) (hWon : place'.won = place.won)
    (hHoldsMap : place'.holdsMap = place.holdsMap) (hHoldsUser : place'.holdsUser = place.holdsUser)
    (hStands : Stands start username password c s.db place') :
    Reaches start username password winner c s s' place' := by
  refine reaches_quiet hGlobal hOwn hData hSql (Or.inl hMap)
    (fun user => Or.inl (congrFun hUser user)) ?_ hWon ?_ ?_ hStands
  · intro hMine hNone
    rw [hMap, hMine] at hNone
    cases hNone
  · rw [hMap, hHoldsMap]
    exact hOwn.map
  · rw [hUser, hHoldsUser]
    exact hOwn.user

/-- Where the SQL service works, a call returns. -/
theorem callSQL_works (hSql : ∀ n, (s.db.sqlService n).succeeds = true) (sql : Text)
    (returns : LoginPlace) (throws : JavaException → LoginPlace) :
    LoginPlace.callSQL sql s returns throws = ({ s with db := s.db.called sql }, returns) := by
  unfold LoginPlace.callSQL
  rw [Database.executeSQL_apply]
  have hFirst := hSql 0
  cases hOutcome : s.db.sqlService 0 with
  | reply response => rfl
  | failure message =>
      rw [hOutcome] at hFirst
      cases hFirst

theorem reaches_called (hGlobal : Global start username password winner s)
    (hOwn : Own start username password winner c s place) (sql : Text)
    (hWon : place'.won = place.won) (hHoldsMap : place'.holdsMap = place.holdsMap)
    (hHoldsUser : place'.holdsUser = place.holdsUser)
    (hStands : Stands start username password c s.db place') :
    Reaches start username password winner c s { s with db := s.db.called sql } place' :=
  reaches_unlocked hGlobal hOwn ⟨rfl, rfl, rfl, rfl⟩ (fun n => hGlobal.sql (n + 1)) rfl rfl hWon
    hHoldsMap hHoldsUser hStands

/-- A step that makes the thread the winner, or that the winner takes. -/
theorem reaches_winner {db : Database} (hOwn : Own start username password winner c s place)
    (hWinner : winner = none ∨ winner = some c)
    (hGlobal : Global start username password (some c) { s with db := db })
    (hChanged : Changed username c s db) (hWon : place'.won = true)
    (hHoldsMap : place'.holdsMap = place.holdsMap) (hHoldsUser : place'.holdsUser = place.holdsUser)
    (hStands : Stands start username password c db place') :
    Reaches start username password winner c s { s with db := db } place' := by
  refine ⟨some c, hGlobal, ⟨?_, ?_, ?_, hStands⟩,
    ⟨Or.inl rfl, fun user => Or.inl rfl, Or.inr ⟨rfl, hWinner, hChanged⟩⟩⟩
  · simp [hWon]
  · rw [hHoldsMap]
    exact hOwn.map
  · rw [hHoldsUser]
    exact hOwn.user

/-- In the critical section of an unknown user name nobody has won. -/
theorem Own.nobody (h : Own start username password winner c s place)
    (hGlobal : Global start username password winner s) (hUnknown : s.db.userMap username = none)
    (hMap : s.mapLock = some c) (hWon : place.won = false) : winner = none := by
  cases hWinner : winner with
  | none => rfl
  | some d =>
      have hHeld := hGlobal.unpublished hUnknown d hWinner
      rw [hMap] at hHeld
      obtain rfl := Option.some.inj hHeld
      rw [h.won.1 hWinner] at hWon
      cases hWon

/-- An unknown user name was unknown from the start. -/
theorem Global.start_unknown (h : Global start username password winner s)
    (hUnknown : s.db.userMap username = none) : start.userMap username = none := by
  cases hStart : start.userMap username with
  | none => rfl
  | some user =>
      rw [h.known user hStart] at hUnknown
      cases hUnknown

/-- The only new session is that of the winner. -/
theorem session_update (hGlobal : Global start username password winner s)
    (hWinner : winner = some c) {user other : UserRef} (hOther : s.db.userMap username = some other)
    {d : Int} (hSession : Function.update s.db.connectionsIdMap c (some user) d = some other) :
    some c = some d ∨ Opened username d start := by
  rcases PartialMap.put_eq_some.1 hSession with ⟨rfl, -⟩ | ⟨-, hSession⟩
  · exact Or.inl rfl
  · exact (hGlobal.session other d hOther hSession).imp_left hWinner.symm.trans

/-- The entries from the start are kept: whoever opens a session had none. -/
theorem kept_update (hGlobal : Global start username password winner s)
    (hFree : s.db.connectionsIdMap c = none) (user : UserRef) (d : Int) (other : UserRef)
    (hStart : start.connectionsIdMap d = some other) :
    Function.update s.db.connectionsIdMap c (some user) d = some other := by
  have hKept := hGlobal.kept d other hStart
  have hOther : d ≠ c := by
    rintro rfl
    rw [hFree] at hKept
    cases hKept
  rw [Function.update_of_ne hOther, hKept]

theorem reaches_newUser (hGlobal : Global start username password winner s)
    (hOwn : Own start username password winner c s .newUser) :
    Reaches start username password winner c s { s with db := { s.db with
      users := Function.update s.db.users s.db.allocated ⟨username, password c, c, false⟩
      allocated := s.db.allocated + 1 } } (.loginNew s.db.allocated) := by
  obtain ⟨hFree, hUnknown⟩ := hOwn.stands
  have hMap : s.mapLock = some c := hOwn.map.2 rfl
  have hNobody := hOwn.nobody hGlobal hUnknown hMap rfl
  have hNo : ∀ user, s.db.userMap username ≠ some user := by simp [hUnknown]
  refine reaches_winner hOwn (Or.inl hNobody)
    ⟨hGlobal.sql, ?_, ?_, ?_, ?_, hGlobal.known, ?_, ?_, hGlobal.kept⟩
    ⟨fun _ _ => rfl, fun _ h => h, fun _ _ _ => rfl, ?_⟩ rfl rfl rfl ⟨hFree, hUnknown, ?_, ?_, ?_⟩
  · exact fun name user hUser => Nat.lt_succ_of_lt (hGlobal.allocatedUser name user hUser)
  · exact fun d user hUser => Nat.lt_succ_of_lt (hGlobal.allocatedSession d user hUser)
  · exact fun user _ hUser => absurd hUser (hNo user)
  · exact fun user hUser => absurd hUser (hNo user)
  · exact fun _ user hUser => absurd hUser (hNo user)
  · rintro - d hSame
    obtain rfl := Option.some.inj hSame
    exact hMap
  · exact fun user _ _ _ hUser => absurd hUser (hNo user)
  · exact Nat.lt_succ_self _
  · exact fun d hUser => absurd (hGlobal.allocatedSession d _ hUser) (Nat.lt_irrefl _)
  · exact Function.update_self _ _ _

theorem reaches_loginNew (hGlobal : Global start username password winner s) {user : UserRef}
    (hOwn : Own start username password winner c s (.loginNew user)) :
    Reaches start username password winner c s { s with db := s.db.onUser user User.login }
      (.putUser user) := by
  have hNew := hOwn.stands
  have hMap : s.mapLock = some c := hOwn.map.2 rfl
  have hNo : ∀ other, s.db.userMap username ≠ some other := by simp [hNew.unknown]
  refine reaches_winner hOwn (Or.inr (hOwn.won.2 rfl)) ⟨hGlobal.sql, hGlobal.allocatedUser,
    hGlobal.allocatedSession, ?_, ?_, hGlobal.known, ?_, ?_, hGlobal.kept⟩
    ⟨fun _ _ => rfl, fun _ h => h, fun _ _ _ => rfl, ?_⟩ rfl rfl rfl
    ⟨hNew.free, hNew.unknown, hNew.allocated, hNew.noSession, ?_⟩
  · exact fun other _ hOther => absurd hOther (hNo other)
  · exact fun other hOther => absurd hOther (hNo other)
  · exact fun _ other hOther => absurd hOther (hNo other)
  · rintro - d hSame
    obtain rfl := Option.some.inj hSame
    exact hMap
  · exact fun other _ _ _ hOther => absurd hOther (hNo other)
  · simp [Database.onUser, hNew.fields, User.login]

theorem reaches_putUser (hGlobal : Global start username password winner s) {user : UserRef}
    (hOwn : Own start username password winner c s (.putUser user)) :
    Reaches start username password winner c s { s with db := { s.db with
      userMap := putIfAbsent s.db.userMap (s.db.users user).name user } }
      (.putConnection user) := by
  have hNew := hOwn.stands
  have hMap : s.mapLock = some c := hOwn.map.2 rfl
  have hPut : putIfAbsent s.db.userMap (s.db.users user).name user =
      Function.update s.db.userMap username (some user) := by
    simp [putIfAbsent, hNew.fields, hNew.unknown]
  have hOnly : ∀ other, Function.update s.db.userMap username (some user) username = some other →
      other = user := by
    intro other hOther
    rw [Function.update_self] at hOther
    exact (Option.some.inj hOther).symm
  have hNo : ∀ other, s.db.userMap username ≠ some other := by simp [hNew.unknown]
  rw [hPut]
  refine reaches_winner hOwn (Or.inr (hOwn.won.2 rfl))
    ⟨hGlobal.sql, ?_, hGlobal.allocatedSession, ?_, ?_, ?_, ?_, ?_, hGlobal.kept⟩
    ⟨fun _ _ => rfl, ?_, ?_, fun _ _ _ _ _ => rfl⟩ rfl rfl rfl ⟨hNew.free, ?_, ?_, ?_⟩
  · exact PartialMap.put_all hGlobal.allocatedUser hNew.allocated username
  · intro other d hOther hSession
    rw [hOnly other hOther] at hSession
    exact absurd hSession (hNew.noSession d)
  · intro other hOther
    rw [hOnly other hOther]
    simp [hNew.fields]
  · exact fun other hStart => absurd (hGlobal.known other hStart) (hNo other)
  · intro _ other hOther
    rw [hOnly other hOther]
    exact ⟨c, rfl, by simp [hNew.fields]⟩
  · intro hUnknown
    have hKnown := Function.update_self username (some user) s.db.userMap
    exact absurd (hKnown.symm.trans hUnknown) (Option.some_ne_none user)
  · exact fun other hOther => absurd hOther (hNo other)
  · intro d hOther hHeld
    rw [hMap] at hHeld
    exact absurd (Option.some.inj hHeld).symm hOther
  · exact Function.update_self _ _ _
  · simp [hNew.fields]
  · exact hGlobal.start_unknown hNew.unknown

theorem reaches_putConnection (hGlobal : Global start username password winner s) {user : UserRef}
    (hOwn : Own start username password winner c s (.putConnection user)) :
    Reaches start username password winner c s { s with db := { s.db with
      connectionsIdMap := putIfAbsent s.db.connectionsIdMap (s.db.users user).connectionId user } }
      (.exitMap true) := by
  obtain ⟨hFree, hUser, hConnection, hStart⟩ := hOwn.stands
  have hPut : putIfAbsent s.db.connectionsIdMap (s.db.users user).connectionId user =
      Function.update s.db.connectionsIdMap c (some user) := by
    simp [putIfAbsent, hConnection, hFree]
  rw [hPut]
  refine reaches_winner hOwn (Or.inr (hOwn.won.2 rfl))
    ⟨hGlobal.sql, hGlobal.allocatedUser, ?_, ?_, ?_, hGlobal.known, ?_, ?_,
      kept_update hGlobal hFree user⟩
    ⟨?_, fun _ h => h, fun _ _ _ => rfl, fun _ _ _ _ _ => rfl⟩ rfl rfl rfl
    ⟨hStart, user, hUser, Function.update_self _ _ _⟩
  · exact PartialMap.put_all hGlobal.allocatedSession (hGlobal.allocatedUser _ user hUser) c
  · exact fun other d hOther hSession => session_update hGlobal (hOwn.won.2 rfl) hOther hSession
  · rw [← hOwn.won.2 rfl]
    exact hGlobal.loggedIn
  · rw [← hOwn.won.2 rfl]
    exact hGlobal.new
  · rw [← hOwn.won.2 rfl]
    exact hGlobal.unpublished
  · exact fun d hOther => Function.update_of_ne hOther _ _

theorem reaches_loginUser (hGlobal : Global start username password winner s) {user : UserRef}
    (hOwn : Own start username password winner c s (.loginUser user)) :
    Reaches start username password winner c s { s with db := s.db.onUser user User.login }
      (.setConnectionId user) := by
  obtain ⟨hFree, hUser, hLoggedIn⟩ := hOwn.stands
  have hNobody : winner = none := by
    rw [hGlobal.loggedIn user hUser] at hLoggedIn
    exact Option.isNone_iff_eq_none.1 (by simpa using hLoggedIn)
  have hStart : start.userMap username ≠ none := by
    intro hUnknown
    obtain ⟨d, hWinner, -⟩ := hGlobal.new hUnknown user hUser
    rw [hNobody] at hWinner
    cases hWinner
  have hOnly : ∀ other, s.db.userMap username = some other → other = user := by
    intro other hOther
    rw [hUser] at hOther
    exact (Option.some.inj hOther).symm
  refine reaches_winner hOwn (Or.inl hNobody) ⟨hGlobal.sql, hGlobal.allocatedUser,
    hGlobal.allocatedSession, ?_, ?_, hGlobal.known, ?_, ?_, hGlobal.kept⟩
    ⟨fun _ _ => rfl, fun _ h => h, fun _ _ _ => rfl, ?_⟩ rfl rfl rfl ⟨hFree, hUser, hStart⟩
  · intro other d hOther hSession
    have hBefore := hGlobal.session other d hOther hSession
    rw [hNobody] at hBefore
    exact Or.inr (hBefore.resolve_left nofun)
  · intro other hOther
    rw [hOnly other hOther]
    simp [Database.onUser, User.login]
  · exact fun hUnknown => absurd hUnknown hStart
  · intro hUnknown
    rw [show s.db.userMap username = none from hUnknown] at hUser
    cases hUser
  · intro other d hOther hHeld hKnown
    rw [hOnly other hKnown, (hOwn.user user).2 rfl] at hHeld
    exact absurd (Option.some.inj hHeld).symm hOther

theorem reaches_setConnectionId (hGlobal : Global start username password winner s)
    {user : UserRef} (hOwn : Own start username password winner c s (.setConnectionId user)) :
    Reaches start username password winner c s
      { s with db := s.db.onUser user (User.setConnectionId c) } (.putSession user) := by
  obtain ⟨hFree, hUser, hStart⟩ := hOwn.stands
  have hSame : ∀ other, ((s.db.onUser user (User.setConnectionId c)).users other).isLoggedIn =
      (s.db.users other).isLoggedIn := by
    intro other
    by_cases hOther : other = user
    · subst hOther
      simp [Database.onUser, User.setConnectionId]
    · simp [Database.onUser, hOther]
  refine reaches_winner hOwn (Or.inr (hOwn.won.2 rfl)) ⟨hGlobal.sql, hGlobal.allocatedUser,
    hGlobal.allocatedSession, ?_, ?_, hGlobal.known, fun hUnknown => absurd hUnknown hStart, ?_,
    hGlobal.kept⟩
    ⟨fun _ _ => rfl, fun _ h => h, fun _ _ _ => rfl, ?_⟩ rfl rfl rfl ⟨hFree, hUser, hStart⟩
  · rw [← hOwn.won.2 rfl]
    exact hGlobal.session
  · intro other hOther
    rw [hSame other, ← hOwn.won.2 rfl]
    exact hGlobal.loggedIn other hOther
  · rw [← hOwn.won.2 rfl]
    exact hGlobal.unpublished
  · intro other d hOther hHeld hKnown
    rw [hUser] at hKnown
    obtain rfl := Option.some.inj hKnown
    rw [(hOwn.user user).2 rfl] at hHeld
    exact absurd (Option.some.inj hHeld).symm hOther

theorem reaches_putSession (hGlobal : Global start username password winner s) {user : UserRef}
    (hOwn : Own start username password winner c s (.putSession user)) :
    Reaches start username password winner c s { s with db := { s.db with
      connectionsIdMap := Function.update s.db.connectionsIdMap c (some user) } }
      (.exitUser user .loggedInSuccessfully) := by
  obtain ⟨hFree, hUser, hStart⟩ := hOwn.stands
  refine reaches_winner hOwn (Or.inr (hOwn.won.2 rfl))
    ⟨hGlobal.sql, hGlobal.allocatedUser, ?_, ?_, ?_, hGlobal.known, ?_, ?_,
      kept_update hGlobal hFree user⟩
    ⟨?_, fun _ h => h, fun _ _ _ => rfl, fun _ _ _ _ _ => rfl⟩ rfl rfl rfl
    ⟨hStart, user, hUser, Function.update_self _ _ _⟩
  · exact PartialMap.put_all hGlobal.allocatedSession (hGlobal.allocatedUser _ user hUser) c
  · exact fun other d hOther hSession => session_update hGlobal (hOwn.won.2 rfl) hOther hSession
  · rw [← hOwn.won.2 rfl]
    exact hGlobal.loggedIn
  · rw [← hOwn.won.2 rfl]
    exact hGlobal.new
  · rw [← hOwn.won.2 rfl]
    exact hGlobal.unpublished
  · exact fun d hOther => Function.update_of_ne hOther _ _

/-- A quiet step that changes the place only. -/
theorem reaches_look (hGlobal : Global start username password winner s)
    (hOwn : Own start username password winner c s place) (hWon : place'.won = place.won)
    (hHoldsMap : place'.holdsMap = place.holdsMap) (hHoldsUser : place'.holdsUser = place.holdsUser)
    (hStands : Stands start username password c s.db place') :
    Reaches start username password winner c s s place' :=
  reaches_unlocked hGlobal hOwn (.refl s.db) hGlobal.sql rfl rfl hWon hHoldsMap hHoldsUser hStands

theorem reaches_enterMap (hGlobal : Global start username password winner s)
    (hOwn : Own start username password winner c s .enterMap) (hLock : s.mapLock = none) :
    Reaches start username password winner c s { s with mapLock := some c }
      .containsUserAgain := by
  refine reaches_quiet hGlobal hOwn (.refl s.db) hGlobal.sql (Or.inr (Or.inl ⟨hLock, rfl⟩))
    (fun _ => Or.inl rfl) nofun rfl ?_ hOwn.user hOwn.stands
  exact ⟨fun _ => rfl, fun _ => rfl⟩

theorem reaches_exitMap (hGlobal : Global start username password winner s) {added : Bool}
    (hOwn : Own start username password winner c s (.exitMap added)) :
    Reaches start username password winner c s { s with mapLock := none }
      (if added then .insertUser else .getUser) := by
  have hMap : s.mapLock = some c := hOwn.map.2 rfl
  cases added with
  | true =>
      obtain ⟨hStart, user, hUser, hSession⟩ := hOwn.stands
      refine reaches_quiet hGlobal hOwn (.refl s.db) hGlobal.sql (Or.inr (Or.inr ⟨hMap, rfl⟩))
        (fun _ => Or.inl rfl) ?_ rfl ⟨nofun, nofun⟩ hOwn.user ⟨hStart, user, hUser, hSession⟩
      intro _ _ hUnknown
      rw [hUser] at hUnknown
      cases hUnknown
  | false =>
      exact reaches_quiet hGlobal hOwn (.refl s.db) hGlobal.sql (Or.inr (Or.inr ⟨hMap, rfl⟩))
        (fun _ => Or.inl rfl) (fun _ _ => hOwn.stands.2) rfl ⟨nofun, nofun⟩ hOwn.user hOwn.stands

theorem reaches_enterUser (hGlobal : Global start username password winner s) {user : UserRef}
    (hOwn : Own start username password winner c s (.enterUser user))
    (hLock : s.userLock user = none) :
    Reaches start username password winner c s
      { s with userLock := Function.update s.userLock user (some c) } (.isLoggedIn user) := by
  refine reaches_quiet hGlobal hOwn (.refl s.db) hGlobal.sql (Or.inl rfl) ?_ ?_ rfl hOwn.map ?_
    hOwn.stands
  · intro other
    by_cases hOther : other = user
    · subst hOther
      exact Or.inr (Or.inl ⟨hLock, Function.update_self _ _ _⟩)
    · exact Or.inl (Function.update_of_ne hOther _ _)
  · intro hMine hNone
    rw [show s.mapLock = none from hNone] at hMine
    cases hMine
  · intro other
    by_cases hOther : other = user
    · subst hOther
      simp [LoginPlace.holdsUser]
    · simp only [Function.update_of_ne hOther, hOwn.user other, LoginPlace.holdsUser,
        Option.some.injEq, Ne.symm hOther, reduceCtorEq]

theorem reaches_exitUser (hGlobal : Global start username password winner s) {user : UserRef}
    {status : LoginStatus} (hOwn : Own start username password winner c s (.exitUser user status)) :
    Reaches start username password winner c s
      { s with userLock := Function.update s.userLock user none }
      (if status = .loggedInSuccessfully then .logLogin status else .returned status) := by
  have hHeld : s.userLock user = some c := (hOwn.user user).2 rfl
  have hNoMap : s.mapLock ≠ some c := fun hMine => absurd (hOwn.map.1 hMine) nofun
  have hReaches : ∀ place' : LoginPlace, place'.won = (LoginPlace.exitUser user status).won →
      place'.holdsMap = false → place'.holdsUser = none →
      Stands start username password c s.db place' → Reaches start username password winner c s
        { s with userLock := Function.update s.userLock user none } place' := by
    intro place' hWon hHoldsMap hHoldsUser hStands
    refine reaches_quiet hGlobal hOwn (.refl s.db) hGlobal.sql (Or.inl rfl) ?_
      (fun hMine => absurd hMine hNoMap) hWon ?_ ?_ hStands
    · intro other
      by_cases hOther : other = user
      · subst hOther
        exact Or.inr (Or.inr ⟨hHeld, Function.update_self _ _ _⟩)
      · exact Or.inl (Function.update_of_ne hOther _ _)
    · rw [hHoldsMap]
      exact hOwn.map
    · intro other
      rw [hHoldsUser]
      by_cases hOther : other = user
      · subst hOther
        simp
      · simp only [Function.update_of_ne hOther, hOwn.user other, LoginPlace.holdsUser,
          Option.some.injEq, Ne.symm hOther, reduceCtorEq]
  cases status with
  | loggedInSuccessfully => exact hReaches (.logLogin _) rfl rfl rfl hOwn.stands
  | alreadyLoggedIn => exact hReaches (.returned _) rfl rfl rfl hOwn.stands
  | wrongPassword => exact hReaches (.returned _) rfl rfl rfl hOwn.stands
  | clientAlreadyConnected => exact hOwn.stands.elim
  | addedNewUser => exact hOwn.stands.elim

/-- Every step of a thread is allowed. -/
theorem reaches_of_act (hGlobal : Global start username password winner s)
    (hOwn : Own start username password winner c s place)
    (hAct : place.act username (password c) c s = some (s', place')) :
    Reaches start username password winner c s s' place' := by
  have hStands := hOwn.stands
  cases place with
  | notCalled => cases hAct
  | containsConnection =>
      obtain ⟨rfl, rfl⟩ := Prod.mk.inj (Option.some.inj hAct)
      rw [if_neg (by simp [show s.db.connectionsIdMap c = none from hStands])]
      exact reaches_look hGlobal hOwn rfl rfl rfl hStands
  | containsUser =>
      obtain ⟨rfl, rfl⟩ := Prod.mk.inj (Option.some.inj hAct)
      split
      · rename_i hKnown
        exact reaches_look hGlobal hOwn rfl rfl rfl ⟨hStands, Option.isSome_iff_ne_none.1 hKnown⟩
      · exact reaches_look hGlobal hOwn rfl rfl rfl hStands
  | enterMap =>
      simp only [LoginPlace.act, Option.ite_none_right_eq_some] at hAct
      obtain ⟨hLock, hAct⟩ := hAct
      obtain ⟨rfl, rfl⟩ := Prod.mk.inj (Option.some.inj hAct)
      exact reaches_enterMap hGlobal hOwn hLock
  | containsUserAgain =>
      obtain ⟨rfl, rfl⟩ := Prod.mk.inj (Option.some.inj hAct)
      split
      · rename_i hKnown
        exact reaches_look hGlobal hOwn rfl rfl rfl ⟨hStands, Option.isSome_iff_ne_none.1 hKnown⟩
      · rename_i hUnknown
        exact reaches_look hGlobal hOwn rfl rfl rfl ⟨hStands, by simpa using hUnknown⟩
  | newUser =>
      obtain ⟨rfl, rfl⟩ := Prod.mk.inj (Option.some.inj hAct)
      exact reaches_newUser hGlobal hOwn
  | loginNew user =>
      obtain ⟨rfl, rfl⟩ := Prod.mk.inj (Option.some.inj hAct)
      exact reaches_loginNew hGlobal hOwn
  | putUser user =>
      obtain ⟨rfl, rfl⟩ := Prod.mk.inj (Option.some.inj hAct)
      exact reaches_putUser hGlobal hOwn
  | putConnection user =>
      obtain ⟨rfl, rfl⟩ := Prod.mk.inj (Option.some.inj hAct)
      exact reaches_putConnection hGlobal hOwn
  | exitMap added =>
      obtain ⟨rfl, rfl⟩ := Prod.mk.inj (Option.some.inj hAct)
      exact reaches_exitMap hGlobal hOwn
  | insertUser =>
      simp only [LoginPlace.act, callSQL_works hGlobal.sql] at hAct
      obtain ⟨rfl, rfl⟩ := Prod.mk.inj (Option.some.inj hAct)
      exact reaches_called hGlobal hOwn _ rfl rfl rfl hStands
  | insertLogin =>
      simp only [LoginPlace.act, callSQL_works hGlobal.sql] at hAct
      obtain ⟨rfl, rfl⟩ := Prod.mk.inj (Option.some.inj hAct)
      exact reaches_called hGlobal hOwn _ rfl rfl rfl hStands
  | removeConnection e => exact hStands.elim
  | removeUser e => exact hStands.elim
  | getUser =>
      obtain ⟨rfl, rfl⟩ := Prod.mk.inj (Option.some.inj hAct)
      obtain ⟨user, hUser⟩ := Option.ne_none_iff_exists'.1 hStands.2
      rw [hUser]
      exact reaches_look hGlobal hOwn rfl rfl rfl ⟨hStands.1, hUser⟩
  | enterUser user =>
      simp only [LoginPlace.act, Option.ite_none_right_eq_some] at hAct
      obtain ⟨hLock, hAct⟩ := hAct
      obtain ⟨rfl, rfl⟩ := Prod.mk.inj (Option.some.inj hAct)
      exact reaches_enterUser hGlobal hOwn hLock
  | isLoggedIn user =>
      obtain ⟨rfl, rfl⟩ := Prod.mk.inj (Option.some.inj hAct)
      split
      · refine reaches_look hGlobal hOwn rfl rfl rfl ?_
        exact Option.ne_none_iff_exists'.2 ⟨user, hStands.2⟩
      · rename_i hLoggedIn
        exact reaches_look hGlobal hOwn rfl rfl rfl
          ⟨hStands.1, hStands.2, Bool.eq_false_of_not_eq_true hLoggedIn⟩
  | equalsPassword user =>
      obtain ⟨rfl, rfl⟩ := Prod.mk.inj (Option.some.inj hAct)
      split
      · refine reaches_look hGlobal hOwn rfl rfl rfl ?_
        exact Option.ne_none_iff_exists'.2 ⟨user, hStands.2.1⟩
      · exact reaches_look hGlobal hOwn rfl rfl rfl hStands
  | loginUser user =>
      obtain ⟨rfl, rfl⟩ := Prod.mk.inj (Option.some.inj hAct)
      exact reaches_loginUser hGlobal hOwn
  | setConnectionId user =>
      obtain ⟨rfl, rfl⟩ := Prod.mk.inj (Option.some.inj hAct)
      exact reaches_setConnectionId hGlobal hOwn
  | putSession user =>
      obtain ⟨rfl, rfl⟩ := Prod.mk.inj (Option.some.inj hAct)
      exact reaches_putSession hGlobal hOwn
  | exitUser user status =>
      obtain ⟨rfl, rfl⟩ := Prod.mk.inj (Option.some.inj hAct)
      exact reaches_exitUser hGlobal hOwn
  | logLogin status =>
      cases status with
      | loggedInSuccessfully =>
          simp only [LoginPlace.act, callSQL_works hGlobal.sql] at hAct
          obtain ⟨rfl, rfl⟩ := Prod.mk.inj (Option.some.inj hAct)
          exact reaches_called hGlobal hOwn _ rfl rfl rfl hStands
      | _ => exact hStands.elim
  | returned status => cases hAct
  | thrown e => cases hAct

end

end LoginContest
end StompGames
