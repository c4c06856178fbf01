import StompGames.Concurrency.LogoutThreads

/-! Logouts that overlap with logins. A logout acts on the user it has read before it
waited for the SQL service; as long as the session of that user is still the one of
its own connection, it ends no other session. -/
namespace StompGames.SessionThreads

open Imperative Threads

/-- A logout step of a connection leaves every session of another one alone: the
user it belongs to, and its entry. -/
def Harmless (c : Int) (db db' : Database) : Prop :=
  (∀ user, (db.users user).isLoggedIn = true → (db.users user).connectionId ≠ c →
    db'.users user = db.users user) ∧
  ∀ d, d ≠ c → db'.connectionsIdMap d = db.connectionsIdMap d

/-- What a step of a logout does to the sessions of other connections. -/
def LogoutHarmless (s : SessionThreads) (label : (Int × Role) × Task) : Prop :=
  (s.place label.1).inLogout = true → ∀ t, step s label = some t →
    Harmless label.1.1 s.shared.db t.shared.db

/-- No two live connections have a session of the same user. -/
def NotShared (s : SessionThreads) : Prop :=
  ∀ c d user, c ≠ d → s.Live c → s.Live d → s.shared.db.connectionsIdMap c = some user →
    s.shared.db.connectionsIdMap d ≠ some user

/-- From the moment a logout has read a user until it logs that user out, no other
connection has or opens a session of the user. -/
def NoOverlap (s : SessionThreads) (label : (Int × Role) × Task) : Prop :=
  match s.place label.1 with
  | .getSession => ∀ user, s.shared.db.connectionsIdMap label.1.1 = some user →
      (s.shared.db.users user).connectionId = label.1.1
  | .userExists user _ password => (s.shared.db.users user).isLoggedIn = false →
      (s.shared.db.users user).password = password →
      ∀ thread, thread.1 ≠ label.1.1 → (s.place thread).pending ≠ some user
  | _ => True

/-- The thread removes the entry of its connection next. -/
def removes : SessionPlace → Bool
  | .removeSession => true
  | _ => false

/-- The user a login has fetched and not yet locked. -/
def fetched : SessionPlace → Option UserRef
  | .userExists user _ _ => some user
  | _ => none

/-- `removing` are the threads that remove an entry next. Every other entry is that of
a session. -/
structure Global (removing : Int × Role → Bool) (s : SessionShared) : Prop where
  allocatedUser : ∀ name user, s.db.userMap name = some user → user < s.db.allocated
  allocatedSession : ∀ c user, s.db.connectionsIdMap c = some user → user < s.db.allocated
  session : ∀ c user, s.db.connectionsIdMap c = some user →
    ((s.db.users user).connectionId = c ∧ (s.db.users user).isLoggedIn = true) ∨
      ∃ role, removing (c, role) = true

/-- What one thread knows: whether it is about to remove an entry, and that the user it has
looked up exists and belongs to its own connection. -/
structure Own (removing : Int × Role → Bool) (thread : Int × Role) (s : SessionShared)
    (place : SessionPlace) : Prop where
  removing : removing thread = removes place
  known : ∀ user, fetched place = some user → user < s.db.allocated
  pending : ∀ user, place.pending = some user →
    user < s.db.allocated ∧ (s.db.users user).connectionId = thread.1

/-- A place that holds no user. -/
theorem Own.free {removing : Int × Role → Bool} {thread : Int × Role} {s : SessionShared}
    {place : SessionPlace} (hRemoving : removing thread = removes place)
    (hFetched : fetched place = none) (hPending : place.pending = none) :
    Own removing thread s place where
  removing := hRemoving
  known user hUser := by
    rw [hFetched] at hUser
    cases hUser
  pending user hUser := by
    rw [hPending] at hUser
    cases hUser

/-- The outline of the proof. The auxiliary value says which threads are about to remove an
entry. -/
def outline : Outline (Int × Role → Bool) (Int × Role) SessionShared SessionPlace :=
  ⟨Global, Own⟩

/-- `addNewUserCase`, whatever the connection has been doing meanwhile. -/
theorem addNewUserCase_cases {c : Int} {username password : Text} {db db' : Database}
    {result : Except JavaException Bool}
    (hRun : Database.addNewUserCase c username password db = (result, db')) :
    (result = .ok false ∧ db' = db) ∨ (result = .ok true ∧ db.userMap username = none ∧
      db' = { db with
        users := Function.update db.users db.allocated ⟨username, password, c, true⟩
        allocated := db.allocated + 1
        userMap := Function.update db.userMap username (some db.allocated)
        connectionsIdMap := putIfAbsent db.connectionsIdMap c db.allocated }) := by
  cases hUser : db.userMap username with
  | some user =>
      rw [Database.addNewUserCase_known hUser] at hRun
      obtain ⟨rfl, rfl⟩ := Prod.mk.inj hRun
      exact Or.inl ⟨rfl, rfl⟩
  | none =>
      apply Or.inr
      simp only [Database.addNewUserCase, Method.bind_apply, Method.get_apply, hUser,
        Option.isSome_none, Bool.false_eq_true, if_false, Database.newUser, Method.modify_apply,
        Database.onUser, Database.addUser, Method.pure_apply] at hRun
      obtain ⟨rfl, rfl⟩ := Prod.mk.inj hRun
      simp [putIfAbsent, hUser, User.login]

section
variable {removing : Int × Role → Bool} {s : SessionThreads} (h : outline.HoldsAt removing s)
include h

/-- What a thread knows is kept by the steps of others that leave the connections of
pending users alone. -/
theorem holds_next (removing' : Int × Role → Bool) {shared : SessionShared}
    {thread : Int × Role} {place : SessionPlace} (hGlobal : Global removing' shared)
    (hOwn : Own removing' thread shared place)
    (hAllocated : s.shared.db.allocated ≤ shared.db.allocated)
    (hRemoving : ∀ other, other ≠ thread → removing' other = removing other)
    (hPending : ∀ other user, other ≠ thread → (s.place other).pending = some user →
      user < s.shared.db.allocated → (s.shared.db.users user).connectionId = other.1 →
      (shared.db.users user).connectionId = other.1) :
    outline.Holds ⟨shared, Function.update s.place thread place⟩ := by
  refine ⟨removing', Outline.HoldsAt.next hGlobal hOwn fun other hOther => ?_⟩
  have hBefore : Own removing other s.shared (s.place other) := h.2 other
  refine ⟨?_, fun user hUser => ?_, fun user hUser => ?_⟩
  · rw [hRemoving other hOther]
    exact hBefore.removing
  · exact Nat.lt_of_lt_of_le (hBefore.known user hUser) hAllocated
  · obtain ⟨hLt, hConnection⟩ := hBefore.pending user hUser
    exact ⟨Nat.lt_of_lt_of_le hLt hAllocated, hPending other user hOther hUser hLt hConnection⟩

/-- A step that changes neither a map nor a user. -/
theorem holds_quiet {shared : SessionShared} {thread : Int × Role} {place : SessionPlace}
    (hData : s.shared.db.SameData shared.db) (hTo : Own removing thread s.shared place) :
    outline.Holds ⟨shared, Function.update s.place thread place⟩ := by
  have hGlobal : Global removing s.shared := h.1
  obtain ⟨hUsers, hAllocated, hUserMap, hSessions⟩ := hData
  refine holds_next h removing ⟨?_, ?_, ?_⟩ ⟨hTo.removing, ?_, ?_⟩ (Nat.le_of_eq hAllocated.symm)
    (fun _ _ => rfl) (fun other user _ _ _ hConnection => ?_)
  · rw [hUserMap, hAllocated]
    exact hGlobal.allocatedUser
  · rw [hSessions, hAllocated]
    exact hGlobal.allocatedSession
  · rw [hSessions, hUsers]
    exact hGlobal.session
  · rw [hAllocated]
    exact hTo.known
  · rw [hAllocated, hUsers]
    exact hTo.pending
  · rw [hUsers]
    exact hConnection

/-- A new user has a session of its own. -/
theorem holds_registered {thread : Int × Role} {username password : Text}
    (hPlace : s.place thread = .addNewUser username password) {db : Database}
    (hRun : Database.addNewUserCase thread.1 username password s.shared.db = (.ok true, db)) :
    outline.Holds ⟨{ s.shared with db := db },
      Function.update s.place thread (.insertUser username password)⟩ := by
  have hGlobal : Global removing s.shared := h.1
  have hOwn : Own removing thread s.shared (s.place thread) := h.2 thread
  obtain ⟨hFalse, -⟩ | ⟨-, hUnknown, rfl⟩ := addNewUserCase_cases hRun
  · cases hFalse
  have hOld : ∀ user : UserRef, user < s.shared.db.allocated → Function.update s.shared.db.users
      s.shared.db.allocated ⟨username, password, thread.1, true⟩ user = s.shared.db.users user :=
    fun user hUser => Function.update_of_ne (Nat.ne_of_lt hUser) _ _
  rw [hPlace] at hOwn
  refine holds_next h removing ⟨?_, ?_, ?_⟩ (.free hOwn.removing rfl rfl)
    (Nat.le_succ _) (fun _ _ => rfl) ?_
  · exact PartialMap.put_all (P := (· < s.shared.db.allocated + 1))
      (fun name user hUser => Nat.lt_succ_of_lt (hGlobal.allocatedUser name user hUser))
      (Nat.lt_succ_self _) username
  · intro c user hUser
    rcases eq_some_of_putIfAbsent hUser with ⟨-, rfl⟩ | hUser
    · exact Nat.lt_succ_self _
    · exact Nat.lt_succ_of_lt (hGlobal.allocatedSession c user hUser)
  · intro c user hUser
    dsimp only
    rcases eq_some_of_putIfAbsent hUser with ⟨rfl, rfl⟩ | hUser
    · rw [Function.update_self]
      exact Or.inl ⟨rfl, rfl⟩
    · rw [hOld user (hGlobal.allocatedSession c user hUser)]
      exact hGlobal.session c user hUser
  · intro other user _ _ hLt hConnection
    dsimp only
    rw [hOld user hLt]
    exact hConnection

/-- A session is opened for a known user that no logout of another connection holds. -/
theorem holds_opened {thread : Int × Role} {user : UserRef} {username password : Text}
    (hPlace : s.place thread = .userExists user username password)
    (hLoggedOut : (s.shared.db.users user).isLoggedIn = false)
    (hFree : ∀ other, other.1 ≠ thread.1 → (s.place other).pending ≠ some user) :
    outline.Holds ⟨{ s.shared with db := s.shared.db.opened thread.1 user },
      Function.update s.place thread (.logLogin username)⟩ := by
  have hGlobal : Global removing s.shared := h.1
  have hOwn : Own removing thread s.shared (s.place thread) := h.2 thread
  rw [hPlace] at hOwn
  have hLt := hOwn.known user rfl
  refine holds_next h removing ⟨hGlobal.allocatedUser, ?_, ?_⟩ (.free hOwn.removing rfl rfl)
    (Nat.le_refl _) (fun _ _ => rfl) ?_
  · exact PartialMap.put_all hGlobal.allocatedSession hLt thread.1
  · intro c other hOther
    rcases PartialMap.put_eq_some.1 hOther with ⟨rfl, rfl⟩ | ⟨-, hOther⟩
    · simp [Database.opened]
    · rcases hGlobal.session c other hOther with hSession | hRemoving
      · have hNe : other ≠ user := by
          rintro rfl
          rw [hLoggedOut] at hSession
          cases hSession.2
        simpa [Database.opened, hNe] using Or.inl hSession
      · exact Or.inr hRemoving
  · intro other pending hOther hPending _ hConnection
    by_cases hUser : pending = user
    · subst hUser
      have hSame : other.1 = thread.1 := by
        by_contra hNe
        exact hFree other hNe hPending
      simp [Database.opened, hSame]
    · simpa [Database.opened, hUser] using hConnection

/-- The entry of the thread's own connection is removed. -/
theorem holds_removed {thread : Int × Role} {place : SessionPlace}
    (hTo : removes place = false) (hFetched : fetched place = none)
    (hPending : place.pending = none) :
    outline.Holds ⟨{ s.shared with db := { s.shared.db with
      connectionsIdMap := Function.update s.shared.db.connectionsIdMap thread.1 none } },
      Function.update s.place thread place⟩ := by
  have hGlobal : Global removing s.shared := h.1
  refine holds_next h (Function.update removing thread false)
    ⟨hGlobal.allocatedUser, ?_, ?_⟩ (.free ?_ hFetched hPending) (Nat.le_refl _)
    (fun other hOther => Function.update_of_ne hOther _ _) (fun _ _ _ _ _ hConnection => hConnection)
  · intro c user hSession
    exact hGlobal.allocatedSession c user (PartialMap.remove_eq_some.1 hSession).2
  · intro c user hSession
    obtain ⟨hc, hSession⟩ := PartialMap.remove_eq_some.1 hSession
    apply (hGlobal.session c user hSession).imp_right
    rintro ⟨role, hRemoving⟩
    refine ⟨role, ?_⟩
    rwa [Function.update_of_ne]
    rintro rfl
    exact hc rfl
  · rw [Function.update_self, hTo]

/-- A user is logged out whose session is the one of the thread's connection. -/
theorem holds_loggedOut {thread : Int × Role} {user : UserRef}
    (hPlace : s.place thread = .logoutUser user) :
    outline.Holds ⟨{ s.shared with db := s.shared.db.onUser user User.logout },
      Function.update s.place thread .removeSession⟩ := by
  have hGlobal : Global removing s.shared := h.1
  have hOwn : Own removing thread s.shared (s.place thread) := h.2 thread
  rw [hPlace] at hOwn
  obtain ⟨-, hOwner⟩ := hOwn.pending user rfl
  have hConnection : ∀ other, ((s.shared.db.onUser user User.logout).users other).connectionId =
      (s.shared.db.users other).connectionId := by
    intro other
    by_cases hOther : other = user
    · subst hOther
      simp [Database.onUser, User.logout]
    · simp [Database.onUser, hOther]
  refine holds_next h (Function.update removing thread true)
    ⟨hGlobal.allocatedUser, hGlobal.allocatedSession, ?_⟩
    (.free (Function.update_self ..) rfl rfl) (Nat.le_refl _)
    (fun other hOther => Function.update_of_ne hOther _ _) ?_
  · intro c other hSession
    by_cases hc : c = thread.1
    · subst hc
      exact Or.inr ⟨thread.2, Function.update_self _ _ _⟩
    · rcases hGlobal.session c other hSession with ⟨hOwned, hLoggedIn⟩ | ⟨role, hRemoving⟩
      · have hNe : other ≠ user := by
          rintro rfl
          exact hc (hOwned.symm.trans hOwner)
        exact Or.inl (by simp [Database.onUser, hNe, hOwned, hLoggedIn])
      · refine Or.inr ⟨role, ?_⟩
        rwa [Function.update_of_ne]
        rintro rfl
        exact hc rfl
  · intro other pending _ _ _ hBefore
    rw [hConnection pending]
    exact hBefore

theorem holds_called {thread : Int × Role} {returns throws place : SessionPlace} {sql : Text}
    {shared : SessionShared}
    (hCall : SessionPlace.callSQL sql s.shared returns throws = (shared, place))
    (hReturns : Own removing thread s.shared returns)
    (hThrows : Own removing thread s.shared throws) :
    outline.Holds ⟨shared, Function.update s.place thread place⟩ := by
  unfold SessionPlace.callSQL at hCall
  rw [Database.executeSQL_apply] at hCall
  cases hOutcome : s.shared.db.sqlService 0 with
  | reply response =>
      rw [hOutcome] at hCall
      obtain ⟨rfl, rfl⟩ := Prod.mk.inj hCall
      exact holds_quiet h (.called _ _) hReturns
  | failure message =>
      rw [hOutcome] at hCall
      obtain ⟨rfl, rfl⟩ := Prod.mk.inj hCall
      exact holds_quiet h (.called _ _) hThrows

/-- The steps that meet the condition keep the outline. -/
theorem step_holds {label : (Int × Role) × Task} {t : SessionThreads}
    (hCond : s.NoOverlap label) (hStep : step s label = some t) : outline.Holds t := by
  obtain ⟨thread, task⟩ := label
  obtain ⟨shared, place, hAct, rfl⟩ := step_eq_some.1 hStep
  have hGlobal : Global removing s.shared := h.1
  have hOwn : Own removing thread s.shared (s.place thread) := h.2 thread
  unfold NoOverlap at hCond
  dsimp only at hCond
  cases hPlace : s.place thread with
  | idle =>
      rw [hPlace] at hAct hOwn
      cases task with
      | next => cases hAct
      | handleDisconnect =>
          obtain ⟨rfl, rfl⟩ := Prod.mk.inj (Option.some.inj hAct)
          exact holds_quiet h (.refl _) (.free hOwn.removing rfl rfl)
      | login username password =>
          simp only [SessionPlace.act, Option.ite_none_right_eq_some] at hAct
          obtain ⟨rfl, rfl⟩ := Prod.mk.inj (Option.some.inj hAct.2)
          exact holds_quiet h (.refl _) (.free hOwn.removing rfl rfl)
  | containsConnection username password =>
      rw [hPlace] at hAct hOwn
      obtain ⟨rfl, rfl⟩ := Prod.mk.inj (Option.some.inj hAct)
      split
      · exact holds_quiet h (.refl _) (.free hOwn.removing rfl rfl)
      · exact holds_quiet h (.refl _) (.free hOwn.removing rfl rfl)
  | addNewUser username password =>
      rw [hPlace] at hAct hOwn
      simp only [SessionPlace.act] at hAct
      split at hAct
      · rename_i db hRun
        obtain ⟨rfl, rfl⟩ := Prod.mk.inj (Option.some.inj hAct)
        exact holds_registered h hPlace hRun
      · rename_i db hRun
        obtain ⟨rfl, rfl⟩ := Prod.mk.inj (Option.some.inj hAct)
        obtain ⟨-, rfl⟩ | ⟨hTrue, -⟩ := addNewUserCase_cases hRun
        · exact holds_quiet h (.refl _) (.free hOwn.removing rfl rfl)
        · cases hTrue
      · rename_i e db hRun
        obtain ⟨hFalse, -⟩ | ⟨hTrue, -⟩ := addNewUserCase_cases hRun
        · cases hFalse
        · cases hTrue
  | insertUser username password =>
      rw [hPlace] at hAct hOwn
      exact holds_called h (Option.some.inj hAct) (.free hOwn.removing rfl rfl)
        (.free hOwn.removing rfl rfl)
  | insertLogin username =>
      rw [hPlace] at hAct hOwn
      exact holds_called h (Option.some.inj hAct) (.free hOwn.removing rfl rfl)
        (.free hOwn.removing rfl rfl)
  | removeConnection username =>
      rw [hPlace] at hAct hOwn
      obtain ⟨rfl, rfl⟩ := Prod.mk.inj (Option.some.inj hAct)
      exact holds_removed h rfl rfl rfl
  | removeUser username =>
      rw [hPlace] at hAct hOwn
      obtain ⟨rfl, rfl⟩ := Prod.mk.inj (Option.some.inj hAct)
      refine holds_next h removing ⟨?_, hGlobal.allocatedSession, hGlobal.session⟩
        (.free hOwn.removing rfl rfl) (Nat.le_refl _) (fun _ _ => rfl) (fun _ _ _ _ _ hConnection => hConnection)
      intro name user hUser
      exact hGlobal.allocatedUser name user (PartialMap.remove_eq_some.1 hUser).2
  | getUser username password =>
      rw [hPlace] at hAct hOwn
      obtain ⟨rfl, rfl⟩ := Prod.mk.inj (Option.some.inj hAct)
      split
      · exact holds_quiet h (.refl _) (.free hOwn.removing rfl rfl)
      · rename_i user hUser
        refine holds_quiet h (.refl _) ⟨hOwn.removing, fun other hSame => ?_, fun _ hSame => ?_⟩
        · obtain rfl := Option.some.inj hSame
          exact hGlobal.allocatedUser username user hUser
        · cases hSame
  | userExists user username password =>
      rw [hPlace] at hAct hCond hOwn
      simp only [SessionPlace.act, SessionPlace.userExistsSection] at hAct
      by_cases hLoggedIn : (s.shared.db.users user).isLoggedIn = true
      · simp only [hLoggedIn, if_true] at hAct
        obtain ⟨rfl, rfl⟩ := Prod.mk.inj (Option.some.inj hAct)
        exact holds_quiet h (.refl _) (.free hOwn.removing rfl rfl)
      · have hLoggedOut := Bool.eq_false_of_not_eq_true hLoggedIn
        by_cases hPassword : (s.shared.db.users user).password = password
        · simp only [hLoggedOut, hPassword, Bool.false_eq_true, if_false, ne_eq, not_true_eq_false]
            at hAct
          obtain ⟨rfl, rfl⟩ := Prod.mk.inj (Option.some.inj hAct)
          have hOpened := holds_opened h hPlace hLoggedOut (hCond hLoggedOut hPassword)
          simpa [Database.opened, Database.onUser, User.login, User.setConnectionId] using hOpened
        · simp only [hLoggedOut, hPassword, Bool.false_eq_true, if_false, ne_eq, not_false_eq_true,
            if_true] at hAct
          obtain ⟨rfl, rfl⟩ := Prod.mk.inj (Option.some.inj hAct)
          exact holds_quiet h (.refl _) (.free hOwn.removing rfl rfl)
  | logLogin username =>
      rw [hPlace] at hAct hOwn
      exact holds_called h (Option.some.inj hAct) (.free hOwn.removing rfl rfl)
        (.free hOwn.removing rfl rfl)
  | setUserName username =>
      rw [hPlace] at hAct hOwn
      obtain ⟨rfl, rfl⟩ := Prod.mk.inj (Option.some.inj hAct)
      exact holds_quiet h (.refl _) (.free hOwn.removing rfl rfl)
  | isLoggedIn =>
      rw [hPlace] at hAct hOwn
      obtain ⟨rfl, rfl⟩ := Prod.mk.inj (Option.some.inj hAct)
      split
      · exact holds_quiet h (.refl _) (.free hOwn.removing rfl rfl)
      · exact holds_quiet h (.refl _) (.free hOwn.removing rfl rfl)
  | getSession =>
      rw [hPlace] at hAct hCond hOwn
      obtain ⟨rfl, rfl⟩ := Prod.mk.inj (Option.some.inj hAct)
      split
      · exact holds_quiet h (.refl _) (.free hOwn.removing rfl rfl)
      · rename_i user hUser
        refine holds_quiet h (.refl _) ⟨hOwn.removing, fun _ hSame => ?_, fun other hSame => ?_⟩
        · cases hSame
        · obtain rfl := Option.some.inj hSame
          exact ⟨hGlobal.allocatedSession thread.1 user hUser, hCond user hUser⟩
  | updateHistory user =>
      rw [hPlace] at hAct hOwn
      exact holds_called h (Option.some.inj hAct) ⟨hOwn.removing, hOwn.known, hOwn.pending⟩
        (.free hOwn.removing rfl rfl)
  | logoutUser user =>
      rw [hPlace] at hAct hOwn
      obtain ⟨rfl, rfl⟩ := Prod.mk.inj (Option.some.inj hAct)
      exact holds_loggedOut h hPlace
  | removeSession =>
      rw [hPlace] at hAct hOwn
      obtain ⟨rfl, rfl⟩ := Prod.mk.inj (Option.some.inj hAct)
      exact holds_removed h rfl rfl rfl
  | clearUserName =>
      rw [hPlace] at hAct hOwn
      obtain ⟨rfl, rfl⟩ := Prod.mk.inj (Option.some.inj hAct)
      exact holds_quiet h (.refl _) (.free hOwn.removing rfl rfl)

/-- A logout only ever acts on sessions of its own connection. -/
theorem logoutHarmless (label : (Int × Role) × Task) : s.LogoutHarmless label := by
  intro hLogout t hStep
  obtain ⟨thread, task⟩ := label
  obtain ⟨shared, place, hAct, rfl⟩ := step_eq_some.1 hStep
  have hOwn : Own removing thread s.shared (s.place thread) := h.2 thread
  have hQuiet : ∀ {db : Database}, s.shared.db.SameData db → Harmless thread.1 s.shared.db db :=
    fun hData => ⟨fun user _ _ => by rw [hData.users], fun d _ => by rw [hData.connectionsIdMap]⟩
  dsimp only at hLogout
  cases hPlace : s.place thread with
  | isLoggedIn =>
      rw [hPlace] at hAct
      obtain ⟨rfl, rfl⟩ := Prod.mk.inj (Option.some.inj hAct)
      exact hQuiet (.refl _)
  | getSession =>
      rw [hPlace] at hAct
      obtain ⟨rfl, rfl⟩ := Prod.mk.inj (Option.some.inj hAct)
      exact hQuiet (.refl _)
  | updateHistory user =>
      rw [hPlace] at hAct
      have hCall : SessionPlace.callSQL _ s.shared _ _ = (shared, place) := Option.some.inj hAct
      unfold SessionPlace.callSQL at hCall
      rw [Database.executeSQL_apply] at hCall
      cases hOutcome : s.shared.db.sqlService 0 <;> rw [hOutcome] at hCall <;>
        obtain ⟨rfl, rfl⟩ := Prod.mk.inj hCall <;> exact hQuiet (.called _ _)
  | logoutUser user =>
      rw [hPlace] at hAct hOwn
      obtain ⟨rfl, rfl⟩ := Prod.mk.inj (Option.some.inj hAct)
      refine ⟨fun other _ hOther => ?_, fun d _ => rfl⟩
      have hNe : other ≠ user := by
        rintro rfl
        exact hOther (hOwn.pending other rfl).2
      exact Function.update_of_ne hNe _ _
  | removeSession =>
      rw [hPlace] at hAct
      obtain ⟨rfl, rfl⟩ := Prod.mk.inj (Option.some.inj hAct)
      exact ⟨fun _ _ _ => rfl, fun d hOther => Function.update_of_ne hOther _ _⟩
  | clearUserName =>
      rw [hPlace] at hAct
      obtain ⟨rfl, rfl⟩ := Prod.mk.inj (Option.some.inj hAct)
      exact hQuiet (.refl _)
  | _ =>
      rw [hPlace] at hLogout
      cases hLogout

/-- Two entries of one user: the threads of one of the connections are about to remove
it. -/
theorem notShared : s.NotShared := by
  have hGlobal : Global removing s.shared := h.1
  have hOwner : ∀ c user, s.Live c → s.shared.db.connectionsIdMap c = some user →
      (s.shared.db.users user).connectionId = c := by
    intro c user hLive hSession
    rcases hGlobal.session c user hSession with hOpen | ⟨role, hRemoving⟩
    · exact hOpen.1
    · have hOwn : Own removing (c, role) s.shared (s.place (c, role)) := h.2 (c, role)
      have hNot := hLive role
      rw [hOwn.removing] at hRemoving
      cases hPlace : s.place (c, role) <;>
        simp [hPlace, removes, SessionPlace.inLogout] at hRemoving hNot
  intro c d user hOther hLiveC hLiveD hC hD
  exact hOther ((hOwner c user hLiveC hC).symm.trans (hOwner d user hLiveD hD))

end

theorem initial_holds {s : SessionThreads} (h : s.Initial) : outline.Holds s := by
  obtain ⟨sqlService, userName, rfl⟩ := h
  refine ⟨fun _ => false, ⟨?_, ?_, ?_⟩, fun thread => .free rfl rfl rfl⟩
  · intro name user hUser
    cases hUser
  · intro c user hSession
    cases hSession
  · intro c user hSession
    cases hSession

/-- As long as no session of a user is opened while a logout elsewhere still holds that
user, logouts end no session of another connection, and no two live connections share
a user. -/
theorem logout_keeps_other_sessions {s : SessionThreads} {labels : List ((Int × Role) × Task)}
    (hs : s.Initial) (h : Transition.Along step NoOverlap s labels) :
    Transition.Along step LogoutHarmless s labels ∧ Transition.Always step NotShared s labels := by
  have hStep : ∀ (s : SessionThreads) label (t : SessionThreads), outline.Holds s →
      s.NoOverlap label → step s label = some t → outline.Holds t := by
    rintro s label t ⟨removing, hHolds⟩ hCond hNext
    exact step_holds hHolds hCond hNext
  constructor
  · refine Transition.Along.of_invariant hStep ?_ (initial_holds hs) h
    rintro s label ⟨removing, hHolds⟩ _
    exact logoutHarmless hHolds label
  · apply (Transition.always_of_along hStep (initial_holds hs) h).mono
    rintro s ⟨removing, hHolds⟩
    exact notShared hHolds

/-- A server that just started, with no call under way. -/
def noneCalled : SessionThreads := ⟨⟨.new fun _ => .reply [], fun _ => []⟩, fun _ => .idle⟩

/-- A thread takes up a task and goes on for so many steps. -/
def goes (thread : Int × Role) (task : Task) (steps : Nat) : List ((Int × Role) × Task) :=
  (thread, task) :: List.replicate steps (thread, .next)

/-- The pool thread of a connection takes so many steps of a login. -/
def login (c : Int) (steps : Nat) : List ((Int × Role) × Task) :=
  goes (c, .pool) (.login "meni".toList "films".toList) steps

/-- One client logs in and out. -/
def oneVisit : List ((Int × Role) × Task) := login 1 5 ++ goes (1, .pool) .handleDisconnect 6

/-- One visit of a user whose connection is torn down once. -/
theorem logout_keeps_other_sessions_oneVisit :
    Transition.Along step LogoutHarmless noneCalled oneVisit ∧
      Transition.Always step NotShared noneCalled oneVisit := by
  refine logout_keeps_other_sessions ⟨_, _, rfl⟩ ?_
  repeat refine .cons trivial rfl ?_
  refine .cons ?_ rfl ?_
  · intro user hUser
    obtain rfl := Option.some.inj hUser
    rfl
  · repeat refine .cons trivial rfl ?_
    trivial

/-- Both threads of connection 1 have read its user. One of them finishes the logout,
the user logs in on connection 2, and the other one goes on. -/
def overlap : List ((Int × Role) × Task) :=
  login 1 5 ++ goes (1, .pool) .handleDisconnect 2 ++ goes (1, .selector) .handleDisconnect 3 ++
    List.replicate 4 ((1, .pool), .next) ++ login 2 6

/-- The state after the two calls of `logout` of one connection have run into each other. -/
def overlapped : SessionThreads := (Transition.run step noneCalled overlap).getD noneCalled

/-- The pool thread and the selector thread both log the user of one connection out. Between the
two the user comes back on another connection, and the second logout ends that session. -/
theorem logout_ends_other_session :
    ¬∀ s labels, Initial s → Transition.Along step LogoutHarmless s labels := by
  intro h
  have hRun : Transition.run step noneCalled overlap = some overlapped := rfl
  have hAll := h noneCalled (overlap ++ [((1, .selector), .next)]) ⟨_, _, rfl⟩
  have hHarmless := (hAll.at_step hRun) rfl _ rfl
  exact absurd (hHarmless.1 0 rfl (by decide)) (by decide)

end StompGames.SessionThreads
