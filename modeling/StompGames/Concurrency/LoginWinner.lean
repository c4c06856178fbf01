import StompGames.Concurrency.LoginContest
import StompGames.Concurrency.LogoutOverlap

/-! How a contest ends. A session is opened by one call at most, all others are
rejected, and no call waits forever. An entry of the user that a logout has left in
`connectionsIdMap` stays there, beside that of the winner. -/
namespace StompGames

open Threads

namespace LoginContest

/-- No connection has an entry of the user. -/
def NoSession (username : Text) (db : Database) : Prop := ∀ c, ¬Opened username c db

end LoginContest

/-- Where the maps are aligned, a user that is not logged in has no session. -/
theorem Database.Sessions.loggedOut {db : Database} (h : db.Sessions) {username : Text}
    (hLoggedOut : db.isLoggedIn username = false) :
    LoggedOut username db ∧ LoginContest.NoSession username db := by
  have hFlag : ∀ user, db.userMap username = some user → (db.users user).isLoggedIn = false := by
    intro user hUser
    simpa [Database.isLoggedIn, hUser] using hLoggedOut
  constructor
  · refine ⟨hFlag, fun name user hUser => (h.named name user hUser).2, ?_⟩
    exact fun c user hSession => (h.named _ user (h.bound c user hSession).1).2
  · rintro c ⟨user, hUser, hSession⟩
    have hOpen := (h.bound c user hSession).2.1
    rw [hFlag user hUser] at hOpen
    cases hOpen

namespace LoginContest

variable {start : Database} {username : Text} {password : Int → Text}

/-- No thread has taken a step yet, and the connections that call have no session. -/
structure Initial (start : Database) (s : LoginThreads) : Prop where
  db : s.shared.db = start
  mapLock : s.shared.mapLock = none
  userLock : ∀ user, s.shared.userLock user = none
  place : ∀ c, s.place c = .notCalled ∨
    (s.place c = .containsConnection ∧ start.connectionsIdMap c = none)

section
variable (hStart : LoggedOut username start)
  (hSql : ∀ n, (start.sqlService n).succeeds = true) {s : LoginThreads}
include hStart hSql

theorem initial_holds (h : Initial start s) : (outline start username password).Holds s := by
  obtain ⟨hDb, hMapLock, hUserLock, hPlace⟩ := h
  refine ⟨none, ?_, fun c => ?_⟩
  · change Global start username password none s.shared
    constructor <;> rw [hDb]
    · exact hSql
    · exact hStart.allocatedUser
    · exact hStart.allocatedSession
    · exact fun user c hUser hSession => Or.inr ⟨user, hUser, hSession⟩
    · exact hStart.loggedOut
    · exact fun _ hUser => hUser
    · intro hUnknown user hUser
      cases hUnknown.symm.trans hUser
    · intro _ c hSome
      cases hSome
    · exact fun c user hSession => hSession
  · change Own start username password none c s.shared (s.place c)
    rcases hPlace c with hPlace | ⟨hPlace, hFree⟩ <;> rw [hPlace]
    · exact ⟨by simp [LoginPlace.won], by simp [hMapLock, LoginPlace.holdsMap],
        by simp [hUserLock, LoginPlace.holdsUser], trivial⟩
    · exact ⟨by simp [LoginPlace.won], by simp [hMapLock, LoginPlace.holdsMap],
        by simp [hUserLock, LoginPlace.holdsUser], by rwa [hDb]⟩

theorem reachable_holds
    (h : Transition.Reachable (Initial start) (LoginThreads.step username password) s) :
    (outline start username password).Holds s := by
  refine Outline.holds_of_reachable (Allowed username)
    (fun t ht => initial_holds hStart hSql ht) ?_ ?_ h
  · intro winner c _ shared place shared' place' hGlobal hOwn hAct
    exact reaches_of_act hGlobal hOwn hAct
  · intro winner c d shared place winner' shared' hOther _ hOwn hAllowed
    exact hOwn.other hOther hAllowed

end

/-- A connection that has an entry from the start calls nothing. -/
theorem notCalled_of_session {s : LoginThreads} {c : Int}
    (h : Transition.Reachable (Initial start) (LoginThreads.step username password) s)
    (hSession : start.connectionsIdMap c ≠ none) : s.place c = .notCalled := by
  apply h.invariant (I := fun s => s.place c = .notCalled)
  · intro t ht
    exact (ht.place c).resolve_right fun hFree => hSession hFree.2
  · rintro t ⟨d, _⟩ u hPlace hStep
    obtain ⟨shared, place, hAct, rfl⟩ := step_eq_some.1 hStep
    have hOther : c ≠ d := by
      rintro rfl
      rw [hPlace] at hAct
      cases hAct
    exact (Function.update_of_ne hOther _ _).trans hPlace

/-- How many steps a call can take at most from here on. -/
def remaining : LoginPlace → Nat
  | .notCalled => 0
  | .containsConnection => 20
  | .containsUser => 19
  | .enterMap => 18
  | .containsUserAgain => 17
  | .newUser => 16
  | .loginNew _ => 15
  | .putUser _ => 14
  | .putConnection _ => 13
  | .exitMap _ => 12
  | .insertUser => 4
  | .insertLogin => 3
  | .removeConnection _ => 2
  | .removeUser _ => 1
  | .getUser => 9
  | .enterUser _ => 8
  | .isLoggedIn _ => 7
  | .equalsPassword _ => 6
  | .loginUser _ => 5
  | .setConnectionId _ => 4
  | .putSession _ => 3
  | .exitUser _ _ => 2
  | .logLogin _ => 1
  | .returned _ => 0
  | .thrown _ => 0

theorem remaining_callSQL {bound : Nat} {returns : LoginPlace}
    {throws : JavaException → LoginPlace} (hReturns : remaining returns < bound)
    (hThrows : ∀ e, remaining (throws e) < bound) (sql : Text) (s : LoginShared) :
    remaining (LoginPlace.callSQL sql s returns throws).2 < bound := by
  unfold LoginPlace.callSQL
  split
  · exact hReturns
  · exact hThrows _

theorem remaining_lt {pass : Text} {c : Int} {s s' : LoginShared} {place place' : LoginPlace}
    (h : place.act username pass c s = some (s', place')) : remaining place' < remaining place := by
  cases place with
  | notCalled => cases h
  | returned status => cases h
  | thrown e => cases h
  | enterMap =>
      simp only [LoginPlace.act, Option.ite_none_right_eq_some] at h
      obtain ⟨-, rfl⟩ := Prod.mk.inj (Option.some.inj h.2)
      exact Nat.lt_succ_self _
  | enterUser user =>
      simp only [LoginPlace.act, Option.ite_none_right_eq_some] at h
      obtain ⟨-, rfl⟩ := Prod.mk.inj (Option.some.inj h.2)
      exact Nat.lt_succ_self _
  | insertUser =>
      rw [← (Prod.mk.inj (Option.some.inj h)).2]
      refine remaining_callSQL ?_ (fun e => ?_) _ s <;> simp [remaining]
  | insertLogin =>
      rw [← (Prod.mk.inj (Option.some.inj h)).2]
      refine remaining_callSQL ?_ (fun e => ?_) _ s <;> simp [remaining]
  | logLogin status =>
      rw [← (Prod.mk.inj (Option.some.inj h)).2]
      exact remaining_callSQL (Nat.lt_succ_self 0) (fun _ => Nat.lt_succ_self 0) _ s
  | _ =>
      obtain ⟨-, rfl⟩ := Prod.mk.inj (Option.some.inj h)
      (try split) <;> simp [remaining]

/-- A call that can take no step has ended or waits for a monitor. -/
theorem act_eq_none {pass : Text} {c : Int} {s : LoginShared} {place : LoginPlace}
    (h : place.act username pass c s = none) : place = .notCalled ∨
      (∃ status, place = .returned status) ∨ (∃ e, place = .thrown e) ∨
      (place = .enterMap ∧ s.mapLock ≠ none) ∨
      ∃ user, place = .enterUser user ∧ s.userLock user ≠ none := by
  cases place with
  | notCalled => exact Or.inl rfl
  | returned status => exact Or.inr (Or.inl ⟨status, rfl⟩)
  | thrown e => exact Or.inr (Or.inr (Or.inl ⟨e, rfl⟩))
  | enterMap =>
      refine Or.inr (Or.inr (Or.inr (Or.inl ⟨rfl, fun hFree => ?_⟩)))
      simp [LoginPlace.act, hFree] at h
  | enterUser user =>
      refine Or.inr (Or.inr (Or.inr (Or.inr ⟨user, rfl, fun hFree => ?_⟩)))
      simp [LoginPlace.act, hFree] at h
  | _ => cases h

/-- No call can take a step. -/
def Ended (username : Text) (password : Int → Text) (s : LoginThreads) : Prop :=
  ∀ c, LoginThreads.step username password s (c, ()) = none

section
variable {winner : Option Int} {s : LoginThreads}
  (h : (outline start username password).HoldsAt winner s)
include h

/-- Monitors are held by calls that can go on, so nobody waits forever. -/
theorem returned_of_ended (hEnded : Ended username password s) (c : Int) :
    s.place c = .notCalled ∨ ∃ status, s.place c = .returned status := by
  have hOwn : ∀ d, Own start username password winner d s.shared (s.place d) := h.2
  have hStuck : ∀ d, (s.place d).act username (password d) d s.shared = none := by
    intro d
    simpa [LoginThreads.step, Threads.step] using hEnded d
  rcases act_eq_none (hStuck c) with hPlace | hPlace | ⟨e, hPlace⟩ | ⟨-, hHeld⟩ | ⟨user, -, hHeld⟩
  · exact Or.inl hPlace
  · exact Or.inr hPlace
  · have hStands := (hOwn c).stands
    rw [hPlace] at hStands
    exact hStands.elim
  · obtain ⟨d, hHeld⟩ := Option.ne_none_iff_exists'.1 hHeld
    have hHolds := (hOwn d).map.1 hHeld
    rcases act_eq_none (hStuck d) with hPlace | ⟨status, hPlace⟩ | ⟨e, hPlace⟩ | ⟨hPlace, -⟩ |
      ⟨user, hPlace, -⟩ <;> rw [hPlace] at hHolds <;> cases hHolds
  · obtain ⟨d, hHeld⟩ := Option.ne_none_iff_exists'.1 hHeld
    have hHolds := ((hOwn d).user user).1 hHeld
    rcases act_eq_none (hStuck d) with hPlace | ⟨status, hPlace⟩ | ⟨e, hPlace⟩ | ⟨hPlace, -⟩ |
      ⟨user, hPlace, -⟩ <;> rw [hPlace] at hHolds <;> cases hHolds

theorem winner_of_success {c : Int} (hSuccess : (s.place c).Success) : winner = some c := by
  apply (h.2 c).won.2
  rcases hSuccess with hPlace | hPlace <;> rw [hPlace] <;> rfl

theorem answer {c : Int} {status : LoginStatus} (hReturned : s.place c = .returned status) :
    (s.place c).Rejected ∨
      (s.place c = .returned .addedNewUser ∧ start.userMap username = none) ∨
      (s.place c = .returned .loggedInSuccessfully ∧ start.userMap username ≠ none) := by
  have hStands : Stands start username password c s.shared.db (s.place c) := (h.2 c).stands
  rw [hReturned] at hStands ⊢
  cases status with
  | clientAlreadyConnected => exact hStands.elim
  | addedNewUser => exact Or.inr (Or.inl ⟨rfl, hStands.1⟩)
  | alreadyLoggedIn => exact Or.inl (Or.inl rfl)
  | loggedInSuccessfully => exact Or.inr (Or.inr ⟨rfl, hStands.1⟩)
  | wrongPassword => exact Or.inl (Or.inr rfl)

/-- Of a call that has won and returned. -/
theorem success_of_winner (hEnded : Ended username password s) {c : Int}
    (hWinner : winner = some c) : (s.place c).Success := by
  have hWon := (h.2 c).won.1 hWinner
  rcases returned_of_ended h hEnded c with hPlace | ⟨status, hPlace⟩
  · rw [hPlace] at hWon
    cases hWon
  · rcases answer h hPlace with hRejected | hAdded | hLoggedIn
    · rcases hRejected with hRejected | hRejected <;> rw [hRejected] at hWon <;> cases hWon
    · exact Or.inl hAdded.1
    · exact Or.inr hLoggedIn.1

/-- Whoever has been answered knows the user. -/
theorem known_of_returned {c : Int} {status : LoginStatus}
    (hReturned : s.place c = .returned status) :
    ∃ user, s.shared.db.userMap username = some user := by
  have hStands : Stands start username password c s.shared.db (s.place c) := (h.2 c).stands
  rcases answer h hReturned with (hPlace | hPlace) | ⟨hPlace, -⟩ | ⟨hPlace, -⟩ <;>
    rw [hPlace] at hStands
  · exact Option.ne_none_iff_exists'.1 hStands
  · exact Option.ne_none_iff_exists'.1 hStands
  · obtain ⟨-, user, hUser, -⟩ := hStands
    exact ⟨user, hUser⟩
  · obtain ⟨-, user, hUser, -⟩ := hStands
    exact ⟨user, hUser⟩

end

/-- What concurrent calls of `login` come to. -/
structure OneWinner (start : Database) (username : Text) (password : Int → Text)
    (s : LoginThreads) : Prop where
  unique : ∀ c d, (s.place c).Success → (s.place d).Success → c = d
  answers : ∀ c status, s.place c = .returned status → (s.place c).Rejected ∨
    (s.place c = .returned .addedNewUser ∧ start.userMap username = none) ∨
    (s.place c = .returned .loggedInSuccessfully ∧ start.userMap username ≠ none)
  noException : ∀ c e, s.place c ≠ .thrown e
  progress : ∀ c t, LoginThreads.step username password s (c, ()) = some t →
    remaining (t.place c) < remaining (s.place c)
  returned : Ended username password s → ∀ c, s.place c = .notCalled ∨
    ∃ status, s.place c = .returned status
  registered : Ended username password s → start.userMap username = none →
    (∃ c, s.place c ≠ .notCalled) → ∃ c user, s.place c = .returned .addedNewUser ∧
      s.shared.db.userMap username = some user ∧
      (s.shared.db.users user).password = password c
  session : Ended username password s → ∀ user, s.shared.db.userMap username = some user →
    ∀ c, s.shared.db.connectionsIdMap c = some user ↔ (s.place c).Success

/-- At the end of the calls the user's entries are the winner's and those from the start. -/
theorem session_iff {winner : Option Int} {s : LoginThreads}
    (h : (outline start username password).HoldsAt winner s)
    (hEnded : Ended username password s) {user : UserRef}
    (hUser : s.shared.db.userMap username = some user) (c : Int) :
    s.shared.db.connectionsIdMap c = some user ↔
      (s.place c).Success ∨ Opened username c start := by
  have hGlobal : Global start username password winner s.shared := h.1
  constructor
  · exact fun hSession =>
      (hGlobal.session user c hUser hSession).imp_left (success_of_winner h hEnded)
  · rintro (hSuccess | ⟨other, hOther, hSession⟩)
    · have hStands : Stands start username password c s.shared.db (s.place c) := (h.2 c).stands
      rcases hSuccess with hPlace | hPlace <;> rw [hPlace] at hStands <;>
        obtain ⟨-, other, hOther, hSession⟩ := hStands <;> rw [hSession, ← hOther, hUser]
    · rw [hGlobal.kept c other hSession, ← hGlobal.known other hOther, hUser]

section
variable (hStart : LoggedOut username start)
  (hSql : ∀ n, (start.sqlService n).succeeds = true) {s : LoginThreads}
  (h : Transition.Reachable (Initial start) (LoginThreads.step username password) s)
include hStart hSql h

/-- However their statements interleave, at most one of the calls opens a session. -/
theorem oneWinner_of_noSession (hNoSession : NoSession username start) :
    OneWinner start username password s := by
  obtain ⟨winner, hHolds⟩ := reachable_holds hStart hSql h
  have hGlobal : Global start username password winner s.shared := hHolds.1
  refine ⟨fun c d hc hd => ?_, fun c status => answer hHolds, fun c e hThrown => ?_, ?_,
    returned_of_ended hHolds, ?_, fun hEnded user hUser c => ?_⟩
  · have hSame := (winner_of_success hHolds hc).symm.trans (winner_of_success hHolds hd)
    exact Option.some.inj hSame
  · have hStands := (hHolds.2 c).stands
    rw [hThrown] at hStands
    exact hStands
  · intro c t hStep
    obtain ⟨shared, place, hAct, rfl⟩ := step_eq_some.1 hStep
    dsimp only
    rw [Function.update_self]
    exact remaining_lt hAct
  · rintro hEnded hUnknown ⟨c, hCalled⟩
    obtain ⟨status, hReturned⟩ := (returned_of_ended hHolds hEnded c).resolve_left hCalled
    obtain ⟨user, hUser⟩ := known_of_returned hHolds hReturned
    obtain ⟨d, hWinner, hPassword⟩ := hGlobal.new hUnknown user hUser
    refine ⟨d, user, ?_, hUser, hPassword⟩
    rcases success_of_winner hHolds hEnded hWinner with hPlace | hPlace
    · exact hPlace
    · have hStands := (hHolds.2 d).stands
      rw [hPlace] at hStands
      exact absurd hUnknown hStands.1
  · exact (session_iff hHolds hEnded hUser c).trans (or_iff_left (hNoSession c))

/-- An entry from the start is no winner's, and it is there at the end. -/
theorem noSession_of_ended (hEnded : Ended username password s)
    (hOne : OneWinner start username password s) : NoSession username start := by
  obtain ⟨winner, hHolds⟩ := reachable_holds hStart hSql h
  have hGlobal : Global start username password winner s.shared := hHolds.1
  rintro c ⟨user, hKnown, hSession⟩
  have hUser := hGlobal.known user hKnown
  have hSuccess := (hOne.session hEnded user hUser c).1 (hGlobal.kept c user hSession)
  have hPlace := notCalled_of_session h (hSession ▸ Option.some_ne_none user)
  rw [hPlace] at hSuccess
  rcases hSuccess with hReturned | hReturned <;> cases hReturned

/-- However the calls interleave, they have one winner at most, and its session is the only
one: always where no connection has an entry of the user when they begin, and never at the
end of the calls where one has. -/
theorem one_login_wins_iff : (NoSession username start → OneWinner start username password s) ∧
    (Ended username password s →
      (OneWinner start username password s ↔ NoSession username start)) :=
  ⟨oneWinner_of_noSession hStart hSql h, fun hEnded =>
    ⟨noSession_of_ended hStart hSql h hEnded, oneWinner_of_noSession hStart hSql h⟩⟩

end

/-- Two connections register the same user name, and both have found it unknown before
either has entered the monitor. -/
def bothCall : LoginThreads :=
  ⟨⟨.new fun _ => .reply [], none, fun _ => none⟩,
    fun c => if c = 1 ∨ c = 2 then .containsConnection else .notCalled⟩

/-- Two calls for a new user, the second of which waits while the first is in the block. -/
def bothCalled : List (Int × Unit) :=
  [1, 2, 1, 2, 1, 1, 1, 1, 1, 1, 1, 1, 1, 2, 2, 2, 2, 2, 2, 2].map fun c => (c, ())

/-- The two callers do not agree on the password. -/
def passwordOf (c : Int) : Text := if c = 1 then "films".toList else "music".toList

/-- Both calls have returned. -/
def bothEnded : LoginThreads :=
  (Transition.run (LoginThreads.step "meni".toList passwordOf) bothCall bothCalled).getD bothCall

/-- Calls that have returned, and connections that never called. -/
theorem ended_of_returned {s : LoginThreads}
    (h : ∀ c, s.place c = .notCalled ∨ ∃ status, s.place c = .returned status) :
    Ended username password s := by
  intro c
  have hAct : (s.place c).act username (password c) c s.shared = none := by
    rcases h c with hPlace | ⟨status, hPlace⟩ <;> rw [hPlace] <;> rfl
  simp [LoginThreads.step, Threads.step, hAct]

/-- Two connections log a new user in with passwords of their own. -/
theorem one_login_wins_bothEnded :
    Ended "meni".toList passwordOf bothEnded ∧
      OneWinner (.new fun _ => .reply []) "meni".toList passwordOf bothEnded := by
  have hStart : LoggedOut "meni".toList (.new fun _ => .reply []) ∧
      NoSession "meni".toList (.new fun _ => .reply []) :=
    (Database.Sessions.new fun _ => .reply []).loggedOut rfl
  have hInitial : Initial (.new fun _ => .reply []) bothCall := by
    refine ⟨rfl, rfl, fun _ => rfl, fun c => ?_⟩
    by_cases hc : c = 1 ∨ c = 2
    · exact Or.inr ⟨if_pos hc, rfl⟩
    · exact Or.inl (if_neg hc)
  have hRun : Transition.run (LoginThreads.step "meni".toList passwordOf) bothCall bothCalled =
    some bothEnded := rfl
  have hEnded : Ended "meni".toList passwordOf bothEnded := by
    apply ended_of_returned
    intro c
    by_cases hc : c = 1 ∨ c = 2
    · rcases hc with rfl | rfl
      · exact Or.inr ⟨_, rfl⟩
      · exact Or.inr ⟨_, rfl⟩
    · have hTwo : ∀ label ∈ bothCalled, label.1 = 1 ∨ label.1 = 2 := by decide
      have hOther : ∀ label ∈ bothCalled, label.1 ≠ c := by
        rintro label hLabel rfl
        exact hc (hTwo label hLabel)
      exact Or.inl ((place_of_run hRun hOther).trans (if_neg hc))
  have hOne := one_login_wins_iff hStart.1 (fun _ => rfl) ⟨bothCall, bothCalled, hInitial, hRun⟩
  exact ⟨hEnded, (hOne.2 hEnded).2 hStart.2⟩

example : bothEnded.place 1 = .returned .addedNewUser ∧
    bothEnded.place 2 = .returned .alreadyLoggedIn := ⟨rfl, rfl⟩

/-- The second logout for connection 1 comes to its end as well. -/
def overlapEnd : List ((Int × Role) × Task) :=
  SessionThreads.overlap ++ List.replicate 3 ((1, .selector), .next)

/-- Meni counts as logged out, and connection 2 still has an entry of meni. -/
def leftBehind : SessionThreads :=
  (Transition.run SessionThreads.step SessionThreads.noneCalled overlapEnd).getD
    SessionThreads.noneCalled

theorem leftBehind_run :
    Transition.run SessionThreads.step SessionThreads.noneCalled overlapEnd = some leftBehind := rfl

theorem leftBehind_idle (thread : Int × Role) : leftBehind.place thread = .idle := by
  by_cases hThread : thread = (1, .pool) ∨ thread = (1, .selector) ∨ thread = (2, .pool)
  · rcases hThread with rfl | rfl | rfl <;> rfl
  · refine place_of_run leftBehind_run ?_
    have hThree : ∀ label ∈ overlapEnd,
        label.1 = (1, .pool) ∨ label.1 = (1, .selector) ∨ label.1 = (2, .pool) := by decide
    rintro label hLabel rfl
    exact hThread (hThree label hLabel)

theorem leftBehind_loggedOut : LoggedOut "meni".toList leftBehind.shared.db := by
  have hUsers : leftBehind.shared.db.userMap =
      Function.update (fun _ => none) "meni".toList (some 0) := rfl
  have hSessions : leftBehind.shared.db.connectionsIdMap = Function.update (Function.update
      (Function.update (Function.update (fun _ => none) 1 (some 0)) 1 none) 2 (some 0)) 1 none := rfl
  refine ⟨?_, ?_, ?_⟩
  · intro user hUser
    obtain rfl := Option.some.inj hUser
    rfl
  · intro name user hUser
    rw [hUsers] at hUser
    rcases PartialMap.put_eq_some.1 hUser with ⟨-, rfl⟩ | ⟨-, hBefore⟩
    · exact Nat.zero_lt_one
    · cases hBefore
  · intro c user hSession
    rw [hSessions] at hSession
    rcases PartialMap.put_eq_some.1 (PartialMap.remove_eq_some.1 hSession).2 with
      ⟨-, rfl⟩ | ⟨-, hBefore⟩
    · exact Nat.zero_lt_one
    · obtain ⟨hOther, hFirst⟩ := PartialMap.remove_eq_some.1 hBefore
      rw [Function.update_of_ne hOther] at hFirst
      cases hFirst

/-- Connection 3 calls. -/
def thirdCall : LoginThreads :=
  ⟨⟨leftBehind.shared.db, none, fun _ => none⟩,
    fun c => if c = 3 then .containsConnection else .notCalled⟩

/-- A call for a known user whom nobody else is logging in. -/
def thirdCalled : List (Int × Unit) := List.replicate 11 (3, ())

/-- The call for the known user has returned. -/
def thirdEnded : LoginThreads :=
  (Transition.run (LoginThreads.step "meni".toList fun _ => "films".toList) thirdCall
    thirdCalled).getD thirdCall

/-- The user's flag is down although an entry is left. The call of connection 3 wins, beside the
entry of connection 2. -/
theorem login_beside_session :
    ¬∀ threads, Transition.Reachable SessionThreads.Initial SessionThreads.step threads →
      (∀ thread, threads.place thread = .idle) → ∀ username password,
      LoggedOut username threads.shared.db →
      (∀ n, (threads.shared.db.sqlService n).succeeds = true) → ∀ s,
      Transition.Reachable (Initial threads.shared.db) (LoginThreads.step username password) s →
      OneWinner threads.shared.db username password s := by
  intro h
  have hRun : Transition.run (LoginThreads.step "meni".toList fun _ => "films".toList) thirdCall
    thirdCalled = some thirdEnded := rfl
  have hInitial : Initial leftBehind.shared.db thirdCall := by
    refine ⟨rfl, rfl, fun _ => rfl, fun c => ?_⟩
    by_cases hc : c = 3
    · subst hc
      exact Or.inr ⟨rfl, rfl⟩
    · exact Or.inl (if_neg hc)
  have hOthers : ∀ c, c ≠ 3 → thirdEnded.place c = .notCalled := by
    intro c hc
    have hOther : ∀ label ∈ thirdCalled, label.1 ≠ c := by
      intro label hLabel
      rw [List.eq_of_mem_replicate hLabel]
      exact Ne.symm hc
    exact (place_of_run hRun hOther).trans (if_neg hc)
  have hEnded : Ended "meni".toList (fun _ => "films".toList) thirdEnded := by
    apply ended_of_returned
    intro c
    by_cases hc : c = 3
    · subst hc
      exact Or.inr ⟨_, rfl⟩
    · exact Or.inl (hOthers c hc)
  have hOne := h leftBehind ⟨_, _, ⟨_, _, rfl⟩, leftBehind_run⟩ leftBehind_idle "meni".toList
    (fun _ => "films".toList) leftBehind_loggedOut (fun _ => rfl) thirdEnded
    ⟨thirdCall, thirdCalled, hInitial, hRun⟩
  have hSuccess := (hOne.session hEnded 0 rfl 2).1 rfl
  rw [hOthers 2 (by decide)] at hSuccess
  rcases hSuccess with hReturned | hReturned <;> cases hReturned

end LoginContest
end StompGames
