import StompGames.Server.Sessions

/-! What a failed login leaves behind. The two paths of `Database.login` open the
session before they call the SQL service, and only the one for new users takes
it back. -/
namespace StompGames.Database

/-- Both maps and the login state and connection of every user are the same. -/
structure SameSessions (db db' : Database) : Prop where
  userMap : db'.userMap = db.userMap
  connectionsIdMap : db'.connectionsIdMap = db.connectionsIdMap
  isLoggedIn : ∀ ref, ref < db.allocated → (db'.users ref).isLoggedIn = (db.users ref).isLoggedIn
  connectionId : ∀ ref, ref < db.allocated →
    (db'.users ref).connectionId = (db.users ref).connectionId

/-- If the login throws nothing has changed, and no later login of the user is
rejected as already logged in that would not have been so before. -/
def LoginAtomic (db : Database) (c : Int) (user pass : Text) : Prop :=
  ∀ e db', login c user pass db = (.error e, db') → db.SameSessions db' ∧
    ∀ c' pass', (login c' user pass' db').1 = .ok .alreadyLoggedIn →
      (login c' user pass' db).1 = .ok .alreadyLoggedIn

/-- A registered and logged-out user gives its password on a connection without
a session, and the SQL call that records the login fails. -/
def LeavesSession (db : Database) (c : Int) (user pass : Text) : Prop :=
  db.connectionsIdMap c = none ∧
    (∃ ref, db.userMap user = some ref ∧ (db.users ref).isLoggedIn = false ∧
      (db.users ref).password = pass) ∧ (db.sqlService 0).succeeds = false

/-- A registered user is turned away as logged in on a free connection only
while it is logged in. -/
theorem login_alreadyLoggedIn {db : Database} {c : Int} {user pass : Text}
    (h : (login c user pass db).1 = .ok .alreadyLoggedIn) :
    db.connectionsIdMap c = none ∧
      ∃ ref, db.userMap user = some ref ∧ (db.users ref).isLoggedIn = true := by
  cases hConnection : db.connectionsIdMap c with
  | some other =>
      rw [login_connected (by simp [hConnection])] at h
      cases h
  | none =>
      refine ⟨rfl, ?_⟩
      cases hUser : db.userMap user with
      | none =>
          rw [login_unknown hConnection hUser] at h
          dsimp only at h
          split at h
          · cases h
          · split at h <;> cases h
      | some ref =>
          refine ⟨ref, rfl, ?_⟩
          by_contra hOut
          rw [login_known hConnection hUser, if_neg hOut] at h
          split at h
          · cases h
          · dsimp only at h
            split at h <;> cases h

/-- A login of a new user that throws has taken everything back. -/
theorem SameSessions.rolledBack {db db' : Database} {user : User}
    (hUserMap : db'.userMap = db.userMap)
    (hConnections : db'.connectionsIdMap = db.connectionsIdMap)
    (hUsers : db'.users = Function.update db.users db.allocated user) : db.SameSessions db' := by
  have hOld : ∀ ref, ref < db.allocated → db'.users ref = db.users ref := by
    intro ref hRef
    rw [hUsers, Function.update_of_ne (Nat.ne_of_lt hRef)]
  exact ⟨hUserMap, hConnections, fun ref hRef => by rw [hOld ref hRef],
    fun ref hRef => by rw [hOld ref hRef]⟩

/-- A login either opens a session with everything that belongs to it or changes nothing, in all
cases but one: a known user whose login cannot be written down stays logged in. -/
theorem login_atomic_iff (db : Database) (c : Int) (user pass : Text) :
    db.LoginAtomic c user pass ↔ ¬db.LeavesSession c user pass := by
  constructor
  · rintro hAtomic ⟨hConnection, ⟨ref, hUser, hOut, hPass⟩, hFails⟩
    have hKnown := login_known hConnection hUser pass
    cases hService : db.sqlService 0 with
    | reply response => simp [hService, SqlOutcome.succeeds] at hFails
    | failure message =>
        simp only [hOut, hPass, hService, Bool.false_eq_true, if_false, ne_eq, not_true_eq_false]
          at hKnown
        have hSame := (hAtomic _ _ hKnown).1.connectionsIdMap
        have hEntry : (db.opened c ref).connectionsIdMap c = some ref := Function.update_self ..
        rw [show (db.opened c ref).connectionsIdMap = db.connectionsIdMap from hSame,
          hConnection] at hEntry
        cases hEntry
  · intro hNot e db' hThrow
    obtain ⟨hConnection, ⟨hNew, hUserMap, hConnections, -, hUsers, -⟩ |
      ⟨ref, hUser, hOut, hPass, hFails, -⟩⟩ := login_throw hThrow
    · refine ⟨.rolledBack hUserMap hConnections hUsers, fun c' pass' hRejected => ?_⟩
      obtain ⟨-, ref, hKnown, -⟩ := login_alreadyLoggedIn hRejected
      rw [hUserMap, hNew] at hKnown
      cases hKnown
    · exact absurd ⟨hConnection, ⟨ref, hUser, hOut, hPass⟩, hFails⟩ hNot

end StompGames.Database

namespace StompGames.Server

/-- The service answers this many calls and fails on all others. -/
def failsAfter (calls : Nat) (n : Nat) : SqlOutcome :=
  if n < calls then .reply "SUCCESS".toList else .failure "Connection refused".toList

/-- A user registers and logs out, and the service fails when the user logs in again: an
exception, and a session that was opened all the same. -/
theorem login_not_atomic : ¬∀ s, Transition.Reachable Started step s →
    ∀ c user pass, s.db.LoginAtomic c user pass := by
  intro h
  have hRun := h _ ⟨.new true (failsAfter 3), [.accept 1, .process 1 (connectFrame "meni" "films"),
    .process 1 "DISCONNECT\n\n".toList], ⟨true, _, rfl⟩, rfl⟩ 2 "meni".toList "films".toList
  have hSame := (hRun _ _ rfl).1.connectionsIdMap
  exact absurd (congrFun hSame 2) (by decide)

end StompGames.Server
