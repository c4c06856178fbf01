import StompGames.Server.Database

/-! The two maps of the database and the users they share. A session is an entry
of `connectionsIdMap`; it belongs to one logged-in user, and every logged-in user
has one. -/
namespace StompGames.Database

open Imperative

/-- How a login can open a session: the user is new, or it is known, logged out
and gave its password. -/
theorem login_success {db db' : Database} {c : Int} {user pass : Text} {status : LoginStatus}
    (h : login c user pass db = (.ok status, db'))
    (success : status = .addedNewUser ∨ status = .loggedInSuccessfully) :
    db.connectionsIdMap c = none ∧
      ((db.userMap user = none ∧ db' = ((db.registered c user pass).called
        (insertUserSql user pass)).called (logLoginSql user)) ∨
      ∃ ref, db.userMap user = some ref ∧ (db.users ref).isLoggedIn = false ∧
        (db.users ref).password = pass ∧ db' = (db.opened c ref).called (logLoginSql user)) := by
  cases hConnection : db.connectionsIdMap c with
  | some other =>
      rw [login_connected (by simp [hConnection])] at h
      have hStatus := Except.ok.inj (Prod.mk.inj h).1
      simp [← hStatus] at success
  | none =>
      refine ⟨rfl, ?_⟩
      cases hUser : db.userMap user with
      | none =>
          rw [login_unknown hConnection hUser] at h
          dsimp only at h
          split at h
          · simp at h
          · split at h
            · simp at h
            · exact Or.inl ⟨rfl, (Prod.mk.inj h).2.symm⟩
      | some ref =>
          rw [login_known hConnection hUser] at h
          split at h
          · have hStatus := Except.ok.inj (Prod.mk.inj h).1
            simp [← hStatus] at success
          · split at h
            · have hStatus := Except.ok.inj (Prod.mk.inj h).1
              simp [← hStatus] at success
            · rename_i hLogged hPassword
              dsimp only at h
              split at h
              · simp at h
              · exact Or.inr ⟨ref, rfl, by simpa using hLogged, by simpa using hPassword,
                  (Prod.mk.inj h).2.symm⟩

/-- A login that neither opens a session nor throws leaves the database alone. -/
theorem login_rejected {db db' : Database} {c : Int} {user pass : Text} {status : LoginStatus}
    (h : login c user pass db = (.ok status, db'))
    (hStatus : status = .alreadyLoggedIn ∨ status = .clientAlreadyConnected ∨
      status = .wrongPassword) : db' = db := by
  cases hConnection : db.connectionsIdMap c with
  | some other =>
      rw [login_connected (by simp [hConnection])] at h
      exact (Prod.mk.inj h).2.symm
  | none =>
      cases hUser : db.userMap user with
      | none =>
          rw [login_unknown hConnection hUser] at h
          dsimp only at h
          split at h
          · simp at h
          · split at h
            · simp at h
            · have hEq := Except.ok.inj (Prod.mk.inj h).1
              simp [← hEq] at hStatus
      | some ref =>
          rw [login_known hConnection hUser] at h
          split at h
          · exact (Prod.mk.inj h).2.symm
          · split at h
            · exact (Prod.mk.inj h).2.symm
            · dsimp only at h
              split at h
              · simp at h
              · have hEq := Except.ok.inj (Prod.mk.inj h).1
                simp [← hEq] at hStatus

/-- The rollback of a registration restores both maps. Only an object that
nothing refers to any more is left. -/
theorem registered_unregistered {db : Database} {c : Int} {user : Text}
    (hConnection : db.connectionsIdMap c = none) (hUser : db.userMap user = none) (pass : Text) :
    ((db.registered c user pass).unregistered c user).userMap = db.userMap ∧
      ((db.registered c user pass).unregistered c user).connectionsIdMap =
        db.connectionsIdMap := by
  simp only [unregistered, registered, Function.update_idem]
  exact ⟨Function.update_eq_self_iff.2 hUser.symm, Function.update_eq_self_iff.2 hConnection.symm⟩

/-- How a login can throw: an SQL call failed. For a new user this leaves both
maps as they were, for a known one it leaves the session open. -/
theorem login_throw {db db' : Database} {c : Int} {user pass : Text} {e : JavaException}
    (h : login c user pass db = (.error e, db')) :
    db.connectionsIdMap c = none ∧
      ((db.userMap user = none ∧ db'.userMap = db.userMap ∧
        db'.connectionsIdMap = db.connectionsIdMap ∧ db'.allocated = db.allocated + 1 ∧
        db'.users = Function.update db.users db.allocated ⟨user, pass, c, true⟩ ∧
        ((db.sqlService 0).succeeds = false ∨ (db.sqlService 1).succeeds = false)) ∨
      ∃ ref, db.userMap user = some ref ∧ (db.users ref).isLoggedIn = false ∧
        (db.users ref).password = pass ∧ (db.sqlService 0).succeeds = false ∧
        db' = (db.opened c ref).called (logLoginSql user)) := by
  cases hConnection : db.connectionsIdMap c with
  | some other =>
      rw [login_connected (by simp [hConnection])] at h
      simp at h
  | none =>
      refine ⟨rfl, ?_⟩
      cases hUser : db.userMap user with
      | none =>
          obtain ⟨hUserMap, hConnections⟩ := registered_unregistered hConnection hUser pass
          have hMaps : ∀ sql sql', db' = (((db.registered c user pass).called sql).unregistered
              c user) ∨ db' = ((((db.registered c user pass).called sql).called
              sql').unregistered c user) → db'.userMap = db.userMap ∧
              db'.connectionsIdMap = db.connectionsIdMap ∧ db'.allocated = db.allocated + 1 ∧
              db'.users = Function.update db.users db.allocated ⟨user, pass, c, true⟩ := by
            rintro sql sql' (rfl | rfl)
            all_goals exact ⟨hUserMap, hConnections, rfl, rfl⟩
          rw [login_unknown hConnection hUser] at h
          dsimp only at h
          have hAll := hMaps (insertUserSql user pass) (logLoginSql user)
          split at h
          · rename_i message hService
            obtain ⟨hMap, hCon, hAllocated, hUsers⟩ := hAll (Or.inl (Prod.mk.inj h).2.symm)
            exact Or.inl ⟨rfl, hMap, hCon, hAllocated, hUsers, Or.inl (by rw [hService]; rfl)⟩
          · split at h
            · rename_i message hService
              obtain ⟨hMap, hCon, hAllocated, hUsers⟩ := hAll (Or.inr (Prod.mk.inj h).2.symm)
              exact Or.inl ⟨rfl, hMap, hCon, hAllocated, hUsers, Or.inr (by rw [hService]; rfl)⟩
            · simp at h
      | some ref =>
          rw [login_known hConnection hUser] at h
          split at h
          · simp at h
          · split at h
            · simp at h
            · rename_i hLogged hPassword
              dsimp only at h
              split at h
              · rename_i message hService
                exact Or.inr ⟨ref, rfl, by simpa using hLogged, by simpa using hPassword,
                  by rw [hService]; rfl, (Prod.mk.inj h).2.symm⟩
              · simp at h

/-- The maps are aligned with the users, whatever the SQL service answers. -/
structure Sessions (db : Database) : Prop where
  named : ∀ name user, db.userMap name = some user →
    (db.users user).name = name ∧ user < db.allocated
  bound : ∀ c user, db.connectionsIdMap c = some user →
    db.userMap (db.users user).name = some user ∧ (db.users user).isLoggedIn = true ∧
      (db.users user).connectionId = c
  opened : ∀ name user, db.userMap name = some user → (db.users user).isLoggedIn = true →
    db.connectionsIdMap (db.users user).connectionId = some user

theorem Sessions.new (sqlService : Nat → SqlOutcome) : (Database.new sqlService).Sessions where
  named := by simp [Database.new]
  bound := by simp [Database.new]
  opened := by simp [Database.new]

section
variable {db : Database}

theorem Sessions.called (h : db.Sessions) (sql : Text) : (db.called sql).Sessions :=
  ⟨h.named, h.bound, h.opened⟩

theorem Sessions.lt_of_bound (h : db.Sessions) {c : Int} {user : UserRef}
    (hBound : db.connectionsIdMap c = some user) : user < db.allocated :=
  (h.named _ user (h.bound c user hBound).1).2

/-- With aligned maps, no user is logged in under `c` just where `c` has no session. -/
theorem Sessions.no_user_iff (h : db.Sessions) (c : Int) :
    (∀ name user, db.userMap name = some user → (db.users user).isLoggedIn = true →
      (db.users user).connectionId ≠ c) ↔ db.connectionsIdMap c = none := by
  constructor
  · intro hUsers
    by_contra hSome
    obtain ⟨user, hBound⟩ := Option.ne_none_iff_exists'.1 hSome
    obtain ⟨hMap, hLogged, hCon⟩ := h.bound c user hBound
    exact hUsers _ user hMap hLogged hCon
  · rintro hNone name user hMap hLogged rfl
    simp [h.opened name user hMap hLogged] at hNone

/-- An object made on the way and dropped again is invisible. -/
theorem Sessions.abandoned (h : db.Sessions) {db' : Database} {user : User}
    (hUserMap : db'.userMap = db.userMap)
    (hConnections : db'.connectionsIdMap = db.connectionsIdMap)
    (hAllocated : db'.allocated = db.allocated + 1)
    (hUsers : db'.users = Function.update db.users db.allocated user) : db'.Sessions := by
  have hOld : ∀ ref, ref < db.allocated → db'.users ref = db.users ref := by
    intro ref hRef
    rw [hUsers, Function.update_of_ne (Nat.ne_of_lt hRef)]
  constructor
  · intro name ref hName
    rw [hUserMap] at hName
    obtain ⟨hSame, hRef⟩ := h.named name ref hName
    rw [hOld ref hRef, hAllocated]
    exact ⟨hSame, Nat.lt_succ_of_lt hRef⟩
  · intro c ref hBound
    rw [hConnections] at hBound
    rw [hOld ref (h.lt_of_bound hBound), hUserMap]
    exact h.bound c ref hBound
  · intro name ref hName hLogged
    rw [hUserMap] at hName
    rw [hOld ref (h.named name ref hName).2] at hLogged ⊢
    rw [hConnections]
    exact h.opened name ref hName hLogged

/-- A new user on a connection without a session: both maps refer to the new object, which is
logged in over this connection. -/
theorem Sessions.registered (h : db.Sessions) {c : Int} {user : Text}
    (hConnection : db.connectionsIdMap c = none) (hUser : db.userMap user = none) (pass : Text) :
    (db.registered c user pass).Sessions := by
  have hOld : ∀ ref, ref < db.allocated →
      (db.registered c user pass).users ref = db.users ref := by
    intro ref hRef
    exact Function.update_of_ne (Nat.ne_of_lt hRef) _ _
  have hNew : (db.registered c user pass).users db.allocated = ⟨user, pass, c, true⟩ :=
    Function.update_self ..
  have hOtherName : ∀ name ref, db.userMap name = some ref → name ≠ user := by
    rintro name ref hName rfl
    simp [hUser] at hName
  have hOtherCon : ∀ c' ref, db.connectionsIdMap c' = some ref → c' ≠ c := by
    rintro c' ref hBound rfl
    simp [hConnection] at hBound
  constructor
  · intro name ref hName
    by_cases hSame : name = user
    · subst hSame
      obtain rfl : db.allocated = ref := by simpa [Database.registered] using hName
      rw [hNew]
      exact ⟨rfl, Nat.lt_succ_self _⟩
    · rw [show (db.registered c user pass).userMap name = db.userMap name from
        Function.update_of_ne hSame _ _] at hName
      obtain ⟨hName', hRef⟩ := h.named name ref hName
      rw [hOld ref hRef]
      exact ⟨hName', Nat.lt_succ_of_lt hRef⟩
  · intro c' ref hBound
    by_cases hSame : c' = c
    · subst hSame
      obtain rfl : db.allocated = ref := by simpa [Database.registered] using hBound
      rw [hNew]
      exact ⟨Function.update_self .., rfl, rfl⟩
    · rw [show (db.registered c user pass).connectionsIdMap c' = db.connectionsIdMap c' from
        Function.update_of_ne hSame _ _] at hBound
      obtain ⟨hMap, hLogged, hCon⟩ := h.bound c' ref hBound
      rw [hOld ref (h.lt_of_bound hBound)]
      refine ⟨?_, hLogged, hCon⟩
      rw [← hMap]
      exact Function.update_of_ne (hOtherName _ ref hMap) _ _
  · intro name ref hName hLogged
    by_cases hSame : name = user
    · subst hSame
      obtain rfl : db.allocated = ref := by simpa [Database.registered] using hName
      rw [hNew]
      exact Function.update_self ..
    · rw [show (db.registered c user pass).userMap name = db.userMap name from
        Function.update_of_ne hSame _ _] at hName
      rw [hOld ref (h.named name ref hName).2] at hLogged ⊢
      have hOpened := h.opened name ref hName hLogged
      rw [← hOpened]
      exact Function.update_of_ne (hOtherCon _ ref hOpened) _ _

/-- A known user who is logged out takes up a session on a connection that has none. -/
theorem Sessions.opened_known (h : db.Sessions) {c : Int} {name : Text} {ref : UserRef}
    (hConnection : db.connectionsIdMap c = none) (hUser : db.userMap name = some ref)
    (hOut : (db.users ref).isLoggedIn = false) : (db.opened c ref).Sessions := by
  have hName : (db.users ref).name = name := (h.named name ref hUser).1
  have hSelf : (db.opened c ref).users ref =
      { db.users ref with isLoggedIn := true, connectionId := c } := Function.update_self ..
  have hOther : ∀ other, other ≠ ref → (db.opened c ref).users other = db.users other :=
    fun other hNe => Function.update_of_ne hNe _ _
  have hNotBound : ∀ c' other, db.connectionsIdMap c' = some other → other ≠ ref := by
    rintro c' other hBound rfl
    have hLogged := (h.bound c' other hBound).2.1
    simp [hOut] at hLogged
  constructor
  · intro name' other hMap
    by_cases hNe : other = ref
    · subst hNe
      rw [hSelf]
      exact h.named name' other hMap
    · rw [hOther other hNe]
      exact h.named name' other hMap
  · intro c' other hBound
    by_cases hSame : c' = c
    · subst hSame
      obtain rfl : ref = other := by simpa [Database.opened] using hBound
      rw [hSelf]
      refine ⟨?_, rfl, rfl⟩
      rw [hName]
      exact hUser
    · rw [show (db.opened c ref).connectionsIdMap c' = db.connectionsIdMap c' from
        Function.update_of_ne hSame _ _] at hBound
      rw [hOther other (hNotBound c' other hBound)]
      exact h.bound c' other hBound
  · intro name' other hMap hLogged
    by_cases hNe : other = ref
    · subst hNe
      rw [hSelf]
      exact Function.update_self ..
    · rw [hOther other hNe] at hLogged ⊢
      have hOpened := h.opened name' other hMap hLogged
      rw [← hOpened]
      refine Function.update_of_ne ?_ _ _
      rintro hSame
      simp [hSame, hConnection] at hOpened

/-- The user of the connection is logged out, and no other connection refers to that user. -/
theorem Sessions.closed (h : db.Sessions) {c : Int} {ref : UserRef}
    (hBound : db.connectionsIdMap c = some ref) : (db.closed c ref).Sessions := by
  have hSelf : (db.closed c ref).users ref = { db.users ref with isLoggedIn := false } :=
    Function.update_self ..
  have hOther : ∀ other, other ≠ ref → (db.closed c ref).users other = db.users other :=
    fun other hNe => Function.update_of_ne hNe _ _
  constructor
  · intro name other hMap
    by_cases hNe : other = ref
    · subst hNe
      rw [hSelf]
      exact h.named name other hMap
    · rw [hOther other hNe]
      exact h.named name other hMap
  · intro c' other hBound'
    have hSame : c' ≠ c := by
      rintro rfl
      simp [Database.closed] at hBound'
    rw [show (db.closed c ref).connectionsIdMap c' = db.connectionsIdMap c' from
      Function.update_of_ne hSame _ _] at hBound'
    have hNe : other ≠ ref := by
      rintro rfl
      exact hSame ((h.bound c' other hBound').2.2.symm.trans (h.bound c other hBound).2.2)
    rw [hOther other hNe]
    exact h.bound c' other hBound'
  · intro name other hMap hLogged
    by_cases hNe : other = ref
    · subst hNe
      rw [hSelf] at hLogged
      simp at hLogged
    · rw [hOther other hNe] at hLogged ⊢
      have hOpened := h.opened name other hMap hLogged
      rw [← hOpened]
      refine Function.update_of_ne ?_ _ _
      intro hSame
      rw [hSame, hBound] at hOpened
      exact hNe (Option.some.inj hOpened).symm

/-- A login preserves the alignment, whatever comes of it. -/
theorem Sessions.login_success (h : db.Sessions) {db' : Database} {c : Int} {user pass : Text}
    {status : LoginStatus} (hLogin : login c user pass db = (.ok status, db'))
    (success : status = .addedNewUser ∨ status = .loggedInSuccessfully) : db'.Sessions := by
  obtain ⟨hConnection, ⟨hUser, rfl⟩ | ⟨ref, hUser, hOut, -, rfl⟩⟩ :=
    Database.login_success hLogin success
  · exact ((h.registered hConnection hUser pass).called _).called _
  · exact (h.opened_known hConnection hUser hOut).called _

/-- A login that throws has taken its entries back, or has opened the session all the same. -/
theorem Sessions.login_throw (h : db.Sessions) {db' : Database} {c : Int} {user pass : Text}
    {e : JavaException} (hLogin : login c user pass db = (.error e, db')) : db'.Sessions := by
  obtain ⟨hConnection, ⟨-, hUserMap, hConnections, hAllocated, hUsers, -⟩ |
    ⟨ref, hUser, hOut, -, -, rfl⟩⟩ := Database.login_throw hLogin
  · exact h.abandoned hUserMap hConnections hAllocated hUsers
  · exact (h.opened_known hConnection hUser hOut).called _

end

/-- Registered users stay registered, under their names and passwords. -/
structure Keeps (db db' : Database) : Prop where
  allocated_le : db.allocated ≤ db'.allocated
  name : ∀ ref, ref < db.allocated → (db'.users ref).name = (db.users ref).name
  password : ∀ ref, ref < db.allocated → (db'.users ref).password = (db.users ref).password
  userMap : ∀ name ref, db.userMap name = some ref → db'.userMap name = some ref

section
variable {db db' db'' : Database}

theorem Keeps.refl (db : Database) : db.Keeps db :=
  ⟨Nat.le_refl _, fun _ _ => rfl, fun _ _ => rfl, fun _ _ h => h⟩

theorem Keeps.trans (h : db.Keeps db') (h' : db'.Keeps db'') : db.Keeps db'' where
  allocated_le := Nat.le_trans h.allocated_le h'.allocated_le
  name ref hRef := (h'.name ref (Nat.lt_of_lt_of_le hRef h.allocated_le)).trans (h.name ref hRef)
  password ref hRef :=
    (h'.password ref (Nat.lt_of_lt_of_le hRef h.allocated_le)).trans (h.password ref hRef)
  userMap name ref hMap := h'.userMap name ref (h.userMap name ref hMap)

theorem keeps_called (db : Database) (sql : Text) : db.Keeps (db.called sql) :=
  ⟨Nat.le_refl _, fun _ _ => rfl, fun _ _ => rfl, fun _ _ h => h⟩

/-- A new object at the next free reference. -/
theorem keeps_allocated {user : User} (hAllocated : db'.allocated = db.allocated + 1)
    (hUsers : db'.users = Function.update db.users db.allocated user)
    (hUserMap : ∀ name ref, db.userMap name = some ref → db'.userMap name = some ref) :
    db.Keeps db' := by
  have hOld : ∀ ref, ref < db.allocated → db'.users ref = db.users ref := by
    intro ref hRef
    rw [hUsers, Function.update_of_ne (Nat.ne_of_lt hRef)]
  exact ⟨hAllocated ▸ Nat.le_succ _, fun ref hRef => congrArg User.name (hOld ref hRef),
    fun ref hRef => congrArg User.password (hOld ref hRef), hUserMap⟩

theorem keeps_registered {user : Text} (hUser : db.userMap user = none) (c : Int) (pass : Text) :
    db.Keeps (db.registered c user pass) := by
  apply keeps_allocated rfl rfl
  intro name ref hMap
  rw [← hMap]
  refine Function.update_of_ne ?_ _ _
  rintro rfl
  simp [hUser] at hMap

/-- A change of a user's mutable fields. -/
theorem keeps_changed {ref : UserRef} {user : User} (hAllocated : db'.allocated = db.allocated)
    (hUserMap : db'.userMap = db.userMap) (hUsers : db'.users = Function.update db.users ref user)
    (hName : user.name = (db.users ref).name)
    (hPassword : user.password = (db.users ref).password) : db.Keeps db' := by
  refine ⟨hAllocated ▸ Nat.le_refl _, fun other _ => ?_, fun other _ => ?_,
    fun _ _ h => hUserMap ▸ h⟩
  · rw [hUsers]
    by_cases hNe : other = ref
    · subst hNe
      simpa using hName
    · rw [Function.update_of_ne hNe]
  · rw [hUsers]
    by_cases hNe : other = ref
    · subst hNe
      simpa using hPassword
    · rw [Function.update_of_ne hNe]

theorem keeps_opened (db : Database) (c : Int) (ref : UserRef) : db.Keeps (db.opened c ref) :=
  keeps_changed rfl rfl rfl rfl rfl

theorem keeps_closed (db : Database) (c : Int) (ref : UserRef) : db.Keeps (db.closed c ref) :=
  keeps_changed rfl rfl rfl rfl rfl

/-- Users and passwords are what they were, but for one new user. -/
theorem keeps_login_success {c : Int} {user pass : Text} {status : LoginStatus}
    (hLogin : login c user pass db = (.ok status, db'))
    (success : status = .addedNewUser ∨ status = .loggedInSuccessfully) : db.Keeps db' := by
  obtain ⟨-, ⟨hUser, rfl⟩ | ⟨ref, -, -, -, rfl⟩⟩ := login_success hLogin success
  · exact ((keeps_registered hUser c pass).trans (keeps_called _ _)).trans (keeps_called _ _)
  · exact (keeps_opened db c ref).trans (keeps_called _ _)

/-- No user is lost by a login that fails, as only the new one's own entry is taken back. -/
theorem keeps_login_throw {c : Int} {user pass : Text} {e : JavaException}
    (hLogin : login c user pass db = (.error e, db')) : db.Keeps db' := by
  obtain ⟨-, ⟨-, hUserMap, -, hAllocated, hUsers, -⟩ | ⟨ref, -, -, -, -, rfl⟩⟩ := login_throw hLogin
  · exact keeps_allocated hAllocated hUsers fun _ _ h => hUserMap ▸ h
  · exact (keeps_opened db c ref).trans (keeps_called _ _)

end
/-- The maps and the users are the same. -/
structure SameData (db db' : Database) : Prop where
  users : db'.users = db.users
  allocated : db'.allocated = db.allocated
  userMap : db'.userMap = db.userMap
  connectionsIdMap : db'.connectionsIdMap = db.connectionsIdMap

theorem SameData.refl (db : Database) : db.SameData db := ⟨rfl, rfl, rfl, rfl⟩

theorem SameData.called (sql : Text) (db : Database) : db.SameData (db.called sql) :=
  ⟨rfl, rfl, rfl, rfl⟩

end StompGames.Database
