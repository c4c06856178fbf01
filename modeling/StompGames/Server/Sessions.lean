import StompGames.Server.System

/-! Sessions over whole runs of the server: the two maps of the database, the
name each protocol object remembers and the subscriptions stay aligned. -/
namespace StompGames.Server

open Imperative

/-- A protocol object that remembers a name has a session under that name. -/
def Owned (s : Server) (c : Int) : Prop :=
  (s.protocols c).userName ≠ .empty → ∃ user, s.db.connectionsIdMap c = some user ∧
    (s.db.users user).name = (s.protocols c).userName.chars

/-- Only a protocol object that remembers a name has subscriptions. -/
def Subscribed (s : Server) (c : Int) : Prop :=
  s.cManager.subManager.ofConnection c ≠ [] → (s.protocols c).userName ≠ .empty

/-- What every run keeps, whatever the SQL service answers. -/
structure Sessions (s : Server) : Prop where
  database : s.db.Sessions
  owned : ∀ c, s.Owned c
  subscribed : ∀ c, s.Subscribed c
  fresh : ∀ c, s.accepted c = false →
    s.db.connectionsIdMap c = none ∧ s.cManager.subManager.ofConnection c = []

/-- A step of one connection has to be checked for that connection only. -/
theorem Sessions.next {c : Int} {s t : Server} (h : s.Sessions) (hOthers : OthersKept c s t)
    (hKeeps : s.db.Keeps t.db) (hAccepted : s.accepted c = true) (hDatabase : t.db.Sessions)
    (hOwned : t.Owned c) (hSubscribed : t.Subscribed c) : t.Sessions where
  database := hDatabase
  owned other := by
    by_cases hOther : other = c
    · subst hOther
      exact hOwned
    · intro hName
      rw [hOthers.protocols other hOther] at hName ⊢
      obtain ⟨user, hBound, hUser⟩ := h.owned other hName
      refine ⟨user, (hOthers.session other hOther).trans hBound, ?_⟩
      rw [hKeeps.name user (h.database.lt_of_bound hBound), hUser]
  subscribed other := by
    by_cases hOther : other = c
    · subst hOther
      exact hSubscribed
    · intro hSubs
      rw [hOthers.ofConnection hOther] at hSubs
      rw [hOthers.protocols other hOther]
      exact h.subscribed other hSubs
  fresh other hFresh := by
    rw [hOthers.accepted] at hFresh
    have hOther : other ≠ c := by
      rintro rfl
      simp [hAccepted] at hFresh
    rw [hOthers.session other hOther, hOthers.ofConnection hOther]
    exact h.fresh other hFresh

theorem Effect.database_sessions {c : Int} {s t : Server} (h : s.db.Sessions)
    (effect : Effect c s t) : t.db.Sessions := by
  cases effect with
  | connect login success => exact h.login_success login success
  | connectFailed login => exact h.login_throw login
  | upload sql => exact h.called sql
  | _ => exact h

/-- A connection without a session has not subscribed to anything. -/
theorem Sessions.unsubscribed {c : Int} {s : Server} (h : s.Sessions)
    (hNone : s.db.connectionsIdMap c = none) :
    (s.protocols c).userName = .empty ∧ s.cManager.subManager.ofConnection c = [] := by
  have hEmpty : (s.protocols c).userName = .empty := by
    by_contra hName
    obtain ⟨user, hBound, -⟩ := h.owned c hName
    simp [hNone] at hBound
  refine ⟨hEmpty, ?_⟩
  by_contra hSubs
  exact h.subscribed c hSubs hEmpty

/-- A session that a login opens belongs to the user it names. -/
theorem login_named {db db' : Database} {c : Int} {user pass : Text} {status : LoginStatus}
    (h : db.Sessions) (login : Database.login c user pass db = (.ok status, db'))
    (success : status = .addedNewUser ∨ status = .loggedInSuccessfully) :
    ∃ ref, db'.connectionsIdMap c = some ref ∧ (db'.users ref).name = user := by
  obtain ⟨-, ⟨-, rfl⟩ | ⟨ref, hUser, -, -, rfl⟩⟩ := Database.login_success login success
  · exact ⟨db.allocated, Function.update_self .., by simp [Database.registered]⟩
  · refine ⟨ref, Function.update_self .., ?_⟩
    simpa [Database.opened] using (h.named user ref hUser).1

theorem setUserName_userName (s : Server) (c : Int) (userName : Java.JString) :
    ((s.setUserName c userName).protocols c).userName = userName := by
  simp [setUserName, setProtocol]

theorem Effect.owned {c : Int} {s t : Server} (h : s.Sessions) (effect : Effect c s t) :
    t.Owned c := by
  cases effect with
  | connect login success =>
      intro _
      rw [setUserName_userName]
      exact login_named h.database login success
  | connectFailed login =>
      exact fun hName => absurd (h.unsubscribed (Database.login_throw login).1).1 hName
  | _ => exact h.owned c

theorem Effect.subscribed {c : Int} {s t : Server} (h : s.Sessions) (effect : Effect c s t) :
    t.Subscribed c := by
  cases effect with
  | send reply => simpa [Subscribed, sent] using h.subscribed c
  | connect login success =>
      exact fun hSubs => absurd (h.unsubscribed (Database.login_success login success).1).2 hSubs
  | subscribe loggedIn subId unsubscribed => exact fun _ => loggedIn.userName_ne
  | unsubscribe listed => exact fun _ => h.subscribed c (List.ne_nil_of_mem listed)
  | _ => exact h.subscribed c

theorem Effect.sessions {c : Int} {s t : Server} (h : s.Sessions) (hIndexed : s.Indexed)
    (hAccepted : s.accepted c = true) (effect : Effect c s t) : t.Sessions :=
  h.next (effect.othersKept hIndexed) effect.keeps hAccepted
    (effect.database_sessions h.database) (effect.owned h) (effect.subscribed h)

/-- Teardown frees the handler and the subscriptions whatever else happens. -/
theorem handleDisconnect_freed {s : Server} (h : s.Indexed) (c : Int) :
    (handleDisconnect c s).2.cManager = s.cManager.disconnected c ∧
      (handleDisconnect c s).2.cManager.connecetions c = none ∧
      (handleDisconnect c s).2.cManager.subManager.ofConnection c = [] ∧
      ((handleDisconnect c s).2.protocols c).shouldTerminate = true := by
  have hManager : (handleDisconnect c s).2.cManager = s.cManager.disconnected c := by
    rw [handleDisconnect_apply h c]
    split
    · split
      · rfl
      · split <;> rfl
    · rfl
  obtain ⟨-, -, hHandlers, hSubs, -⟩ := ConnectionsManager.disconnect_apply h c
  refine ⟨hManager, ?_, ?_, ?_⟩
  · rw [hManager, hHandlers, Function.update_self]
  · rw [hManager, SubscriptionManager.ofConnection, hSubs, Function.update_self]
    rfl
  · rw [handleDisconnect_apply h c]
    have hDetached : ((s.detached c).protocols c).shouldTerminate = true := by
      simp [detached, setShouldTerminate, setProtocol]
    split
    · split
      · simpa [setUserName, setProtocol] using hDetached
      · split
        · exact hDetached
        · simpa [setUserName, setProtocol] using hDetached
    · simpa [setUserName, setProtocol] using hDetached

/-- Teardown ends in one of three ways. -/
theorem handleDisconnect_cases {s : Server} (h : s.Indexed) (c : Int) :
    ((s.db.isLoggedIn (s.protocols c).userName.chars = false ∨ s.db.connectionsIdMap c = none) ∧
      (handleDisconnect c s).2.db = s.db ∧
      ((handleDisconnect c s).2.protocols c).userName = .empty) ∨
    (∃ user, s.db.isLoggedIn (s.protocols c).userName.chars = true ∧
      s.db.connectionsIdMap c = some user ∧ (s.db.sqlService 0).succeeds = false ∧
      (handleDisconnect c s).2.db = s.db.called (Database.logoutSql (s.db.users user).name) ∧
      ((handleDisconnect c s).2.protocols c).userName = (s.protocols c).userName) ∨
    ∃ user, s.db.isLoggedIn (s.protocols c).userName.chars = true ∧
      s.db.connectionsIdMap c = some user ∧ (s.db.sqlService 0).succeeds = true ∧
      (handleDisconnect c s).2.db =
        (s.db.called (Database.logoutSql (s.db.users user).name)).closed c user ∧
      ((handleDisconnect c s).2.protocols c).userName = .empty := by
  have hForgotten : ∀ t : Server, ((t.setUserName c .empty).protocols c).userName = .empty :=
    fun t => setUserName_userName t c .empty
  rw [handleDisconnect_apply h c]
  split
  · rename_i hLogged
    split
    · rename_i hNone
      exact Or.inl ⟨Or.inr hNone, rfl, hForgotten _⟩
    · rename_i user hBound
      dsimp only
      split
      · rename_i message hService
        refine Or.inr (Or.inl ⟨user, hLogged, hBound, by rw [hService]; rfl, rfl, ?_⟩)
        simp [detached, setShouldTerminate, setProtocol]
      · rename_i response hService
        exact Or.inr (Or.inr ⟨user, hLogged, hBound, by rw [hService]; rfl, rfl, hForgotten _⟩)
  · rename_i hLogged
    exact Or.inl ⟨Or.inl (by simpa using hLogged), rfl, hForgotten _⟩

theorem handleDisconnect_database {c : Int} {s : Server} (h : s.db.Sessions)
    (hIndexed : s.Indexed) : (handleDisconnect c s).2.db.Sessions := by
  obtain ⟨-, hDb, -⟩ | ⟨user, -, -, -, hDb, -⟩ | ⟨user, -, hBound, -, hDb, -⟩ :=
    handleDisconnect_cases hIndexed c <;> rw [hDb]
  · exact h
  · exact h.called _
  · exact (h.called _).closed hBound

theorem handleDisconnect_sessions {c : Int} {s : Server} (h : s.Sessions) (hIndexed : s.Indexed)
    (hAccepted : s.accepted c = true) : (handleDisconnect c s).2.Sessions := by
  have hSubscribed : (handleDisconnect c s).2.Subscribed c :=
    fun hSubs => absurd (handleDisconnect_freed hIndexed c).2.2.1 hSubs
  refine h.next (handleDisconnect_othersKept hIndexed c) (handleDisconnect_keeps hIndexed c)
    hAccepted (handleDisconnect_database h.database hIndexed) ?_ hSubscribed
  intro hName
  obtain ⟨-, -, hEmpty⟩ | ⟨user, -, hBound, -, hDb, hSame⟩ | ⟨user, -, -, -, -, hEmpty⟩ :=
    handleDisconnect_cases hIndexed c
  · exact absurd hEmpty hName
  · rw [hSame] at hName ⊢
    rw [hDb]
    exact h.owned c hName
  · exact absurd hEmpty hName

theorem accept_sessions {c : Int} {s : Server} (h : s.Sessions) (hFresh : s.accepted c = false) :
    (s.accept c).Sessions := by
  obtain ⟨hNone, hSubs⟩ := h.fresh c hFresh
  have hOther : ∀ other, other ≠ c → (s.accept c).protocols other = s.protocols other :=
    fun other hNe => Function.update_of_ne hNe _ _
  refine ⟨h.database, fun other => ?_, fun other => ?_, fun other hOld => ?_⟩
  · by_cases hNe : other = c
    · subst hNe
      exact fun hName => absurd (by simp [accept]) hName
    · unfold Owned
      rw [hOther other hNe]
      exact h.owned other
  · by_cases hNe : other = c
    · subst hNe
      exact fun hSome => absurd hSubs hSome
    · unfold Subscribed
      rw [hOther other hNe]
      exact h.subscribed other
  · have hNe : other ≠ c := by
      rintro rfl
      simp [accept] at hOld
    exact h.fresh other ((Function.update_of_ne hNe _ _).symm.trans hOld)

/-- The alignment holds at every moment of a frame. -/
theorem Left.sessions {c : Int} {s t : Server} (hLeft : Left c s t) (hIndexed : s.Indexed)
    (h : s.Sessions) (hAccepted : s.accepted c = true) :
    t.Indexed ∧ t.Sessions ∧ t.accepted c = true := by
  refine hLeft.preserves (P := fun t => t.Sessions ∧ t.accepted c = true) ?_ ?_ hIndexed
    ⟨h, hAccepted⟩
  · exact fun t u hT hP effect => ⟨effect.sessions hP.1 hT hP.2,
      (congrFun (effect.othersKept hT).accepted c).trans hP.2⟩
  · exact fun t hT hP => ⟨handleDisconnect_sessions hP.1 hT hP.2,
      (congrFun (handleDisconnect_othersKept hT c).accepted c).trans hP.2⟩

theorem step_sessions {s t : Server} {event : Event} (hIndexed : s.Indexed) (h : s.Sessions)
    (hStep : s.step event = some t) : t.Sessions := by
  obtain ⟨c, -, hFresh, rfl⟩ | ⟨c, message, -, hAccepted, rfl⟩ | ⟨c, -, hAccepted, rfl⟩ :=
    step_cases hStep
  · exact accept_sessions h hFresh
  · exact ((process_left hIndexed c message).sessions hIndexed h hAccepted).2.1
  · exact handleDisconnect_sessions h hIndexed hAccepted

theorem started_sessions {s : Server} (h : s.Started) : s.Sessions := by
  obtain ⟨emptyInterned, sqlService, rfl⟩ := h
  refine ⟨Database.Sessions.new sqlService, fun c hName => absurd rfl hName,
    fun c hSubs => absurd rfl hSubs, fun c _ => ⟨rfl, rfl⟩⟩

/-- The alignment holds in every reachable state. -/
theorem reachable_sessions {s : Server} (h : Transition.Reachable Started step s) : s.Sessions :=
  Transition.Reachable.invariant_of (fun _ => reachable_indexed) (fun _ => started_sessions)
    (fun _ _ _ => step_sessions) h

/-- The protocol object of a session remembers its user, too. -/
def Matched (s : Server) (c : Int) : Prop :=
  ∀ user, s.db.connectionsIdMap c = some user →
    (s.protocols c).userName.chars = (s.db.users user).name

theorem Effect.sqlWorks {c : Int} {s t : Server} (h : s.SqlWorks) (effect : Effect c s t) :
    t.SqlWorks := by
  cases effect with
  | connect login success =>
      obtain ⟨-, ⟨-, rfl⟩ | ⟨ref, -, -, -, rfl⟩⟩ := Database.login_success login success
      · exact fun n => h (n + 2)
      · exact fun n => h (n + 1)
  | connectFailed login =>
      obtain ⟨-, ⟨-, -, -, -, -, hFirst | hSecond⟩ | ⟨ref, -, -, -, hFirst, -⟩⟩ :=
        Database.login_throw login
      · simp [h 0] at hFirst
      · simp [h 1] at hSecond
      · simp [h 0] at hFirst
  | upload sql => exact fun n => h (n + 1)
  | _ => exact h

theorem handleDisconnect_sqlWorks {c : Int} {s : Server} (h : s.SqlWorks) (hIndexed : s.Indexed) :
    (handleDisconnect c s).2.SqlWorks := by
  obtain ⟨-, hDb, -⟩ | ⟨user, -, -, -, hDb, -⟩ | ⟨user, -, -, -, hDb, -⟩ :=
    handleDisconnect_cases hIndexed c <;> intro n <;> rw [hDb]
  · exact h n
  · exact h (n + 1)
  · exact h (n + 1)

theorem Matched.of_others {c : Int} {s t : Server} (h : s.Sessions) (hMatched : ∀ c, s.Matched c)
    (hOthers : OthersKept c s t) (hKeeps : s.db.Keeps t.db) (hSelf : t.Matched c) (other : Int) :
    t.Matched other := by
  by_cases hOther : other = c
  · subst hOther
    exact hSelf
  · intro user hBound
    rw [hOthers.session other hOther] at hBound
    rw [hOthers.protocols other hOther, hMatched other user hBound,
      hKeeps.name user (h.database.lt_of_bound hBound)]

theorem Effect.matched {c : Int} {s t : Server} (h : s.Sessions) (hIndexed : s.Indexed)
    (hSql : s.SqlWorks) (hMatched : ∀ c, s.Matched c) (effect : Effect c s t) :
    ∀ other, t.Matched other := by
  apply Matched.of_others h hMatched (effect.othersKept hIndexed) effect.keeps
  cases effect with
  | connect login success =>
      intro ref hBound
      obtain ⟨ref', hBound', hName⟩ := login_named h.database login success
      rw [setUserName_userName, Option.some.inj (hBound.symm.trans hBound')]
      exact hName.symm
  | connectFailed login =>
      obtain ⟨-, ⟨-, -, -, -, -, hFirst | hSecond⟩ | ⟨ref, -, -, -, hFirst, -⟩⟩ :=
        Database.login_throw login
      · simp [hSql 0] at hFirst
      · simp [hSql 1] at hSecond
      · simp [hSql 0] at hFirst
  | _ => exact hMatched c

/-- A user with a session is logged in under its own name. -/
theorem Sessions.isLoggedIn_of_matched {c : Int} {s : Server} (h : s.Sessions)
    (hMatched : s.Matched c) {user : UserRef} (hBound : s.db.connectionsIdMap c = some user) :
    s.db.isLoggedIn (s.protocols c).userName.chars = true := by
  obtain ⟨hMap, hLogged, -⟩ := h.database.bound c user hBound
  rw [hMatched user hBound, Database.isLoggedIn, hMap]
  exact hLogged

/-- Teardown with a working SQL service ends the session. -/
theorem handleDisconnect_closes {c : Int} {s : Server} (h : s.Sessions) (hIndexed : s.Indexed)
    (hSql : s.SqlWorks) (hMatched : s.Matched c) :
    (handleDisconnect c s).2.db.connectionsIdMap c = none ∧
      ((handleDisconnect c s).2.protocols c).userName = .empty := by
  obtain ⟨hNone, hDb, hEmpty⟩ | ⟨user, -, -, hFails, -⟩ | ⟨user, -, -, -, hDb, hEmpty⟩ :=
    handleDisconnect_cases hIndexed c
  · refine ⟨?_, hEmpty⟩
    rw [hDb]
    rcases hNone with hOut | hNone
    · by_contra hSome
      obtain ⟨user, hBound⟩ := Option.ne_none_iff_exists'.1 hSome
      simp [h.isLoggedIn_of_matched hMatched hBound] at hOut
    · exact hNone
  · simp [hSql 0] at hFails
  · refine ⟨?_, hEmpty⟩
    rw [hDb]
    exact Function.update_self ..

theorem handleDisconnect_matched {c : Int} {s : Server} (h : s.Sessions) (hIndexed : s.Indexed)
    (hSql : s.SqlWorks) (hMatched : ∀ c, s.Matched c) :
    ∀ other, (handleDisconnect c s).2.Matched other := by
  refine Matched.of_others h hMatched (handleDisconnect_othersKept hIndexed c)
    (handleDisconnect_keeps hIndexed c) fun user hBound => ?_
  simp [(handleDisconnect_closes h hIndexed hSql (hMatched c)).1] at hBound

/-- What every run keeps with an SQL service that works. -/
structure Works (s : Server) : Prop where
  sessions : s.Sessions
  sqlWorks : s.SqlWorks
  matched : ∀ c, s.Matched c

theorem Effect.works {c : Int} {s t : Server} (h : s.Works) (hIndexed : s.Indexed)
    (hAccepted : s.accepted c = true) (effect : Effect c s t) : t.Works :=
  ⟨effect.sessions h.sessions hIndexed hAccepted, effect.sqlWorks h.sqlWorks,
    effect.matched h.sessions hIndexed h.sqlWorks h.matched⟩

theorem handleDisconnect_works {c : Int} {s : Server} (h : s.Works) (hIndexed : s.Indexed)
    (hAccepted : s.accepted c = true) : (handleDisconnect c s).2.Works :=
  ⟨handleDisconnect_sessions h.sessions hIndexed hAccepted,
    handleDisconnect_sqlWorks h.sqlWorks hIndexed,
    handleDisconnect_matched h.sessions hIndexed h.sqlWorks h.matched⟩

theorem accept_works {c : Int} {s : Server} (h : s.Works) (hFresh : s.accepted c = false) :
    (s.accept c).Works := by
  refine ⟨accept_sessions h.sessions hFresh, h.sqlWorks, fun other user hBound => ?_⟩
  have hNe : other ≠ c := by
    rintro rfl
    have hNone := (h.sessions.fresh other hFresh).1
    change s.db.connectionsIdMap other = some user at hBound
    simp [hNone] at hBound
  rw [show (s.accept c).protocols other = s.protocols other from Function.update_of_ne hNe _ _]
  exact h.matched other user hBound

theorem Left.works {c : Int} {s t : Server} (hLeft : Left c s t) (hIndexed : s.Indexed)
    (h : s.Works) (hAccepted : s.accepted c = true) :
    t.Indexed ∧ t.Works ∧ t.accepted c = true := by
  refine hLeft.preserves (P := fun t => t.Works ∧ t.accepted c = true) ?_ ?_ hIndexed ⟨h, hAccepted⟩
  · exact fun t u hT hP effect => ⟨effect.works hP.1 hT hP.2,
      (congrFun (effect.othersKept hT).accepted c).trans hP.2⟩
  · exact fun t hT hP => ⟨handleDisconnect_works hP.1 hT hP.2,
      (congrFun (handleDisconnect_othersKept hT c).accepted c).trans hP.2⟩

/-- Teardown throws where its SQL call fails only. -/
theorem handleDisconnect_returns {c : Int} {s : Server} (hIndexed : s.Indexed)
    (hSql : s.SqlWorks) : (handleDisconnect c s).1 = .ok () := by
  rw [handleDisconnect_apply hIndexed]
  split
  · split
    · rfl
    · have hReply := hSql 0
      dsimp only
      split
      · rename_i hFailure
        rw [hFailure] at hReply
        cases hReply
      · rfl
  · rfl

/-- What a frame throws is answered by `process` itself. -/
theorem process_returns {c : Int} {s : Server} (hIndexed : s.Indexed) (h : s.Works)
    (hAccepted : s.accepted c = true) (message : Text) : (process c message s).1 = .ok () := by
  have hLeft := ensures_attempt message s (show Touched c s s from ⟨hIndexed, .refl⟩)
  rcases hRun : attempt c message s with ⟨e | done, u⟩ <;> rw [hRun] at hLeft
  · obtain ⟨hSent, hWorks, -⟩ :=
      (hLeft.next (.send (.error e.getMessage ((parseFrame message).1 "receipt".toList)))).works
        hIndexed h hAccepted
    rw [process_error hRun]
    exact handleDisconnect_returns hSent hWorks.sqlWorks
  · simp only [process, Method.tryCatch_apply, hRun]

theorem step_works {s t : Server} {event : Event} (hIndexed : s.Indexed) (h : s.Works)
    (hStep : s.step event = some t) : t.Works := by
  obtain ⟨c, -, hFresh, rfl⟩ | ⟨c, message, -, hAccepted, rfl⟩ | ⟨c, -, hAccepted, rfl⟩ :=
    step_cases hStep
  · exact accept_works h hFresh
  · exact ((process_left hIndexed c message).works hIndexed h hAccepted).2.1
  · exact handleDisconnect_works h hIndexed hAccepted

/-- Started with an SQL service that works. -/
def StartedWorking (s : Server) : Prop := s.Started ∧ s.SqlWorks

theorem reachable_started {s : Server} (h : Transition.Reachable StartedWorking step s) :
    Transition.Reachable Started step s := by
  obtain ⟨start, events, hStart, hRun⟩ := h
  exact ⟨start, events, hStart.1, hRun⟩

theorem reachable_works {s : Server} (h : Transition.Reachable StartedWorking step s) :
    s.Works := by
  refine Transition.Reachable.invariant_of (J := Indexed)
    (fun _ hs => reachable_indexed (reachable_started hs)) ?_ (fun _ _ _ => step_works) h
  rintro s ⟨⟨emptyInterned, sqlService, rfl⟩, hSql⟩
  exact ⟨started_sessions ⟨emptyInterned, sqlService, rfl⟩, hSql, nofun⟩

/-- Name and password of a `CONNECT` frame that the server accepts in this state. -/
def acceptedLogin (s : Server) (c : Int) (message : Text) : Option (Text × Text) :=
  match parseFrame message with
  | (headers, .ok (command, _)) =>
      if command = "CONNECT".toList then
        match headers "login".toList, headers "passcode".toList, (solveConnect c headers s).1 with
        | some user, some pass, .ok () => some (user, pass)
        | _, _, _ => none
      else none
  | (_, .error _) => none

theorem acceptedLogin_cases {s : Server} {c : Int} {message user pass : Text}
    (h : s.acceptedLogin c message = some (user, pass)) :
    ∃ headers body status db, parseFrame message = (headers, .ok ("CONNECT".toList, body)) ∧
      Database.login c user pass s.db = (.ok status, db) ∧
      (status = .addedNewUser ∨ status = .loggedInSuccessfully) ∧
      solveConnect c headers s = (.ok (),
        (({ s with db := db } : Server).setUserName c ⟨user, s.emptyInterned⟩).sent c
          connectedFrame) := by
  unfold acceptedLogin at h
  split at h
  · rename_i headers command body hParse
    split at h
    · rename_i hCommand
      split at h
      · rename_i user' pass' hUser hPass hRun
        obtain ⟨rfl, rfl⟩ : user' = user ∧ pass' = pass := by simpa using h
        obtain ⟨status, db, hLogin, success, hConnect⟩ := solveConnect_ok hUser hPass hRun
        exact ⟨headers, body, status, db, hCommand ▸ hParse, hLogin, success, hConnect⟩
      · simp at h
    · simp at h
  · simp at h

/-- A login that the server accepts gives the password of the registered user. -/
theorem acceptedLogin_password {s : Server} {c : Int} {message user pass : Text}
    (h : s.acceptedLogin c message = some (user, pass)) {ref : UserRef}
    (hUser : s.db.userMap user = some ref) : (s.db.users ref).password = pass := by
  obtain ⟨-, -, status, db, -, hLogin, success, -⟩ := acceptedLogin_cases h
  obtain ⟨-, ⟨hNew, -⟩ | ⟨ref', hKnown, -, hPass, -⟩⟩ := Database.login_success hLogin success
  · simp [hNew] at hUser
  · rw [← hPass, Option.some.inj (hUser.symm.trans hKnown)]

/-- And afterwards the user is registered with it. -/
theorem acceptedLogin_registers {s : Server} (hIndexed : s.Indexed) (hSessions : s.Sessions)
    {c : Int} {message user pass : Text} (h : s.acceptedLogin c message = some (user, pass)) :
    ∃ ref, (process c message s).2.db.userMap user = some ref ∧
      ((process c message s).2.db.users ref).password = pass := by
  obtain ⟨headers, body, status, db, hParse, hLogin, success, hConnect⟩ := acceptedLogin_cases h
  have hRegistered : ∃ ref, db.userMap user = some ref ∧ ref < db.allocated ∧
      (db.users ref).password = pass := by
    obtain ⟨-, ⟨-, rfl⟩ | ⟨ref, hUser, -, hPass, rfl⟩⟩ := Database.login_success hLogin success
    · exact ⟨s.db.allocated, Function.update_self .., Nat.lt_succ_self _,
        by simp [Database.registered]⟩
    · exact ⟨ref, hUser, (hSessions.database.named user ref hUser).2,
        by simpa [Database.opened] using hPass⟩
  obtain ⟨ref, hMap, hRef, hPass⟩ := hRegistered
  have hAfter : (solveConnect c headers s).2.Indexed ∧ (solveConnect c headers s).2.db = db := by
    rw [hConnect]
    exact ⟨Indexed.sent hIndexed c connectedFrame, rfl⟩
  have hKeeps : (solveConnect c headers s).2.db.Keeps (process c message s).2.db := by
    refine ((process_connect hParse (by rw [hConnect]) hAfter.1).preserves
      (P := fun t => (solveConnect c headers s).2.db.Keeps t.db)
      (fun _ _ _ hP effect => hP.trans effect.keeps) ?_ hAfter.1 (Database.Keeps.refl _)).2
    exact fun t hT hP => hP.trans (handleDisconnect_keeps hT c)
  rw [hAfter.2] at hKeeps
  exact ⟨ref, hKeeps.userMap user ref hMap, (hKeeps.password ref hRef).trans hPass⟩

/-- A client's first frame. -/
def connectFrame (login passcode : String) : Text :=
  ("CONNECT\nlogin:" ++ login ++ "\npasscode:" ++ passcode ++ "\n\n").toList

/-- What a state of the server promises about its sessions, and about the
passwords in every run from there. -/
structure SessionInvariant (s : Server) : Prop where
  session : ∀ c user, s.db.connectionsIdMap c = some user →
    s.db.userMap (s.db.users user).name = some user ∧ (s.db.users user).isLoggedIn = true ∧
      (s.db.users user).connectionId = c ∧
      (s.protocols c).userName.chars = (s.db.users user).name
  loggedIn : ∀ name user, s.db.userMap name = some user → (s.db.users user).isLoggedIn = true →
    s.db.connectionsIdMap (s.db.users user).connectionId = some user
  oneConnection : ∀ c c' user, s.db.connectionsIdMap c = some user →
    s.db.connectionsIdMap c' = some user → c = c'
  remembered : ∀ c, (s.protocols c).userName.chars ≠ [] →
    ∃ user, s.db.connectionsIdMap c = some user ∧
      (s.db.users user).name = (s.protocols c).userName.chars
  subscribed : ∀ c, ∀ sub ∈ s.cManager.subManager.ofConnection c,
    (s.db.connectionsIdMap c).isSome
  subscribed_channel : ∀ channel, ∀ sub ∈ s.cManager.subManager.ofChannel channel,
    (s.db.connectionsIdMap sub.conId).isSome
  password : ∀ events t, Transition.run step s events = some t →
    ∀ name user, s.db.userMap name = some user → t.db.userMap name = some user ∧
      (t.db.users user).password = (s.db.users user).password
  samePassword : ∀ c message name pass, s.acceptedLogin c message = some (name, pass) →
    ∀ events t, Transition.run step s (.process c message :: events) = some t →
    ∀ c' message' pass', t.acceptedLogin c' message' = some (name, pass') → pass' = pass

/-- The maps of users and of connections, the flags of the users and the names that the protocol
objects keep agree in every reachable state of a server whose SQL service works. -/
theorem session_invariant {s : Server} (h : Transition.Reachable StartedWorking step s) :
    s.SessionInvariant := by
  have hIndexed := reachable_indexed (reachable_started h)
  obtain ⟨hSessions, -, hMatched⟩ := reachable_works h
  have hSub : ∀ c, s.cManager.subManager.ofConnection c ≠ [] →
      (s.db.connectionsIdMap c).isSome := by
    intro c hSubs
    obtain ⟨user, hBound, -⟩ := hSessions.owned c (hSessions.subscribed c hSubs)
    simp [hBound]
  constructor
  · intro c user hBound
    obtain ⟨hMap, hLogged, hCon⟩ := hSessions.database.bound c user hBound
    exact ⟨hMap, hLogged, hCon, hMatched c user hBound⟩
  · exact hSessions.database.opened
  · intro c c' user hBound hBound'
    rw [← (hSessions.database.bound c user hBound).2.2,
      (hSessions.database.bound c' user hBound').2.2]
  · intro c hName
    exact hSessions.owned c fun hEmpty => hName (by rw [hEmpty]; rfl)
  · exact fun c sub hMem => hSub c (List.ne_nil_of_mem hMem)
  · intro channel sub hMem
    have hOwner := ((hIndexed.indexes.mem_key_iff channel sub).1 hMem).2
    exact hSub sub.conId (List.ne_nil_of_mem hOwner)
  · intro events t hRun name user hMap
    have hKeeps := run_keeps hIndexed hRun
    exact ⟨hKeeps.userMap name user hMap,
      hKeeps.password user (hSessions.database.named name user hMap).2⟩
  · intro c message name pass hFirst events t hRun c' message' pass' hSecond
    obtain ⟨mid, hStep, hRest⟩ := Transition.run_cons_eq_some.1 hRun
    have hMid := h.next hStep
    have hMidIndexed := reachable_indexed (reachable_started hMid)
    have hMidSessions := (reachable_works hMid).sessions
    obtain ⟨ref, hMap, hPass⟩ := acceptedLogin_registers hIndexed hSessions hFirst
    obtain rfl : (process c message s).2 = mid := by
      obtain ⟨_, hEvent, -⟩ | ⟨_, _, hEvent, -, rfl⟩ | ⟨_, hEvent, -⟩ := step_cases hStep
      · cases hEvent
      · cases hEvent
        rfl
      · cases hEvent
    have hKeeps := run_keeps hMidIndexed hRest
    have hRef := (hMidSessions.database.named name ref hMap).2
    rw [← acceptedLogin_password hSecond (hKeeps.userMap name ref hMap), hKeeps.password ref hRef,
      hPass]

/-- The state after a user registers. -/
theorem session_invariant_registered : SessionInvariant (process 1 (connectFrame "meni" "films")
    ((Server.new true fun _ => .reply []).accept 1)).2 :=
  session_invariant ⟨.new true fun _ => .reply [],
    [.accept 1, .process 1 (connectFrame "meni" "films")], ⟨⟨true, _, rfl⟩, fun _ => rfl⟩, rfl⟩

end StompGames.Server
