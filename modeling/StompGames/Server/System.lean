import StompGames.Server.Effects
import StompGames.Lib.Transition

/-! The server as a whole: connections are accepted, frames are processed and
connections are torn down, one atomic step at a time and in any order. -/
namespace StompGames

/-- What happens at the server: it accepts a connection, a whole frame is processed, or the
handler of a connection calls `handleDisconnect` at the end of its stream. -/
inductive Event where
  | accept (conId : Int)
  | process (conId : Int) (message : Text)
  | handleDisconnect (conId : Int)

/-- The connection that an event is about. An event can reach others only through a broadcast. -/
def Event.conId : Event → Int
  | .accept conId => conId
  | .process conId _ => conId
  | .handleDisconnect conId => conId

/-- The frames of one connection that were handed to its protocol object. -/
def framesOf (c : Int) (events : List Event) : List Text :=
  events.filterMap fun
    | .process d message => if d = c then some message else none
    | _ => none

theorem framesOf_append (c : Int) (first second : List Event) :
    framesOf c (first ++ second) = framesOf c first ++ framesOf c second := List.filterMap_append

namespace Server

/-- The handler of a new connection registers itself and starts a new protocol object. -/
def accept (conId : Int) (s : Server) : Server :=
  { s with
    cManager := s.cManager.connect ⟨conId⟩ conId
    protocols := Function.update s.protocols conId ⟨.empty, false⟩
    accepted := Function.update s.accepted conId true }

/-- Ids are never used twice, and only an accepted connection has a protocol object. -/
def step (s : Server) : Event → Option Server
  | .accept conId => if s.accepted conId then none else some (s.accept conId)
  | .process conId message =>
      if s.accepted conId then some (process conId message s).2 else none
  | .handleDisconnect conId =>
      if s.accepted conId then some (handleDisconnect conId s).2 else none

/-- A server that has just been started. -/
def Started (s : Server) : Prop := ∃ emptyInterned sqlService, s = .new emptyInterned sqlService

/-- The SQL service answers every call from now on. -/
def SqlWorks (s : Server) : Prop := ∀ n, (s.db.sqlService n).succeeds = true

/-- The three kinds of steps. -/
theorem step_cases {s t : Server} {event : Event} (h : s.step event = some t) :
    (∃ c, event = .accept c ∧ s.accepted c = false ∧ t = s.accept c) ∨
    (∃ c message, event = .process c message ∧ s.accepted c = true ∧
      t = (process c message s).2) ∨
    ∃ c, event = .handleDisconnect c ∧ s.accepted c = true ∧ t = (handleDisconnect c s).2 := by
  cases event with
  | accept c =>
      cases hAccepted : s.accepted c <;> simp [step, hAccepted] at h
      exact Or.inl ⟨c, rfl, hAccepted, h.symm⟩
  | process c message =>
      cases hAccepted : s.accepted c <;> simp [step, hAccepted] at h
      exact Or.inr (Or.inl ⟨c, message, rfl, hAccepted, h.symm⟩)
  | handleDisconnect c =>
      cases hAccepted : s.accepted c <;> simp [step, hAccepted] at h
      exact Or.inr (Or.inr ⟨c, rfl, hAccepted, h.symm⟩)

/-- What belongs to other connections than `c` is the same in both states. -/
structure OthersKept (c : Int) (s t : Server) : Prop where
  accepted : t.accepted = s.accepted
  protocols : ∀ other, other ≠ c → t.protocols other = s.protocols other
  session : ∀ other, other ≠ c → t.db.connectionsIdMap other = s.db.connectionsIdMap other
  subDict : ∀ other, other ≠ c →
    t.cManager.subManager.subDict other = s.cManager.subManager.subDict other
  handler : ∀ other, other ≠ c → t.cManager.connecetions other = s.cManager.connecetions other

theorem OthersKept.refl (c : Int) (s : Server) : OthersKept c s s :=
  ⟨rfl, fun _ _ => rfl, fun _ _ => rfl, fun _ _ => rfl, fun _ _ => rfl⟩

theorem OthersKept.trans {c : Int} {s t u : Server} (h : OthersKept c s t)
    (h' : OthersKept c t u) : OthersKept c s u where
  accepted := h'.accepted.trans h.accepted
  protocols other hOther := (h'.protocols other hOther).trans (h.protocols other hOther)
  session other hOther := (h'.session other hOther).trans (h.session other hOther)
  subDict other hOther := (h'.subDict other hOther).trans (h.subDict other hOther)
  handler other hOther := (h'.handler other hOther).trans (h.handler other hOther)

theorem OthersKept.ofConnection {c : Int} {s t : Server} (h : OthersKept c s t) {other : Int}
    (hOther : other ≠ c) : t.cManager.subManager.ofConnection other =
      s.cManager.subManager.ofConnection other := by
  unfold SubscriptionManager.ofConnection
  rw [h.subDict other hOther]

theorem login_session {db db' : Database} {c : Int} {user pass : Text}
    {result : Except JavaException LoginStatus} (h : Database.login c user pass db = (result, db'))
    (hEnd : (∃ e, result = .error e) ∨ result = .ok .addedNewUser ∨
      result = .ok .loggedInSuccessfully) {other : Int} (hOther : other ≠ c) :
    db'.connectionsIdMap other = db.connectionsIdMap other := by
  rcases hEnd with ⟨e, rfl⟩ | hSuccess
  · obtain ⟨-, ⟨-, -, hConnections, -⟩ | ⟨ref, -, -, -, -, rfl⟩⟩ := Database.login_throw h
    · rw [hConnections]
    · exact Function.update_of_ne hOther _ _
  · obtain ⟨status, rfl, hStatus⟩ : ∃ status, result = .ok status ∧
        (status = .addedNewUser ∨ status = .loggedInSuccessfully) := by
      rcases hSuccess with rfl | rfl
      · exact ⟨_, rfl, Or.inl rfl⟩
      · exact ⟨_, rfl, Or.inr rfl⟩
    obtain ⟨-, ⟨-, rfl⟩ | ⟨ref, -, -, -, rfl⟩⟩ := Database.login_success h hStatus
    · exact Function.update_of_ne hOther _ _
    · exact Function.update_of_ne hOther _ _

theorem Effect.othersKept {c : Int} {s t : Server} (h : s.Indexed) (effect : Effect c s t) :
    OthersKept c s t := by
  cases effect with
  | send reply => exact ⟨rfl, fun _ _ => rfl, fun _ _ => rfl, by simp [sent], by simp [sent]⟩
  | connect login success =>
      refine ⟨rfl, fun other hOther => Function.update_of_ne hOther _ _, ?_, fun _ _ => rfl,
        fun _ _ => rfl⟩
      intro other hOther
      refine login_session login (Or.inr ?_) hOther
      rcases success with rfl | rfl
      · exact Or.inl rfl
      · exact Or.inr rfl
  | connectFailed login =>
      exact ⟨rfl, fun _ _ => rfl, fun other hOther => login_session login (Or.inl ⟨_, rfl⟩) hOther,
        fun _ _ => rfl, fun _ _ => rfl⟩
  | upload sql => exact ⟨rfl, fun _ _ => rfl, fun _ _ => rfl, fun _ _ => rfl, fun _ _ => rfl⟩
  | broadcast subscribed body =>
      exact ⟨rfl, fun _ _ => rfl, fun _ _ => rfl, fun _ _ => rfl, fun _ _ => rfl⟩
  | subscribe loggedIn subId unsubscribed =>
      exact ⟨rfl, fun _ _ => rfl, fun _ _ => rfl,
        fun other hOther => Function.update_of_ne hOther _ _, fun _ _ => rfl⟩
  | unsubscribe listed =>
      refine ⟨rfl, fun _ _ => rfl, fun _ _ => rfl, fun other hOther => ?_, fun _ _ => rfl⟩
      rw [← h.indexes.owner_of_mem c _ listed] at hOther
      exact Function.update_of_ne hOther _ _

theorem setUserName_othersKept (c : Int) (userName : Java.JString) (s : Server) :
    OthersKept c s (s.setUserName c userName) :=
  ⟨rfl, fun _ hOther => Function.update_of_ne hOther _ _, fun _ _ => rfl, fun _ _ => rfl,
    fun _ _ => rfl⟩

theorem detached_othersKept {s : Server} (h : s.Indexed) (c : Int) :
    OthersKept c s (s.detached c) := by
  obtain ⟨-, -, hHandlers, hSubs, -⟩ := ConnectionsManager.disconnect_apply h c
  refine ⟨rfl, fun other hOther => Function.update_of_ne hOther _ _, fun _ _ => rfl, ?_, ?_⟩
  · intro other hOther
    change (s.cManager.disconnected c).subManager.subDict other = _
    rw [hSubs, Function.update_of_ne hOther]
  · intro other hOther
    change (s.cManager.disconnected c).connecetions other = _
    rw [hHandlers, Function.update_of_ne hOther]

theorem handleDisconnect_othersKept {s : Server} (h : s.Indexed) (c : Int) :
    OthersKept c s (handleDisconnect c s).2 := by
  have hDetached := detached_othersKept h c
  rw [handleDisconnect_apply h c]
  split
  · split
    · exact hDetached.trans (setUserName_othersKept c .empty _)
    · split
      · exact hDetached.trans ⟨rfl, fun _ _ => rfl, fun _ _ => rfl, fun _ _ => rfl, fun _ _ => rfl⟩
      · refine (hDetached.trans ?_).trans (setUserName_othersKept c .empty _)
        exact ⟨rfl, fun _ _ => rfl, fun other hOther => Function.update_of_ne hOther _ _,
          fun _ _ => rfl, fun _ _ => rfl⟩
  · exact hDetached.trans (setUserName_othersKept c .empty _)

theorem process_othersKept {s : Server} (h : s.Indexed) (c : Int) (message : Text) :
    OthersKept c s (process c message s).2 :=
  (process_preserves (P := fun t => OthersKept c s t)
    (fun _ _ hIndexed hKept effect => hKept.trans (effect.othersKept hIndexed))
    (fun _ hIndexed hKept => hKept.trans (handleDisconnect_othersKept hIndexed c)) h
    (OthersKept.refl c s) message).2

/-- A step of another connection changes neither session, handler nor protocol object. -/
theorem step_other {s t : Server} {event : Event} (h : s.Indexed) (hStep : s.step event = some t)
    {c : Int} (hOther : event.conId ≠ c) : t.accepted c = s.accepted c ∧
      t.db.connectionsIdMap c = s.db.connectionsIdMap c ∧
      t.cManager.connecetions c = s.cManager.connecetions c ∧
      t.protocols c = s.protocols c := by
  obtain ⟨d, rfl, -, rfl⟩ | ⟨d, message, rfl, -, rfl⟩ | ⟨d, rfl, -, rfl⟩ := step_cases hStep
  · exact ⟨Function.update_of_ne (Ne.symm hOther) _ _, rfl,
      Function.update_of_ne (Ne.symm hOther) _ _, Function.update_of_ne (Ne.symm hOther) _ _⟩
  · have hKept := process_othersKept h d message
    exact ⟨congrFun hKept.accepted c, hKept.session c (Ne.symm hOther),
      hKept.handler c (Ne.symm hOther), hKept.protocols c (Ne.symm hOther)⟩
  · have hKept := handleDisconnect_othersKept h d
    exact ⟨congrFun hKept.accepted c, hKept.session c (Ne.symm hOther),
      hKept.handler c (Ne.symm hOther), hKept.protocols c (Ne.symm hOther)⟩

theorem Effect.keeps {c : Int} {s t : Server} (effect : Effect c s t) : s.db.Keeps t.db := by
  cases effect with
  | connect login success => exact Database.keeps_login_success login success
  | connectFailed login => exact Database.keeps_login_throw login
  | upload sql => exact Database.keeps_called _ sql
  | _ => exact Database.Keeps.refl _

theorem handleDisconnect_keeps {s : Server} (h : s.Indexed) (c : Int) :
    s.db.Keeps (handleDisconnect c s).2.db := by
  rw [handleDisconnect_apply h c]
  split
  · split
    · exact Database.Keeps.refl _
    · split
      · exact Database.keeps_called _ _
      · exact (Database.keeps_called _ _).trans (Database.keeps_closed _ c _)
  · exact Database.Keeps.refl _

theorem process_keeps {s : Server} (h : s.Indexed) (c : Int) (message : Text) :
    s.db.Keeps (process c message s).2.db :=
  (process_preserves (P := fun t => s.db.Keeps t.db)
    (fun _ _ _ hKeeps effect => hKeeps.trans effect.keeps)
    (fun _ hIndexed hKeeps => hKeeps.trans (handleDisconnect_keeps hIndexed c)) h
    (Database.Keeps.refl _) message).2

theorem indexed_new (emptyInterned : Bool) (sqlService : Nat → SqlOutcome) :
    (Server.new emptyInterned sqlService).Indexed := SubscriptionManager.Consistent.new

theorem step_indexed {s t : Server} {event : Event} (h : s.Indexed)
    (hStep : s.step event = some t) : t.Indexed := by
  obtain ⟨c, -, -, rfl⟩ | ⟨c, message, -, -, rfl⟩ | ⟨c, -, -, rfl⟩ := step_cases hStep
  · exact h
  · exact (process_preserves (P := fun _ => True) (fun _ _ _ _ _ => trivial)
      (fun _ _ _ => trivial) h trivial message).1
  · exact handleDisconnect_indexed h c

theorem step_keeps {s t : Server} {event : Event} (h : s.Indexed) (hStep : s.step event = some t) :
    s.db.Keeps t.db := by
  obtain ⟨c, -, -, rfl⟩ | ⟨c, message, -, -, rfl⟩ | ⟨c, -, -, rfl⟩ := step_cases hStep
  · exact Database.Keeps.refl _
  · exact process_keeps h c message
  · exact handleDisconnect_keeps h c

theorem reachable_indexed {s : Server} (h : Transition.Reachable Started step s) : s.Indexed := by
  refine Transition.Reachable.invariant (I := Indexed) ?_
    (fun s e t hs hStep => step_indexed hs hStep) h
  rintro s ⟨emptyInterned, sqlService, rfl⟩
  exact indexed_new emptyInterned sqlService

/-- Whole runs never take a registration back. -/
theorem run_keeps {s t : Server} {events : List Event} (h : s.Indexed)
    (hRun : Transition.run step s events = some t) : s.db.Keeps t.db := by
  refine (Transition.run_invariant (I := fun u => u.Indexed ∧ s.db.Keeps u.db) ?_ hRun
    ⟨h, Database.Keeps.refl _⟩).2
  exact fun u e v hu hStep => ⟨step_indexed hu.1 hStep, hu.2.trans (step_keeps hu.1 hStep)⟩

end Server
end StompGames
