import StompGames.Concurrency.ClientThreads

/-! What `isConnected` says of the connection that was started last, while the
listening thread may still be at work on the one before. -/
namespace StompGames.ClientThreads

open Client

/-- The connection was started last and has not ended in any way. -/
def State.Alive (s : State) (connection : Nat) : Prop :=
  s.started = some connection ∧ s.closed connection = false ∧ s.ended connection = false

/-- A connection that is alive is not marked dead. -/
def State.Faithful (s : State) : Prop := ∀ connection, s.Alive connection → s.isConnected = true

/-- The handler of `threadLoop` marks a connection dead for its own end: what it has
caught came from the connection started last, which has ended, or `main` closed that
one before. -/
def OwnEnd (s : State) (move : Step) : Prop :=
  move = .setFailed → ∀ connection, s.started = some connection →
    s.closed connection = true ∨
      (s.ended connection = true ∧ ∃ ends, s.receiver = .handler connection ends)

/-- `main` is between `con->close()` and the end of `start`. -/
def MainPlace.inLogin : MainPlace → Bool
  | .setNotConnected | .connect | .start | .setConnected => true
  | _ => false

/-- The connection that the listening thread is at work on. -/
def ReceiverPlace.connection : ReceiverPlace → Option Nat
  | .reading connection | .handler connection _ => some connection
  | _ => none

/-- The protocol object or the listening thread has come across the connection. -/
def State.Seen (s : State) (connection : Nat) : Prop :=
  s.ch = some connection ∨ s.ended connection = true ∨ s.receiver.connection = some connection

/-- A new connection is unseen until `start`, and an end that is noticed on the
present one is the last thing that the listening thread came across. -/
structure State.Numbered (s : State) : Prop where
  known : ∀ connection, s.Seen connection ∨ s.con = some connection →
    connection < s.connections
  unseen : s.main = .start → ∀ connection, s.con = some connection → ¬s.Seen connection
  own : ∀ connection, s.ch = some connection → s.ended connection = true →
    ∀ other, s.receiver.connection = some other → other = connection

/-- A connection that was started is closed before the next login goes on. -/
structure State.Tracked (s : State) : Prop where
  faithful : s.Faithful
  replaced : ∀ connection, s.started = some connection → s.closed connection = false →
    s.main.inLogin = false ∧ s.con = some connection ∧ s.ch = some connection
  pointed : s.main = .setConnected → s.ch = s.con

theorem new_numbered : new.Numbered where
  known _ hKnown := by
    rcases hKnown with (hCh | hEnded | hReading) | hCon <;> contradiction
  unseen hMain := by cases hMain
  own _ hCh := by cases hCh

theorem new_tracked : new.Tracked where
  faithful _ hAlive := by cases hAlive.1
  replaced _ hStarted := by cases hStarted
  pointed hMain := by cases hMain

section
variable {s : State}

/-- A step of `main` that makes no connection and does not point to one. -/
theorem State.Numbered.moves (h : s.Numbered) {t : State} (hMain : t.main ≠ .start)
    (hCh : t.ch = s.ch) (hEnded : t.ended = s.ended) (hReceiver : t.receiver = s.receiver)
    (hCon : ∀ connection, t.con = some connection → s.con = some connection)
    (hConnections : t.connections = s.connections) : t.Numbered := by
  constructor
  · intro connection hKnown
    unfold State.Seen at hKnown
    rw [hCh, hEnded, hReceiver] at hKnown
    rw [hConnections]
    exact h.known connection (hKnown.imp_right (hCon connection))
  · exact fun hStart => absurd hStart hMain
  · rw [hCh, hEnded, hReceiver]
    exact h.own

/-- A step of `main` outside a login. -/
theorem State.Tracked.talks (h : s.Tracked) {main : MainPlace} (hMain : main.inLogin = false)
    (Games : Text → Option Game) (subscriptions joined : Text → Bool)
    (received : Text → List (Text × Event)) :
    State.Tracked { s with
      Games := Games
      subscriptions := subscriptions
      main := main
      joined := joined
      received := received } where
  faithful := h.faithful
  replaced connection hStarted hOpen := ⟨hMain, (h.replaced connection hStarted hOpen).2⟩
  pointed hSet := by
    dsimp only at hSet
    rw [hSet] at hMain
    cases hMain

/-- A step of `main` in a login, which no started connection has survived. -/
theorem State.Tracked.closed_of_inLogin (h : s.Tracked) (hMain : s.main.inLogin = true)
    {connection : Nat} (hStarted : s.started = some connection) : s.closed connection = true := by
  by_contra hOpen
  obtain ⟨hNot, -⟩ := h.replaced connection hStarted (Bool.eq_false_iff.2 hOpen)
  rw [hMain] at hNot
  cases hNot

theorem State.Tracked.logsIn (h : s.Tracked) (hMain : s.main.inLogin = true) {t : State}
    (hStarted : t.started = s.started) (hClosed : t.closed = s.closed)
    (hPointed : t.main = .setConnected → t.ch = t.con) : t.Tracked where
  faithful connection hAlive := by
    have hOld : s.closed connection = true :=
      h.closed_of_inLogin hMain (hStarted ▸ hAlive.1)
    rw [← hClosed, hAlive.2.1] at hOld
    cases hOld
  replaced connection hLast hOpen := by
    have hOld : s.closed connection = true := h.closed_of_inLogin hMain (hStarted ▸ hLast)
    rw [← hClosed, hOpen] at hOld
    cases hOld
  pointed := hPointed

/-- A step of the listening thread that leaves the flag alone. -/
theorem State.Tracked.listens (h : s.Tracked) (receiver : ReceiverPlace) {ended : Nat → Bool}
    (hEnded : ∀ connection, s.ended connection = true → ended connection = true)
    (Games : Text → Option Game) (received : Text → List (Text × Event)) :
    State.Tracked { s with
      Games := Games
      receiver := receiver
      ended := ended
      received := received } where
  faithful connection hAlive := by
    have hStill : ended connection = false := hAlive.2.2
    refine h.faithful connection ⟨hAlive.1, hAlive.2.1, ?_⟩
    apply Bool.eq_false_iff.2
    intro hOld
    rw [hEnded connection hOld] at hStill
    cases hStill
  replaced := h.replaced
  pointed := h.pointed

/-- The listening thread goes on with a connection it has come across. -/
theorem State.Numbered.listens (h : s.Numbered) {receiver : ReceiverPlace} {ended : Nat → Bool}
    (hSeen : ∀ connection, ended connection = true ∨ receiver.connection = some connection →
      s.Seen connection)
    (hOwn : ∀ connection, s.ch = some connection → ended connection = true →
      ∀ other, receiver.connection = some other → other = connection)
    (Games : Text → Option Game) (received : Text → List (Text × Event)) (isConnected : Bool) :
    State.Numbered { s with
      isConnected := isConnected
      Games := Games
      receiver := receiver
      ended := ended
      received := received } := by
  have hAll : ∀ connection, s.ch = some connection ∨ ended connection = true ∨
      receiver.connection = some connection → s.Seen connection := by
    intro connection hNow
    rcases hNow with hCh | hRest
    · exact Or.inl hCh
    · exact hSeen connection hRest
  constructor
  · intro connection hKnown
    exact h.known connection (hKnown.imp_left (hAll connection))
  · intro hMain connection hCon hNow
    exact h.unseen hMain connection hCon (hAll connection hNow)
  · exact hOwn

theorem State.message_eq (env : Env) (game user : Text) (e : Event) (s : State) :
    ∃ Games received,
      s.message env game user e = { s with Games := Games, received := received } := by
  unfold State.message
  split
  · exact ⟨_, _, rfl⟩
  · exact ⟨_, _, rfl⟩

theorem connect_numbered (h : s.Numbered) :
    State.Numbered { s with
      con := some s.connections
      connections := s.connections + 1
      main := .start } where
  known connection hKnown := by
    rcases hKnown with hSeen | hCon
    · have hOld := h.known connection (Or.inl hSeen)
      exact Nat.lt_succ_of_lt hOld
    · cases hCon
      exact Nat.lt_succ_self _
  unseen _ connection hCon hSeen := by
    cases hCon
    have hOld := h.known s.connections (Or.inl hSeen)
    omega
  own := h.own

theorem start_numbered (h : s.Numbered) (hMain : s.main = .start) (username : Text) :
    State.Numbered { s with ch := s.con, username := username, main := .setConnected } where
  known connection hKnown := by
    rcases hKnown with (hCh | hRest) | hCon
    · exact h.known connection (Or.inr hCh)
    · exact h.known connection (Or.inl (Or.inr hRest))
    · exact h.known connection (Or.inr hCon)
  unseen hStart := by cases hStart
  own connection hCh hEnded := absurd (Or.inr (Or.inl hEnded)) (h.unseen hMain connection hCh)

theorem read_numbered (h : s.Numbered) {connection : Nat} (hCh : s.ch = some connection) :
    State.Numbered { s with receiver := .reading connection } := by
  refine h.listens ?_ ?_ s.Games s.received s.isConnected
  · intro other hNow
    rcases hNow with hEnded | hReading
    · exact Or.inr (Or.inl hEnded)
    · cases hReading
      exact Or.inl hCh
  · intro other hOther _ last hReading
    cases hReading
    exact Option.some.inj (hCh.symm.trans hOther)

/-- The end that an exception is about is that of the connection it came from. -/
theorem throws_numbered (h : s.Numbered) {connection : Nat}
    (hReceiver : s.receiver = .reading connection) (ends : Bool) :
    State.Numbered { s with
      ended := if ends then Function.update s.ended connection true else s.ended
      receiver := .handler connection ends } := by
  have hReading : s.receiver.connection = some connection := by rw [hReceiver]; rfl
  have hEnded : ∀ other, (if ends then Function.update s.ended connection true else s.ended)
      other = true → other = connection ∨ s.ended other = true := by
    intro other hNow
    by_cases hOther : other = connection
    · exact Or.inl hOther
    · cases ends
      · exact Or.inr hNow
      · rw [if_pos rfl, Function.update_of_ne hOther] at hNow
        exact Or.inr hNow
  refine h.listens ?_ ?_ s.Games s.received s.isConnected
  · intro other hNow
    rcases hNow with hNow | hSame
    · rcases hEnded other hNow with rfl | hOld
      · exact Or.inr (Or.inr hReading)
      · exact Or.inr (Or.inl hOld)
    · exact Or.inr (Or.inr (hReading.trans hSame))
  · intro other hCh hNow last hLast
    cases hLast
    rcases hEnded other hNow with rfl | hOld
    · rfl
    · exact h.own other hCh hOld connection hReading

/-- The listening thread is done with a connection. -/
theorem State.Numbered.rests (h : s.Numbered) {receiver : ReceiverPlace}
    (hReceiver : receiver.connection = none) (Games : Text → Option Game)
    (received : Text → List (Text × Event)) (isConnected : Bool) :
    State.Numbered { s with
      isConnected := isConnected
      Games := Games
      receiver := receiver
      received := received } := by
  refine h.listens ?_ ?_ Games received isConnected
  · intro connection hNow
    rw [hReceiver] at hNow
    rcases hNow with hEnded | hNone
    · exact Or.inr (Or.inl hEnded)
    · cases hNone
  · intro connection _ _ other hNone
    rw [hReceiver] at hNone
    cases hNone

/-- The steps of `main` outside a login. -/
def Step.talks : Step → Bool
  | .process | .subscribe _ _ | .assignGame | .unsubscribe _ _ | .eraseGame | .report _ _
  | .summary _ | .processed => true
  | _ => false

/-- The steps of the listening thread that neither read nor throw. -/
def Step.rests : Step → Bool
  | .wake | .message _ _ _ | .frame => true
  | _ => false

/-- A step of `main` outside a login touches no connection. -/
theorem step_talks {env : Env} {move : Step} (hTalks : move.talks = true) {t : State}
    (hStep : step env s move = some t) :
    ∃ Games subscriptions main joined received, main.inLogin = false ∧
      t = { s with
        Games := Games
        subscriptions := subscriptions
        main := main
        joined := joined
        received := received } := by
  cases move <;> cases hTalks <;> simp only [step] at hStep
  case subscribe game sent =>
      split at hStep <;> cases hStep
      cases sent
      · exact ⟨_, _, _, _, _, rfl, rfl⟩
      · exact ⟨_, _, _, _, _, rfl, rfl⟩
  case unsubscribe game sent =>
      split at hStep <;> cases hStep
      cases sent
      · exact ⟨_, _, _, _, _, rfl, rfl⟩
      · exact ⟨_, _, _, _, _, rfl, rfl⟩
  case report game e =>
      split at hStep <;> cases hStep
      rename_i hMain
      exact ⟨_, _, _, _, _, congrArg MainPlace.inLogin hMain, rfl⟩
  case summary game =>
      split at hStep <;> cases hStep
      rename_i hMain
      exact ⟨_, _, _, _, _, congrArg MainPlace.inLogin hMain, rfl⟩
  all_goals
    split at hStep <;> cases hStep
    exact ⟨_, _, _, _, _, rfl, rfl⟩

theorem step_rests {env : Env} {move : Step} (hRests : move.rests = true) {t : State}
    (hStep : step env s move = some t) :
    ∃ Games receiver received, receiver.connection = none ∧
      t = { s with Games := Games, receiver := receiver, received := received } := by
  cases move <;> cases hRests <;> simp only [step] at hStep
  case message game user e =>
      split at hStep <;> cases hStep
      obtain ⟨Games, received, hMessage⟩ := State.message_eq env game user e s
      exact ⟨Games, .wait, received, rfl, by rw [hMessage]⟩
  all_goals
    split at hStep <;> cases hStep
    exact ⟨_, _, _, rfl, rfl⟩

theorem step_numbered {env : Env} (h : s.Numbered) {move : Step} {t : State}
    (hStep : step env s move = some t) : t.Numbered := by
  by_cases hTalks : move.talks = true
  · obtain ⟨Games, subscriptions, main, joined, received, hMain, rfl⟩ := step_talks hTalks hStep
    have hNot : main ≠ .start := by
      rintro rfl
      cases hMain
    exact h.moves hNot rfl rfl rfl (fun _ => id) rfl
  by_cases hRests : move.rests = true
  · obtain ⟨Games, receiver, received, hReceiver, rfl⟩ := step_rests hRests hStep
    exact h.rests hReceiver Games received s.isConnected
  cases move <;> simp only [step] at hStep
  case login =>
      split at hStep
      · split at hStep <;> cases hStep
        · exact h.moves (by simp) rfl rfl rfl (fun _ => id) rfl
        · exact h.moves (by simp) rfl rfl rfl (fun _ => id) rfl
      · cases hStep
  case setNotConnected =>
      split at hStep <;> cases hStep
      exact h.moves (by simp) rfl rfl rfl (fun _ hCon => by cases hCon) rfl
  case connect succeeds =>
      split at hStep <;> cases hStep
      cases succeeds
      · exact h.moves (by simp) rfl rfl rfl (fun _ => id) rfl
      · exact connect_numbered h
  case start username =>
      split at hStep
      · rename_i hMain
        cases hStep
        exact start_numbered h hMain username
      · cases hStep
  case setConnected =>
      split at hStep <;> cases hStep
      exact h.moves (by simp) rfl rfl rfl (fun _ => id) rfl
  case read =>
      split at hStep
      · obtain ⟨connection, hCh, rfl⟩ := Option.map_eq_some_iff.1 hStep
        exact read_numbered h hCh
      · cases hStep
  case throws ends =>
      split at hStep
      · rename_i connection hReceiver
        cases hStep
        exact throws_numbered h hReceiver ends
      · cases hStep
  case setFailed =>
      split at hStep <;> cases hStep
      exact h.rests rfl s.Games s.received false
  all_goals first | exact absurd rfl hTalks | exact absurd rfl hRests

/-- `con->close()`: the connection that is closed is the one that was started. -/
theorem login_tracked (h : s.Tracked) {con : Nat} (hCon : s.con = some con) :
    State.Tracked { s with
      closed := Function.update s.closed con true
      main := .setNotConnected } := by
  have hClosed : ∀ connection, s.started = some connection →
      Function.update s.closed con true connection ≠ false := by
    intro connection hStarted hOpen
    by_cases hSame : connection = con
    · subst hSame
      rw [Function.update_self] at hOpen
      cases hOpen
    · rw [Function.update_of_ne hSame] at hOpen
      obtain ⟨-, hPresent, -⟩ := h.replaced connection hStarted hOpen
      exact hSame (Option.some.inj (hPresent.symm.trans hCon))
  constructor
  · intro connection hAlive
    exact absurd hAlive.2.1 (hClosed connection hAlive.1)
  · intro connection hStarted hOpen
    exact absurd hOpen (hClosed connection hStarted)
  · intro hSet
    cases hSet

/-- `main` logs in for the first time, or again after it could not connect. -/
theorem login_tracked_none (h : s.Tracked) (hCon : s.con = none) :
    State.Tracked { s with subscriptions := fun _ => false, main := .connect } where
  faithful := h.faithful
  replaced connection hStarted hOpen := by
    obtain ⟨-, hPresent, -⟩ := h.replaced connection hStarted hOpen
    rw [hCon] at hPresent
    cases hPresent
  pointed hSet := by cases hSet

theorem setConnected_tracked (h : s.Tracked) (hMain : s.main = .setConnected) :
    State.Tracked { s with isConnected := true, started := s.con, main := .getline } where
  faithful _ _ := rfl
  replaced connection hStarted _ := ⟨rfl, hStarted, (h.pointed hMain).trans hStarted⟩
  pointed hSet := by cases hSet

/-- The flag goes down where nothing is alive. -/
theorem setFailed_tracked (h : s.Tracked) (hOwn : OwnEnd s .setFailed) :
    State.Tracked { s with isConnected := false, receiver := .wait } where
  faithful connection hAlive := by
    have hStarted : s.started = some connection := hAlive.1
    have hOpen : s.closed connection = false := hAlive.2.1
    have hStill : s.ended connection = false := hAlive.2.2
    rcases hOwn rfl connection hStarted with hClosed | ⟨hEnded, -⟩
    · rw [hClosed] at hOpen
      cases hOpen
    · rw [hEnded] at hStill
      cases hStill
  replaced := h.replaced
  pointed := h.pointed

theorem step_tracked {env : Env} (h : s.Tracked) {move : Step} (hOwn : OwnEnd s move) {t : State}
    (hStep : step env s move = some t) : t.Tracked := by
  by_cases hTalks : move.talks = true
  · obtain ⟨Games, subscriptions, main, joined, received, hMain, rfl⟩ := step_talks hTalks hStep
    exact h.talks hMain Games subscriptions joined received
  by_cases hRests : move.rests = true
  · obtain ⟨Games, receiver, received, -, rfl⟩ := step_rests hRests hStep
    exact h.listens receiver (fun _ => id) Games received
  cases move <;> simp only [step] at hStep
  case login =>
      split at hStep
      · split at hStep <;> cases hStep
        · exact login_tracked h ‹_›
        · exact login_tracked_none h ‹_›
      · cases hStep
  case setNotConnected =>
      split at hStep
      · rename_i hMain
        cases hStep
        exact h.logsIn (by rw [hMain]; rfl) rfl rfl fun hSet => by cases hSet
      · cases hStep
  case connect succeeds =>
      split at hStep
      · rename_i hMain
        cases hStep
        cases succeeds
        · exact h.logsIn (by rw [hMain]; rfl) rfl rfl fun hSet => by cases hSet
        · exact h.logsIn (by rw [hMain]; rfl) rfl rfl fun hSet => by cases hSet
      · cases hStep
  case start username =>
      split at hStep
      · rename_i hMain
        cases hStep
        exact h.logsIn (by rw [hMain]; rfl) rfl rfl fun _ => rfl
      · cases hStep
  case setConnected =>
      split at hStep
      · rename_i hMain
        cases hStep
        exact setConnected_tracked h hMain
      · cases hStep
  case read =>
      split at hStep
      · obtain ⟨connection, -, rfl⟩ := Option.map_eq_some_iff.1 hStep
        exact h.listens _ (fun _ => id) s.Games s.received
      · cases hStep
  case throws ends =>
      split at hStep
      · rename_i connection hReceiver
        cases hStep
        refine h.listens _ ?_ s.Games s.received
        intro other hEnded
        cases ends
        · exact hEnded
        · by_cases hOther : other = connection
          · subst hOther
            exact Function.update_self ..
          · exact (Function.update_of_ne hOther _ _).trans hEnded
      · cases hStep
  case setFailed =>
      split at hStep <;> cases hStep
      exact setFailed_tracked h hOwn
  all_goals first | exact absurd rfl hTalks | exact absurd rfl hRests

/-- An exception that is not about the end of the present connection marks it dead. -/
theorem setFailed_unfaithful (hNumbered : s.Numbered) (h : s.Tracked) {env : Env} {move : Step}
    (hStale : ¬OwnEnd s move) {t : State} (hStep : step env s move = some t) : ¬t.Faithful := by
  intro hFaithful
  apply hStale
  rintro rfl connection hStarted
  by_cases hOpen : s.closed connection = false
  · right
    simp only [step] at hStep
    split at hStep
    · rename_i other ends hReceiver
      cases hStep
      have hEnded : s.ended connection = true := by
        by_contra hStill
        have hAlive : s.Alive connection := ⟨hStarted, hOpen, Bool.eq_false_iff.2 hStill⟩
        exact absurd (hFaithful connection hAlive) Bool.false_ne_true
      obtain ⟨-, -, hCh⟩ := h.replaced connection hStarted hOpen
      have hReading : s.receiver.connection = some other := by rw [hReceiver]; rfl
      obtain rfl := hNumbered.own connection hCh hEnded other hReading
      exact ⟨hEnded, ends, hReceiver⟩
    · cases hStep
  · exact Or.inl (Bool.eq_true_of_not_eq_false hOpen)

end

/-- In a run of the two threads, over any number of logins, a started connection is
marked connected until it ends or a further login closes it, exactly where the handler
of `threadLoop` only ever runs for the end of the connection started last. -/
theorem faithful_iff {env : Env} {moves : List Step} {t : State}
    (hRun : Transition.run (step env) new moves = some t) :
    Transition.Always (step env) State.Faithful new moves ↔
      Transition.Along (step env) OwnEnd new moves := by
  apply Transition.always_iff_along_of_run (I := fun s => s.Numbered ∧ s.Tracked) _ _ _ hRun
    ⟨new_numbered, new_tracked⟩
  · exact fun s hs => hs.2.faithful
  · exact fun s move s' hs hOwn hStep =>
      ⟨step_numbered hs.1 hStep, step_tracked hs.2 hOwn hStep⟩
  · exact fun s move s' hs hStale hStep => setFailed_unfaithful hs.1 hs.2 hStale hStep

/-- A second login, whose first steps the listening thread notices before `start`. -/
def reloginInTime : List Step :=
  [.login, .connect true, .start "meni".toList, .setConnected, .wake, .read, .login,
    .throws true, .setFailed, .setNotConnected, .connect true, .start "meni".toList,
    .setConnected]

/-- The exception is handled before the next login has gone through. -/
theorem faithful_inTime : Transition.Always (step sorting) State.Faithful new reloginInTime ↔
    Transition.Along (step sorting) OwnEnd new reloginInTime :=
  faithful_iff (rfl : Transition.run (step sorting) new reloginInTime = some
    ((Transition.run (step sorting) new reloginInTime).getD new))

/-- The same login, where the handler runs after `start`. -/
def reloginTooEarly : List Step :=
  [.login, .connect true, .start "meni".toList, .setConnected, .wake, .read, .login,
    .throws true, .setNotConnected, .connect true, .start "meni".toList, .setConnected,
    .setFailed]

/-- The listening thread is late with the exception of the connection before, and marks the new
one as dead. -/
theorem marked_dead : ¬∀ (env : Env) (s : State),
    Transition.Reachable (· = new) (step env) s → s.Faithful := by
  intro h
  let dead := (Transition.run (step sorting) new reloginTooEarly).getD new
  have hReached : Transition.Reachable (· = new) (step sorting) dead :=
    ⟨new, reloginTooEarly, rfl, rfl⟩
  have hAlive : dead.Alive 1 := ⟨rfl, rfl, rfl⟩
  exact absurd (h sorting dead hReached 1 hAlive) Bool.false_ne_true

end StompGames.ClientThreads
