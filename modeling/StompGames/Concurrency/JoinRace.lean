import StompGames.Concurrency.ClientThreads

/-! What the table of games keeps of what other users send, while `handleJoin` is
between its frame and its assignment. -/
namespace StompGames.ClientThreads

open Client

/-- An event is among those kept of a user in a game. -/
def Keeps (games : Text → Option Game) (game user : Text) (e : Event) : Prop :=
  ∃ kept, games game = some kept ∧
    (e ∈ kept.updateByUserBefore user ∨ e ∈ kept.updateByUserAfter user)

/-- Nothing is lost of what came for a game since it was joined. -/
def State.NothingLost (s : State) : Prop :=
  ∀ game user e, (user, e) ∈ s.received game → Keeps s.Games game user e

/-- `Games[game] = Game(game)` is executed before anything came for the game. -/
def AssignedFirst (s : State) (move : Step) : Prop :=
  move = .assignGame → ∀ game, s.main = .join game → s.received game = []

section
variable {sort : List Event → List Event} (hSort : ∀ events, (sort events).Perm events)
include hSort

/-- The event is in one of the two lists of its user. -/
theorem mem_addUpdate (user : Text) (e : Event) (kept : Game) :
    e ∈ (kept.addUpdate sort user e).updateByUserBefore user ∨
      e ∈ (kept.addUpdate sort user e).updateByUserAfter user := by
  have hLast : ∀ events, e ∈ sort (events ++ [e]) := fun events =>
    (hSort _).mem_iff.2 (List.mem_append_right _ (List.mem_singleton_self e))
  rcases kept.addUpdate_lists sort user e with ⟨hBefore, -⟩ | ⟨-, hAfter⟩
  · left
    rw [hBefore, Function.update_self]
    exact hLast _
  · right
    rw [hAfter, Function.update_self]
    exact hLast _

/-- Nothing that was kept goes away. -/
theorem mem_addUpdate_of_mem (user : Text) (e : Event) {kept : Game} {other : Text} {old : Event}
    (h : old ∈ kept.updateByUserBefore other ∨ old ∈ kept.updateByUserAfter other) :
    old ∈ (kept.addUpdate sort user e).updateByUserBefore other ∨
      old ∈ (kept.addUpdate sort user e).updateByUserAfter other := by
  have hStill : ∀ events : Text → List Event, old ∈ events other →
      old ∈ Function.update events user (sort (events user ++ [e])) other := by
    intro events hOld
    by_cases hUser : other = user
    · subst hUser
      rw [Function.update_self]
      exact (hSort _).mem_iff.2 (List.mem_append_left _ hOld)
    · rw [Function.update_of_ne hUser]
      exact hOld
  rcases kept.addUpdate_lists sort user e with ⟨hBefore, hAfter⟩ | ⟨hBefore, hAfter⟩
  · rw [hBefore, hAfter]
    exact h.imp_left (hStill _)
  · rw [hBefore, hAfter]
    exact h.imp_right (hStill _)

end

section
variable {env : Env} (hSort : ∀ events, (env.sort events).Perm events)
include hSort

theorem keeps_addUpdate (games : Text → Option Game) (game user : Text) (e : Event) :
    Keeps (addUpdate env game user e games) game user e :=
  ⟨_, Function.update_self .., mem_addUpdate hSort user e _⟩

theorem Keeps.addUpdate {games : Text → Option Game} {game user : Text} {e : Event}
    (h : Keeps games game user e) (other sender : Text) (update : Event) :
    Keeps (addUpdate env other sender update games) game user e := by
  obtain ⟨kept, hGame, hMem⟩ := h
  by_cases hOther : game = other
  · subst hOther
    refine ⟨_, Function.update_self .., ?_⟩
    rw [hGame]
    exact mem_addUpdate_of_mem hSort sender update hMem
  · exact ⟨kept, (Function.update_of_ne hOther _ _).trans hGame, hMem⟩

end

/-- Other entries of the table do not matter. -/
theorem Keeps.update_of_ne {games : Text → Option Game} {game user : Text} {e : Event}
    (h : Keeps games game user e) {other : Text} (hOther : game ≠ other) (entry : Option Game) :
    Keeps (Function.update games other entry) game user e := by
  obtain ⟨kept, hGame, hMem⟩ := h
  exact ⟨kept, (Function.update_of_ne hOther _ _).trans hGame, hMem⟩

/-- Looking a game up makes an entry only where there is none. -/
theorem Keeps.lookup {games : Text → Option Game} {game user : Text} {e : Event}
    (h : Keeps games game user e) (other : Text) :
    Keeps (Function.update games other (some ((games other).getD (.new [])))) game user e := by
  by_cases hOther : game = other
  · subst hOther
    obtain ⟨kept, hGame, hMem⟩ := h
    refine ⟨kept, ?_, hMem⟩
    rw [Function.update_self, hGame]
    rfl
  · exact h.update_of_ne hOther _

/-- A new game has no events. -/
theorem not_keeps_new (games : Text → Option Game) (game user : Text) (e : Event) :
    ¬Keeps (Function.update games game (some (.new game))) game user e := by
  rintro ⟨kept, hGame, hMem⟩
  rw [Function.update_self] at hGame
  cases hGame
  exact hMem.elim List.not_mem_nil List.not_mem_nil

/-- Nothing is counted for a game that is not joined, such as one that is being left. -/
structure State.Keeping (s : State) : Prop where
  nothingLost : s.NothingLost
  quiet : ∀ game, s.joined game = false → s.received game = []
  leaving : ∀ game, s.main = .exit game → s.joined game = false

theorem new_keeping : new.Keeping where
  nothingLost _ _ _ hMem := absurd hMem List.not_mem_nil
  quiet _ _ := rfl
  leaving _ hMain := by cases hMain

section
variable {s : State}

/-- A step that neither joins nor leaves a game. -/
theorem State.Keeping.goes (h : s.Keeping) {t : State} (hJoined : t.joined = s.joined)
    (hReceived : t.received = s.received)
    (hGames : ∀ game user e, Keeps s.Games game user e → Keeps t.Games game user e)
    (hMain : ∀ game, t.main = .exit game → s.main = .exit game) : t.Keeping where
  nothingLost game user e hMem := by
    rw [hReceived] at hMem
    exact hGames game user e (h.nothingLost game user e hMem)
  quiet game hNot := by
    rw [hReceived]
    exact h.quiet game (hJoined ▸ hNot)
  leaving game hExit := by
    rw [hJoined]
    exact h.leaving game (hMain game hExit)

/-- A game is joined; what came for it before still counts. -/
theorem State.Keeping.subscribe (h : s.Keeping) (game : Text) (subscriptions : Text → Bool) :
    State.Keeping { s with
      subscriptions := subscriptions
      joined := Function.update s.joined game true
      main := .join game } where
  nothingLost := h.nothingLost
  quiet other hNot := by
    dsimp only at hNot
    by_cases hOther : other = game
    · subst hOther
      rw [Function.update_self] at hNot
      cases hNot
    · rw [Function.update_of_ne hOther] at hNot
      exact h.quiet other hNot
  leaving _ hExit := by cases hExit

/-- A game is left, and what came for it need not be kept any longer. -/
theorem State.Keeping.unsubscribe (h : s.Keeping) (game : Text) :
    State.Keeping { s with
      joined := Function.update s.joined game false
      received := Function.update s.received game []
      main := .exit game } where
  nothingLost other user e hMem := by
    dsimp only at hMem
    by_cases hOther : other = game
    · subst hOther
      rw [Function.update_self] at hMem
      exact absurd hMem List.not_mem_nil
    · rw [Function.update_of_ne hOther] at hMem
      exact h.nothingLost other user e hMem
  quiet other hNot := by
    dsimp only at hNot ⊢
    by_cases hOther : other = game
    · subst hOther
      exact Function.update_self ..
    · rw [Function.update_of_ne hOther] at hNot ⊢
      exact h.quiet other hNot
  leaving other hExit := by
    cases hExit
    exact Function.update_self ..

/-- The entry of a game can be overwritten or erased while nothing has come for it. -/
theorem State.Keeping.replace (h : s.Keeping) {game : Text} (hNone : s.received game = [])
    (entry : Option Game) (subscriptions : Text → Bool) :
    State.Keeping { s with
      Games := Function.update s.Games game entry
      subscriptions := subscriptions
      main := .getline } where
  nothingLost other user e hMem := by
    have hOther : other ≠ game := by
      rintro rfl
      rw [hNone] at hMem
      exact absurd hMem List.not_mem_nil
    exact (h.nothingLost other user e hMem).update_of_ne hOther entry
  quiet := h.quiet
  leaving _ hExit := by cases hExit

/-- A `MESSAGE` is stored where the game is kept. -/
theorem State.Keeping.message {env : Env} (hSort : ∀ events, (env.sort events).Perm events)
    (h : s.Keeping) (game user : Text) (e : Event) : (s.message env game user e).Keeping := by
  have hOld : ∀ other sender update, Keeps s.Games other sender update →
      Keeps (addUpdate env game user e s.Games) other sender update :=
    fun _ _ _ hKeeps => hKeeps.addUpdate hSort game user e
  unfold State.message
  split
  · constructor
    · intro other sender update hMem
      dsimp only at hMem ⊢
      split at hMem
      · by_cases hOther : other = game
        · subst hOther
          rw [Function.update_self, List.mem_append, List.mem_singleton] at hMem
          rcases hMem with hMem | hNew
          · exact hOld _ _ _ (h.nothingLost other sender update hMem)
          · cases hNew
            exact keeps_addUpdate hSort s.Games other user e
        · rw [Function.update_of_ne hOther] at hMem
          exact hOld _ _ _ (h.nothingLost other sender update hMem)
      · exact hOld _ _ _ (h.nothingLost other sender update hMem)
    · intro other hNot
      dsimp only at hNot ⊢
      split
      · rename_i hJoined
        have hOther : other ≠ game := by
          rintro rfl
          rw [hJoined] at hNot
          cases hNot
        rw [Function.update_of_ne hOther]
        exact h.quiet other hNot
      · exact h.quiet other hNot
    · exact h.leaving
  · exact h

theorem State.Keeping.receive (h : s.Keeping) (receiver : ReceiverPlace) :
    State.Keeping { s with receiver := receiver } := ⟨h.nothingLost, h.quiet, h.leaving⟩

theorem step_keeping {env : Env} (hSort : ∀ events, (env.sort events).Perm events)
    (h : s.Keeping) {move : Step} (hFirst : AssignedFirst s move) {t : State}
    (hStep : step env s move = some t) : t.Keeping := by
  cases move <;> simp only [step] at hStep
  case login =>
      split at hStep
      · split at hStep <;> cases hStep
        · exact h.goes rfl rfl (fun _ _ _ => id) fun _ hExit => by cases hExit
        · exact h.goes rfl rfl (fun _ _ _ => id) fun _ hExit => by cases hExit
      · cases hStep
  case connect succeeds =>
      split at hStep <;> cases hStep
      cases succeeds
      · exact h.goes rfl rfl (fun _ _ _ => id) fun _ hExit => by cases hExit
      · exact h.goes rfl rfl (fun _ _ _ => id) fun _ hExit => by cases hExit
  case subscribe game sent =>
      split at hStep <;> cases hStep
      cases sent
      · exact h.goes rfl rfl (fun _ _ _ => id) fun _ hExit => by cases hExit
      · exact h.subscribe game _
  case assignGame =>
      split at hStep
      · rename_i game hMain
        cases hStep
        exact h.replace (hFirst rfl game hMain) _ _
      · cases hStep
  case unsubscribe game sent =>
      split at hStep <;> cases hStep
      cases sent
      · exact h.goes rfl rfl (fun _ _ _ => id) fun _ hExit => by cases hExit
      · exact h.unsubscribe game
  case eraseGame =>
      split at hStep
      · rename_i game hMain
        cases hStep
        exact h.replace (h.quiet game (h.leaving game hMain)) none _
      · cases hStep
  case report game e =>
      split at hStep <;> cases hStep
      exact h.goes rfl rfl (fun _ _ _ hKeeps => hKeeps.addUpdate hSort game s.username e)
        fun _ => id
  case summary game =>
      split at hStep <;> cases hStep
      exact h.goes rfl rfl (fun _ _ _ hKeeps => hKeeps.lookup game) fun _ => id
  case read =>
      split at hStep
      · obtain ⟨connection, -, rfl⟩ := Option.map_eq_some_iff.1 hStep
        exact h.receive _
      · cases hStep
  case message game user e =>
      split at hStep <;> cases hStep
      exact (h.message hSort game user e).receive .wait
  all_goals
    split at hStep <;> cases hStep
    exact h.goes rfl rfl (fun _ _ _ => id) fun _ hExit => by first | exact hExit | cases hExit

/-- An assignment that comes too late loses what came before it. -/
theorem assignGame_loses {env : Env} {move : Step} (hLate : ¬AssignedFirst s move) {t : State}
    (hStep : step env s move = some t) : ¬t.NothingLost := by
  intro hKept
  apply hLate
  rintro rfl game hMain
  simp only [step, hMain] at hStep
  cases hStep
  by_contra hSome
  obtain ⟨⟨user, e⟩, hMem⟩ := List.exists_mem_of_ne_nil _ hSome
  exact not_keeps_new s.Games game user e (hKept game user e hMem)

end

/-- In a run of the two threads every event that came from another user for a joined
game is kept, from the `SUBSCRIBE` to the `exit`, exactly where `handleJoin` makes its
assignment before anything has come for the game. -/
theorem nothingLost_iff {env : Env} (hSort : ∀ events, (env.sort events).Perm events)
    {moves : List Step} {t : State} (hRun : Transition.run (step env) new moves = some t) :
    Transition.Always (step env) State.NothingLost new moves ↔
      Transition.Along (step env) AssignedFirst new moves := by
  apply Transition.always_iff_along_of_run (I := State.Keeping) _ _ _ hRun new_keeping
  · exact fun s hs => hs.nothingLost
  · exact fun s move s' hs hFirst hStep => step_keeping hSort hs hFirst hStep
  · exact fun s move s' _ hLate hStep => assignGame_loses hLate hStep

/-- An event that is reported to the game. -/
def goal : Event := ⟨"a".toList, "b".toList, "goal".toList, 5, .empty, .empty, .empty, []⟩

/-- A login, and a `join` whose assignment comes first. -/
def joinInTime : List Step :=
  [.login, .connect true, .start "meni".toList, .setConnected, .process,
    .subscribe "a_b".toList true, .assignGame, .wake, .read,
    .message "a_b".toList "dana".toList goal]

/-- The update arrives when the game is there. -/
theorem nothingLost_inTime : Transition.Always (step sorting) State.NothingLost new joinInTime ↔
    Transition.Along (step sorting) AssignedFirst new joinInTime :=
  nothingLost_iff (fun events => List.mergeSort_perm events _)
    (rfl : Transition.run (step sorting) new joinInTime = some
      ((Transition.run (step sorting) new joinInTime).getD new))

/-- The same `join`, with a `MESSAGE` between its frame and its assignment. -/
def joinTooLate : List Step :=
  [.login, .connect true, .start "meni".toList, .setConnected, .process,
    .subscribe "a_b".toList true, .wake, .read, .message "a_b".toList "dana".toList goal,
    .assignGame]

/-- An update of another user arrives between the `SUBSCRIBE` and the assignment of `handleJoin`,
which puts an empty game in the place of the one that holds it. -/
theorem update_lost : ¬∀ env : Env, (∀ events, (env.sort events).Perm events) →
    ∀ s, Transition.Reachable (· = new) (step env) s → s.NothingLost := by
  intro h
  let lost := (Transition.run (step sorting) new joinTooLate).getD new
  have hReached : Transition.Reachable (· = new) (step sorting) lost :=
    ⟨new, joinTooLate, rfl, rfl⟩
  have hKept := h sorting (fun events => List.mergeSort_perm events _) lost hReached
  have hMem : ("dana".toList, goal) ∈ lost.received "a_b".toList := List.mem_singleton_self _
  obtain ⟨kept, hGame, hBefore | hAfter⟩ := hKept "a_b".toList "dana".toList goal hMem
  · cases hGame
    exact absurd hBefore List.not_mem_nil
  · cases hGame
    exact absurd hAfter List.not_mem_nil

end StompGames.ClientThreads
