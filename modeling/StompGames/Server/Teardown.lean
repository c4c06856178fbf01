import StompGames.Server.LoginRollback

/-! What is left of a connection after `handleDisconnect`, whichever of its call
sites it was called from and whatever the SQL service answered. -/
namespace StompGames.Server

open Imperative

/-- The states in which the calls of `handleDisconnect` for `c` begin that can be
made from state `s`: by the handler, by the `DISCONNECT` command, and by the
`catch` of `process`, also when the command's own call has just failed. -/
inductive TeardownCall (c : Int) (s : Server) : Server → Prop where
  | direct : TeardownCall c s s
  | command {message body : Text} {headers : Headers} {u : Server}
      (parsed : parseFrame message = (headers, .ok ("DISCONNECT".toList, body)))
      (answered : (do conCheck c; answerReceipt c headers) s = (.ok (), u)) : TeardownCall c s u
  | error {message : Text} {e : JavaException} {u : Server}
      (thrown : attempt c message s = (.error e, u)) :
      TeardownCall c s (u.sent c (errorFrame e.getMessage
        ((parseFrame message).1 "receipt".toList)))

/-- The command ends with the call. -/
theorem attempt_disconnect {c : Int} {s u : Server} {message body : Text} {headers : Headers}
    (parsed : parseFrame message = (headers, .ok ("DISCONNECT".toList, body)))
    (answered : (do conCheck c; answerReceipt c headers) s = (.ok (), u)) :
    attempt c message s = handleDisconnect c u := by
  have hDispatch : attempt c message s =
      (do conCheck c; answerReceipt c headers; handleDisconnect c) s := by
    simp only [attempt, parsed]
    rfl
  rw [hDispatch]
  simp only [Method.bind_apply] at answered ⊢
  rcases hCheck : conCheck c s with ⟨_ | _, t⟩
  · simp [hCheck] at answered
  · rw [hCheck] at answered
    simp only [answered]

/-- Nothing is left of the connection. -/
structure Freed (c : Int) (s : Server) : Prop where
  handler : s.cManager.connecetions c = none
  subscriptions : s.cManager.subManager.ofConnection c = []
  channels : ∀ channel, ∀ sub ∈ s.cManager.subManager.ofChannel channel, sub.conId ≠ c
  users : ∀ name user, s.db.userMap name = some user → (s.db.users user).isLoggedIn = true →
    (s.db.users user).connectionId ≠ c

/-- Handler and session of the connection are gone. -/
structure Gone (c : Int) (s : Server) : Prop where
  handler : s.cManager.connecetions c = none
  session : s.db.connectionsIdMap c = none

theorem Gone.freed {c : Int} {s : Server} (h : s.Gone c) (hIndexed : s.Indexed)
    (hSessions : s.Sessions) : Freed c s := by
  have hSubs := (hSessions.unsubscribed h.session).2
  refine ⟨h.handler, hSubs, fun channel sub hSub hCon => ?_,
    (hSessions.database.no_user_iff c).2 h.session⟩
  have hOwner := ((hIndexed.indexes.mem_key_iff channel sub).1 hSub).2
  rw [hCon, hSubs] at hOwner
  exact List.not_mem_nil hOwner

/-- The connection has no session to close, or its protocol object still names a
logged-in user and the SQL service records the logout. -/
def TeardownSucceeds (c : Int) (u : Server) : Prop :=
  u.db.connectionsIdMap c = none ∨
    (u.db.isLoggedIn (u.protocols c).userName.chars = true ∧ (u.db.sqlService 0).succeeds = true)

/-- Handler and subscriptions always go, so the users decide. -/
theorem freed_iff {c : Int} {u : Server} (hIndexed : u.Indexed)
    (hSessions : (handleDisconnect c u).2.Sessions) :
    Freed c (handleDisconnect c u).2 ↔ (handleDisconnect c u).2.db.connectionsIdMap c = none := by
  have hHandler := (handleDisconnect_freed hIndexed c).2.1
  constructor
  · intro h
    exact (hSessions.database.no_user_iff c).1 h.users
  · intro hSession
    exact Gone.freed ⟨hHandler, hSession⟩ (handleDisconnect_indexed hIndexed c) hSessions

theorem session_closed_iff {c : Int} {u : Server} (hIndexed : u.Indexed) :
    (handleDisconnect c u).2.db.connectionsIdMap c = none ↔ TeardownSucceeds c u := by
  unfold TeardownSucceeds
  obtain ⟨hNone, hDb, -⟩ | ⟨user, hLogged, hBound, hFails, hDb, -⟩ |
    ⟨user, hLogged, hBound, hWorks, hDb, -⟩ := handleDisconnect_cases hIndexed c <;> rw [hDb]
  · constructor
    · exact Or.inl
    · rintro (h | ⟨hLogged, -⟩)
      · exact h
      · rcases hNone with hOut | hNone
        · simp [hOut] at hLogged
        · exact hNone
  · simp [hBound, hFails]
  · simp [hBound, hLogged, hWorks, Database.closed]

theorem TeardownCall.left {c : Int} {s u : Server} (hIndexed : s.Indexed)
    (call : TeardownCall c s u) : Left c s u := by
  have hStart : Touched c s s := ⟨hIndexed, .refl⟩
  cases call with
  | direct => exact hStart.left
  | @command message body headers u parsed answered =>
      have hTouched := preserves_checked_of (preserves_answerReceipt headers) s hStart
      rw [answered] at hTouched
      exact hTouched.left
  | @error message e u thrown =>
      have hLeft := ensures_attempt message s hStart
      rw [thrown] at hLeft
      exact hLeft.next (.send (.error _ _))

/-- A call of `handleDisconnect` frees the connection with its subscriptions and its session,
unless there is a session that cannot be closed: its user is not found, or the SQL call throws.
-/
theorem teardown_frees_iff {s : Server} (h : Transition.Reachable Started step s) {c : Int}
    (hAccepted : s.accepted c = true) {u : Server} (call : TeardownCall c s u) :
    Freed c (handleDisconnect c u).2 ↔ TeardownSucceeds c u := by
  obtain ⟨hIndexed, hSessions, hAcc⟩ :=
    (call.left (reachable_indexed h)).sessions (reachable_indexed h) (reachable_sessions h)
      hAccepted
  rw [freed_iff hIndexed (handleDisconnect_sessions hSessions hIndexed hAcc),
    session_closed_iff hIndexed]

/-- The connection of a user who has just registered, with a service that works. -/
theorem teardown_frees_iff_registered :
    Freed 1 (handleDisconnect 1 (process 1 (connectFrame "meni" "films")
      ((Server.new true (failsAfter 3)).accept 1)).2).2 ↔
    TeardownSucceeds 1 (process 1 (connectFrame "meni" "films")
      ((Server.new true (failsAfter 3)).accept 1)).2 :=
  teardown_frees_iff ⟨.new true (failsAfter 3), [.accept 1,
    .process 1 (connectFrame "meni" "films")], ⟨true, _, rfl⟩, rfl⟩ (by decide) .direct

/-- A user whose connection is torn down while the SQL service is down stays logged in. -/
theorem teardown_not_freed : ¬∀ s, Transition.Reachable Started step s → ∀ c,
    s.accepted c = true → ∀ u, TeardownCall c s u → Freed c (handleDisconnect c u).2 := by
  intro h
  have hFreed := h _ ⟨.new true (failsAfter 2), [.accept 1,
    .process 1 (connectFrame "meni" "films")], ⟨true, _, rfl⟩, rfl⟩ 1 (by decide) _ .direct
  exact absurd rfl (hFreed.users "meni".toList 0 (by decide) (by decide))

end StompGames.Server
