import StompGames.Server.Teardown

/-! A `DISCONNECT` frame is answered first and worked through afterwards. Between its
receipt, the end of its subscriptions and the end of its session, the frames of other
connections are handled, and the channel may be closed. -/
namespace StompGames

open Imperative

namespace Server

/-- The statements of `handleDisconnect` up to the call of `cManager.disconnect`. -/
def detach (conId : Int) : Method JavaException Server Unit := do
  modify (setShouldTerminate conId)
  onCManager (ConnectionsManager.disconnect conId)

/-- The statements of `handleDisconnect` from the call of `db.logout` on. -/
def finishDisconnect (conId : Int) : Method JavaException Server Unit := do
  let s ← get
  if s.db.isLoggedIn (s.protocols conId).userName.chars then onDb (Database.logout conId)
  else pure ()
  modify (setUserName conId .empty)

/-- The two halves in a row are the method as it stands. -/
theorem handleDisconnect_eq (conId : Int) (s : Server) :
    handleDisconnect conId s = (do detach conId; finishDisconnect conId) s := by
  simp only [handleDisconnect, detach, finishDisconnect, Method.bind_apply, Method.modify_apply]

/-- A `DISCONNECT` frame up to its receipt. It is `none` for other frames, and where an
exception rejects the frame. -/
def answerDisconnect (conId : Int) (message : Text) (s : Server) : Option Server :=
  match (parseFrame message).2 with
  | .ok (command, _) =>
      if command = "DISCONNECT".toList then
        match (do conCheck conId; answerReceipt conId (parseFrame message).1) s with
        | (.ok (), t) => some t
        | (.error _, _) => none
      else none
  | .error _ => none

end Server

/-- What the thread that handles the frames of a connection does next. The `receipt`
header is kept for the handler of an exception. -/
inductive DisconnectPlace where
  | idle
  | detach (receipt : Option Text)
  | logout (receipt : Option Text)
  deriving DecidableEq

/-- `acknowledged` is the user whose `DISCONNECT` was answered with a receipt, as long
as the connection has not opened another session since. -/
structure Disconnecting where
  server : Server
  place : Int → DisconnectPlace
  acknowledged : Int → Option Text

/-- What happens at a server where a `DISCONNECT` takes its time: each part of its teardown is an
event of its own, and frames of other connections may come between two of them. -/
inductive DisconnectEvent where
  | accept (conId : Int)
  | frame (conId : Int) (message : Text)
  | next (conId : Int)
  | close (conId : Int)

namespace Disconnecting

/-- What is remembered when the server of a connection has gone on to state `t`. -/
def remembered (s : Disconnecting) (conId : Int) (t : Server) : Option Text :=
  if t.db.connectionsIdMap conId = s.server.db.connectionsIdMap conId ∨
      t.db.connectionsIdMap conId = none then s.acknowledged conId
  else none

/-- A frame that is no answered `DISCONNECT` has been handled. -/
def handled (s : Disconnecting) (conId : Int) (t : Server) : Disconnecting where
  server := t
  place := s.place
  acknowledged := Function.update s.acknowledged conId (s.remembered conId t)

/-- The receipt has been sent, where one was asked for and the connection still has its
handler. -/
def answered (s : Disconnecting) (conId : Int) (receipt : Option Text) (t : Server) :
    Disconnecting where
  server := t
  place := Function.update s.place conId (.detach receipt)
  acknowledged :=
    if receipt.isSome ∧ (s.server.cManager.connecetions conId).isSome then Function.update s.acknowledged conId
      (some (s.server.protocols conId).userName.chars)
    else s.acknowledged

/-- How a statement of the teardown ends: it returns, or `process` handles its
exception. -/
def goesOn (s : Disconnecting) (conId : Int) (receipt : Option Text) (place : DisconnectPlace) :
    Except JavaException Unit × Server → Disconnecting
  | (.ok (), t) => { s with server := t, place := Function.update s.place conId place }
  | (.error e, t) =>
      { s with
        server := (Server.solveError conId e.getMessage receipt t).2
        place := Function.update s.place conId .idle }

/-- All other frames are single steps. The selector thread can close a channel at any
time. -/
def step (s : Disconnecting) : DisconnectEvent → Option Disconnecting
  | .accept conId =>
      if s.server.accepted conId then none else some { s with server := s.server.accept conId }
  | .frame conId message =>
      if s.server.accepted conId ∧ s.place conId = .idle then
        match s.server.answerDisconnect conId message with
        | some t => some (s.answered conId ((parseFrame message).1 "receipt".toList) t)
        | none => some (s.handled conId (Server.process conId message s.server).2)
      else none
  | .next conId =>
      match s.place conId with
      | .idle => none
      | .detach receipt =>
          some (s.goesOn conId receipt (.logout receipt) (Server.detach conId s.server))
      | .logout receipt =>
          some (s.goesOn conId receipt .idle (Server.finishDisconnect conId s.server))
  | .close conId =>
      if s.server.accepted conId then
        some { s with server := (Server.handleDisconnect conId s.server).2 }
      else none

/-- All that an event can do, with the conditions under which it happens. -/
theorem step_cases {s t : Disconnecting} {event : DisconnectEvent}
    (h : s.step event = some t) :
    (∃ c, event = .accept c ∧ s.server.accepted c = false ∧
      t = { s with server := s.server.accept c }) ∨
    (∃ c message u, event = .frame c message ∧ s.server.accepted c = true ∧ s.place c = .idle ∧
      s.server.answerDisconnect c message = some u ∧
      t = s.answered c ((parseFrame message).1 "receipt".toList) u) ∨
    (∃ c message, event = .frame c message ∧ s.server.accepted c = true ∧
      s.place c = .idle ∧ s.server.answerDisconnect c message = none ∧
      t = s.handled c (Server.process c message s.server).2) ∨
    (∃ c receipt, event = .next c ∧ s.place c = .detach receipt ∧
      t = s.goesOn c receipt (.logout receipt) (Server.detach c s.server)) ∨
    (∃ c receipt, event = .next c ∧ s.place c = .logout receipt ∧
      t = s.goesOn c receipt .idle (Server.finishDisconnect c s.server)) ∨
    ∃ c, event = .close c ∧ s.server.accepted c = true ∧
      t = { s with server := (Server.handleDisconnect c s.server).2 } := by
  cases event with
  | accept c =>
      simp only [step] at h
      split at h
      case isTrue => cases h
      case isFalse hFresh =>
        exact Or.inl ⟨c, rfl, Bool.eq_false_of_not_eq_true hFresh, (Option.some.inj h).symm⟩
  | frame c message =>
      simp only [step] at h
      split at h
      case isFalse => cases h
      case isTrue hReady =>
        apply Or.inr
        cases hAnswer : s.server.answerDisconnect c message with
        | some u =>
            rw [hAnswer] at h
            exact Or.inl ⟨c, message, u, rfl, hReady.1, hReady.2, hAnswer,
              (Option.some.inj h).symm⟩
        | none =>
            rw [hAnswer] at h
            exact Or.inr (Or.inl ⟨c, message, rfl, hReady.1, hReady.2, hAnswer,
              (Option.some.inj h).symm⟩)
  | next c =>
      simp only [step] at h
      refine Or.inr (Or.inr (Or.inr ?_))
      cases hPlace : s.place c with
      | idle =>
          rw [hPlace] at h
          cases h
      | detach receipt =>
          rw [hPlace] at h
          exact Or.inl ⟨c, receipt, rfl, hPlace, (Option.some.inj h).symm⟩
      | logout receipt =>
          rw [hPlace] at h
          exact Or.inr (Or.inl ⟨c, receipt, rfl, hPlace, (Option.some.inj h).symm⟩)
  | close c =>
      simp only [step] at h
      split at h
      case isFalse => cases h
      case isTrue hAccepted =>
        exact Or.inr (Or.inr (Or.inr (Or.inr (Or.inr
          ⟨c, rfl, hAccepted, (Option.some.inj h).symm⟩))))

end Disconnecting

namespace Server

/-- The first half never throws. -/
theorem detach_apply {s : Server} (h : s.Indexed) (c : Int) :
    detach c s = (.ok (), s.detached c) := by
  simp only [detach, Method.bind_apply, Method.modify_apply, onCManager, Method.zoom_apply]
  rw [show (s.setShouldTerminate c).cManager = s.cManager from rfl,
    (ConnectionsManager.disconnect_apply h c).1]
  rfl

/-- After the first half the connection gets nothing of any channel. -/
theorem detached_unsubscribed {s : Server} (h : s.Indexed) (c : Int) :
    (s.detached c).cManager.subManager.ofConnection c = [] := by
  obtain ⟨-, -, -, hSubs, -⟩ := ConnectionsManager.disconnect_apply h c
  unfold SubscriptionManager.ofConnection
  rw [show (s.detached c).cManager = s.cManager.disconnected c from rfl, hSubs,
    Function.update_self]
  rfl

/-- The SQL call and the end of the session. -/
def loggedOut (s : Server) (c : Int) (user : UserRef) : Server :=
  { s with db := (s.db.called (Database.logoutSql (s.db.users user).name)).closed c user }

/-- The end of a teardown: there is no session to close, or its SQL call fails, or the
session is closed. -/
theorem finishDisconnect_cases (c : Int) (s : Server) :
    ((s.db.isLoggedIn (s.protocols c).userName.chars = false ∨ s.db.connectionsIdMap c = none) ∧
      finishDisconnect c s = (.ok (), s.setUserName c .empty)) ∨
    (∃ user message, s.db.sqlService 0 = .failure message ∧
      finishDisconnect c s = (.error (Database.sqlError message),
        { s with db := s.db.called (Database.logoutSql (s.db.users user).name) })) ∨
    ∃ user, s.db.connectionsIdMap c = some user ∧
      finishDisconnect c s = (.ok (), (s.loggedOut c user).setUserName c .empty) := by
  simp only [finishDisconnect, Method.bind_apply, Method.get_apply, Method.ite_apply, onDb,
    Method.zoom_apply, Method.modify_apply]
  by_cases hLoggedIn : s.db.isLoggedIn (s.protocols c).userName.chars = true
  · rw [if_pos hLoggedIn]
    cases hSession : s.db.connectionsIdMap c with
    | none =>
        rw [Database.logout_none hSession]
        exact Or.inl ⟨Or.inr rfl, rfl⟩
    | some user =>
        rw [Database.logout_some hSession]
        cases hSql : s.db.sqlService 0 with
        | failure message => exact Or.inr (Or.inl ⟨user, message, rfl, rfl⟩)
        | reply response => exact Or.inr (Or.inr ⟨user, rfl, rfl⟩)
  · rw [if_neg hLoggedIn]
    exact Or.inl ⟨Or.inl (Bool.eq_false_of_not_eq_true hLoggedIn), rfl⟩

/-- A part of the work of one connection, as far as the invariant looks at it. -/
structure Worked (c : Int) (s t : Server) : Prop where
  others : OthersKept c s t
  keeps : s.db.Keeps t.db
  indexed : t.Indexed
  sessions : t.Sessions

theorem Worked.trans {c : Int} {s t u : Server} (h : Worked c s t) (h' : Worked c t u) :
    Worked c s u where
  others := h.others.trans h'.others
  keeps := h.keeps.trans h'.keeps
  indexed := h'.indexed
  sessions := h'.sessions

/-- A part of a teardown opens no session. -/
def ClosesOnly (c : Int) (s t : Server) : Prop :=
  t.db.connectionsIdMap c = s.db.connectionsIdMap c ∨ t.db.connectionsIdMap c = none

theorem ClosesOnly.trans {c : Int} {s t u : Server} (h : ClosesOnly c s t)
    (h' : ClosesOnly c t u) : ClosesOnly c s u := by
  rcases h' with hSame | hNone
  · unfold ClosesOnly
    rw [hSame]
    exact h
  · exact Or.inr hNone

section
variable {c : Int} {s : Server} (hIndexed : s.Indexed) (h : s.Sessions)
  (hAccepted : s.accepted c = true)
include hIndexed h hAccepted

theorem worked_handleDisconnect : Worked c s (handleDisconnect c s).2 ∧
    ClosesOnly c s (handleDisconnect c s).2 := by
  refine ⟨⟨handleDisconnect_othersKept hIndexed c, handleDisconnect_keeps hIndexed c,
    handleDisconnect_indexed hIndexed c, handleDisconnect_sessions h hIndexed hAccepted⟩, ?_⟩
  obtain ⟨-, hDb, -⟩ | ⟨user, -, -, -, hDb, -⟩ | ⟨user, -, -, -, hDb, -⟩ :=
    handleDisconnect_cases hIndexed c <;> unfold ClosesOnly <;> rw [hDb]
  · exact Or.inl rfl
  · exact Or.inl rfl
  · exact Or.inr (Function.update_self _ _ _)

theorem worked_sent {reply : Text} (hReply : Reply reply) : Worked c s (s.sent c reply) where
  others := (Effect.send hReply).othersKept hIndexed
  keeps := (Effect.send hReply).keeps
  indexed := hIndexed.sent c reply
  sessions := (Effect.send hReply).sessions h hIndexed hAccepted

theorem worked_solveError (errorMsg : Text) (receipt : Option Text) :
    Worked c s (solveError c errorMsg receipt s).2 ∧
      ClosesOnly c s (solveError c errorMsg receipt s).2 := by
  have hSent := worked_sent hIndexed h hAccepted (.error errorMsg receipt)
  have hSolve : solveError c errorMsg receipt s =
      handleDisconnect c (s.sent c (errorFrame errorMsg receipt)) := by
    simp only [solveError, Method.bind_apply, send_apply]
  rw [hSolve]
  obtain ⟨hWorked, hCloses⟩ := worked_handleDisconnect hSent.indexed hSent.sessions
    ((congrFun hSent.others.accepted c).trans hAccepted)
  exact ⟨hSent.trans hWorked, hCloses⟩

/-- A whole frame is work of its connection. -/
theorem worked_process (message : Text) : Worked c s (process c message s).2 := by
  have hStep : s.step (.process c message) = some (process c message s).2 := by
    simp [step, hAccepted]
  exact ⟨process_othersKept hIndexed c message, process_keeps hIndexed c message,
    step_indexed hIndexed hStep, step_sessions hIndexed h hStep⟩

theorem worked_detached : Worked c s (s.detached c) := by
  have hOthers := detached_othersKept hIndexed c
  have hCons := (ConnectionsManager.disconnect_apply hIndexed c).2.1
  have hName : ((s.detached c).protocols c).userName = (s.protocols c).userName := by
    simp [detached, setShouldTerminate, setProtocol]
  refine ⟨hOthers, Database.Keeps.refl _, hCons, h.next hOthers (Database.Keeps.refl _) hAccepted
    h.database ?_ ?_⟩
  · unfold Owned
    rw [hName]
    exact h.owned c
  · exact fun hSubs => absurd (detached_unsubscribed hIndexed c) hSubs

/-- The second half only closes a session, whatever came in between. -/
theorem worked_finishDisconnect (hUnsubscribed : s.cManager.subManager.ofConnection c = []) :
    Worked c s (finishDisconnect c s).2 ∧ ClosesOnly c s (finishDisconnect c s).2 := by
  have hForgotten : ∀ t : Server, ((t.setUserName c .empty).protocols c).userName = .empty :=
    fun t => setUserName_userName t c .empty
  obtain ⟨-, hEnd⟩ | ⟨user, message, -, hEnd⟩ | ⟨user, hBound, hEnd⟩ :=
    finishDisconnect_cases c s <;> rw [hEnd]
  · have hOthers := setUserName_othersKept c .empty s
    refine ⟨⟨hOthers, Database.Keeps.refl _, hIndexed, h.next hOthers (Database.Keeps.refl _)
      hAccepted h.database ?_ ?_⟩, Or.inl rfl⟩
    · exact fun hName => absurd (hForgotten s) hName
    · exact fun hSubs => absurd hUnsubscribed hSubs
  · have hKeeps := Database.keeps_called s.db (Database.logoutSql (s.db.users user).name)
    have hOthers : OthersKept c s
        { s with db := s.db.called (Database.logoutSql (s.db.users user).name) } :=
      ⟨rfl, fun _ _ => rfl, fun _ _ => rfl, fun _ _ => rfl, fun _ _ => rfl⟩
    exact ⟨⟨hOthers, hKeeps, hIndexed, h.next hOthers hKeeps hAccepted (h.database.called _)
      (h.owned c) (h.subscribed c)⟩, Or.inl rfl⟩
  · have hClosed : OthersKept c s (s.loggedOut c user) :=
      ⟨rfl, fun _ _ => rfl, fun other hOther => Function.update_of_ne hOther _ _,
        fun _ _ => rfl, fun _ _ => rfl⟩
    have hOthers := hClosed.trans (setUserName_othersKept c .empty _)
    have hKeeps : s.db.Keeps ((s.loggedOut c user).setUserName c .empty).db :=
      (Database.keeps_called _ _).trans (Database.keeps_closed _ c _)
    refine ⟨⟨hOthers, hKeeps, hIndexed, h.next hOthers hKeeps hAccepted
      ((h.database.called _).closed hBound) ?_ ?_⟩, Or.inr (Function.update_self _ _ _)⟩
    · exact fun hName => absurd (hForgotten _) hName
    · exact fun hSubs => absurd hUnsubscribed hSubs

end

/-- A `DISCONNECT` is answered for a connection that is logged in, and only its receipt is
sent until then. -/
theorem answerDisconnect_eq_some {c : Int} {message : Text} {s t : Server}
    (h : s.answerDisconnect c message = some t) : ∃ headers body,
    parseFrame message = (headers, .ok ("DISCONNECT".toList, body)) ∧ s.LoggedIn c ∧
      (do conCheck c; answerReceipt c headers) s = (.ok (), t) ∧
      answerReceipt c headers s = (.ok (), t) := by
  unfold answerDisconnect at h
  rcases hParse : parseFrame message with ⟨headers, _ | ⟨command, body⟩⟩
  · simp [hParse] at h
  rw [hParse] at h
  dsimp only at h
  split at h
  case isFalse => cases h
  case isTrue hCommand =>
    subst hCommand
    refine ⟨headers, body, rfl, ?_⟩
    rw [Method.bind_apply, conCheck_apply] at h ⊢
    by_cases hLoggedIn : s.LoggedIn c
    · rw [if_pos hLoggedIn] at h ⊢
      dsimp only at h ⊢
      rcases hReceipt : answerReceipt c headers s with ⟨_ | _, u⟩
      · simp [hReceipt] at h
      · rw [hReceipt] at h
        obtain rfl := Option.some.inj h
        exact ⟨hLoggedIn, rfl, rfl⟩
    · rw [if_neg hLoggedIn] at h
      cases h

/-- What a receipt changes. -/
theorem answerReceipt_returns {c : Int} {headers : Headers} {s t : Server}
    (h : answerReceipt c headers s = (.ok (), t)) :
    (headers "receipt".toList = none ∧ t = s) ∨
      ∃ receiptId, t = s.sent c (receiptFrame receiptId) := by
  rw [answerReceipt_apply] at h
  cases hHeader : headers "receipt".toList with
  | none =>
      rw [hHeader] at h
      exact Or.inl ⟨rfl, (Prod.mk.inj h).2.symm⟩
  | some receipt =>
      rw [hHeader] at h
      dsimp only at h
      cases hId : Java.parseInt receipt with
      | none =>
          rw [hId] at h
          cases h
      | some receiptId =>
          rw [hId] at h
          exact Or.inr ⟨receiptId, (Prod.mk.inj h).2.symm⟩

end Server
end StompGames
