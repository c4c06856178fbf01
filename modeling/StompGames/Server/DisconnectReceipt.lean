import StompGames.Server.DisconnectSteps

/-! What the receipt of a `DISCONNECT` says of the user. The receipt is sent before the
session is closed, so the user is still logged in when it leaves. -/
namespace StompGames

open Imperative

namespace Server

/-- The user of this name is logged in, and over this connection. -/
def LoggedInUnder (s : Server) (c : Int) (u : Text) : Prop :=
  ∃ ref, s.db.userMap u = some ref ∧ (s.db.users ref).isLoggedIn = true ∧
    (s.db.users ref).connectionId = c

/-- A `CONNECT` for a registered user, with the right password, on a connection without
a session. -/
structure Reconnect (s : Server) (u : Text) (d : Int) (message : Text) : Prop where
  free : s.db.connectionsIdMap d = none
  parsed : ∃ headers body ref, parseFrame message = (headers, .ok ("CONNECT".toList, body)) ∧
    headers "login".toList = some u ∧ s.db.userMap u = some ref ∧
    headers "passcode".toList = some (s.db.users ref).password

/-- The exception of `solveConnect` that turns away a second session of one user. -/
def userAlreadyLoggedIn : JavaException := .runtime "User already logged in.".toList

/-- What a receipt for the `DISCONNECT` of `u` on connection `c` should mean. -/
structure SignedOff (s : Server) (c : Int) (u : Text) : Prop where
  closed : ¬s.LoggedInUnder c u
  reconnects : ∀ d message, s.Reconnect u d message →
    (∀ other, other ≠ c → ¬s.LoggedInUnder other u) →
      (attempt d message s).1 ≠ .error userAlreadyLoggedIn

theorem attempt_connect {c : Int} {s : Server} {message body : Text} {headers : Headers}
    (parsed : parseFrame message = (headers, .ok ("CONNECT".toList, body))) :
    attempt c message s = (do solveConnect c headers; answerReceipt c headers) s := by
  simp only [attempt, parsed]
  rfl

/-- No receipt ends in the exception of a login that is turned away. -/
theorem answerReceipt_ne (c : Int) (headers : Headers) (s : Server) :
    (answerReceipt c headers s).1 ≠ .error userAlreadyLoggedIn := by
  rw [answerReceipt_apply]
  unfold userAlreadyLoggedIn
  cases headers "receipt".toList with
  | none => simp
  | some receipt => cases hId : Java.parseInt receipt <;> simp [hId]

/-- Such a `CONNECT` is turned away just where the user is logged in. -/
theorem Reconnect.rejected_iff {s : Server} {u : Text} {d : Int} {message : Text}
    (h : s.Reconnect u d message) :
    (attempt d message s).1 = .error userAlreadyLoggedIn ↔ ∃ c, s.LoggedInUnder c u := by
  obtain ⟨headers, body, ref, hParsed, hLogin, hUser, hPass⟩ := h.parsed
  have hKnown := Database.login_known h.free hUser (s.db.users ref).password
  rw [attempt_connect hParsed]
  by_cases hLoggedIn : (s.db.users ref).isLoggedIn = true
  · rw [if_pos hLoggedIn] at hKnown
    have hError : (do solveConnect d headers; answerReceipt d headers) s =
        (.error userAlreadyLoggedIn, s) := by
      simp only [solveConnect, hLogin, hPass, Method.bind_apply, onDb, Method.zoom_apply, hKnown,
        if_true, Method.throw_apply]
      rfl
    rw [hError]
    exact iff_of_true rfl ⟨_, ref, hUser, hLoggedIn, rfl⟩
  · rw [if_neg hLoggedIn, if_neg (fun hNe => hNe rfl)] at hKnown
    apply iff_of_false
    · simp only [solveConnect, hLogin, hPass, Method.bind_apply, onDb, Method.zoom_apply, hKnown]
      cases s.db.sqlService 0 with
      | failure message => simp [Database.sqlError, userAlreadyLoggedIn]
      | reply response =>
          simp only [reduceCtorEq, if_false, Method.bind_apply, Method.modify_apply, send_apply]
          exact answerReceipt_ne _ _ _
    · rintro ⟨c, other, hOther, hOpen, -⟩
      obtain rfl := Option.some.inj (hUser.symm.trans hOther)
      exact hLoggedIn hOpen

/-- The second half follows from the first. -/
theorem signedOff_iff (s : Server) (c : Int) (u : Text) :
    s.SignedOff c u ↔ ¬s.LoggedInUnder c u := by
  refine ⟨SignedOff.closed, fun hClosed => ⟨hClosed, fun d message hConnect hOthers hError => ?_⟩⟩
  obtain ⟨other, hLoggedIn⟩ := hConnect.rejected_iff.1 hError
  by_cases hOther : other = c
  · subst hOther
    exact hClosed hLoggedIn
  · exact hOthers other hOther hLoggedIn

/-- The user of a session, where it has not changed. -/
def Names (s : Server) (c : Int) (u : Text) : Prop :=
  ∀ ref, s.db.connectionsIdMap c = some ref → (s.db.users ref).name = u

/-- The connection goes on with the user it has, as long as its session is kept or ends. -/
theorem Names.next {c : Int} {u : Text} {s t : Server} (h : s.Names c u)
    (hSessions : s.db.Sessions) (hKeeps : s.db.Keeps t.db)
    (hSession : t.db.connectionsIdMap c = s.db.connectionsIdMap c ∨
      t.db.connectionsIdMap c = none) : t.Names c u := by
  intro ref hBound
  rcases hSession with hSame | hNone
  · rw [hSame] at hBound
    exact (hKeeps.name ref (hSessions.lt_of_bound hBound)).trans (h ref hBound)
  · simp [hNone] at hBound

/-- The user is logged in over the connection just as long as the connection has an entry. -/
theorem loggedInUnder_iff {c : Int} {u : Text} {s : Server} (h : s.Sessions)
    (hNames : s.Names c u) : s.LoggedInUnder c u ↔ s.db.connectionsIdMap c ≠ none := by
  constructor
  · rintro ⟨ref, hUser, hOpen, rfl⟩
    simp [h.database.opened u ref hUser hOpen]
  · intro hSession
    obtain ⟨ref, hBound⟩ := Option.ne_none_iff_exists'.1 hSession
    obtain ⟨hUser, hOpen, hCon⟩ := h.database.bound c ref hBound
    rw [hNames ref hBound] at hUser
    exact ⟨ref, hUser, hOpen, hCon⟩

/-- `conCheck` accepts a connection whose user is logged in under it. -/
theorem LoggedIn.under {c : Int} {s : Server} (h : s.Sessions) (hLoggedIn : s.LoggedIn c) :
    s.Names c (s.protocols c).userName.chars ∧
      s.LoggedInUnder c (s.protocols c).userName.chars := by
  obtain ⟨ref, hBound, hName⟩ := h.owned c hLoggedIn.userName_ne
  have hNames : s.Names c (s.protocols c).userName.chars := by
    intro other hOther
    obtain rfl := Option.some.inj (hBound.symm.trans hOther)
    exact hName
  exact ⟨hNames, (loggedInUnder_iff h hNames).2 (by simp [hBound])⟩

end Server

namespace Disconnecting

open Server

/-- What every run keeps: a thread in the middle of a teardown has detached its connection,
and a session that an acknowledged connection still has is the acknowledged user's. -/
structure Aligned (s : Disconnecting) : Prop where
  indexed : s.server.Indexed
  sessions : s.server.Sessions
  accepted : ∀ c, s.place c ≠ .idle → s.server.accepted c = true
  unsubscribed : ∀ c receipt, s.place c = .logout receipt →
    s.server.cManager.subManager.ofConnection c = []
  named : ∀ c u, s.acknowledged c = some u → s.server.Names c u

/-- A step of one connection has to be checked for that connection only. -/
theorem Aligned.next {c : Int} {s t : Disconnecting} (h : s.Aligned)
    (hWorked : Worked c s.server t.server) (hAccepted : s.server.accepted c = true)
    (hPlace : ∀ other, other ≠ c → t.place other = s.place other)
    (hAcknowledged : ∀ other, other ≠ c → t.acknowledged other = s.acknowledged other)
    (hUnsubscribed : ∀ receipt, t.place c = .logout receipt →
      t.server.cManager.subManager.ofConnection c = [])
    (hNamed : ∀ u, t.acknowledged c = some u → t.server.Names c u) : t.Aligned where
  indexed := hWorked.indexed
  sessions := hWorked.sessions
  accepted other hBusy := by
    rw [hWorked.others.accepted]
    by_cases hOther : other = c
    · subst hOther
      exact hAccepted
    · rw [hPlace other hOther] at hBusy
      exact h.accepted other hBusy
  unsubscribed other receipt hLogout := by
    by_cases hOther : other = c
    · subst hOther
      exact hUnsubscribed receipt hLogout
    · rw [hPlace other hOther] at hLogout
      rw [hWorked.others.ofConnection hOther]
      exact h.unsubscribed other receipt hLogout
  named other u hUser := by
    by_cases hOther : other = c
    · subst hOther
      exact hNamed u hUser
    · rw [hAcknowledged other hOther] at hUser
      exact (h.named other u hUser).next h.sessions.database hWorked.keeps
        (Or.inl (hWorked.others.session other hOther))

/-- A part of a teardown, after which the thread is at `place`. -/
theorem Aligned.closes {c : Int} {s : Disconnecting} {t : Server} {place : DisconnectPlace}
    (h : s.Aligned) (hAccepted : s.server.accepted c = true)
    (hWorked : Worked c s.server t) (hCloses : ClosesOnly c s.server t)
    (hUnsubscribed : ∀ receipt, place = .logout receipt →
      t.cManager.subManager.ofConnection c = []) :
    ({ s with server := t, place := Function.update s.place c place } : Disconnecting).Aligned := by
  refine h.next hWorked hAccepted (fun other hOther => Function.update_of_ne hOther _ _)
    (fun _ _ => rfl) ?_ ?_
  · exact fun receipt hLogout =>
      hUnsubscribed receipt ((Function.update_self c place s.place).symm.trans hLogout)
  · exact fun u hUser => (h.named c u hUser).next h.sessions.database hWorked.keeps hCloses

/-- The receipt goes out while the user is still logged in over the connection. -/
theorem Aligned.answered {c : Int} {s : Disconnecting} {message : Text} {t : Server}
    (h : s.Aligned) (hAccepted : s.server.accepted c = true)
    (hAnswer : s.server.answerDisconnect c message = some t) (receipt : Option Text) :
    (s.answered c receipt t).Aligned ∧
      t.LoggedInUnder c (s.server.protocols c).userName.chars := by
  obtain ⟨headers, body, -, hLoggedIn, -, hReceipt⟩ := answerDisconnect_eq_some hAnswer
  obtain ⟨hNames, hUnder⟩ := hLoggedIn.under h.sessions
  obtain ⟨hWorked, hDb⟩ : Worked c s.server t ∧ t.db = s.server.db := by
    obtain ⟨-, rfl⟩ | ⟨receiptId, rfl⟩ := answerReceipt_returns hReceipt
    · exact ⟨⟨.refl c _, Database.Keeps.refl _, h.indexed, h.sessions⟩, rfl⟩
    · exact ⟨worked_sent h.indexed h.sessions hAccepted (.receipt receiptId), rfl⟩
  have hSession : t.db.connectionsIdMap c = s.server.db.connectionsIdMap c := by rw [hDb]
  refine ⟨?_, by unfold LoggedInUnder; rw [hDb]; exact hUnder⟩
  refine h.next hWorked hAccepted (fun other hOther => Function.update_of_ne hOther _ _) ?_ ?_ ?_
  · intro other hOther
    unfold Disconnecting.answered
    dsimp only
    split
    · exact Function.update_of_ne hOther _ _
    · rfl
  · intro receipt' hLogout
    simp [Disconnecting.answered] at hLogout
  · intro u hUser
    unfold Disconnecting.answered at hUser
    dsimp only at hUser
    split at hUser
    · rw [Function.update_self] at hUser
      obtain rfl := Option.some.inj hUser
      exact hNames.next h.sessions.database hWorked.keeps (Or.inl hSession)
    · exact (h.named c u hUser).next h.sessions.database hWorked.keeps (Or.inl hSession)

/-- A frame of a connection that is not in the middle of a teardown. -/
theorem Aligned.handled {c : Int} {s : Disconnecting} {t : Server} (h : s.Aligned)
    (hAccepted : s.server.accepted c = true) (hIdle : s.place c = .idle)
    (hWorked : Worked c s.server t) : (s.handled c t).Aligned := by
  refine h.next hWorked hAccepted (fun _ _ => rfl)
    (fun other hOther => Function.update_of_ne hOther _ _) ?_ ?_
  · intro receipt hLogout
    exact absurd (hIdle.symm.trans hLogout) (by simp)
  · intro u hUser
    have hRemembered : s.remembered c t = some u := by
      simpa only [Disconnecting.handled, Function.update_self] using hUser
    unfold remembered at hRemembered
    split at hRemembered
    case isFalse => cases hRemembered
    case isTrue hSession =>
      exact (h.named c u hRemembered).next h.sessions.database hWorked.keeps hSession

/-- Both statements that are left of a teardown end in the one way or the other. -/
theorem Aligned.goesOn {c : Int} {s : Disconnecting} {place : DisconnectPlace}
    {result : Except JavaException Unit × Server} (h : s.Aligned)
    (hAccepted : s.server.accepted c = true) (hWorked : Worked c s.server result.2)
    (hCloses : ClosesOnly c s.server result.2)
    (hUnsubscribed : ∀ receipt, place = .logout receipt →
      result.2.cManager.subManager.ofConnection c = []) (receipt : Option Text) :
    (s.goesOn c receipt place result).Aligned := by
  rcases result with ⟨e | _, t⟩
  · obtain ⟨hError, hErrorCloses⟩ := worked_solveError hWorked.indexed hWorked.sessions
      ((congrFun hWorked.others.accepted c).trans hAccepted) e.getMessage receipt
    exact h.closes hAccepted (hWorked.trans hError) (hCloses.trans hErrorCloses)
      (fun _ hLogout => by cases hLogout)
  · exact h.closes hAccepted hWorked hCloses hUnsubscribed

theorem Aligned.accept {c : Int} {s : Disconnecting} (h : s.Aligned)
    (hFresh : s.server.accepted c = false) :
    ({ s with server := s.server.accept c } : Disconnecting).Aligned where
  indexed := h.indexed
  sessions := accept_sessions h.sessions hFresh
  accepted other hBusy := by
    have hAccepted := h.accepted other hBusy
    have hOther : other ≠ c := by
      rintro rfl
      simp [hFresh] at hAccepted
    exact (Function.update_of_ne hOther _ _).trans hAccepted
  unsubscribed := h.unsubscribed
  named := h.named

/-- Each event keeps it. This is the step lemma, and what follows for runs is by induction. -/
theorem Aligned.step {s t : Disconnecting} {event : DisconnectEvent} (h : s.Aligned)
    (hStep : s.step event = some t) : t.Aligned := by
  obtain ⟨c, -, hFresh, rfl⟩ | ⟨c, message, u, -, hAccepted, -, hAnswer, rfl⟩ |
    ⟨c, message, -, hAccepted, hIdle, -, rfl⟩ | ⟨c, receipt, -, hPlace, rfl⟩ |
    ⟨c, receipt, -, hPlace, rfl⟩ | ⟨c, -, hAccepted, rfl⟩ := step_cases hStep
  · exact h.accept hFresh
  · exact (h.answered hAccepted hAnswer _).1
  · exact h.handled hAccepted hIdle (worked_process h.indexed h.sessions hAccepted message)
  · have hAccepted : s.server.accepted c = true := h.accepted c (by simp [hPlace])
    apply h.goesOn hAccepted <;> rw [detach_apply h.indexed]
    · exact worked_detached h.indexed h.sessions hAccepted
    · exact Or.inl rfl
    · exact fun _ _ => detached_unsubscribed h.indexed c
  · have hAccepted : s.server.accepted c = true := h.accepted c (by simp [hPlace])
    obtain ⟨hWorked, hCloses⟩ := worked_finishDisconnect h.indexed h.sessions hAccepted
      (h.unsubscribed c receipt hPlace)
    exact h.goesOn hAccepted hWorked hCloses (fun _ hLogout => by cases hLogout) receipt
  · obtain ⟨hWorked, hCloses⟩ := worked_handleDisconnect h.indexed h.sessions hAccepted
    refine h.next hWorked hAccepted (fun _ _ => rfl) (fun _ _ => rfl) ?_ ?_
    · exact fun _ _ => (handleDisconnect_freed h.indexed c).2.2.1
    · exact fun u hUser => (h.named c u hUser).next h.sessions.database hWorked.keeps hCloses

/-- No thread is at work, and nothing has been answered yet. -/
def Started (s : Disconnecting) : Prop :=
  s.server.Started ∧ (∀ c, s.place c = .idle) ∧ ∀ c, s.acknowledged c = none

theorem Started.aligned {s : Disconnecting} (h : s.Started) : s.Aligned where
  indexed := by
    obtain ⟨emptyInterned, sqlService, hServer⟩ := h.1
    rw [hServer]
    exact indexed_new emptyInterned sqlService
  sessions := started_sessions h.1
  accepted c hBusy := absurd (h.2.1 c) hBusy
  unsubscribed c receipt hLogout := by
    have hIdle := h.2.1 c
    rw [hLogout] at hIdle
    cases hIdle
  named c u hUser := by
    rw [h.2.2 c] at hUser
    cases hUser

/-- What the first half of a teardown does. -/
theorem step_detach {c : Int} {s : Disconnecting} {receipt : Option Text}
    (hIndexed : s.server.Indexed) (hPlace : s.place c = .detach receipt) :
    s.step (.next c) = some { s with
      server := s.server.detached c
      place := Function.update s.place c (.logout receipt) } := by
  simp only [step, hPlace, detach_apply hIndexed]
  rfl

/-- What the second half does, where the SQL call may throw. -/
theorem step_logout {c : Int} {s : Disconnecting} {receipt : Option Text}
    (hPlace : s.place c = .logout receipt) :
    s.step (.next c) = some (s.goesOn c receipt .idle (finishDisconnect c s.server)) := by
  simp only [step, hPlace]

/-- The statements of a frame, one after the other, do what `process` does. -/
theorem run_uninterrupted {c : Int} {s : Disconnecting} (h : s.Aligned)
    (hAccepted : s.server.accepted c = true) (hIdle : s.place c = .idle) (message : Text) :
    ∃ labels t, (labels = [] ∨ labels = [.next c, .next c]) ∧
      Transition.run step s (.frame c message :: labels) = some t ∧ t.place c = .idle ∧
      t.server = (process c message s.server).2 := by
  cases hAnswer : s.server.answerDisconnect c message with
  | none =>
      refine ⟨[], s.handled c (process c message s.server).2, Or.inl rfl, ?_, hIdle, rfl⟩
      simp only [Transition.run, step, hAccepted, hIdle, hAnswer, and_self, if_true,
        Option.bind_some]
  | some u =>
      obtain ⟨headers, body, hParsed, -, hAnswered, -⟩ := answerDisconnect_eq_some hAnswer
      have hIndexed : u.Indexed :=
        (h.answered hAccepted hAnswer ((parseFrame message).1 "receipt".toList)).1.indexed
      have hAttempt : attempt c message s.server = finishDisconnect c (u.detached c) := by
        rw [attempt_disconnect hParsed hAnswered, handleDisconnect_eq, Method.bind_apply,
          detach_apply hIndexed]
      refine ⟨[.next c, .next c], _, Or.inr rfl, Transition.run_cons_eq_some.2
        ⟨s.answered c (headers "receipt".toList) u, ?_, Transition.run_cons_eq_some.2
          ⟨_, step_detach hIndexed (Function.update_self ..), Transition.run_cons_eq_some.2
            ⟨_, step_logout (Function.update_self ..), rfl⟩⟩⟩, ?_, ?_⟩
      · simp only [step, hAccepted, hIdle, hAnswer, hParsed, and_self, if_true]
      · change ((_ : Disconnecting).goesOn c _ .idle (finishDisconnect c (u.detached c))).place c = _
        rcases finishDisconnect c (u.detached c) with ⟨_ | _, v⟩ <;>
          exact Function.update_self ..
      · change ((_ : Disconnecting).goesOn c _ .idle (finishDisconnect c (u.detached c))).server = _
        simp only [process, Method.tryCatch_apply, hAttempt, hParsed]
        rcases finishDisconnect c (u.detached c) with ⟨_ | _, v⟩ <;> rfl

/-- The property comes to hold with the thread's last step, unless the SQL service fails. -/
theorem logout_closes {c : Int} {s t : Disconnecting} {receipt : Option Text}
    (hPlace : s.place c = .logout receipt) (hLoggedIn : s.server.LoggedIn c)
    (hSql : (s.server.db.sqlService 0).succeeds = true) (hStep : s.step (.next c) = some t) :
    t.server.db.connectionsIdMap c = none := by
  rw [step_logout hPlace] at hStep
  obtain rfl := Option.some.inj hStep
  obtain ⟨hNone, hEnd⟩ | ⟨user, message, hFails, -⟩ | ⟨user, -, hEnd⟩ :=
    finishDisconnect_cases c s.server
  · rw [hEnd]
    rcases hNone with hOut | hNone
    · simp [hLoggedIn.2] at hOut
    · exact hNone
  · simp [hFails, SqlOutcome.succeeds] at hSql
  · rw [hEnd]
    exact Function.update_self ..

/-- A receipt has been sent only to connections whose user is signed off. -/
def ReceiptMeansLogout (s : Disconnecting) : Prop :=
  ∀ c u, s.acknowledged c = some u → s.server.SignedOff c u

/-- The step sends the receipt of a `DISCONNECT`. -/
def SendsReceipt (s : Disconnecting) : DisconnectEvent → Prop
  | .frame c message => (s.server.answerDisconnect c message).isSome ∧
      ((parseFrame message).1 "receipt".toList).isSome ∧
      (s.server.cManager.connecetions c).isSome
  | _ => False

/-- The receipt leaves while the user is logged in. -/
theorem Aligned.receipt {s t : Disconnecting} {c : Int} {message : Text} (h : s.Aligned)
    (hStep : s.step (.frame c message) = some t) (hSends : s.SendsReceipt (.frame c message)) :
    ∃ u, t.acknowledged c = some u ∧ t.server.LoggedInUnder c u := by
  obtain ⟨hAnswer, hReceipt, hHandler⟩ := hSends
  obtain ⟨u, hAnswer⟩ := Option.isSome_iff_exists.1 hAnswer
  simp only [Disconnecting.step, hAnswer] at hStep
  split at hStep
  case isFalse => cases hStep
  case isTrue hReady =>
    obtain rfl := Option.some.inj hStep
    refine ⟨_, ?_, (h.answered hReady.1 hAnswer ((parseFrame message).1 "receipt".toList)).2⟩
    simp only [Disconnecting.answered, hReceipt, hHandler, and_self, if_true,
      Function.update_self]

/-- Other steps acknowledge nothing. -/
theorem acknowledged_none {s t : Disconnecting} {event : DisconnectEvent}
    (h : ∀ c, s.acknowledged c = none) (hSends : ¬s.SendsReceipt event)
    (hStep : s.step event = some t) (c : Int) : t.acknowledged c = none := by
  obtain ⟨d, -, -, rfl⟩ | ⟨d, message, u, rfl, -, -, hAnswer, rfl⟩ |
    ⟨d, message, rfl, -, -, -, rfl⟩ | ⟨d, receipt, -, -, rfl⟩ | ⟨d, receipt, -, -, rfl⟩ |
    ⟨d, -, -, rfl⟩ := step_cases hStep
  · exact h c
  · have hNot : ¬(((parseFrame message).1 "receipt".toList).isSome ∧
        (s.server.cManager.connecetions d).isSome) := by
      intro hBoth
      exact hSends ⟨by simp [hAnswer], hBoth⟩
    simp only [Disconnecting.answered, if_neg hNot]
    exact h c
  · have hRemembered : s.remembered d (process d message s.server).2 = none := by
      simp [remembered, h d]
    simp only [Disconnecting.handled, hRemembered]
    by_cases hSame : c = d
    · subst hSame
      exact Function.update_self ..
    · exact (Function.update_of_ne hSame _ _).trans (h c)
  · rcases Server.detach d s.server with ⟨_ | _, v⟩ <;> exact h c
  · rcases Server.finishDisconnect d s.server with ⟨_ | _, v⟩ <;> exact h c
  · exact h c

/-- When the receipts of a run mean that their users are signed off: for the whole run,
where it sends none; for a state of it, where the logout has come to its last statement. -/
theorem receipt_means_logout_iff {start s : Disconnecting} {events : List DisconnectEvent}
    (hStart : start.Started) (hRun : Transition.run step start events = some s) :
    (Transition.Always step ReceiptMeansLogout start events ↔
      Transition.Along step (fun t event => ¬t.SendsReceipt event) start events) ∧
    (∀ c u, s.acknowledged c = some u →
      (s.server.SignedOff c u ↔ s.server.db.connectionsIdMap c = none)) ∧
    ∀ c message t, s.step (.frame c message) = some t → s.SendsReceipt (.frame c message) →
      ∃ u, t.acknowledged c = some u ∧ t.server.LoggedInUnder c u ∧
        ∀ d connect, t.server.Reconnect u d connect →
          (attempt d connect t.server).1 = .error userAlreadyLoggedIn := by
  have hAligned : s.Aligned :=
    Transition.run_invariant (fun _ _ _ h hStep => h.step hStep) hRun hStart.aligned
  refine ⟨?_, ?_, ?_⟩
  · refine Transition.always_iff_along_of_run
      (I := fun t : Disconnecting => t.Aligned ∧ ∀ c, t.acknowledged c = none) ?_ ?_ ?_ hRun
      ⟨hStart.aligned, hStart.2.2⟩
    · intro t ht c u hUser
      rw [ht.2 c] at hUser
      cases hUser
    · exact fun t event t' ht hSends hStep =>
        ⟨ht.1.step hStep, acknowledged_none ht.2 hSends hStep⟩
    · intro t event t' ht hSends hStep hMeans
      cases event with
      | frame c message =>
          obtain ⟨u, hUser, hUnder⟩ := ht.1.receipt hStep (not_not.1 hSends)
          exact (hMeans c u hUser).closed hUnder
      | _ => exact hSends id
  · intro c u hUser
    rw [signedOff_iff, loggedInUnder_iff hAligned.sessions (hAligned.named c u hUser), not_not]
  · intro c message t hStep hSends
    obtain ⟨u, hUser, hUnder⟩ := hAligned.receipt hStep hSends
    exact ⟨u, hUser, hUnder, fun d connect hConnect => hConnect.rejected_iff.2 ⟨c, hUnder⟩⟩

/-- One connection logs in and disconnects, and another one is there. -/
def quickReturn : List DisconnectEvent :=
  [.accept 1, .frame 1 (connectFrame "meni" "films"), .accept 2,
    .frame 1 "DISCONNECT\nreceipt:5\n\n".toList]

/-- A server without connections, and no thread that is in the middle of a frame. -/
def quickReturnStart : Disconnecting where
  server := .new true fun _ => .reply []
  place := fun _ => .idle
  acknowledged := fun _ => none

/-- What a client finds that logs in again as soon as its receipt has arrived. -/
def quickReturned : Disconnecting :=
  (Transition.run step quickReturnStart quickReturn).getD quickReturnStart

theorem quickReturnStart_started : quickReturnStart.Started :=
  ⟨⟨true, _, rfl⟩, fun _ => rfl, fun _ => rfl⟩

/-- The user sends a `DISCONNECT` and comes back on another connection at once. -/
theorem receipt_means_logout_iff_quickReturn :
    (Transition.Always step ReceiptMeansLogout quickReturnStart quickReturn ↔
      Transition.Along step (fun t event => ¬t.SendsReceipt event) quickReturnStart
        quickReturn) ∧
    (quickReturned.server.SignedOff 1 "meni".toList ↔
      quickReturned.server.db.connectionsIdMap 1 = none) := by
  have hRun : Transition.run step quickReturnStart quickReturn = some quickReturned := rfl
  obtain ⟨hAll, hState, -⟩ := receipt_means_logout_iff quickReturnStart_started hRun
  exact ⟨hAll, hState 1 "meni".toList (by decide)⟩

/-- The user whose receipt has been sent is still logged in under its connection, and is
turned away on the other one. -/
theorem receipt_before_logout :
    (¬∀ (start s : Disconnecting) (events : List DisconnectEvent), start.Started →
      Transition.run step start events = some s →
        Transition.Always step ReceiptMeansLogout start events) ∧
    (attempt 2 (connectFrame "meni" "films") quickReturned.server).1 =
      .error userAlreadyLoggedIn := by
  refine ⟨fun h => ?_, rfl⟩
  have hRun : Transition.run step quickReturnStart quickReturn = some quickReturned := rfl
  have hMeans := (h _ _ _ quickReturnStart_started hRun).last hRun
  have hUser : quickReturned.acknowledged 1 = some "meni".toList := by decide
  exact (hMeans 1 _ hUser).closed ⟨0, by decide, by decide, by decide⟩

end Disconnecting
end StompGames
