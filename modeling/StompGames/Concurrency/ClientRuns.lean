import StompGames.Client.Quiet
import StompGames.Concurrency.ClientThreads

/-! The client whose threads do not overlap. One turn of the loop of `main`, and one
turn of the loop of `threadLoop`, are runs of that thread alone. -/
namespace StompGames.ClientThreads

open Client Imperative
open Cpp (CppException)

/-- The step is one of `main`. -/
def Step.onMain : Step → Bool
  | .wake | .read | .message _ _ _ | .frame | .throws _ | .setFailed => false
  | _ => true

/-- The same protocol object, and the same topics. -/
structure State.Mirrors (s : State) (client : StompClient) : Prop where
  username : s.username = client.protocol.username
  isConnected : s.isConnected = client.protocol.isConnected
  Games : s.Games = client.protocol.Games
  con : s.con.isSome = client.protocol.ch.isSome
  subscriptions : ∀ topic, s.subscriptions topic = (client.subscriptions topic).isSome

theorem State.Mirrors.of_shared {s : State} {client client' : StompClient} (h : s.Mirrors client)
    (hShared : client'.shared = client.shared) : s.Mirrors client' := by
  simp only [StompClient.shared, Prod.mk.injEq] at hShared
  obtain ⟨hUsername, hConnected, hGames, hCh, hSubscriptions⟩ := hShared
  constructor
  · rw [hUsername]
    exact h.username
  · rw [hConnected]
    exact h.isConnected
  · rw [hGames]
    exact h.Games
  · rw [hCh]
    exact h.con
  · rw [hSubscriptions]
    exact h.subscriptions

/-- Nothing of it is changed. -/
theorem State.Mirrors.unmoved {s : State} {client : StompClient} (h : s.Mirrors client)
    (main : MainPlace) (receiver : ReceiverPlace) (closed ended : Nat → Bool) (joined : Text → Bool)
    (received : Text → List (Text × Event)) :
    State.Mirrors { s with
      main := main
      receiver := receiver
      closed := closed
      ended := ended
      joined := joined
      received := received } client :=
  ⟨h.username, h.isConnected, h.Games, h.con, h.subscriptions⟩

/-- One thread alone has come from `start` to a state like that of the client. -/
def At (env : Env) (onMain : Bool) (start : State) (P : State → Prop) (client : StompClient) :
    Prop :=
  ∃ moves s, (∀ move ∈ moves, move.onMain = onMain) ∧
    Transition.run (step env) start moves = some s ∧ s.Mirrors client ∧ P s

section
variable {env : Env} {onMain : Bool} {start : State} {P Q : State → Prop}
  {client client' : StompClient}

/-- The thread takes one more step. -/
theorem At.next (h : At env onMain start P client)
    (hStep : ∀ s, s.Mirrors client → P s → ∃ move t, move.onMain = onMain ∧
      step env s move = some t ∧ t.Mirrors client' ∧ Q t) : At env onMain start Q client' := by
  obtain ⟨moves, s, hMoves, hRun, hMirrors, hs⟩ := h
  obtain ⟨move, t, hMove, hNext, hMirrors', ht⟩ := hStep s hMirrors hs
  refine ⟨moves ++ [move], t, ?_, ?_, hMirrors', ht⟩
  · intro other hMem
    rcases List.mem_append.1 hMem with hMem | hMem
    · exact hMoves other hMem
    · rw [List.mem_singleton.1 hMem]
      exact hMove
  · have hLast : Transition.run (step env) s [move] = some t :=
      Transition.run_cons_eq_some.2 ⟨t, hNext, rfl⟩
    exact Transition.run_append_eq_some.2 ⟨s, hRun, hLast⟩

theorem At.of_shared (h : At env onMain start P client) (hShared : client'.shared = client.shared) :
    At env onMain start P client' := by
  obtain ⟨moves, s, hMoves, hRun, hMirrors, hs⟩ := h
  exact ⟨moves, s, hMoves, hRun, hMirrors.of_shared hShared, hs⟩

/-- What leaves the shared state alone needs no step. -/
theorem ensures_quiet {α : Type} {m : Method CppException StompClient α} (h : StompClient.Quiet m)
    (P : State → Prop) : Method.Ensures (At env onMain start P) m
      (fun _ => At env onMain start P) (fun _ => At env onMain start P) := by
  apply Method.preserves_iff_ensures.1
  exact fun client hAt => hAt.of_shared (h client)

end

section
variable {env : Env} {start : State} {client : StompClient}

/-- `main` stands there, and only `main` has taken steps. -/
abbrev AtMain (env : Env) (start : State) (place : MainPlace) : StompClient → Prop :=
  At env true start fun s => s.main = place

/-- A command ends, by returning or by an exception that `main` catches. -/
abbrev Ends (env : Env) (start : State) (e : CppException) (client : StompClient) : Prop :=
  e = .unchecked ∨ AtMain env start .getline client

theorem At.processed (h : AtMain env start .process client) : AtMain env start .getline client := by
  apply h.next
  intro s hMirrors hMain
  refine ⟨.processed, { s with main := .getline }, rfl, ?_, ?_, rfl⟩
  · simp only [step, if_pos hMain]
  · exact hMirrors.unmoved ..

/-- A part of a command that needs no step. -/
theorem ensures_process {α : Type} {m : Method CppException StompClient α}
    (h : StompClient.Quiet m) : Method.Ensures (AtMain env start .process) m
      (fun _ => AtMain env start .process) (Ends env start) :=
  (ensures_quiet h _).weaken (fun _ => id) (fun _ _ => id) fun _ _ hAt => Or.inr hAt.processed

/-- A part that only reads from a vector. -/
theorem ensures_index {α : Type} {place : MainPlace} (words : List α) (i : Nat) :
    Method.Ensures (AtMain env start place) (Cpp.index words i)
      (fun _ => AtMain env start place) (Ends env start) := by
  unfold Cpp.index
  split
  · exact Method.ensures_throw _ fun _ _ => Or.inl rfl
  · exact Method.ensures_pure _ fun _ hAt => hAt

/-- The note of a join is made, and its frame is sent or not. -/
theorem At.subscribe (h : AtMain env start .process client) {topic : Text} (subId : Int)
    (hNew : client.subscriptions topic = none) (sent : Bool) :
    AtMain env start (if sent then .join topic else .getline)
      { client with subscriptions := Function.update client.subscriptions topic (some subId) } := by
  apply h.next
  intro s hMirrors hMain
  have hTopic : s.subscriptions topic = false := by
    rw [hMirrors.subscriptions, hNew]
    rfl
  have hNoted : ∀ other, Function.update s.subscriptions topic true other =
      (Function.update client.subscriptions topic (some subId) other).isSome := by
    intro other
    by_cases hOther : other = topic
    · subst hOther
      rw [Function.update_self, Function.update_self]
      rfl
    · rw [Function.update_of_ne hOther, Function.update_of_ne hOther]
      exact hMirrors.subscriptions other
  cases sent
  · refine ⟨.subscribe topic false, _, rfl, if_pos ⟨hMain, hTopic⟩, ?_, rfl⟩
    exact ⟨hMirrors.username, hMirrors.isConnected, hMirrors.Games, hMirrors.con, hNoted⟩
  · refine ⟨.subscribe topic true, _, rfl, if_pos ⟨hMain, hTopic⟩, ?_, rfl⟩
    exact ⟨hMirrors.username, hMirrors.isConnected, hMirrors.Games, hMirrors.con, hNoted⟩

theorem At.assignGame {topic : Text} (h : AtMain env start (.join topic) client) :
    AtMain env start .getline { client with protocol := { client.protocol with
      Games := Function.update client.protocol.Games topic (some (.new topic)) } } := by
  apply h.next
  intro s hMirrors hMain
  refine ⟨.assignGame, { s with
    Games := Function.update s.Games topic (some (.new topic))
    main := .getline }, rfl, ?_, ?_, rfl⟩
  · simp only [step, hMain]
  · refine ⟨hMirrors.username, hMirrors.isConnected, ?_, hMirrors.con, hMirrors.subscriptions⟩
    dsimp only
    rw [hMirrors.Games]

/-- `process` has noted the subscription of a new topic. -/
def Noted (env : Env) (start : State) (topic : Text) (client : StompClient) : Prop :=
  ∃ before subId, AtMain env start .process before ∧ before.subscriptions topic = none ∧
    client.shared = { before with
      subscriptions := Function.update before.subscriptions topic (some subId) }.shared

theorem ensures_handleJoin (topic : Text) (subId receiptId : Int) :
    Method.Ensures (Noted env start topic) (StompClient.handleJoin topic subId receiptId)
      (fun _ => AtMain env start .getline) (Ends env start) := by
  rintro client ⟨before, id, hAt, hNew, hShared⟩
  let frame := StompClient.subscribeFrame topic subId receiptId
  have hQuiet := StompClient.quiet_sendOrFail frame client
  rw [StompClient.handleJoin, Method.bind_apply]
  rcases hRun : StompClient.sendOrFail frame client with ⟨e | done, sent⟩ <;> rw [hRun] at hQuiet
  · exact Or.inr ((hAt.subscribe id hNew false).of_shared (hQuiet.trans hShared))
  · exact ((hAt.subscribe id hNew true).of_shared (hQuiet.trans hShared)).assignGame

/-- The frame of an exit is sent or not. -/
theorem At.unsubscribe (h : AtMain env start .process client) {topic : Text}
    (hTopic : (client.subscriptions topic).isSome) (sent : Bool) :
    AtMain env start (if sent then .exit topic else .getline) client := by
  apply h.next
  intro s hMirrors hMain
  have hListed : s.subscriptions topic = true := (hMirrors.subscriptions topic).trans hTopic
  cases sent
  · refine ⟨.unsubscribe topic false, _, rfl, if_pos ⟨hMain, hListed⟩, ?_, rfl⟩
    exact hMirrors.unmoved ..
  · refine ⟨.unsubscribe topic true, _, rfl, if_pos ⟨hMain, hListed⟩, ?_, rfl⟩
    exact hMirrors.unmoved ..

theorem At.eraseGame {topic : Text} (h : AtMain env start (.exit topic) client) :
    AtMain env start .getline { client with
      subscriptions := Function.update client.subscriptions topic none
      protocol := { client.protocol with
        Games := Function.update client.protocol.Games topic none } } := by
  apply h.next
  intro s hMirrors hMain
  refine ⟨.eraseGame, { s with
    Games := Function.update s.Games topic none
    subscriptions := Function.update s.subscriptions topic false
    main := .getline }, rfl, ?_, ?_, rfl⟩
  · simp only [step, hMain]
  · refine ⟨hMirrors.username, hMirrors.isConnected, ?_, hMirrors.con, fun other => ?_⟩
    · dsimp only
      rw [hMirrors.Games]
    · dsimp only
      by_cases hOther : other = topic
      · subst hOther
        rw [Function.update_self, Function.update_self]
        rfl
      · rw [Function.update_of_ne hOther, Function.update_of_ne hOther]
        exact hMirrors.subscriptions other

theorem ensures_handleExit (topic : Text) (subId receiptId : Int) :
    Method.Ensures
      (fun client => AtMain env start .process client ∧ (client.subscriptions topic).isSome)
      (do
        StompClient.handleExit topic subId receiptId
        modify fun s => { s with
          subscriptions := Function.update s.subscriptions topic none })
      (fun _ => AtMain env start .getline) (Ends env start) := by
  rintro client ⟨hAt, hTopic⟩
  let frame := StompClient.unsubscribeFrame subId receiptId
  have hQuiet := StompClient.quiet_sendOrFail frame client
  rw [StompClient.handleExit, Method.bind_apply, Method.bind_apply]
  rcases hRun : StompClient.sendOrFail frame client with ⟨e | done, sent⟩ <;> rw [hRun] at hQuiet
  · exact Or.inr ((hAt.unsubscribe hTopic false).of_shared hQuiet)
  · exact ((hAt.unsubscribe hTopic true).of_shared hQuiet).eraseGame

/-- A report of the client itself. -/
theorem At.report (h : AtMain env start .process client) (game : Text) (e : Event) :
    AtMain env start .process
      (StompClient.addUpdate env game client.protocol.username e client).2 := by
  apply h.next
  intro s hMirrors hMain
  refine ⟨.report game e, { s with Games := addUpdate env game s.username e s.Games }, rfl,
    if_pos hMain, ?_, hMain⟩
  refine ⟨hMirrors.username, hMirrors.isConnected, ?_, hMirrors.con, hMirrors.subscriptions⟩
  dsimp only
  rw [hMirrors.Games, hMirrors.username]
  rfl

/-- By induction on the events; each turn sends a frame and stores the event. -/
theorem ensures_reportEvents (game : Text) (filePath : Option Text) (events : List Event) :
    Method.Ensures (AtMain env start .process) (StompClient.reportEvents env game filePath events)
      (fun _ => AtMain env start .process) (Ends env start) := by
  induction events generalizing filePath with
  | nil => exact Method.ensures_pure _ fun _ hAt => hAt
  | cons e rest ih =>
      intro client hAt
      rw [StompClient.reportEvents.eq_def]
      dsimp only
      rw [Method.bind_apply, Method.get_apply]
      dsimp only
      generalize hFrame : "SEND\ndestination:/".toList ++ game ++ _ ++ _ ++ _ = frame
      have hQuiet := StompClient.quiet_sendOrFail frame client
      rw [Method.bind_apply]
      rcases hRun : StompClient.sendOrFail frame client with ⟨error | done, sent⟩ <;>
        rw [hRun] at hQuiet
      · exact Or.inr (hAt.of_shared hQuiet).processed
      · have hUsername : sent.protocol.username = client.protocol.username :=
          congrArg Prod.fst hQuiet
        have hStored := (hAt.of_shared hQuiet).report game e
        rw [hUsername] at hStored
        exact ih none _ hStored

theorem ensures_handleReport (filePath : Text) :
    Method.Ensures (AtMain env start .process) (StompClient.handleReport env filePath)
      (fun _ => AtMain env start .process) (Ends env start) := by
  unfold StompClient.handleReport
  split
  · exact Method.ensures_throw _ fun _ hAt => Or.inr hAt.processed
  · exact ensures_reportEvents _ _ _

/-- `handleSummary` looks the game up, and only reads from then on. -/
theorem At.summary (h : AtMain env start .process client) (game : Text) :
    AtMain env start .process { client with protocol := { client.protocol with
      Games := Function.update client.protocol.Games game
        (some (StompClient.gameOf client.protocol game)) } } := by
  apply h.next
  intro s hMirrors hMain
  refine ⟨.summary game, _, rfl, if_pos hMain, ?_, hMain⟩
  refine ⟨hMirrors.username, hMirrors.isConnected, ?_, hMirrors.con, hMirrors.subscriptions⟩
  dsimp only
  rw [hMirrors.Games]
  rfl

theorem ensures_handleSummary (game user filePath : Text) :
    Method.Ensures (AtMain env start .process) (StompClient.handleSummary env game user filePath)
      (fun _ => AtMain env start .process) (Ends env start) := by
  apply Method.ensures_ite
  · exact fun _ => Method.ensures_throw _ fun _ hAt => Or.inr hAt.processed
  · intro _
    apply Method.ensures_bind
    · exact ensures_process (Method.leaves_modify fun _ => rfl)
    · intro _
      apply Method.ensures_bind (R := fun _ => AtMain env start .process)
      · exact Method.ensures_modify fun client hAt => hAt.summary game
      · intro _
        apply ensures_process
        apply Method.leaves_get.bind
        intro s
        apply (Cpp.leaves_index StompClient.shared _ 0).bind
        intro teamA
        apply (Cpp.leaves_index StompClient.shared _ 1).bind
        intro teamB
        repeat apply (StompClient.quiet_write _ _).bind; intro _
        exact StompClient.quiet_write _ _

/-- A command that ends without a step of its own. -/
theorem ensures_processed {m : Method CppException StompClient Unit}
    (h : Method.Ensures (AtMain env start .process) m (fun _ => AtMain env start .process)
      (Ends env start)) :
    Method.Ensures (AtMain env start .process) m (fun _ => AtMain env start .getline)
      (Ends env start) :=
  h.weaken (fun _ => id) (fun _ _ hAt => hAt.processed) fun _ _ => id

theorem ensures_join (topic : Text) (receiptIdGen subIdGen : Int) :
    Method.Ensures (AtMain env start .process)
      (do
        let s ← get
        if (s.subscriptions topic).isSome then
          StompClient.print "User already subscribed to the topic.\n".toList
        else do
          modify fun s => { s with
            subscriptions := Function.update s.subscriptions topic (some subIdGen) }
          StompClient.addReceipt receiptIdGen ("SUB:".toList ++ topic)
          StompClient.handleJoin topic subIdGen receiptIdGen)
      (fun _ => AtMain env start .getline) (Ends env start) := by
  intro client hAt
  rw [Method.bind_apply, Method.get_apply]
  dsimp only
  by_cases hTopic : (client.subscriptions topic).isSome
  · rw [if_pos hTopic]
    exact ensures_processed (ensures_process (StompClient.quiet_print _)) client hAt
  · rw [if_neg hTopic]
    have hNew : client.subscriptions topic = none := Option.not_isSome_iff_eq_none.1 hTopic
    exact ensures_handleJoin topic subIdGen receiptIdGen _ ⟨client, subIdGen, hAt, hNew, rfl⟩

theorem ensures_exit (topic : Text) (receiptIdGen : Int) :
    Method.Ensures (AtMain env start .process)
      (do
        let s ← get
        if (s.subscriptions topic).isNone then
          StompClient.print "You are subscribed to that topic.\n".toList
        else do
          StompClient.addReceipt receiptIdGen ("UNSUB:".toList ++ topic)
          let s ← get
          StompClient.handleExit topic ((s.subscriptions topic).getD 0) receiptIdGen
          modify fun s => { s with subscriptions := Function.update s.subscriptions topic none })
      (fun _ => AtMain env start .getline) (Ends env start) := by
  intro client hAt
  rw [Method.bind_apply, Method.get_apply]
  dsimp only
  by_cases hTopic : (client.subscriptions topic).isNone
  · rw [if_pos hTopic]
    exact ensures_processed (ensures_process (StompClient.quiet_print _)) client hAt
  · rw [if_neg hTopic]
    have hListed : (client.subscriptions topic).isSome := by
      apply Option.isSome_iff_ne_none.2
      exact fun hNone => hTopic (Option.isNone_iff_eq_none.2 hNone)
    have hNoted := StompClient.quiet_addReceipt receiptIdGen ("UNSUB:".toList ++ topic) client
    exact ensures_handleExit topic _ receiptIdGen _ ⟨hAt.of_shared hNoted, hListed⟩

/-- Every command but the login. -/
theorem ensures_processCommand (words : List Text) (receiptIdGen subIdGen : Int) :
    Method.Ensures (AtMain env start .process)
      (StompClient.process env words receiptIdGen subIdGen)
      (fun _ => AtMain env start .getline) (Ends env start) := by
  have hWord : ∀ i, Method.Ensures (AtMain env start .process)
      (Cpp.index words i : Method CppException StompClient Text)
      (fun _ => AtMain env start .process) (Ends env start) := fun i => ensures_index words i
  apply Method.ensures_bind (hWord 0)
  intro action
  apply Method.ensures_ite
  · intro _
    exact Method.ensures_bind (hWord 1) fun topic => ensures_join topic receiptIdGen subIdGen
  intro _
  apply Method.ensures_ite
  · intro _
    exact Method.ensures_bind (hWord 1) fun topic => ensures_exit topic receiptIdGen
  intro _
  apply ensures_processed
  apply Method.ensures_ite
  · intro _
    apply Method.ensures_bind (hWord 1)
    intro filePath
    apply Method.ensures_bind (ensures_handleReport filePath)
    exact fun _ => ensures_process (StompClient.quiet_print _)
  intro _
  apply Method.ensures_ite
  · intro _
    apply ensures_process
    exact (StompClient.quiet_addReceipt _ _).bind fun _ => StompClient.quiet_sendOrFail _
  intro _
  apply Method.ensures_ite
  · intro _
    apply Method.ensures_bind (hWord 1)
    intro topic
    apply Method.ensures_bind (hWord 2)
    intro user
    apply Method.ensures_bind (hWord 3)
    intro filePath
    apply Method.ensures_bind (ensures_handleSummary topic user filePath)
    exact fun _ => ensures_process (StompClient.quiet_print _)
  · intro _
    exact ensures_process (StompClient.quiet_print _)

/-- `main` has closed a connection that it has, and forgotten what it noted. -/
theorem At.forget (h : AtMain env start .getline client) :
    AtMain env start .connect (StompClient.forget client).2 := by
  cases hCh : client.protocol.ch with
  | none =>
      have hForgotten : (StompClient.forget client).2 =
          { client with reciepts := fun _ => none, subscriptions := fun _ => none } := by
        simp [StompClient.forget, hCh]
      rw [hForgotten]
      apply h.next
      intro s hMirrors hMain
      have hCon : s.con = none := by
        apply Option.isNone_iff_eq_none.1
        rw [← Option.not_isSome, hMirrors.con, hCh]
        rfl
      refine ⟨.login, { s with
        subscriptions := fun _ => false
        main := .connect }, rfl, ?_, ?_, rfl⟩
      · simp only [step, if_pos hMain, hCon]
      · exact ⟨hMirrors.username, hMirrors.isConnected, hMirrors.Games, hMirrors.con, fun _ => rfl⟩
  | some ch =>
      have hForgotten : (StompClient.forget client).2 = { client with
          reciepts := fun _ => none
          subscriptions := fun _ => none
          protocol := { client.protocol with ch := none, isConnected := false } } := by
        simp [StompClient.forget, hCh, StompClient.setIsConnected, StompClient.modifyProtocol]
      rw [hForgotten]
      have hClosed : AtMain env start .setNotConnected client := by
        apply h.next
        intro s hMirrors hMain
        obtain ⟨con, hCon⟩ : ∃ con, s.con = some con := by
          apply Option.isSome_iff_exists.1
          rw [hMirrors.con, hCh]
          rfl
        refine ⟨.login, { s with
          closed := Function.update s.closed con true
          main := .setNotConnected }, rfl, ?_, ?_, rfl⟩
        · simp only [step, if_pos hMain, hCon]
        · exact hMirrors.unmoved ..
      apply hClosed.next
      intro s hMirrors hMain
      refine ⟨.setNotConnected, _, rfl, if_pos hMain, ?_, rfl⟩
      exact ⟨hMirrors.username, rfl, hMirrors.Games, rfl, fun _ => rfl⟩

/-- `main` could not connect. -/
theorem At.notConnected (h : AtMain env start .connect client) :
    AtMain env start .getline client := by
  apply h.next
  intro s hMirrors hMain
  refine ⟨.connect false, { s with main := .getline }, rfl, if_pos hMain, ?_, rfl⟩
  exact hMirrors.unmoved ..

/-- The connection is made, and `start` returns. -/
theorem At.started (h : AtMain env start .connect client) (ch : Client.ConnectionHandler)
    (username : Text) : AtMain env start .getline (StompClient.start ch username client).2 := by
  obtain ⟨moves, s, hMoves, hRun, hMirrors, hMain⟩ := h
  let connected : State :=
    { s with con := some s.connections, connections := s.connections + 1, main := .start }
  let pointed : State :=
    { connected with ch := some s.connections, username := username, main := .setConnected }
  have hConnect : step env s (.connect true) = some connected := if_pos hMain
  have hStart : step env connected (.start username) = some pointed := rfl
  have hRest : Transition.run (step env) s [.connect true, .start username, .setConnected] =
      some { pointed with
        isConnected := true, started := some s.connections, main := .getline } := by
    rw [Transition.run_cons, hConnect, Option.bind_some, Transition.run_cons, hStart]
    rfl
  refine ⟨moves ++ [.connect true, .start username, .setConnected], _, ?_,
    Transition.run_append_eq_some.2 ⟨s, hRun, hRest⟩, ?_, rfl⟩
  · intro move hMem
    rcases List.mem_append.1 hMem with hMem | hMem
    · exact hMoves move hMem
    · simp only [List.mem_cons, List.not_mem_nil, or_false] at hMem
      rcases hMem with rfl | rfl | rfl <;> rfl
  · exact ⟨rfl, rfl, hMirrors.Games, rfl, hMirrors.subscriptions⟩

theorem ensures_login (words : List Text) :
    Method.Ensures (AtMain env start .getline) (StompClient.login env words)
      (fun _ => AtMain env start .getline) (Ends env start) := by
  apply Method.ensures_bind (ensures_index words 1)
  intro address
  apply Method.ensures_bind (R := fun _ => AtMain env start .connect)
  · intro client hAt
    have hForgotten := hAt.forget
    have hReturns : (StompClient.forget client).1 = .ok () := by
      cases hCh : client.protocol.ch <;> simp [StompClient.forget, hCh, StompClient.setIsConnected,
        StompClient.modifyProtocol]
    rcases hRun : StompClient.forget client with ⟨result, forgotten⟩
    rw [hRun] at hForgotten hReturns
    cases hReturns
    exact hForgotten
  intro _
  apply Method.ensures_bind (ensures_index _ 0)
  intro host
  apply Method.ensures_bind (ensures_index _ 1)
  intro port
  have hConnect : Method.Ensures (AtMain env start .connect) (StompClient.connect env host port)
      (fun _ => AtMain env start .connect) (Ends env start) :=
    (ensures_quiet (StompClient.quiet_connect env host port) _).weaken (fun _ => id)
      (fun _ _ => id) fun _ _ hAt => Or.inr hAt.notConnected
  apply Method.ensures_bind hConnect
  intro ch
  apply Method.ensures_bind (ensures_index words 2)
  intro username
  apply Method.ensures_bind (R := fun _ => AtMain env start .getline)
  · exact fun client hAt => hAt.started ch username
  intro _
  apply Method.ensures_bind (ensures_index words 3)
  intro password
  exact (ensures_quiet (StompClient.quiet_handleLogin address username password) _).weaken
    (fun _ => id) (fun _ _ => id) fun _ _ => Or.inr

/-- Commands are refused without a connection; else `process` begins. -/
theorem ensures_otherCommand (words : List Text) :
    Method.Ensures (AtMain env start .getline) (StompClient.otherCommand env words)
      (fun _ => AtMain env start .getline) (Ends env start) := by
  intro client hAt
  rw [StompClient.otherCommand, Method.bind_apply, Method.get_apply]
  dsimp only
  cases hConnected : client.protocol.isConnected
  · exact hAt.of_shared (StompClient.quiet_print _ client)
  · have hProcess : AtMain env start .process client := by
      apply hAt.next
      intro s hMirrors hMain
      refine ⟨.process, { s with main := .process }, rfl,
        if_pos ⟨hMain, hMirrors.isConnected.trans hConnected⟩, ?_, rfl⟩
      exact hMirrors.unmoved ..
    exact ensures_processCommand words _ _ client hProcess

/-- A standard exception is reported, whatever else is done then. -/
theorem ensures_catching {onMain : Bool} {P Q : State → Prop}
    {report : Text → Method CppException StompClient Unit}
    {body : Method CppException StompClient Unit} {E : CppException → StompClient → Prop}
    (hReport : ∀ e what, e ≠ .unchecked → Method.Ensures (E e) (report what)
      (fun _ => At env onMain start Q) (fun e _ => e = .unchecked))
    (hBody : Method.Ensures (At env onMain start P) body (fun _ => At env onMain start Q) E) :
    Method.Ensures (At env onMain start P) (StompClient.catching report body)
      (fun _ => At env onMain start Q) (fun e _ => e = .unchecked) := by
  apply Method.ensures_tryCatch hBody
  intro e
  cases e with
  | runtime_error what => exact hReport (.runtime_error what) what (by simp)
  | invalid_argument what => exact hReport (.invalid_argument what) what (by simp)
  | out_of_range what => exact hReport (.out_of_range what) what (by simp)
  | unchecked => exact Method.ensures_throw _ fun _ _ => rfl

/-- A turn of the loop of `main` is a run of `main` alone, unless it leaves the
language. -/
theorem runLine_run (line : Text) :
    Method.Ensures (AtMain env start .getline) (StompClient.runLine env line)
      (fun _ => AtMain env start .getline) (fun e _ => e = .unchecked) := by
  apply ensures_catching (E := Ends env start)
  · intro e what hChecked client hEnds
    exact (hEnds.resolve_left hChecked).of_shared (StompClient.quiet_print _ client)
  · apply Method.ensures_bind (ensures_index _ 0)
    intro comm
    apply Method.ensures_ite
    · exact fun _ => ensures_login _
    · exact fun _ => ensures_otherCommand _

end

section
variable {env : Env} {start : State} {client : StompClient} {connection : Nat}

/-- The listening thread stands there, and only it has taken steps. -/
abbrev AtReceiver (env : Env) (start : State) (place : ReceiverPlace) : StompClient → Prop :=
  At env false start fun s => s.receiver = place

theorem At.frame (h : AtReceiver env start (.reading connection) client) :
    AtReceiver env start .wait client := by
  apply h.next
  intro s hMirrors hReading
  refine ⟨.frame, { s with receiver := .wait }, rfl, ?_, ?_, rfl⟩
  · simp only [step, hReading]
  · exact hMirrors.unmoved ..

/-- A `MESSAGE` of another user. -/
theorem At.message (h : AtReceiver env start (.reading connection) client) (game : Text)
    {user : Text} (e : Event) (hUser : user ≠ client.protocol.username) :
    AtReceiver env start .wait (StompClient.addUpdate env game user e client).2 := by
  apply h.next
  intro s hMirrors hReading
  have hOther : user ≠ s.username := hMirrors.username ▸ hUser
  refine ⟨.message game user e, { s.message env game user e with receiver := .wait }, rfl,
    ?_, ?_, rfl⟩
  · simp only [step, hReading]
  · rw [State.message, if_pos hOther]
    refine ⟨hMirrors.username, hMirrors.isConnected, ?_, hMirrors.con, hMirrors.subscriptions⟩
    dsimp only
    rw [hMirrors.Games]
    rfl

/-- The handler marks the connection dead. -/
theorem At.failed (h : AtReceiver env start (.reading connection) client) (ends : Bool) :
    AtReceiver env start .wait (StompClient.setIsConnected false client).2 := by
  have hThrown : AtReceiver env start (.handler connection ends) client := by
    apply h.next
    intro s hMirrors hReading
    refine ⟨.throws ends, { s with
      ended := if ends then Function.update s.ended connection true else s.ended
      receiver := .handler connection ends }, rfl, ?_, ?_, rfl⟩
    · simp only [step, hReading]
    · exact hMirrors.unmoved ..
  apply hThrown.next
  intro s hMirrors hHandler
  refine ⟨.setFailed, { s with isConnected := false, receiver := .wait }, rfl, ?_, ?_, rfl⟩
  · simp only [step, hHandler]
  · exact ⟨hMirrors.username, rfl, hMirrors.Games, hMirrors.con, hMirrors.subscriptions⟩

/-- A part of `parseResponse` that needs no step. -/
theorem ensures_reading {α : Type} {m : Method CppException StompClient α}
    (h : StompClient.Quiet m) : Method.Ensures (AtReceiver env start (.reading connection)) m
      (fun _ => AtReceiver env start (.reading connection))
      (fun _ => AtReceiver env start (.reading connection)) :=
  ensures_quiet h _

theorem ensures_frame {m : Method CppException StompClient Unit} (h : StompClient.Quiet m) :
    Method.Ensures (AtReceiver env start (.reading connection)) m
      (fun _ => AtReceiver env start .wait)
      (fun _ => AtReceiver env start (.reading connection)) :=
  (ensures_reading h).weaken (fun _ => id) (fun _ _ hAt => hAt.frame) fun _ _ => id

/-- The event of another user is parsed and stored. -/
theorem ensures_stored (lines : List Text) (username : Text) :
    Method.Ensures
      (fun client => AtReceiver env start (.reading connection) client ∧
        username ≠ client.protocol.username)
      (do
        let game ← StompClient.fieldOf (← Cpp.index lines 3)
        let e ← StompClient.parseToEvent lines
        StompClient.addUpdate env game username e)
      (fun _ => AtReceiver env start .wait)
      (fun _ => AtReceiver env start (.reading connection)) := by
  have hParse : ∀ {α : Type} {m : Method CppException StompClient α}, StompClient.Quiet m →
      Method.Ensures
        (fun client => AtReceiver env start (.reading connection) client ∧
          username ≠ client.protocol.username) m
        (fun _ client => AtReceiver env start (.reading connection) client ∧
          username ≠ client.protocol.username)
        (fun _ => AtReceiver env start (.reading connection)) := by
    intro α m hQuiet client hAt
    have hShared := hQuiet client
    rcases hRun : m client with ⟨e | a, t⟩ <;> rw [hRun] at hShared
    · exact hAt.1.of_shared hShared
    · have hUsername : t.protocol.username = client.protocol.username := congrArg Prod.fst hShared
      exact ⟨hAt.1.of_shared hShared, hUsername ▸ hAt.2⟩
  apply Method.ensures_bind (hParse (Cpp.leaves_index StompClient.shared lines 3))
  intro line
  apply Method.ensures_bind (hParse (StompClient.quiet_fieldOf line))
  intro game
  apply Method.ensures_bind (hParse (StompClient.quiet_parseToEvent lines))
  exact fun e client hAt => hAt.1.message game e hAt.2

theorem ensures_parseResponse (mes : Option Text) :
    Method.Ensures (AtReceiver env start (.reading connection))
      (StompClient.parseResponse env mes) (fun _ => AtReceiver env start .wait)
      (fun _ => AtReceiver env start (.reading connection)) := by
  cases mes with
  | none => exact ensures_frame ((StompClient.quiet_print _).bind fun _ => Method.leaves_throw _)
  | some mes =>
      apply Method.ensures_bind (ensures_reading (Cpp.leaves_substr StompClient.shared mes _ _))
      intro frameType
      apply Method.ensures_ite
      · exact fun _ => ensures_frame ((StompClient.quiet_print _).bind
          fun _ => Method.leaves_throw _)
      intro _
      apply Method.ensures_ite
      · exact fun _ => ensures_frame (StompClient.quiet_print _)
      intro _
      apply Method.ensures_ite
      · exact fun _ => ensures_frame ((StompClient.quiet_receiptAction mes).bind
          fun _ => StompClient.quiet_handleReceipt _)
      intro _
      apply Method.ensures_ite
      · intro _
        apply Method.ensures_bind (ensures_reading (Cpp.leaves_index StompClient.shared _ 5))
        intro line
        apply Method.ensures_bind (ensures_reading (StompClient.quiet_fieldOf line))
        intro username client hAt
        rw [Method.bind_apply, Method.get_apply]
        dsimp only
        by_cases hUser : username ≠ client.protocol.username
        · rw [if_pos hUser]
          exact ensures_stored _ username client ⟨hAt, hUser⟩
        · rw [if_neg hUser]
          exact hAt.frame
      · exact fun _ => ensures_frame (Method.leaves_pure _)

/-- A turn of the loop of `threadLoop`, with the frame it reads, is a run of the
listening thread alone, unless it leaves the language. -/
theorem handleFrame_run (mes : Option Text) :
    Method.Ensures (AtReceiver env start (.reading connection)) (StompClient.handleFrame env mes)
      (fun _ => AtReceiver env start .wait) (fun e _ => e = .unchecked) := by
  apply ensures_catching (E := fun _ => AtReceiver env start (.reading connection))
  · intro e what _
    apply Method.ensures_bind (R := fun _ => AtReceiver env start (.reading connection))
    · intro client hAt
      exact hAt.of_shared (StompClient.quiet_print _ client)
    -- A failed read, an `ERROR` and the receipt of a logout are the runtime errors.
    · exact fun _ client hAt => hAt.failed (e matches .runtime_error _)
  · exact ensures_parseResponse mes

end
end StompGames.ClientThreads
