import StompGames.Reactor.ReactorDelivery

/-! The reactor seen from one of its connections. What the whole does is, for each connection,
a run of the model of one connection, and so the reactor as a whole leaves nothing behind where
each connection does not. -/
namespace StompGames.StompReactor

open Server

/-- What there is of a connection in the reactor. -/
def connection (r : StompReactor) (c : Int) : ReactorConnection where
  server := r.server
  encdec := r.encdec c
  pending := (r.pool.waiting c).map fun task => r.buffers task.r
  running := (r.pool.current c).head?.map fun task => r.buffers task.r
  closed := r.closed c

section
variable {r s t u : StompReactor} {size : ℕ+} {c : Int}

theorem contents_congr {buffers buffers' : Nat → List UInt8}
    {tasks : List (ActorThreadPool.Task Int Nat)}
    (h : ∀ task ∈ tasks, buffers' task.r = buffers task.r) :
    (tasks.map fun task => buffers' task.r) = (tasks.map fun task => buffers task.r) ∧
      (tasks.head?.map fun task => buffers' task.r) = tasks.head?.map fun task => buffers task.r :=
  ⟨List.map_congr_left h, Option.map_congr fun task hTask => h task (List.mem_of_mem_head? hTask)⟩

/-- A connection that no step was about. -/
theorem connection_congr (hServer : t.server = r.server) (hEncdec : t.encdec c = r.encdec c)
    (hClosed : t.closed c = r.closed c) (hCurrent : t.pool.current c = r.pool.current c)
    (hWaiting : t.pool.waiting c = r.pool.waiting c)
    (hBuffers : ∀ task ∈ r.pool.mailbox c, t.buffers task.r = r.buffers task.r) :
    t.connection c = r.connection c := by
  obtain ⟨hFirst, hRest⟩ := List.forall_mem_append.1 hBuffers
  simp only [connection, hServer, hEncdec, hClosed, hCurrent, hWaiting, (contents_congr hFirst).2,
    (contents_congr hRest).1]

theorem mem_held {task : ActorThreadPool.Task Int Nat} (h : task ∈ r.pool.mailbox c) :
    task.r ∈ r.leases.held c := List.mem_map_of_mem h

theorem Sound.connection_read (h : r.Sound) (d : Int) (bytes : List UInt8) :
    (r.continueRead d (some bytes)).connection c =
      if d = c then { r.connection c with pending := (r.connection c).pending ++ [bytes] }
      else r.connection c := by
  have hBuffers : ∀ task ∈ r.pool.mailbox c,
      Function.update r.buffers r.leases.next bytes task.r = r.buffers task.r := by
    intro task hTask
    apply Function.update_of_ne
    exact ne_of_mem_of_not_mem (mem_held hTask) (h.leases.next_not_mem c)
  rw [continueRead_some]
  split
  · rename_i hSame
    subst hSame
    obtain ⟨hFirst, hRest⟩ := List.forall_mem_append.1 hBuffers
    simp [connection, ActorThreadPool.State.current_submit, h.pool.waiting_submit,
      (contents_congr hFirst).2, (contents_congr hRest).1]
  · rename_i hOther
    refine connection_congr rfl rfl rfl ?_ ?_ hBuffers
    · exact congrFun (ActorThreadPool.State.current_submit _ _ _) c
    · dsimp only
      rw [h.pool.waiting_submit, Function.update_of_ne (Ne.symm hOther)]

theorem connection_close (d : Int) : (r.close d).connection c =
    if d = c then { r.connection c with
      closed := true
      server := (handleDisconnect d r.server).2 }
    else { r.connection c with server := (handleDisconnect d r.server).2 } := by
  split
  · rename_i hSame
    subst hSame
    simp [connection, close]
  · rename_i hOther
    simp [connection, close, Function.update_of_ne (Ne.symm hOther)]

theorem connection_endTask (h : r.pool.Sound) {i : Nat} {task : ActorThreadPool.Task Int Nat}
    {throws : Bool} (hTask : r.pool.threads[i]? = some ⟨task, .running⟩)
    (hEnd : r.endTask size i task throws = some t) : t.connection c =
      if task.act = c then { r.connection c with running := none } else r.connection c := by
  obtain ⟨pool, hPool, rfl⟩ := Option.map_eq_some_iff.1 hEnd
  obtain ⟨before, after, hThreads, -, hSet⟩ := ActorThreadPool.threads_split hTask
  obtain rfl : { r.pool with threads := before ++ ⟨task, .completing⟩ :: after } = pool := by
    simp only [ActorThreadPool.step, hTask, Option.some.injEq] at hPool
    rw [← hPool, hSet]
  have hCurrent := congrFun (h.current_ends hThreads) c
  have hWaiting := congrFun (ActorThreadPool.State.waiting_ends hThreads) c
  split
  · rename_i hSame
    subst hSame
    rw [Function.update_self] at hCurrent
    simp only [connection, releaseBuffer, hCurrent, hWaiting]
    rfl
  · rename_i hOther
    rw [Function.update_of_ne (Ne.symm hOther)] at hCurrent
    exact connection_congr rfl rfl rfl hCurrent hWaiting fun _ _ => rfl

/-- A byte is taken out of a buffer, and the decoder and the server go on. -/
theorem Sound.connection_decoded (h : r.Sound) {i : Nat} {task : ActorThreadPool.Task Int Nat}
    (hTask : r.pool.threads[i]? = some ⟨task, .running⟩) {rest : List UInt8}
    (hBuffers : t.buffers = Function.update r.buffers task.r rest) {encdec : StompMsgEncDec}
    (hEncdec : t.encdec = Function.update r.encdec task.act encdec) (hPool : t.pool = r.pool)
    (hClosed : t.closed = r.closed) : t.connection c =
      if task.act = c then
        { r.connection c with server := t.server, encdec := encdec, running := some rest }
      else { r.connection c with server := t.server } := by
  obtain ⟨before, after, hThreads, -, -⟩ := ActorThreadPool.threads_split hTask
  have hHeld : r.leases.held task.act = task.r :: (r.pool.waiting task.act).map
      ActorThreadPool.Task.r := by
    simp [StompReactor.leases, ActorThreadPool.State.mailbox,
      (h.pool.current_running hThreads).1]
  split
  · rename_i hSame
    subst hSame
    have hNodup := h.leases.held task.act
    rw [hHeld, List.nodup_cons] at hNodup
    have hRest : ∀ other ∈ r.pool.waiting task.act,
        Function.update r.buffers task.r rest other.r = r.buffers other.r := by
      intro other hOther
      apply Function.update_of_ne
      exact ne_of_mem_of_not_mem (List.mem_map_of_mem hOther) hNodup.1
    simp only [connection, hPool, hClosed, hEncdec, hBuffers, (contents_congr hRest).1,
      (h.pool.current_running hThreads).1, Function.update_self, List.head?_cons, Option.map_some]
  · rename_i hOther
    have hApart := h.leases.apart task.act c hOther
    have hSame : StompReactor.connection { t with server := r.server } c = r.connection c := by
      refine connection_congr rfl ?_ (congrFun hClosed c) (by rw [hPool]) (by rw [hPool]) ?_
      · dsimp only
        rw [hEncdec, Function.update_of_ne (Ne.symm hOther)]
      · intro other hMem
        dsimp only
        rw [hBuffers]
        apply Function.update_of_ne
        rintro hEq
        exact hApart (hHeld ▸ List.mem_cons_self) (hEq ▸ mem_held hMem)
    rw [← hSame]
    rfl

/-- A frame that is decoded after its channel was closed does not open a session. -/
def NoLateLogin (r : StompReactor) : Step → Prop
  | .nextByte i => ∀ task b rest frame encdec, r.pool.threads[i]? = some ⟨task, .running⟩ →
      r.closed task.act = true → r.buffers task.r = b :: rest →
        StompMsgEncDec.decodeNextByte b (r.encdec task.act) = (.message frame, encdec) →
          ¬r.server.OpensSession task.act frame
  | _ => True

theorem Sound.connection_running (h : r.Sound) {i : Nat} {task : ActorThreadPool.Task Int Nat}
    (hTask : r.pool.threads[i]? = some ⟨task, .running⟩) :
    (r.connection task.act).running = some (r.buffers task.r) := by
  obtain ⟨before, after, hThreads, -, -⟩ := ActorThreadPool.threads_split hTask
  simp [connection, (h.pool.current_running hThreads).1]

/-- A task of the connection decodes a byte. -/
theorem Sound.connection_nextByte (h : r.Sound) {i : Nat} {task : ActorThreadPool.Task Int Nat}
    (hTask : r.pool.threads[i]? = some ⟨task, .running⟩) {b : UInt8} {rest : List UInt8}
    (hBuffer : r.buffers task.r = b :: rest) (hNext : r.nextByte size i task b rest = some t) :
    (r.connection task.act).step task.act .nextByte = some (t.connection task.act) := by
  have hRunning := h.connection_running hTask
  rw [hBuffer] at hRunning
  have hEncdec : (r.connection task.act).encdec = r.encdec task.act := rfl
  have hServer : (r.connection task.act).server = r.server := rfl
  obtain ⟨u, hPool, hBuffers, hFed, hClosed, -, hLeft⟩ := nextByte_spec hNext
  have hDecoded := h.connection_decoded (c := task.act) hTask hBuffers hFed hPool hClosed
  have hEnds : u.endTask size i task true = some t →
      t.connection task.act = { u.connection task.act with running := none } := by
    intro hEnd
    rw [connection_endTask (hPool ▸ h.pool) (hPool ▸ hTask) hEnd, if_pos rfl]
  rw [if_pos rfl] at hDecoded
  simp only [ReactorConnection.step, hRunning, hEncdec]
  rcases hDecode : StompMsgEncDec.decodeNextByte b (r.encdec task.act) with ⟨frame | _ | _, encdec⟩ <;>
    rw [hDecode] at hDecoded hLeft <;> dsimp only at hDecoded hLeft ⊢
  · obtain ⟨hProcessed, hEnd⟩ := hLeft
    rw [hProcessed] at hDecoded
    rw [hServer]
    rcases hProcess : process task.act frame r.server with ⟨e | _, server⟩ <;>
      rw [hProcess] at hDecoded hEnd <;> dsimp only at hDecoded hEnd ⊢
    · rw [hEnds hEnd, hDecoded]
    · subst hEnd
      rw [hDecoded]
  · obtain ⟨hSame, rfl⟩ := hLeft
    rw [hDecoded, hSame]
    rfl
  · obtain ⟨hSame, hEnd⟩ := hLeft
    rw [hEnds hEnd, hDecoded, hSame]
    rfl

/-- The call on the server for the frame that a byte completes. -/
def callOf (task : ActorThreadPool.Task Int Nat) (r : StompReactor) :
    Option ReactorConnection.Step :=
  match r.buffers task.r with
  | [] => none
  | b :: _ => match (StompMsgEncDec.decodeNextByte b (r.encdec task.act)).1 with
      | .message frame => some (.other (.process task.act frame))
      | _ => none

/-- What a step of the reactor is to a connection: a step of its own, a call of another
connection on the server, or nothing that it notices. -/
def moveOf (c : Int) (r : StompReactor) : Step → Option ReactorConnection.Step
  | .accept d => some (.other (.accept d))
  | .continueRead d (some bytes) => if d = c then some (.read bytes) else none
  | .continueRead d none | .close d =>
      some (if d = c then .endOfStream else .other (.handleDisconnect d))
  | .start i => (r.pool.threads[i]?).bind fun job =>
      if job.task.act = c then some .startTask else none
  | .nextByte i => (r.pool.threads[i]?).bind fun job =>
      if job.task.act = c then some .nextByte else r.callOf job.task
  | .endTask i => (r.pool.threads[i]?).bind fun job =>
      if job.task.act = c then some .endTask else none
  | .complete _ | .collect _ => none

/-- A step that a connection does not notice is no step of it. -/
theorem unseen (h : t.connection c = r.connection c) :
    Transition.run (ReactorConnection.step c) (r.connection c) [] = some (t.connection c) :=
  congrArg some h.symm

/-- A task of another connection decodes a byte: at most the server changes. -/
theorem Sound.connection_other (h : r.Sound) {i : Nat} {task : ActorThreadPool.Task Int Nat}
    (hTask : r.pool.threads[i]? = some ⟨task, .running⟩) (hOther : task.act ≠ c) {b : UInt8}
    {rest : List UInt8} (hBuffer : r.buffers task.r = b :: rest)
    (hNext : r.nextByte size i task b rest = some t) :
    Transition.run (ReactorConnection.step c) (r.connection c) (r.callOf task).toList =
      some (t.connection c) := by
  obtain ⟨u, hPool, hBuffers, hFed, hClosed, -, hLeft⟩ := nextByte_spec hNext
  have hDecoded := h.connection_decoded (c := c) hTask hBuffers hFed hPool hClosed
  have hEnds : u.endTask size i task true = some t → t.connection c = u.connection c := by
    intro hEnd
    rw [connection_endTask (hPool ▸ h.pool) (hPool ▸ hTask) hEnd, if_neg hOther]
  rw [if_neg hOther] at hDecoded
  simp only [callOf, hBuffer]
  rcases hDecode : (StompMsgEncDec.decodeNextByte b (r.encdec task.act)).1 with frame | _ | _ <;>
    rw [hDecode] at hLeft <;> dsimp only at hLeft ⊢
  · obtain ⟨hServer, hEnd⟩ := hLeft
    have hSame : t.connection c = u.connection c := by
      split at hEnd
      · rw [hEnd]
      · exact hEnds hEnd
    have hOpen : (r.connection c).server.accepted task.act = true := h.accepted_of_running hTask
    rw [hSame, hDecoded, hServer]
    apply Transition.run_cons_eq_some.2
    refine ⟨_, ?_, rfl⟩
    simp [ReactorConnection.step, Event.conId, hOther, Server.step, hOpen]
    rfl
  · obtain ⟨hServer, rfl⟩ := hLeft
    rw [hDecoded, hServer]
    rfl
  · obtain ⟨hServer, hEnd⟩ := hLeft
    rw [hEnds hEnd, hDecoded, hServer]
    rfl

/-- The channel of a connection is closed. -/
theorem step_closed {d : Int} (hOpen : r.closed d = false)
    (hDisconnected : r.server.accepted d = true) :
    Transition.run (ReactorConnection.step c) (r.connection c)
      [if d = c then .endOfStream else .other (.handleDisconnect d)] =
      some ((r.close d).connection c) := by
  apply Transition.run_cons_eq_some.2
  refine ⟨_, ?_, rfl⟩
  rw [connection_close]
  by_cases hSame : d = c
  · subst hSame
    have hStill : (r.connection d).closed = false := hOpen
    simp only [if_true, ReactorConnection.step, hStill]
    rfl
  · have hCalled : (r.connection c).server.accepted d = true := hDisconnected
    rw [if_neg hSame, if_neg hSame]
    simp [ReactorConnection.step, Event.conId, hSame, Server.step, hCalled]
    rfl

/-- A step of the reactor is for a connection the step that `moveOf` says. -/
theorem step_connection (h : r.Sound) (hAccepted : r.server.accepted c = true) {label : Step}
    (hStep : r.step size label = some t) :
    Transition.run (ReactorConnection.step c) (r.connection c) (r.moveOf c label).toList =
      some (t.connection c) := by
  cases step_moves hStep with
  | @accept d server hServer =>
      have hOther : d ≠ c := by
        rintro rfl
        simp [Server.step, hAccepted] at hServer
      apply Transition.run_cons_eq_some.2
      refine ⟨_, ?_, rfl⟩
      simp [ReactorConnection.step, Event.conId, hOther, connection, hServer,
        Function.update_of_ne (Ne.symm hOther)]
  | @read d bytes hDisconnected hOpen hFits =>
      rw [h.connection_read, moveOf]
      by_cases hSame : d = c
      · subst hSame
        have hStill : (r.connection d).closed = false := hOpen
        rw [if_pos rfl, if_pos rfl]
        apply Transition.run_cons_eq_some.2
        refine ⟨_, ?_, rfl⟩
        simp [ReactorConnection.step, hStill]
      · rw [if_neg hSame, if_neg hSame]
        rfl
  | @endOfStream d hDisconnected hOpen =>
      rw [continueRead_none]
      exact step_closed (r := { r with
        BUFFER_POOL := r.leases.borrow.free
        allocated := r.leases.borrow.made }) hOpen hDisconnected
  | close hDisconnected hOpen => exact step_closed hOpen hDisconnected
  | start hPool =>
      obtain ⟨before, task, after, hJob, hThreads, rfl⟩ := ActorThreadPool.step_start hPool
      have hCurrent := congrFun (h.pool.current_start hThreads (r.pool.started ++ [task])) c
      have hWaiting := congrFun (h.pool.waiting_start hThreads (r.pool.started ++ [task])) c
      simp only [moveOf, hJob, Option.bind_some]
      by_cases hSame : task.act = c
      · subst hSame
        rw [Function.update_self] at hCurrent hWaiting
        obtain ⟨hNone, hFirst⟩ := h.pool.waiting_accepted hThreads
        rw [if_pos rfl]
        apply Transition.run_cons_eq_some.2
        refine ⟨_, ?_, rfl⟩
        simp [ReactorConnection.step, connection, hNone, hFirst, hCurrent, hWaiting]
      · rw [Function.update_of_ne (Ne.symm hSame)] at hCurrent hWaiting
        rw [if_neg hSame]
        exact unseen (connection_congr rfl rfl rfl hCurrent hWaiting fun _ _ => rfl)
  | @nextByte i task b rest _ hTask hBuffer hNext =>
      simp only [moveOf, hTask, Option.bind_some]
      by_cases hSame : task.act = c
      · subst hSame
        rw [if_pos rfl]
        exact Transition.run_cons_eq_some.2 ⟨_, h.connection_nextByte hTask hBuffer hNext, rfl⟩
      · rw [if_neg hSame]
        exact h.connection_other hTask hSame hBuffer hNext
  | @endTask i task _ hTask hBuffer hEnd =>
      rw [connection_endTask h.pool hTask hEnd]
      simp only [moveOf, hTask, Option.bind_some]
      by_cases hSame : task.act = c
      · subst hSame
        have hRunning := h.connection_running hTask
        rw [hBuffer] at hRunning
        rw [if_pos rfl, if_pos rfl]
        apply Transition.run_cons_eq_some.2
        refine ⟨_, ?_, rfl⟩
        simp only [ReactorConnection.step, hRunning]
      · rw [if_neg hSame, if_neg hSame]
        rfl
  | complete hPool =>
      obtain ⟨before, task, after, hThreads, rfl⟩ := ActorThreadPool.step_complete hPool
      exact unseen (connection_congr rfl rfl rfl
        (congrFun (ActorThreadPool.State.current_complete hThreads) c)
        (congrFun (h.pool.waiting_complete hThreads) c) fun _ _ => rfl)
  | collect hPool =>
      obtain ⟨hFree, rfl⟩ := ActorThreadPool.step_collect hPool
      exact unseen (connection_congr rfl rfl rfl rfl
        (congrFun (h.pool.waiting_collect hFree) c) fun _ _ => rfl)

/-- What the reactor asks of a step, the model of the connection asks of the step that it
stands for. -/
theorem noLateLogin_moveOf (h : r.Sound) {label : Step} (hStep : r.step size label = some t)
    (hLate : r.NoLateLogin label) {move : ReactorConnection.Step}
    (hMove : r.moveOf c label = some move) : (r.connection c).NoLateLogin c move := by
  cases move with
  | nextByte =>
      intro hClosed b rest frame encdec hRunning hDecode
      cases step_moves hStep with
      | @nextByte i task _ _ _ hTask hBuffer hNext =>
          have hSame : task.act = c := by
            by_contra hOther
            simp only [moveOf, hTask, Option.bind_some, if_neg hOther, callOf, hBuffer] at hMove
            split at hMove <;> cases hMove
          subst hSame
          rw [h.connection_running hTask] at hRunning
          exact hLate task b rest frame encdec hTask hClosed (Option.some.inj hRunning) hDecode
      | read =>
          simp only [moveOf] at hMove
          split at hMove <;> cases hMove
      | endOfStream | close =>
          have hOther := Option.some.inj hMove
          split at hOther <;> cases hOther
      | start hPool =>
          obtain ⟨-, task, -, hJob, -, -⟩ := ActorThreadPool.step_start hPool
          simp only [moveOf, hJob, Option.bind_some] at hMove
          split at hMove <;> cases hMove
      | endTask hTask hBuffer hEnd =>
          simp only [moveOf, hTask, Option.bind_some] at hMove
          split at hMove <;> cases hMove
      | accept | complete | collect => cases hMove
  | _ => trivial

/-- Only the selector thread accepts. -/
theorem step_accepted (h : r.Sound) {label : Step} (hStep : r.step size label = some t) :
    (∃ d, label = .accept d ∧ r.server.accepted d = false ∧ t.server = r.server.accept d) ∨
      t.server.accepted = r.server.accepted := by
  cases step_moves hStep with
  | @accept d server hServer =>
      left
      cases hAccepted : r.server.accepted d <;> simp [Server.step, hAccepted] at hServer
      exact ⟨d, rfl, hAccepted, hServer.symm⟩
  | read hAccepted hOpen hFits =>
      rw [continueRead_some]
      exact Or.inr rfl
  | @endOfStream d hAccepted hOpen =>
      rw [continueRead_none]
      exact Or.inr (handleDisconnect_othersKept h.indexed d).accepted
  | @close d hAccepted hOpen => exact Or.inr (handleDisconnect_othersKept h.indexed d).accepted
  | @nextByte i task b rest _ hTask hBuffer hNext =>
      right
      obtain ⟨u, -, -, -, -, -, hLeft⟩ := nextByte_spec hNext
      split at hLeft
      · obtain ⟨hServer, rfl⟩ := hLeft
        rw [hServer]
      · rw [(endTask_kept hLeft.2).2.2.1, hLeft.1]
      · rename_i frame _
        obtain ⟨hServer, hEnd⟩ := hLeft
        have hKept := (process_othersKept h.indexed task.act frame).accepted
        rw [← hServer] at hKept
        split at hEnd
        · rw [← hEnd, hKept]
        · rw [(endTask_kept hEnd).2.2.1, hKept]
  | endTask hTask hBuffer hEnd => exact Or.inr (by rw [(endTask_kept hEnd).2.2.1])
  | start | complete | collect => exact Or.inr rfl

/-- A connection is accepted once. -/
theorem accept_accepted (hStep : r.step size (.accept c) = some t) :
    r.server.accepted c = false ∧ t.server.accepted c = true := by
  obtain ⟨server, hServer, rfl⟩ := Option.map_eq_some_iff.1 hStep
  cases hAccepted : r.server.accepted c <;> simp [Server.step, hAccepted] at hServer
  subst hServer
  exact ⟨rfl, Function.update_self ..⟩

theorem stays_accepted (h : r.Sound) (hAccepted : r.server.accepted c = true) {label : Step}
    (hStep : r.step size label = some t) : t.server.accepted c = true := by
  rcases step_accepted h hStep with ⟨d, -, hFresh, hServer⟩ | hSame
  · have hOther : c ≠ d := by
      rintro rfl
      rw [hAccepted] at hFresh
      cases hFresh
    rw [hServer]
    exact (Function.update_of_ne hOther ..).trans hAccepted
  · rw [hSame, hAccepted]

/-- A connection when it has just been accepted. -/
theorem Sound.connection_accept (h : r.Sound) (hFresh : r.server.accepted c = false)
    (hStep : r.step size (.accept c) = some t) :
    t.connection c = ReactorConnection.opened t.server := by
  obtain ⟨server, hServer, rfl⟩ := Option.map_eq_some_iff.1 hStep
  obtain ⟨hMailbox, -, hClosed⟩ := h.unopened c hFresh
  obtain ⟨hCurrent, hWaiting⟩ := List.append_eq_nil_iff.1 hMailbox
  simp [connection, ReactorConnection.opened, hCurrent, hWaiting, hClosed]

/-- The steps of a connection in a run of the reactor. -/
def movesOf (size : ℕ+) (c : Int) : StompReactor → List Step → List ReactorConnection.Step :=
  Transition.project (step size) (moveOf c)

/-- The run of a connection is the run of its steps. -/
theorem run_connection (h : r.Sound) (hAccepted : r.server.accepted c = true) {labels : List Step}
    (hRun : Transition.run (step size) r labels = some t) :
    Transition.run (ReactorConnection.step c) (r.connection c) (movesOf size c r labels) =
      some (t.connection c) := by
  apply Transition.run_project (I := fun u => u.Sound ∧ u.server.accepted c = true) ?_ ?_ hRun
    ⟨h, hAccepted⟩
  · intro u label v hu hStep
    exact ⟨step_sound hu.1 hStep, stays_accepted hu.1 hu.2 hStep⟩
  · intro u label v hu hStep
    exact step_connection hu.1 hu.2 hStep

/-- Whatever the other connections and the threads do, from its accept on a connection goes
through a run of its own model: step for step the one that `moveOf` reads off, with the state of
the connection in every state that the reactor passes through. -/
theorem connection_run (h : Transition.Reachable Started (step size) r)
    (hAccept : r.step size (.accept c) = some s) {first second : List Step}
    (hFirst : Transition.run (step size) s first = some u)
    (hSecond : Transition.run (step size) u second = some t) :
    Transition.Reachable StartedWorking Server.step s.server ∧ s.server.accepted c = true ∧
      Transition.run (ReactorConnection.step c) (ReactorConnection.opened s.server)
        (movesOf size c s first) = some (u.connection c) ∧
      Transition.run (ReactorConnection.step c) (u.connection c) (movesOf size c u second) =
        some (t.connection c) ∧
      movesOf size c s (first ++ second) = movesOf size c s first ++ movesOf size c u second := by
  have hSound := sound_of_reachable h
  obtain ⟨hFresh, hAccepted⟩ := accept_accepted hAccept
  have hOpened := step_sound hSound hAccept
  have hMiddle : u.Sound ∧ u.server.accepted c = true :=
    Transition.run_invariant (I := fun u => u.Sound ∧ u.server.accepted c = true)
      (fun v label w hv hStep => ⟨step_sound hv.1 hStep, stays_accepted hv.1 hv.2 hStep⟩) hFirst
      ⟨hOpened, hAccepted⟩
  refine ⟨hOpened.reachable, hAccepted, ?_, run_connection hMiddle.1 hMiddle.2 hSecond,
    Transition.project_append hFirst second⟩
  rw [← hSound.connection_accept hFresh hAccept]
  exact run_connection hOpened hAccepted hFirst

/-- The first connection is accepted, and the frame of the second is processed between the two
pieces of a frame of the first. -/
def betweenPieces : List Step :=
  [.accept 2, .continueRead 1 (some [0x58]), .continueRead 2 (some [0x5A, 0]), .start 0, .start 1,
    .nextByte 0, .nextByte 1, .nextByte 1]

/-- Two threads run the tasks. -/
def twoThreads : ℕ+ := Nat.succPNat 1

/-- The reactor with one connection that has sent nothing. -/
def accepted : StompReactor := (fresh.step twoThreads (.accept 1)).getD fresh

/-- The frame of the second connection was processed, that of the first is not whole yet. -/
def between : StompReactor :=
  (Transition.run (step twoThreads) accepted betweenPieces).getD accepted

/-- The frame of another connection comes between the two pieces of a frame. -/
theorem connection_run_betweenPieces :
    Transition.Reachable StartedWorking Server.step accepted.server ∧
      accepted.server.accepted 1 = true ∧
      Transition.run (ReactorConnection.step 1) (ReactorConnection.opened accepted.server)
        [.other (.accept 2), .read [0x58], .startTask, .nextByte, .other (.process 2 ['Z'])] =
          some (between.connection 1) ∧
      Transition.run (ReactorConnection.step 1) (between.connection 1) [.read [0, 0x59]] =
        some ((between.continueRead 1 (some [0, 0x59])).connection 1) ∧
      movesOf twoThreads 1 accepted (betweenPieces ++ [.continueRead 1 (some [0, 0x59])]) =
        [.other (.accept 2), .read [0x58], .startTask, .nextByte, .other (.process 2 ['Z'])] ++
          [.read [0, 0x59]] :=
  connection_run ⟨fresh, [], fresh_started, rfl⟩
    (by rfl : fresh.step twoThreads (.accept 1) = some accepted)
    (by rfl : Transition.run (step twoThreads) accepted betweenPieces = some between)
    (by rfl : Transition.run (step twoThreads) between [.continueRead 1 (some [0, 0x59])] =
      some (between.continueRead 1 (some [0, 0x59])))

/-- The server knows nothing of a connection. -/
structure Forgotten (server : Server) (c : Int) : Prop where
  session : server.db.connectionsIdMap c = none
  subscriptions : server.cManager.subManager.ofConnection c = []
  channels : ∀ channel, ∀ sub ∈ server.cManager.subManager.ofChannel channel, sub.conId ≠ c
  users : ∀ name user, server.db.userMap name = some user →
    (server.db.users user).isLoggedIn = true → (server.db.users user).connectionId ≠ c

/-- Nothing is left of the connections whose channels were closed. -/
def NoGhosts (r : StompReactor) : Prop := ∀ c, r.closed c = true → Forgotten r.server c

/-- The connections that were accepted are tidy. -/
def Tidy (r : StompReactor) : Prop :=
  r.Sound ∧ ∀ c, r.server.accepted c = true → (r.connection c).Tidy c

theorem Tidy.noGhosts (h : r.Tidy) : r.NoGhosts := by
  intro c hClosed
  have hAccepted : r.server.accepted c = true := by
    by_contra hNot
    rw [(h.1.unopened c (by simpa using hNot)).2.2] at hClosed
    cases hClosed
  obtain ⟨hIndexed, hWorks, -, hSession⟩ := h.2 c hAccepted
  -- What the tasks still hold makes no difference to the server.
  have hDone : ReactorConnection.Tidy c { r.connection c with pending := [], running := none } :=
    ⟨hIndexed, hWorks, hAccepted, hSession⟩
  obtain ⟨hNone, hSubs, hChannels, hUsers⟩ := hDone.noGhost hClosed rfl rfl
  exact ⟨hNone, hSubs, hChannels, hUsers⟩

theorem step_tidy (h : r.Tidy) {label : Step} (hLate : r.NoLateLogin label)
    (hStep : r.step size label = some t) : t.Tidy := by
  refine ⟨step_sound h.1 hStep, fun c hOpen => ?_⟩
  cases hOld : r.server.accepted c with
  | true =>
      have hRun := step_connection h.1 hOld hStep
      cases hMove : r.moveOf c label with
      | none =>
          rw [hMove] at hRun
          exact Option.some.inj hRun ▸ h.2 c hOld
      | some move =>
          rw [hMove] at hRun
          obtain ⟨_, hNext, ⟨⟩⟩ := Transition.run_cons_eq_some.1 hRun
          have hCond := noLateLogin_moveOf h.1 hStep hLate hMove
          exact ReactorConnection.step_tidy (h.2 c hOld) hCond hNext
  | false =>
      have hSound := step_sound h.1 hStep
      have hClosed : t.closed c = true → t.server.db.connectionsIdMap c = none := by
        rcases step_accepted h.1 hStep with ⟨d, rfl, -, hServer⟩ | hSame
        · obtain ⟨server, -, rfl⟩ := Option.map_eq_some_iff.1 hStep
          intro hClosed
          rw [show _ = r.closed c from rfl, (h.1.unopened c hOld).2.2] at hClosed
          cases hClosed
        · rw [hSame, hOld] at hOpen
          cases hOpen
      exact ⟨hSound.indexed, reachable_works hSound.reachable, hOpen, hClosed⟩

theorem Started.tidy (h : Started r) : r.Tidy := by
  refine ⟨h.sound, fun c hOpen => ?_⟩
  obtain ⟨-, -, -, -, -, ⟨⟨emptyInterned, sqlService, hNew⟩, -⟩, -⟩ := h
  rw [hNew] at hOpen
  cases hOpen

/-- A late login leaves a session that belongs to nobody. -/
theorem late_login (h : r.Tidy) {label : Step} (hLate : ¬r.NoLateLogin label)
    (hStep : r.step size label = some t) : ¬t.NoGhosts := by
  cases step_moves hStep with
  | @nextByte i task b rest _ hTask hBuffer hNext =>
      intro hNoGhosts
      apply hLate
      intro task' b' rest' frame encdec hTask' hClosed hBuffer' hDecode hOpens
      obtain rfl : task = task' := by
        rw [hTask] at hTask'
        cases hTask'
        rfl
      obtain ⟨rfl, rfl⟩ := List.cons.inj (hBuffer.symm.trans hBuffer')
      obtain ⟨u, -, -, -, hSame, -, hLeft⟩ := nextByte_spec hNext
      rw [hDecode] at hLeft
      obtain ⟨hServer, hEnd⟩ := hLeft
      have hKept : t.server = u.server ∧ t.closed = r.closed := by
        split at hEnd
        · exact ⟨hEnd ▸ rfl, hEnd ▸ hSame⟩
        · obtain ⟨-, -, hServer', hClosed', -⟩ := endTask_kept hEnd
          exact ⟨hServer', hClosed'.trans hSame⟩
      have hWorks := reachable_works h.1.reachable
      obtain ⟨user, hSession⟩ := process_opens_session hWorks.sessions hOpens
      have hNone := (hNoGhosts task.act (hKept.2 ▸ hClosed)).session
      rw [hKept.1, hServer, hSession] at hNone
      cases hNone
  | accept | read | endOfStream | close | start | endTask | complete | collect =>
      exact absurd trivial hLate

/-- The whole reactor keeps nothing of closed channels, in every state of a run, if and only if
no frame that opens a session is decoded behind the close of its channel. -/
theorem no_ghosts_iff (h : Started r) {labels : List Step}
    (hRun : Transition.run (step size) r labels = some t) :
    Transition.Always (step size) NoGhosts r labels ↔
      Transition.Along (step size) NoLateLogin r labels :=
  Transition.always_iff_along_of_run (I := Tidy) (fun _ => Tidy.noGhosts)
    (fun _ _ _ hTidy hLate hStep => step_tidy hTidy hLate hStep)
    (fun _ _ _ hTidy hLate hStep => late_login hTidy hLate hStep) hRun h.tidy

/-- A client writes a frame and closes, and a thread begins with the frame afterwards. -/
def closing : List Step :=
  [.accept 1, .continueRead 1 (some [0x58, 0]), .continueRead 1 none, .start 0, .nextByte 0]

/-- A client closes behind its frame, and the frame is decoded late. -/
theorem no_ghosts_closing : Transition.Always (step 2) NoGhosts fresh closing := by
  apply (no_ghosts_iff (t := (Transition.run (step 2) fresh closing).getD fresh) fresh_started rfl).2
  refine ⟨trivial, fun _ h => ?_⟩
  cases h
  refine ⟨trivial, fun _ h => ?_⟩
  cases h
  refine ⟨trivial, fun _ h => ?_⟩
  cases h
  refine ⟨trivial, fun _ h => ?_⟩
  cases h
  refine ⟨?_, fun _ _ => trivial⟩
  intro task b rest frame encdec hTask _ hBuffer hDecode
  cases hTask
  cases hBuffer
  cases hDecode

end
end StompGames.StompReactor
