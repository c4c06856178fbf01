import StompGames.Reactor.StompReactor

/-! The order in which the reactor handles bytes. Whatever the threads do, the decoder of a
connection is fed the bytes of its channel one by one, each once, and the buffers that carry them
are never shared. -/
namespace StompGames

open Server

namespace StompReactor

open StompMsgEncDec (fed messages feed)

/-- The buffers, by the connection whose tasks hold them. -/
def leases (r : StompReactor) : Leases Int :=
  ⟨r.BUFFER_POOL, r.allocated, fun c => (r.pool.mailbox c).map ActorThreadPool.Task.r⟩

/-- What every run keeps. -/
structure Sound (r : StompReactor) : Prop where
  pool : r.pool.Sound
  leases : r.leases.Exclusive
  server : ∃ start, StartedWorking start ∧ Transition.run Server.step start r.events = some r.server
  unopened : ∀ c, r.server.accepted c = false →
    r.pool.mailbox c = [] ∧ r.decoded c = [] ∧ r.closed c = false
  decoder : ∀ c, r.server.accepted c = true → r.encdec c = fed .new (r.decoded c)
  frames : ∀ c, framesOf c r.events = messages (feed .new (r.decoded c))
  bytes : ∀ c, r.thrown c = false →
    r.bytesRead c = r.decoded c ++ (r.leases.held c).flatMap r.buffers
  thrown : ∀ c, r.thrown c = true →
    ∃ part, part <+: r.bytesRead c ∧ StompMsgEncDec.Decoded.overflow ∈ feed .new part

section
variable {r t : StompReactor} {size : ℕ+} {c : Int}

theorem Sound.reachable (h : r.Sound) : Transition.Reachable StartedWorking Server.step r.server := by
  obtain ⟨start, hStart, hRun⟩ := h.server
  exact ⟨start, r.events, hStart, hRun⟩

theorem Sound.indexed (h : r.Sound) : r.server.Indexed :=
  reachable_indexed (reachable_started h.reachable)

/-- One more call on the server. -/
theorem Sound.called (h : r.Sound) {event : Event} {server : Server}
    (hStep : r.server.step event = some server) : ∃ start, StartedWorking start ∧
      Transition.run Server.step start (r.events ++ [event]) = some server := by
  obtain ⟨start, hStart, hRun⟩ := h.server
  exact ⟨start, hStart, Transition.run_append_eq_some.2
    ⟨r.server, hRun, Transition.run_cons_eq_some.2 ⟨server, hStep, rfl⟩⟩⟩

theorem Started.sound (h : Started r) : r.Sound := by
  obtain ⟨hPool, hFree, hAllocated, -, hClosed, hServer, hEvents, hRead, hDecoded, hThrown⟩ := h
  have hNone : ∀ c, r.server.accepted c = false := by
    obtain ⟨⟨emptyInterned, sqlService, hNew⟩, -⟩ := hServer
    exact fun c => by rw [hNew]; rfl
  have hSound := hPool.sound
  have hMailbox := hSound.mailbox_of_threads hPool.2.2.1
  have hLeases : r.leases = ⟨[], 0, fun _ => []⟩ := by
    simp [leases, hFree, hAllocated, hMailbox]
  exact
    { pool := hSound
      leases := hLeases ▸ Leases.Exclusive.start
      server := ⟨r.server, hServer, by rw [hEvents]; rfl⟩
      unopened := fun c _ => ⟨hMailbox c, hDecoded c, hClosed c⟩
      decoder := fun c hAccepted => absurd (hAccepted.symm.trans (hNone c)) (by decide)
      frames := fun c => by rw [hEvents, hDecoded]; rfl
      bytes := fun c _ => by rw [hRead, hDecoded, hLeases]; rfl
      thrown := fun c hNot => absurd (hNot.symm.trans (hThrown c)) (by decide) }

theorem leaseBuffer_eq (c : Int) (r : StompReactor) : r.leaseBuffer = (r.leases.next, { r with
    BUFFER_POOL := (r.leases.lease c).free
    allocated := (r.leases.lease c).made }) := by
  cases hFree : r.BUFFER_POOL <;>
    simp [leaseBuffer, leases, Leases.next, Leases.lease, hFree]

theorem continueRead_some (c : Int) (bytes : List UInt8) (r : StompReactor) :
    r.continueRead c (some bytes) = { r with
      BUFFER_POOL := (r.leases.lease c).free
      allocated := (r.leases.lease c).made
      pool := ActorThreadPool.submit c r.leases.next r.pool
      buffers := Function.update r.buffers r.leases.next bytes
      bytesRead := Function.update r.bytesRead c (r.bytesRead c ++ bytes) } := by
  simp only [continueRead, leaseBuffer_eq c]

theorem continueRead_none (c : Int) (r : StompReactor) : r.continueRead c none =
    close c { r with
      BUFFER_POOL := r.leases.borrow.free
      allocated := r.leases.borrow.made } := by
  cases hFree : r.BUFFER_POOL <;>
    simp [continueRead, leaseBuffer, releaseBuffer, leases, Leases.borrow, hFree]

theorem flatMap_update {buffers : Nat → List UInt8} {buf : Nat} {bytes : List UInt8}
    {held : List Nat} (h : buf ∉ held) :
    held.flatMap (Function.update buffers buf bytes) = held.flatMap buffers :=
  List.flatMap_congr fun _ hMem => Function.update_of_ne (ne_of_mem_of_not_mem hMem h) _ _

theorem Sound.leases_submit (h : r.Sound) (c : Int) (buffers : Nat → List UInt8)
    (bytesRead : Int → List UInt8) : StompReactor.leases { r with
      BUFFER_POOL := (r.leases.lease c).free
      allocated := (r.leases.lease c).made
      pool := ActorThreadPool.submit c r.leases.next r.pool
      buffers := buffers
      bytesRead := bytesRead } = r.leases.lease c := by
  have hHeld : (fun d => ((ActorThreadPool.submit c r.leases.next r.pool).mailbox d).map
      ActorThreadPool.Task.r) = (r.leases.lease c).held := by
    rw [Leases.lease_held, h.pool.mailbox_submit]
    funext d
    by_cases hOther : d = c
    · subst hOther
      simp [StompReactor.leases]
    · simp [StompReactor.leases, Function.update_of_ne hOther]
  rw [StompReactor.leases, hHeld]

theorem Sound.submit (h : r.Sound) (hAccepted : r.server.accepted c = true) (bytes : List UInt8) :
    (r.continueRead c (some bytes)).Sound := by
  have hNext := fun d => h.leases.next_not_mem d
  rw [continueRead_some]
  exact
    { pool := ActorThreadPool.submit_sound h.pool c _
      leases := by
        rw [h.leases_submit]
        exact h.leases.lease c
      server := h.server
      unopened := by
        intro d hFresh
        have hOther : d ≠ c := fun hSame => by simp [hSame, hAccepted] at hFresh
        refine ⟨?_, (h.unopened d hFresh).2⟩
        rw [h.pool.mailbox_submit, Function.update_of_ne hOther]
        exact (h.unopened d hFresh).1
      decoder := h.decoder
      frames := h.frames
      bytes := by
        intro d hThrown
        rw [h.leases_submit, Leases.lease_held]
        by_cases hOther : d = c
        · subst hOther
          simp only [Function.update_self, List.flatMap_append, List.flatMap_singleton,
            flatMap_update (hNext d)]
          rw [h.bytes d hThrown, List.append_assoc]
        · simp only [Function.update_of_ne hOther, flatMap_update (hNext d)]
          exact h.bytes d hThrown
      thrown := by
        intro d hThrown
        obtain ⟨part, hPart, hOverflow⟩ := h.thrown d hThrown
        refine ⟨part, hPart.trans ?_, hOverflow⟩
        by_cases hOther : d = c
        · subst hOther
          simp only [Function.update_self, List.prefix_append]
        · simp only [Function.update_of_ne hOther, List.prefix_rfl] }

theorem framesOf_handleDisconnect (c d : Int) (events : List Event) :
    framesOf d (events ++ [.handleDisconnect c]) = framesOf d events := by
  rw [framesOf_append]
  exact List.append_nil _

theorem Sound.close (h : r.Sound) (hAccepted : r.server.accepted c = true) : (r.close c).Sound := by
  have hSame : (handleDisconnect c r.server).2.accepted = r.server.accepted :=
    (handleDisconnect_othersKept h.indexed c).accepted
  exact
    { pool := h.pool
      leases := h.leases
      server := h.called (by simp [Server.step, hAccepted, StompReactor.close])
      unopened := by
        intro d hFresh
        have hNot : r.server.accepted d = false := hSame ▸ hFresh
        obtain ⟨hMailbox, hDecoded, hClosed⟩ := h.unopened d hNot
        have hOther : d ≠ c := fun hEq => by simp [hEq, hAccepted] at hNot
        exact ⟨hMailbox, hDecoded, (Function.update_of_ne hOther _ _).trans hClosed⟩
      decoder := fun d hOpen => h.decoder d (hSame ▸ hOpen)
      frames := fun d => (framesOf_handleDisconnect c d r.events).trans (h.frames d)
      bytes := h.bytes
      thrown := h.thrown }

theorem Sound.borrow (h : r.Sound) : Sound { r with
    BUFFER_POOL := r.leases.borrow.free
    allocated := r.leases.borrow.made } := by
  have hHeld : r.leases.borrow.held = r.leases.held := by
    cases hFree : r.leases.free <;> simp [Leases.borrow, hFree]
  have hLeases : StompReactor.leases { r with
      BUFFER_POOL := r.leases.borrow.free
      allocated := r.leases.borrow.made } = r.leases.borrow := by
    rw [StompReactor.leases]
    exact congrArg _ hHeld.symm
  exact { h with leases := hLeases ▸ h.leases.borrow }

/-- A runnable that ends gives back the buffer that it was made with. -/
theorem Sound.endTask (h : r.Sound) {i : Nat} {task : ActorThreadPool.Task Int Nat} {throws : Bool}
    (hTask : r.pool.threads[i]? = some ⟨task, .running⟩)
    (hEmpty : throws = false → r.buffers task.r = [])
    (hOverflow : throws = true → StompMsgEncDec.Decoded.overflow ∈ feed .new (r.decoded task.act))
    (hStep : r.endTask size i task throws = some t) : t.Sound := by
  obtain ⟨pool, hPool, rfl⟩ := Option.map_eq_some_iff.1 hStep
  obtain ⟨before, after, hThreads, -, hSet⟩ := ActorThreadPool.threads_split hTask
  have hEnds : pool = { r.pool with threads := before ++ ⟨task, .completing⟩ :: after } := by
    simp only [ActorThreadPool.step, hTask, Option.some.injEq] at hPool
    rw [← hPool, hSet]
  have hFirst := h.pool.mailbox_running hThreads
  have hMailbox := h.pool.mailbox_ends hThreads
  rw [← hEnds] at hMailbox
  have hHeld : r.leases.held task.act = task.r :: ((r.pool.mailbox task.act).drop 1).map
      ActorThreadPool.Task.r := by
    simp [StompReactor.leases, hFirst]
  let ended : StompReactor := { r.releaseBuffer task.r with
    pool := pool
    thrown := Function.update r.thrown task.act (r.thrown task.act || throws) }
  have hLeases : ended.leases = r.leases.release task.act := by
    have hRest : (fun d => (pool.mailbox d).map ActorThreadPool.Task.r) =
        (r.leases.release task.act).held := by
      rw [hMailbox]
      funext d
      by_cases hOther : d = task.act
      · subst hOther
        simp [Leases.release, StompReactor.leases]
      · simp [Leases.release, StompReactor.leases, Function.update_of_ne hOther]
    have hFree : (r.leases.release task.act).free = r.BUFFER_POOL ++ [task.r] := by
      simp [Leases.release, hHeld]
      rfl
    rw [StompReactor.leases, hRest]
    change (⟨r.BUFFER_POOL ++ [task.r], r.allocated, _⟩ : Leases Int) = _
    rw [← hFree]
    rfl
  exact
    { pool := ActorThreadPool.step_sound h.pool hPool
      leases := hLeases ▸ h.leases.release task.act
      server := h.server
      unopened := by
        intro d hFresh
        refine ⟨?_, (h.unopened d hFresh).2⟩
        have hOther : d ≠ task.act := by
          rintro rfl
          rw [(h.unopened _ hFresh).1] at hFirst
          cases hFirst
        change pool.mailbox d = []
        rw [hMailbox, Function.update_of_ne hOther]
        exact (h.unopened d hFresh).1
      decoder := h.decoder
      frames := h.frames
      bytes := by
        intro d hThrown
        change r.bytesRead d = r.decoded d ++ (ended.leases.held d).flatMap r.buffers
        rw [hLeases]
        by_cases hOther : d = task.act
        · subst hOther
          have hBoth : r.thrown task.act = false ∧ throws = false := by
            simpa using hThrown
          rw [h.bytes _ hBoth.1, hHeld]
          simp [Leases.release, hHeld, hEmpty hBoth.2]
        · have hSame : r.thrown d = false := by
            simpa [Function.update_of_ne hOther] using hThrown
          rw [h.bytes d hSame]
          simp [Leases.release, Function.update_of_ne hOther]
      thrown := by
        intro d hThrown
        cases hBefore : r.thrown d with
        | true => exact h.thrown d hBefore
        | false =>
            have hNow : d = task.act ∧ throws = true := by
              by_cases hOther : d = task.act
              · subst hOther
                exact ⟨rfl, by simpa [hBefore] using hThrown⟩
              · simp [Function.update_of_ne hOther, hBefore] at hThrown
            obtain ⟨rfl, hThrows⟩ := hNow
            exact ⟨r.decoded task.act, h.bytes _ hBefore ▸ List.prefix_append _ _,
              hOverflow hThrows⟩ }

theorem Sound.accepted_of_running (h : r.Sound) {i : Nat} {task : ActorThreadPool.Task Int Nat}
    (hTask : r.pool.threads[i]? = some ⟨task, .running⟩) : r.server.accepted task.act = true := by
  obtain ⟨before, after, hThreads, -, -⟩ := ActorThreadPool.threads_split hTask
  have hFirst := h.pool.mailbox_running hThreads
  by_contra hNot
  rw [(h.unopened _ (by simpa using hNot)).1] at hFirst
  cases hFirst

/-- A runnable takes a byte out of its buffer, and the decoder of its handler returns. -/
theorem Sound.decode (h : r.Sound) {i : Nat} {task : ActorThreadPool.Task Int Nat}
    (hTask : r.pool.threads[i]? = some ⟨task, .running⟩) {b : UInt8} {rest : List UInt8}
    (hBuffer : r.buffers task.r = b :: rest) {events : List Event} {server : Server}
    (hServer : ∃ start, StartedWorking start ∧ Transition.run Server.step start events = some server)
    (hAccepted : server.accepted = r.server.accepted)
    (hFrames : ∀ c, framesOf c events = framesOf c r.events ++
      if c = task.act then messages [(StompMsgEncDec.decodeNextByte b (r.encdec c)).1] else []) :
    Sound { r with
      buffers := Function.update r.buffers task.r rest
      decoded := Function.update r.decoded task.act (r.decoded task.act ++ [b])
      encdec := Function.update r.encdec task.act
        (StompMsgEncDec.decodeNextByte b (r.encdec task.act)).2
      events := events
      server := server } := by
  obtain ⟨before, after, hThreads, -, -⟩ := ActorThreadPool.threads_split hTask
  have hFirst := h.pool.mailbox_running hThreads
  have hOpen := h.accepted_of_running hTask
  have hDecoder := h.decoder task.act hOpen
  have hHeld : r.leases.held task.act = task.r :: (r.pool.pending task.act).map
      ActorThreadPool.Task.r := by
    simp [StompReactor.leases, hFirst]
  exact
    { pool := h.pool
      leases := h.leases
      server := hServer
      unopened := by
        intro d hFresh
        rw [hAccepted] at hFresh
        have hOther : d ≠ task.act := fun hSame => by simp [hSame, hOpen] at hFresh
        refine ⟨(h.unopened d hFresh).1, ?_, (h.unopened d hFresh).2.2⟩
        dsimp only
        rw [Function.update_of_ne hOther]
        exact (h.unopened d hFresh).2.1
      decoder := by
        intro d hAcceptedNow
        rw [hAccepted] at hAcceptedNow
        by_cases hOther : d = task.act
        · subst hOther
          simp only [Function.update_self, StompMsgEncDec.fed_concat, hDecoder]
        · simp only [Function.update_of_ne hOther]
          exact h.decoder d hAcceptedNow
      frames := by
        intro d
        dsimp only
        by_cases hOther : d = task.act
        · subst hOther
          rw [Function.update_self, StompMsgEncDec.messages_feed_concat, ← hDecoder, ← h.frames,
            hFrames, if_pos rfl]
        · rw [Function.update_of_ne hOther, hFrames, if_neg hOther, List.append_nil]
          exact h.frames d
      bytes := by
        intro d hThrown
        change r.bytesRead d = Function.update r.decoded task.act _ d ++
          (r.leases.held d).flatMap (Function.update r.buffers task.r rest)
        by_cases hOther : d = task.act
        · subst hOther
          have hNodup := h.leases.held task.act
          rw [hHeld, List.nodup_cons] at hNodup
          have hBytes := h.bytes task.act hThrown
          rw [hHeld, List.flatMap_cons, hBuffer] at hBytes
          rw [hHeld, List.flatMap_cons, Function.update_self, Function.update_self,
            flatMap_update hNodup.1, hBytes]
          simp
        · have hApart := h.leases.apart task.act d (Ne.symm hOther)
          rw [Function.update_of_ne hOther,
            flatMap_update (hApart (hHeld ▸ List.mem_cons_self))]
          exact h.bytes d hThrown
      thrown := h.thrown }

theorem Sound.nextByte (h : r.Sound) {i : Nat} {task : ActorThreadPool.Task Int Nat}
    (hTask : r.pool.threads[i]? = some ⟨task, .running⟩) {b : UInt8} {rest : List UInt8}
    (hBuffer : r.buffers task.r = b :: rest) (hStep : r.nextByte size i task b rest = some t) :
    t.Sound := by
  have hOpen := h.accepted_of_running hTask
  have hSilent : messages [(StompMsgEncDec.decodeNextByte b (r.encdec task.act)).1] = [] →
      Sound { r with
        buffers := Function.update r.buffers task.r rest
        decoded := Function.update r.decoded task.act (r.decoded task.act ++ [b])
        encdec := Function.update r.encdec task.act
          (StompMsgEncDec.decodeNextByte b (r.encdec task.act)).2 } := by
    intro hNone
    refine h.decode hTask hBuffer h.server rfl fun c => ?_
    split
    · rename_i hSame
      rw [hSame, hNone, List.append_nil]
    · rw [List.append_nil]
  rw [StompReactor.nextByte] at hStep
  dsimp only at hStep
  rcases hDecode : StompMsgEncDec.decodeNextByte b (r.encdec task.act) with ⟨frame | _ | _, encdec⟩ <;>
    rw [hDecode] at hStep hSilent <;> dsimp only at hStep
  · have hCalled : r.server.step (.process task.act frame) =
        some (process task.act frame r.server).2 := by simp [Server.step, hOpen]
    have hDecoded := h.decode hTask hBuffer (h.called hCalled)
      (process_othersKept h.indexed task.act frame).accepted (fun c => by
        rw [framesOf_append]
        split
        · rename_i hSame
          rw [hSame, hDecode]
          simp [framesOf, messages]
        · rename_i hOther
          simp [framesOf, Ne.symm hOther])
    rw [hDecode] at hDecoded
    have hReturns := process_returns h.indexed (reachable_works h.reachable) hOpen frame
    rcases hProcess : process task.act frame r.server with ⟨result, server⟩
    rw [hProcess] at hStep hDecoded hReturns
    obtain rfl : result = .ok () := hReturns
    cases hStep
    exact hDecoded
  · cases hStep
    exact hSilent rfl
  · refine (hSilent rfl).endTask hTask (fun hNot => absurd hNot (by decide)) (fun _ => ?_) hStep
    simp only [Function.update_self, StompMsgEncDec.feed_append, ← h.decoder _ hOpen,
      StompMsgEncDec.feed, hDecode, List.mem_append, List.mem_singleton, or_true]

/-- What the pool does on its own moves no task out of its place in its mailbox. -/
theorem Sound.moved (h : r.Sound) {pool : ActorThreadPool.State Int Nat} (hPool : pool.Sound)
    (hMailbox : pool.mailbox = r.pool.mailbox) : Sound { r with pool := pool } := by
  have hLeases : StompReactor.leases { r with pool := pool } = r.leases := by
    rw [StompReactor.leases, StompReactor.leases, hMailbox]
  exact
    { pool := hPool
      leases := hLeases ▸ h.leases
      server := h.server
      unopened := fun d hFresh => ⟨(congrFun hMailbox d).trans (h.unopened d hFresh).1,
        (h.unopened d hFresh).2⟩
      decoder := h.decoder
      frames := h.frames
      bytes := fun d hThrown => hLeases.symm ▸ h.bytes d hThrown
      thrown := h.thrown }

theorem Sound.accept (h : r.Sound) {server : Server}
    (hStep : r.server.step (.accept c) = some server) : Sound { r with
      server := server
      events := r.events ++ [.accept c]
      encdec := Function.update r.encdec c .new } := by
  obtain ⟨hFresh, rfl⟩ : r.server.accepted c = false ∧ r.server.accept c = server := by
    cases hAccepted : r.server.accepted c <;> simp [Server.step, hAccepted] at hStep
    exact ⟨rfl, hStep⟩
  refine { h with server := h.called hStep, unopened := fun d hNot => ?_, decoder := fun d hOpen => ?_,
                  frames := fun d => ?_ }
  · refine h.unopened d ?_
    by_contra hOpen
    by_cases hSame : d = c
    · simp [hSame, Server.accept] at hNot
    · simp [Server.accept, Function.update_of_ne hSame] at hNot
      exact hOpen hNot
  · by_cases hSame : d = c
    · subst hSame
      simp only [Function.update_self, (h.unopened d hFresh).2.1]
      rfl
    · simp only [Server.accept, Function.update_of_ne hSame] at hOpen ⊢
      exact h.decoder d hOpen
  · dsimp only
    rw [framesOf_append, ← h.frames d]
    exact List.append_nil _

theorem step_sound (h : r.Sound) {label : Step} (hStep : r.step size label = some t) : t.Sound := by
  cases step_moves hStep with
  | accept hServer => exact h.accept hServer
  | read hAccepted hOpen hFits => exact h.submit hAccepted _
  | endOfStream hAccepted hOpen => exact continueRead_none _ r ▸ h.borrow.close hAccepted
  | close hAccepted hOpen => exact h.close hAccepted
  | start hPool =>
      obtain ⟨before, task, after, -, hThreads, rfl⟩ := ActorThreadPool.step_start hPool
      exact h.moved (ActorThreadPool.step_sound h.pool hPool) (h.pool.mailbox_start hThreads _)
  | nextByte hTask hBuffer hNext => exact h.nextByte hTask hBuffer hNext
  | endTask hTask hBuffer hEnd =>
      exact h.endTask hTask (fun _ => hBuffer) (fun hNot => absurd hNot (by decide)) hEnd
  | complete hPool =>
      obtain ⟨before, task, after, hThreads, rfl⟩ := ActorThreadPool.step_complete hPool
      exact h.moved (ActorThreadPool.step_sound h.pool hPool)
        (ActorThreadPool.State.mailbox_congr (ActorThreadPool.State.current_complete hThreads)
          (h.pool.waiting_complete hThreads))
  | collect hPool =>
      obtain ⟨hFree, rfl⟩ := ActorThreadPool.step_collect hPool
      exact h.moved (ActorThreadPool.step_sound h.pool hPool)
        (ActorThreadPool.State.mailbox_congr rfl (h.pool.waiting_collect hFree))

theorem sound_of_reachable (h : Transition.Reachable Started (step size) r) : r.Sound :=
  h.invariant (fun _ => Started.sound) fun _ _ _ hSound hStep => step_sound hSound hStep

end

end StompReactor
end StompGames
