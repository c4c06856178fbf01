import StompGames.Reactor.ReactorOrder
import StompGames.Server.Conversation
import Mathlib.Algebra.Order.BigOperators.Group.List

/-! What the reactor makes of the bytes that its clients send: the threads of the pool come to
rest, and by then every frame that was read has been processed, once and in its place. -/
namespace StompGames

open Server

namespace StompMsgEncDec

/-- The bytes of frames that are sent one after another. -/
def wire (frames : List Text) : List UInt8 := frames.flatMap fun frame => encode (frame ++ ['\x00'])

/-- Frames that the buffer of the decoder can hold. -/
def Fit (frames : List Text) : Prop :=
  ∀ frame ∈ frames, '\x00' ∉ frame ∧ (encode frame).length ≤ 1024

instance (frames : List Text) : Decidable (Fit frames) :=
  inferInstanceAs (Decidable (∀ frame ∈ frames, '\x00' ∉ frame ∧ (encode frame).length ≤ 1024))

theorem feed_wire {frames : List Text} (h : Fit frames) :
    feed .new (wire frames) = frames.flatMap Decoded.ofFrame := by
  induction frames with
  | nil => rfl
  | cons frame frames ih =>
      obtain ⟨⟨hNul, hFits⟩, hRest⟩ := List.forall_mem_cons.1 h
      have hZero : 0 ∉ encode frame := fun hMem => hNul (Java.zero_mem_encodeUtf8 hMem)
      rw [wire, List.flatMap_cons, encode_terminated, List.append_assoc, List.singleton_append,
        feed_of_fits .new _ _ hZero (by simpa [new] using hFits), List.flatMap_cons,
        Decoded.ofFrame, List.append_assoc, ← ih hRest, encode, new, List.nil_append,
        Java.decodeUtf8_encodeUtf8]
      rfl

/-- A part of such a stream never fills the buffer, and the frames that it completes are the
first ones. -/
theorem feed_part {frames : List Text} (h : Fit frames) {part : List UInt8}
    (hPart : part <+: wire frames) :
    Decoded.overflow ∉ feed .new part ∧ messages (feed .new part) <+: frames := by
  obtain ⟨rest, hWire⟩ := hPart
  have hFeed := feed_wire h
  rw [← hWire, feed_append] at hFeed
  constructor
  · intro hOverflow
    apply overflow_not_mem_ofFrame frames
    rw [← hFeed]
    exact List.mem_append_left _ hOverflow
  · have hMessages := congrArg messages hFeed
    rw [messages_append, messages_ofFrame] at hMessages
    exact ⟨_, hMessages⟩

end StompMsgEncDec

namespace StompReactor

open StompMsgEncDec (messages feed wire Fit)

section
variable {r t : StompReactor} {size : ℕ+} {c : Int}

/-- The bytes that the running tasks have not decoded. -/
def unread (buffers : Nat → List UInt8) (jobs : List (ActorThreadPool.Job Int Nat)) : Nat :=
  ((ActorThreadPool.running jobs).map fun task => (buffers task.r).length).sum

/-- No fewer steps than these are left to the threads. A task that has not been started counts
for a full buffer. -/
def work (r : StompReactor) : Nat :=
  r.pool.left + BUFFER_ALLOCATION_SIZE * (r.pool.submitted.length - r.pool.started.length) +
    unread r.buffers r.pool.threads

/-- The buffers hold what they were made for. -/
def Filled (r : StompReactor) : Prop := ∀ buf, (r.buffers buf).length ≤ BUFFER_ALLOCATION_SIZE

/-- A turn of the loop that decodes: the reactor when the decoder and the protocol object are
done with the byte, and then what becomes of the task. -/
theorem nextByte_spec {i : Nat} {task : ActorThreadPool.Task Int Nat} {b : UInt8}
    {rest : List UInt8} (hStep : r.nextByte size i task b rest = some t) : ∃ u : StompReactor,
      u.pool = r.pool ∧ u.buffers = Function.update r.buffers task.r rest ∧
      u.encdec = Function.update r.encdec task.act
        (StompMsgEncDec.decodeNextByte b (r.encdec task.act)).2 ∧
      u.closed = r.closed ∧ u.bytesRead = r.bytesRead ∧
      match (StompMsgEncDec.decodeNextByte b (r.encdec task.act)).1 with
      | .null => u.server = r.server ∧ u = t
      | .overflow => u.server = r.server ∧ u.endTask size i task true = some t
      | .message frame => u.server = (process task.act frame r.server).2 ∧
          match (process task.act frame r.server).1 with
          | .ok _ => u = t
          | .error _ => u.endTask size i task true = some t := by
  rw [StompReactor.nextByte] at hStep
  dsimp only at hStep
  rcases hDecode : StompMsgEncDec.decodeNextByte b (r.encdec task.act) with ⟨frame | _ | _, encdec⟩ <;>
    simp only [hDecode] at hStep ⊢
  · rcases hProcess : process task.act frame r.server with ⟨e | _, server⟩ <;>
      simp only [hProcess] at hStep ⊢
    · refine ⟨_, ?_, ?_, ?_, ?_, ?_, ?_, hStep⟩ <;> rfl
    · refine ⟨_, ?_, ?_, ?_, ?_, ?_, ?_, Option.some.inj hStep⟩ <;> rfl
  · refine ⟨_, ?_, ?_, ?_, ?_, ?_, ?_, Option.some.inj hStep⟩ <;> rfl
  · refine ⟨_, ?_, ?_, ?_, ?_, ?_, ?_, hStep⟩ <;> rfl

theorem endTask_kept {i : Nat} {task : ActorThreadPool.Task Int Nat} {throws : Bool}
    (hStep : r.endTask size i task throws = some t) :
    t.buffers = r.buffers ∧ t.bytesRead = r.bytesRead ∧ t.server = r.server ∧
      t.closed = r.closed ∧ ActorThreadPool.step size r.pool (.ends i throws) = some t.pool := by
  obtain ⟨pool, hPool, rfl⟩ := Option.map_eq_some_iff.1 hStep
  exact ⟨rfl, rfl, rfl, rfl, hPool⟩

theorem nextByte_kept {i : Nat} {task : ActorThreadPool.Task Int Nat} {b : UInt8}
    {rest : List UInt8} (hStep : r.nextByte size i task b rest = some t) :
    t.buffers = Function.update r.buffers task.r rest ∧ t.bytesRead = r.bytesRead ∧
      (t.pool = r.pool ∨ ActorThreadPool.step size r.pool (.ends i true) = some t.pool) := by
  obtain ⟨u, hPool, hBuffers, -, -, hRead, hLeft⟩ := nextByte_spec hStep
  have hThrows : u.endTask size i task true = some t →
      t.buffers = Function.update r.buffers task.r rest ∧ t.bytesRead = r.bytesRead ∧
        (t.pool = r.pool ∨ ActorThreadPool.step size r.pool (.ends i true) = some t.pool) := by
    intro hEnd
    obtain ⟨hSame, hSameRead, -, -, hEnds⟩ := endTask_kept hEnd
    exact ⟨hSame.trans hBuffers, hSameRead.trans hRead, Or.inr (hPool ▸ hEnds)⟩
  split at hLeft
  · obtain ⟨-, rfl⟩ := hLeft
    exact ⟨hBuffers, hRead, Or.inl hPool⟩
  · exact hThrows hLeft.2
  · obtain ⟨-, hEnd⟩ := hLeft
    split at hEnd
    · subst hEnd
      exact ⟨hBuffers, hRead, Or.inl hPool⟩
    · exact hThrows hEnd

theorem Filled.update (h : Filled r) {buf : Nat} {bytes : List UInt8}
    (hBytes : bytes.length ≤ BUFFER_ALLOCATION_SIZE) :
    ∀ other, (Function.update r.buffers buf bytes other).length ≤ BUFFER_ALLOCATION_SIZE := by
  intro other
  by_cases hSame : other = buf
  · subst hSame
    rwa [Function.update_self]
  · rw [Function.update_of_ne hSame]
    exact h other

theorem step_filled (h : Filled r) {label : Step} (hStep : r.step size label = some t) :
    Filled t := by
  cases step_moves hStep with
  | read hAccepted hOpen hFits =>
      rw [continueRead_some]
      exact h.update hFits
  | endOfStream hAccepted hOpen =>
      rw [continueRead_none]
      exact h
  | @nextByte i task b rest _ hTask hBuffer hNext =>
      have hLength := h task.r
      rw [hBuffer, List.length_cons] at hLength
      unfold Filled
      rw [(nextByte_kept hNext).1]
      exact h.update (Nat.le_of_succ_le hLength)
  | endTask hTask hBuffer hEnd =>
      obtain ⟨pool, -, rfl⟩ := Option.map_eq_some_iff.1 hEnd
      exact h
  | accept | close | start | complete | collect => exact h

theorem filled_of_reachable (h : Transition.Reachable Started (step size) r) : Filled r := by
  refine h.invariant (fun s hStart buf => ?_) fun _ _ _ hs hStep => step_filled hs hStep
  rw [hStart.2.2.2.1 buf]
  exact Nat.zero_le _

theorem unread_lt {buffers : Nat → List UInt8} {task : ActorThreadPool.Task Int Nat} {b : UInt8}
    {rest : List UInt8} (hBuffer : buffers task.r = b :: rest)
    {jobs : List (ActorThreadPool.Job Int Nat)} (hTask : task ∈ ActorThreadPool.running jobs) :
    unread (Function.update buffers task.r rest) jobs < unread buffers jobs := by
  have hLe : ∀ buf, (Function.update buffers task.r rest buf).length ≤ (buffers buf).length := by
    intro buf
    by_cases hSame : buf = task.r
    · subst hSame
      simp [hBuffer]
    · rw [Function.update_of_ne hSame]
  refine List.sum_lt_sum _ _ (fun other _ => hLe other.r) ⟨task, hTask, ?_⟩
  simp [hBuffer]

/-- Whatever a thread of the pool does, less is left to do. -/
theorem work_lt (h : r.Sound) (hFilled : Filled r) {label : Step} (hOf : label.ofExecutor = true)
    (hStep : r.step size label = some t) : t.work < r.work ∧ t.bytesRead = r.bytesRead := by
  have hEnds : ∀ {i : Nat} {pool : ActorThreadPool.State Int Nat} (buffers : Nat → List UInt8)
      (throws : Bool), ActorThreadPool.step size r.pool (.ends i throws) = some pool →
      pool.left + 1 = r.pool.left ∧ pool.submitted = r.pool.submitted ∧
        pool.started = r.pool.started ∧
        unread buffers pool.threads ≤ unread buffers r.pool.threads := by
    intro i pool buffers throws hPool
    obtain ⟨hLeft, hSubmitted⟩ := ActorThreadPool.executor_step h.pool rfl hPool
    obtain ⟨before, task, after, hThreads, rfl⟩ := ActorThreadPool.step_ends hPool
    refine ⟨hLeft, hSubmitted, rfl, ?_⟩
    simp [unread, hThreads]
  cases step_moves hStep with
  | start hPool =>
      obtain ⟨hLeft, hSubmitted⟩ := ActorThreadPool.executor_step h.pool rfl hPool
      have hStarted := (ActorThreadPool.step_sound h.pool hPool).started_subperm.length_le
      obtain ⟨before, task, after, -, hThreads, rfl⟩ := ActorThreadPool.step_start hPool
      have hFits := hFilled task.r
      refine ⟨?_, rfl⟩
      simp [work, unread, hThreads, BUFFER_ALLOCATION_SIZE] at hStarted hLeft hFits ⊢
      omega
  | @nextByte i task b rest _ hTask hBuffer hNext =>
      obtain ⟨hBuffers, hRead, hPool⟩ := nextByte_kept hNext
      have hMem : task ∈ ActorThreadPool.running r.pool.threads := by
        obtain ⟨before, after, hThreads, -, -⟩ := ActorThreadPool.threads_split hTask
        simp [hThreads]
      have hLess := unread_lt hBuffer hMem
      refine ⟨?_, hRead⟩
      rw [work, work, hBuffers]
      rcases hPool with hSame | hThrown
      · rw [hSame]
        omega
      · obtain ⟨hLeft, hSubmitted, hStarted, hUnread⟩ :=
          hEnds (Function.update r.buffers task.r rest) true hThrown
        rw [hSubmitted, hStarted]
        omega
  | endTask hTask hBuffer hEnd =>
      obtain ⟨pool, hPool, rfl⟩ := Option.map_eq_some_iff.1 hEnd
      obtain ⟨hLeft, hSubmitted, hStarted, hUnread⟩ := hEnds r.buffers false hPool
      refine ⟨?_, rfl⟩
      simp only [work, releaseBuffer, hSubmitted, hStarted]
      omega
  | @complete i pool hPool =>
      obtain ⟨hLeft, hSubmitted⟩ := ActorThreadPool.executor_step h.pool rfl hPool
      have hStarted : pool.started = r.pool.started ∧
          ActorThreadPool.running pool.threads = ActorThreadPool.running r.pool.threads := by
        obtain ⟨before, task, after, hThreads, rfl⟩ := ActorThreadPool.step_complete hPool
        cases hPending : r.pool.pending task.act with
        | nil =>
            rw [ActorThreadPool.complete_of_empty (s := { r.pool with threads := before ++ after })
              hPending]
            simp [hThreads]
        | cons next rest =>
            rw [ActorThreadPool.complete_of_cons (s := { r.pool with threads := before ++ after })
              hPending]
            simp [hThreads]
      refine ⟨?_, rfl⟩
      simp only [work, unread, hSubmitted, hStarted.1, hStarted.2]
      omega
  | accept | read | endOfStream | close | collect => cases hOf

/-- No thread of the pool can take a step. -/
def AtRest (size : ℕ+) (r : StompReactor) : Prop :=
  ∀ label : Step, label.ofExecutor = true → r.step size label = none

theorem endTask_isSome {i : Nat} {task : ActorThreadPool.Task Int Nat}
    (hTask : r.pool.threads[i]? = some ⟨task, .running⟩) (throws : Bool) :
    (r.endTask size i task throws).isSome := by
  simp [endTask, ActorThreadPool.step, hTask]

theorem nextByte_isSome {i : Nat} {task : ActorThreadPool.Task Int Nat}
    (hTask : r.pool.threads[i]? = some ⟨task, .running⟩) (b : UInt8) (rest : List UInt8) :
    (r.nextByte size i task b rest).isSome := by
  rw [nextByte]
  dsimp only
  split
  · rfl
  · refine endTask_isSome ?_ true
    exact hTask
  · split
    · rfl
    · refine endTask_isSome ?_ true
      exact hTask

/-- A thread that runs a task can go on with it. -/
theorem AtRest.threads (h : r.AtRest size) : r.pool.threads = [] := by
  have hStuck : ∀ label : ActorThreadPool.Label Int Nat, label.ofExecutor = true →
      ActorThreadPool.step size r.pool label = none := by
    intro label hOf
    cases label with
    | start i => exact Option.map_eq_none_iff.1 (h (.start i) rfl)
    | ends i throws =>
        by_contra hSome
        obtain ⟨task, hTask⟩ : ∃ task, r.pool.threads[i]? = some ⟨task, .running⟩ := by
          simp only [ActorThreadPool.step] at hSome
          split at hSome
          · exact ⟨_, ‹_›⟩
          · exact absurd rfl hSome
        cases hBuffer : r.buffers task.r with
        | nil =>
            have hNone := h (.endTask i) rfl
            simp only [step, hTask, hBuffer] at hNone
            have hEnd : (r.endTask size i task false).isSome := endTask_isSome hTask false
            rw [hNone] at hEnd
            cases hEnd
        | cons b rest =>
            have hNone := h (.nextByte i) rfl
            simp only [step, hTask, hBuffer] at hNone
            have hNext : (r.nextByte size i task b rest).isSome := nextByte_isSome hTask b rest
            rw [hNone] at hNext
            cases hNext
    | complete i => exact Option.map_eq_none_iff.1 (h (.complete i) rfl)
    | submit act buf => cases hOf
    | collect act => cases hOf
  exact ActorThreadPool.threads_eq_nil_of_stuck hStuck

/-- Left to themselves the threads come to rest, whichever of them goes on first. -/
theorem executor_run (h : r.Sound) (hFilled : Filled r) {labels : List Step}
    (hOf : ∀ label ∈ labels, label.ofExecutor = true)
    (hRun : Transition.run (step size) r labels = some t) :
    t.Sound ∧ labels.length + t.work ≤ r.work ∧ t.bytesRead = r.bytesRead := by
  induction labels generalizing r with
  | nil =>
      cases hRun
      exact ⟨h, by simp, rfl⟩
  | cons label labels ih =>
      obtain ⟨hLabel, hLabels⟩ := List.forall_mem_cons.1 hOf
      obtain ⟨u, hStep, hRest⟩ := Transition.run_cons_eq_some.1 hRun
      obtain ⟨hLess, hRead⟩ := work_lt h hFilled hLabel hStep
      obtain ⟨hSound, hWork, hAll⟩ :=
        ih (step_sound h hStep) (step_filled hFilled hStep) hLabels hRest
      refine ⟨hSound, ?_, hAll.trans hRead⟩
      rw [List.length_cons]
      omega

/-- Frames that fit make no task throw. -/
theorem Sound.not_thrown (h : r.Sound) {frames : List Text} (hFit : Fit frames)
    (hSent : r.bytesRead c <+: wire frames) : r.thrown c = false := by
  by_contra hThrown
  obtain ⟨part, hPart, hOverflow⟩ := h.thrown c (by simpa using hThrown)
  exact (StompMsgEncDec.feed_part hFit (hPart.trans hSent)).1 hOverflow

theorem Sound.framesOf_prefix (h : r.Sound) {frames : List Text} (hFit : Fit frames)
    (hSent : r.bytesRead c <+: wire frames) : framesOf c r.events <+: frames := by
  have hBytes := h.bytes c (h.not_thrown hFit hSent)
  rw [h.frames c]
  exact (StompMsgEncDec.feed_part hFit ((hBytes ▸ List.prefix_append _ _).trans hSent)).2

theorem Sound.framesOf_eq (h : r.Sound) (hRest : r.AtRest size) {frames : List Text}
    (hFit : Fit frames) (hSent : r.bytesRead c = wire frames) : framesOf c r.events = frames := by
  have hBytes := h.bytes c (h.not_thrown hFit (hSent ▸ List.prefix_rfl))
  have hNone : r.leases.held c = [] := by
    simp [StompReactor.leases, h.pool.mailbox_of_threads hRest.threads]
  rw [hNone, List.flatMap_nil, List.append_nil, hSent] at hBytes
  rw [h.frames c, ← hBytes, StompMsgEncDec.feed_wire hFit, StompMsgEncDec.messages_ofFrame]

/-- What is true of the bytes and the frames in the middle of any run, whatever the clients
send. -/
structure Ordered (r : StompReactor) : Prop where
  /-- Every buffer is in the pool or with one task, and with no other one. -/
  buffers : r.leases.Exclusive
  /-- The bytes of a channel are decoded in the order in which they were read, and what is not
  decoded yet is in the buffers of its tasks. -/
  bytes : ∀ c, r.thrown c = false →
    r.bytesRead c = r.decoded c ++ (r.leases.held c).flatMap r.buffers
  /-- The protocol object has got the frames that one decoder cuts out of these bytes. -/
  frames : ∀ c, framesOf c r.events = messages (feed .new (r.decoded c))
  /-- Only a frame that is too long makes a task throw. -/
  thrown : ∀ c, r.thrown c = true →
    ∃ part, part <+: r.bytesRead c ∧ StompMsgEncDec.Decoded.overflow ∈ feed .new part

/-- The bytes that were read from a channel are decoded in their order, each once: those that
were decoded, those of the running task and those that wait are what was read. -/
theorem bytes_in_order (h : Transition.Reachable Started (step size) r) : r.Ordered := by
  have hSound := sound_of_reachable h
  exact ⟨hSound.leases, hSound.bytes, hSound.frames, hSound.thrown⟩

/-- A reactor without clients. -/
def fresh : StompReactor where
  pool := ⟨fun _ => none, fun _ => false, [], [], []⟩
  BUFFER_POOL := []
  allocated := 0
  buffers := fun _ => []
  encdec := fun _ => .new
  closed := fun _ => false
  server := .new true fun _ => .reply []
  events := []
  bytesRead := fun _ => []
  decoded := fun _ => []
  thrown := fun _ => false

theorem fresh_started : Started fresh := by
  refine ⟨?_, rfl, rfl, fun _ => rfl, fun _ => rfl, ?_, rfl, fun _ => rfl, fun _ => rfl,
    fun _ => rfl⟩
  · exact ⟨fun _ => rfl, fun _ => rfl, rfl, rfl, rfl⟩
  · exact ⟨⟨true, _, rfl⟩, fun _ => rfl⟩

/-- Two frames of one client come in two pieces, with one of another client in between, and two
threads have begun with them. -/
def splitting : List Step :=
  [.accept 1, .accept 2, .continueRead 1 (some [0x58]), .continueRead 2 (some [0x5A, 0]),
    .continueRead 1 (some [0, 0x59, 0]), .start 0, .start 1, .nextByte 1, .nextByte 0, .endTask 0]

/-- The reactor after a frame has come in two parts. -/
def split : StompReactor :=
  (Transition.run (step ⟨2, Nat.zero_lt_two⟩) fresh splitting).getD fresh

theorem split_reachable : Transition.Reachable Started (step 2) split :=
  ⟨fresh, splitting, fresh_started, rfl⟩

/-- A frame in two parts, while another connection is served. -/
theorem bytes_in_order_split : split.Ordered := bytes_in_order split_reachable

/-- Frames that fit are processed as they were sent, whatever the pieces in which they are read
and the threads that decode them. In every run the first of them have been processed, and once
the threads have come to rest, as they do, all that were read completely. -/
theorem frames_in_order (h : Transition.Reachable Started (step size) r) {frames : List Text}
    (hFit : Fit frames) (hSent : r.bytesRead c <+: wire frames) :
    framesOf c r.events <+: frames ∧ ∀ labels t, (∀ label ∈ labels, label.ofExecutor = true) →
      Transition.run (step size) r labels = some t → labels.length ≤ r.work ∧
        (t.AtRest size → r.bytesRead c = wire frames → framesOf c t.events = frames) := by
  have hSound := sound_of_reachable h
  have hFilled := filled_of_reachable h
  refine ⟨hSound.framesOf_prefix hFit hSent, fun labels t hOf hRun => ?_⟩
  obtain ⟨hEnd, hWork, hRead⟩ := executor_run hSound hFilled hOf hRun
  refine ⟨by omega, fun hRest hAll => hEnd.framesOf_eq hRest hFit ?_⟩
  rw [hRead, hAll]

/-- The same run, with the frame that comes of it. -/
theorem frames_in_order_split : framesOf 1 split.events <+: [['X'], ['Y']] ∧
    ∀ labels t, (∀ label ∈ labels, label.ofExecutor = true) →
      Transition.run (step 2) split labels = some t → labels.length ≤ split.work ∧
        (t.AtRest 2 → framesOf 1 t.events = [['X'], ['Y']]) := by
  have hRead : split.bytesRead 1 = wire [['X'], ['Y']] := by decide
  have hFit : Fit [['X'], ['Y']] := by decide
  have hSent : split.bytesRead 1 <+: wire [['X'], ['Y']] := hRead ▸ List.prefix_rfl
  obtain ⟨hFirst, hLater⟩ := frames_in_order split_reachable hFit hSent
  refine ⟨hFirst, fun labels t hOf hRun => ?_⟩
  obtain ⟨hWork, hEnd⟩ := hLater labels t hOf hRun
  exact ⟨hWork, fun hRest => hEnd hRest hRead⟩

/-- A client whose frames fit is answered frame by frame. At any moment it has been answered for
the first of them, and once all have been read and the threads have come to rest for all. -/
theorem frames_answered (h : Transition.Reachable Started (step size) r) {frames : List Text}
    (hFit : Fit frames) (hSent : r.bytesRead c <+: wire frames) :
    ∃ processed, processed <+: frames ∧
      Conversation processed (r.server.handedTo c) (r.server.stage c) ∧
      (r.AtRest size → r.bytesRead c = wire frames → processed = frames) := by
  have hSound := sound_of_reachable h
  obtain ⟨start, hStart, hServer⟩ := hSound.server
  have hConversation := (run_converses hStart.1.converses hServer).conversation c
  rw [List.nil_append] at hConversation
  exact ⟨_, hSound.framesOf_prefix hFit hSent, hConversation,
    fun hRest hAll => hSound.framesOf_eq hRest hFit hAll⟩

/-- The same run, with the answer that the frame gets. -/
theorem frames_answered_split : ∃ processed, processed <+: [['X'], ['Y']] ∧
    Conversation processed (split.server.handedTo 1) (split.server.stage 1) ∧
    (split.AtRest 2 → split.bytesRead 1 = wire [['X'], ['Y']] → processed = [['X'], ['Y']]) := by
  have hFit : Fit [['X'], ['Y']] := by decide
  have hRead : split.bytesRead 1 = wire [['X'], ['Y']] := by decide
  exact frames_answered split_reachable hFit (hRead ▸ List.prefix_rfl)

end
end StompReactor
end StompGames
