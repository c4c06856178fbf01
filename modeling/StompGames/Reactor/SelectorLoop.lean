import StompGames.Lib.Transition
import Mathlib.Logic.Function.Basic

/-! The selector thread of `StompReactor.serve` and the pool threads that send
to its connections. A channel that is closed has its key cancelled, and
`interestOps` on a cancelled key throws. -/
namespace StompGames.SelectorLoop

/-- A client channel. While it is open its key is registered for `OP_READ`, and
for `OP_WRITE` too where `write` holds. -/
inductive Channel where
  | unregistered
  | open (write : Bool)
  | closed
  deriving DecidableEq

/-- `isOpen()` of a channel that has been accepted and not closed. -/
def Channel.isOpen : Channel → Bool
  | .open _ => true
  | _ => false

/-- A key that `select` returned. -/
inductive Ready where
  | acceptable
  | client (conId : Int) (readable writable : Bool)

/-- What the selector thread does next. -/
inductive Pc where
  | select
  | runSelectionThreadTasks (selectedKeys : List Ready)
  | selectedKeys (keys : List Ready)
  | continueRead (conId : Int) (writable : Bool) (keys : List Ready)
  /-- At the head of the loop of `continueWrite`. -/
  | continueWrite (conId : Int) (keys : List Ready)
  /-- After the loop, with an empty queue. -/
  | written (conId : Int) (keys : List Ready)
  /-- In `close`, after `chan.close()`. -/
  | closing (conId : Int) (next : Pc)
  /-- An exception has left `serve`. -/
  | left

/-- A pool thread in `ConnectionsManager.send`. -/
inductive PoolThread where
  | idle
  | found (conId : Int)
  | added (conId : Int)
  deriving DecidableEq

/-- What the selector thread and the threads of the pool work on, for all connections: channels
with their keys, handlers with their queues, the tasks for the selector, and where the loop
stands. -/
structure State where
  channel : Int → Channel
  connections : Int → Bool
  shouldTerminate : Int → Bool
  /-- The buffers in each handler's `writeQueue`. -/
  writeQueue : Int → Nat
  /-- The queued calls of `interestOps`, with `OP_WRITE` or without. -/
  selectorTasks : List (Int × Bool)
  pool : Nat → PoolThread
  conIdGen : Int
  pc : Pc

/-- `updateInterestedOps` reached `key.interestOps(ops)` on the selector thread. -/
def interestOps (conId : Int) (write : Bool) (next : Pc) (s : State) : State :=
  match s.channel conId with
  | .open _ =>
      { s with channel := Function.update s.channel conId (.open write), pc := next }
  | _ => { s with pc := .left }

@[simp] theorem interestOps_pool (conId : Int) (write : Bool) (next : Pc) (s : State) :
    (interestOps conId write next s).pool = s.pool := by
  unfold interestOps
  split <;> rfl

/-- `chan.close()`; closing a closed channel has no effect. -/
def close (conId : Int) (next : Pc) (s : State) : State :=
  { s with channel := Function.update s.channel conId .closed, pc := .closing conId next }

/-- Registration of a new connection with a fresh id. -/
def handleAccept (keys : List Ready) (s : State) : State :=
  { s with
    conIdGen := s.conIdGen + 1
    channel := Function.update s.channel (s.conIdGen + 1) (.open false)
    connections := Function.update s.connections (s.conIdGen + 1) true
    pc := .selectedKeys keys }

/-- What the selector thread does next, with what the operating system tells it, or a thread of
the pool that sends a frame. -/
inductive Step where
  | selected (keys : List Ready)
  | runTask
  | drained
  | nextKey
  | read
  | endOfStream
  | wrote
  | partlyWrote
  | writeFailed
  | queueEmpty
  | updateOps
  /-- The rest of `close`: `protocol.handleDisconnect()`, which may throw. -/
  | disconnected (throws : Bool)
  | lookUp (thread : Nat) (conId : Int)
  | addBuffer (thread : Nat)
  | addTask (thread : Nat)
  /-- A pool thread tears a connection down. -/
  | terminate (conId : Int)

/-- `select` returns keys of open channels, as far as they are registered. -/
def selectable (s : State) : Ready → Bool
  | .acceptable => true
  | .client conId _ writable => match s.channel conId with
      | .open write => !writable || write
      | _ => false

/-- One step, which is only taken from the place in the loop that comes before it. -/
def step (s : State) : Step → Option State
  | .selected keys => match s.pc with
      | .select =>
          if keys.all (selectable s) then some { s with pc := .runSelectionThreadTasks keys }
          else none
      | _ => none
  | .runTask => match s.pc, s.selectorTasks with
      | .runSelectionThreadTasks keys, (conId, write) :: tasks =>
          some (interestOps conId write (.runSelectionThreadTasks keys)
            { s with selectorTasks := tasks })
      | _, _ => none
  | .drained => match s.pc, s.selectorTasks with
      | .runSelectionThreadTasks keys, [] => some { s with pc := .selectedKeys keys }
      | _, _ => none
  | .nextKey => match s.pc with
      | .selectedKeys [] => some { s with pc := .select }
      | .selectedKeys (.acceptable :: keys) => some (handleAccept keys s)
      | .selectedKeys (.client conId readable writable :: keys) =>
          if (s.channel conId).isOpen then
            if readable then some { s with pc := .continueRead conId writable keys }
            else if writable then some { s with pc := .continueWrite conId keys }
            else some { s with pc := .selectedKeys keys }
          else some { s with pc := .selectedKeys keys }
      | _ => none
  | .read => match s.pc with
      | .continueRead conId writable keys =>
          if writable then some { s with pc := .continueWrite conId keys }
          else some { s with pc := .selectedKeys keys }
      | _ => none
  | .endOfStream => match s.pc with
      | .continueRead conId _ keys => some (close conId (.selectedKeys keys) s)
      | _ => none
  | .wrote => match s.pc with
      | .continueWrite conId keys =>
          if (s.channel conId).isOpen && 0 < s.writeQueue conId then
            some { s with
              writeQueue := Function.update s.writeQueue conId (s.writeQueue conId - 1)
              pc := .continueWrite conId keys }
          else none
      | _ => none
  | .partlyWrote => match s.pc with
      | .continueWrite conId keys =>
          if (s.channel conId).isOpen && 0 < s.writeQueue conId then
            some { s with pc := .selectedKeys keys }
          else none
      | _ => none
  | .writeFailed => match s.pc with
      | .continueWrite conId keys =>
          if 0 < s.writeQueue conId then some (close conId (.continueWrite conId keys) s) else none
      | _ => none
  | .queueEmpty => match s.pc with
      | .continueWrite conId keys =>
          if s.writeQueue conId = 0 then some { s with pc := .written conId keys } else none
      | _ => none
  | .updateOps => match s.pc with
      | .written conId keys =>
          if s.writeQueue conId = 0 then
            if s.shouldTerminate conId then some (close conId (.selectedKeys keys) s)
            else some (interestOps conId false (.selectedKeys keys) s)
          else some { s with pc := .selectedKeys keys }
      | _ => none
  | .disconnected throws => match s.pc with
      | .closing conId next => some { s with
          shouldTerminate := Function.update s.shouldTerminate conId true
          connections := Function.update s.connections conId false
          pc := if throws then .left else next }
      | _ => none
  | .lookUp thread conId =>
      if s.pool thread = .idle ∧ s.connections conId = true then
        some { s with pool := Function.update s.pool thread (.found conId) }
      else none
  | .addBuffer thread => match s.pool thread with
      | .found conId => some { s with
          pool := Function.update s.pool thread (.added conId)
          writeQueue := Function.update s.writeQueue conId (s.writeQueue conId + 1) }
      | _ => none
  | .addTask thread => match s.pool thread with
      | .added conId => some { s with
          pool := Function.update s.pool thread .idle
          selectorTasks := s.selectorTasks ++ [(conId, true)] }
      | _ => none
  | .terminate conId => some { s with
      shouldTerminate := Function.update s.shouldTerminate conId true
      connections := Function.update s.connections conId false }

/-- No connection yet, and the selector thread waits in `select`. -/
def start : State :=
  ⟨fun _ => .unregistered, fun _ => false, fun _ => false, fun _ => 0, [], fun _ => .idle, 0,
    .select⟩

/-- What each step does, and when it can. -/
inductive Moved (s : State) : Step → State → Prop where
  | selected {keys} (pc : s.pc = .select) :
      Moved s (.selected keys) { s with pc := .runSelectionThreadTasks keys }
  | runTask {keys c write tasks} (pc : s.pc = .runSelectionThreadTasks keys)
      (queued : s.selectorTasks = (c, write) :: tasks) :
      Moved s .runTask (interestOps c write (.runSelectionThreadTasks keys)
        { s with selectorTasks := tasks })
  | drained {keys} (pc : s.pc = .runSelectionThreadTasks keys) (queued : s.selectorTasks = []) :
      Moved s .drained { s with pc := .selectedKeys keys }
  | lastKey (pc : s.pc = .selectedKeys []) : Moved s .nextKey { s with pc := .select }
  | accept {keys} (pc : s.pc = .selectedKeys (.acceptable :: keys)) :
      Moved s .nextKey (handleAccept keys s)
  | readKey {c readable writable keys}
      (pc : s.pc = .selectedKeys (.client c readable writable :: keys))
      (valid : (s.channel c).isOpen = true) :
      Moved s .nextKey { s with pc := .continueRead c writable keys }
  | writeKey {c readable writable keys}
      (pc : s.pc = .selectedKeys (.client c readable writable :: keys))
      (valid : (s.channel c).isOpen = true) :
      Moved s .nextKey { s with pc := .continueWrite c keys }
  | skipKey {c readable writable keys}
      (pc : s.pc = .selectedKeys (.client c readable writable :: keys)) :
      Moved s .nextKey { s with pc := .selectedKeys keys }
  | readThenWrite {c keys} (pc : s.pc = .continueRead c true keys) :
      Moved s .read { s with pc := .continueWrite c keys }
  | read {c keys} (pc : s.pc = .continueRead c false keys) :
      Moved s .read { s with pc := .selectedKeys keys }
  | endOfStream {c writable keys} (pc : s.pc = .continueRead c writable keys) :
      Moved s .endOfStream (close c (.selectedKeys keys) s)
  | wrote {c keys} (pc : s.pc = .continueWrite c keys) (valid : (s.channel c).isOpen = true) :
      Moved s .wrote { s with
        writeQueue := Function.update s.writeQueue c (s.writeQueue c - 1)
        pc := .continueWrite c keys }
  | partlyWrote {c keys} (pc : s.pc = .continueWrite c keys) :
      Moved s .partlyWrote { s with pc := .selectedKeys keys }
  | writeFailed {c keys} (pc : s.pc = .continueWrite c keys) (buffer : 0 < s.writeQueue c) :
      Moved s .writeFailed (close c (.continueWrite c keys) s)
  | queueEmpty {c keys} (pc : s.pc = .continueWrite c keys) (empty : s.writeQueue c = 0) :
      Moved s .queueEmpty { s with pc := .written c keys }
  | writtenAndClosed {c keys} (pc : s.pc = .written c keys) (empty : s.writeQueue c = 0)
      (terminates : s.shouldTerminate c = true) :
      Moved s .updateOps (close c (.selectedKeys keys) s)
  | written {c keys} (pc : s.pc = .written c keys) :
      Moved s .updateOps (interestOps c false (.selectedKeys keys) s)
  | refilled {c keys} (pc : s.pc = .written c keys) :
      Moved s .updateOps { s with pc := .selectedKeys keys }
  | disconnected {throws c next} (pc : s.pc = .closing c next) :
      Moved s (.disconnected throws) { s with
        shouldTerminate := Function.update s.shouldTerminate c true
        connections := Function.update s.connections c false
        pc := if throws then .left else next }
  | lookUp {thread c} (known : s.connections c = true) :
      Moved s (.lookUp thread c) { s with pool := Function.update s.pool thread (.found c) }
  | addBuffer {thread c} (found : s.pool thread = .found c) :
      Moved s (.addBuffer thread) { s with
        pool := Function.update s.pool thread (.added c)
        writeQueue := Function.update s.writeQueue c (s.writeQueue c + 1) }
  | addTask {thread c} (added : s.pool thread = .added c) :
      Moved s (.addTask thread) { s with
        pool := Function.update s.pool thread .idle
        selectorTasks := s.selectorTasks ++ [(c, true)] }
  | terminate {c} : Moved s (.terminate c) { s with
      shouldTerminate := Function.update s.shouldTerminate c true
      connections := Function.update s.connections c false }

theorem step_moved {s t : State} {move : Step} (h : step s move = some t) : Moved s move t := by
  cases move <;> simp only [step] at h
  case selected keys =>
      split at h
      · split at h
        · cases h
          exact .selected ‹_›
        · cases h
      · cases h
  case runTask =>
      split at h
      · cases h
        exact .runTask ‹_› ‹_›
      · cases h
  case drained =>
      split at h
      · cases h
        exact .drained ‹_› ‹_›
      · cases h
  case nextKey =>
      split at h
      · cases h
        exact .lastKey ‹_›
      · cases h
        exact .accept ‹_›
      · split at h
        · split at h
          · cases h
            exact .readKey ‹_› ‹_›
          · split at h
            · cases h
              exact .writeKey ‹_› ‹_›
            · cases h
              exact .skipKey ‹_›
        · cases h
          exact .skipKey ‹_›
      · cases h
  case read =>
      split at h
      · rename_i c writable keys hPc
        cases writable <;> cases h
        · exact .read hPc
        · exact .readThenWrite hPc
      · cases h
  case endOfStream =>
      split at h
      · cases h
        exact .endOfStream ‹_›
      · cases h
  case wrote =>
      split at h
      · split at h
        · rename_i hGuard
          cases h
          exact .wrote ‹_› (Bool.and_eq_true_iff.1 hGuard).1
        · cases h
      · cases h
  case partlyWrote =>
      split at h
      · split at h
        · cases h
          exact .partlyWrote ‹_›
        · cases h
      · cases h
  case writeFailed =>
      split at h
      · split at h
        · cases h
          exact .writeFailed ‹_› ‹_›
        · cases h
      · cases h
  case queueEmpty =>
      split at h
      · split at h
        · cases h
          exact .queueEmpty ‹_› ‹_›
        · cases h
      · cases h
  case updateOps =>
      split at h
      · split at h
        · split at h
          · cases h
            exact .writtenAndClosed ‹_› ‹_› ‹_›
          · cases h
            exact .written ‹_›
        · cases h
          exact .refilled ‹_›
      · cases h
  case disconnected throws =>
      split at h
      · cases h
        exact .disconnected ‹_›
      · cases h
  case lookUp thread c =>
      split at h
      · rename_i hGuard
        cases h
        exact .lookUp hGuard.2
      · cases h
  case addBuffer thread =>
      split at h
      · cases h
        exact .addBuffer ‹_›
      · cases h
  case addTask thread =>
      split at h
      · cases h
        exact .addTask ‹_›
      · cases h
  case terminate c =>
      cases h
      exact .terminate

/-- Where the selector thread is with a connection its channel is open, or a
buffer that cannot be written keeps it in the loop of `continueWrite`. -/
def Pc.Located (s : State) : Pc → Prop
  | .continueRead c _ _ => (s.channel c).isOpen = true
  | .continueWrite c _ => (s.channel c).isOpen = true ∨ 0 < s.writeQueue c
  | .written c _ => (s.channel c).isOpen = true
  | .closing c (.continueWrite d _) => d = c ∧ 0 < s.writeQueue c
  | .closing _ (.selectedKeys _) => True
  | .closing _ _ => False
  | _ => True

/-- Pool threads neither close channels nor take buffers out. -/
theorem Pc.Located.mono {s t : State} {pc : Pc} (h : pc.Located s)
    (hChannel : t.channel = s.channel)
    (hQueue : ∀ c, s.writeQueue c ≤ t.writeQueue c) : pc.Located t := by
  cases pc with
  | continueRead c writable keys =>
      rw [Pc.Located, hChannel]
      exact h
  | continueWrite c keys =>
      rw [Pc.Located, hChannel]
      exact h.imp_right fun hBuffer => Nat.lt_of_lt_of_le hBuffer (hQueue c)
  | written c keys =>
      rw [Pc.Located, hChannel]
      exact h
  | closing c next =>
      cases next with
      | continueWrite d keys => exact ⟨h.1, Nat.lt_of_lt_of_le h.2 (hQueue c)⟩
      | _ => exact h
  | _ => trivial

theorem step_located {s t : State} {move : Step} (h : s.pc.Located s)
    (hStep : step s move = some t) : t.pc.Located t := by
  cases step_moved hStep with
  | runTask pc queued =>
      unfold interestOps
      split <;> trivial
  | readKey pc valid => exact valid
  | writeKey pc valid => exact Or.inl valid
  | readThenWrite pc =>
      rw [pc] at h
      exact Or.inl h
  | wrote pc valid => exact Or.inl valid
  | writeFailed pc buffer => exact ⟨rfl, buffer⟩
  | queueEmpty pc empty =>
      rw [pc] at h
      exact h.resolve_right (by omega)
  | written pc =>
      unfold interestOps
      split <;> trivial
  | @disconnected throws c next pc =>
      rw [pc] at h
      cases throws with
      | true => trivial
      | false =>
          cases next with
          | selectedKeys keys => trivial
          | continueWrite d keys =>
              obtain ⟨rfl, hBuffer⟩ := h
              exact Or.inr hBuffer
          | _ => exact absurd h id
  | lookUp known => exact h.mono rfl fun _ => Nat.le_refl _
  | @addBuffer thread c found =>
      refine h.mono rfl fun d => ?_
      by_cases hSame : d = c
      · subst hSame
        simp
      · simp [hSame]
  | addTask added => exact h.mono rfl fun _ => Nat.le_refl _
  | terminate => exact h.mono rfl fun _ => Nat.le_refl _
  | _ => trivial

/-- In every run a direct call of `interestOps` finds its channel open. -/
theorem direct_call_open {s : State} (h : Transition.Reachable (· = start) step s) {c : Int}
    {keys : List Ready} (hPc : s.pc = .written c keys) : (s.channel c).isOpen = true := by
  have hLocated : s.pc.Located s := h.invariant (I := fun s => s.pc.Located s)
    (by rintro _ rfl; trivial) (fun _ _ _ => step_located)
  rwa [hPc] at hLocated

/-- No call of `interestOps` for the connection is queued or about to be. -/
def Unrequested (s : State) (c : Int) : Prop :=
  (∀ write, (c, write) ∉ s.selectorTasks) ∧
    ∀ thread, s.pool thread ≠ .found c ∧ s.pool thread ≠ .added c

/-- A channel is closed only when nobody has requested anything for it, its
handler is looked up only while it is open, and the teardown does not throw. -/
def Careful (s : State) : Step → Prop
  | .endOfStream => ∀ c writable keys, s.pc = .continueRead c writable keys → Unrequested s c
  | .writeFailed => ∀ c keys, s.pc = .continueWrite c keys → Unrequested s c
  | .updateOps => ∀ c keys, s.pc = .written c keys → s.writeQueue c = 0 →
      s.shouldTerminate c = true → Unrequested s c
  | .disconnected throws => throws = false
  | .lookUp _ c => (s.channel c).isOpen = true
  | _ => True

/-- The selector thread is in its loop, and the call of `interestOps` that it
comes to next, queued or direct, is one for an open channel. -/
structure Survives (s : State) : Prop where
  running : s.pc ≠ .left
  queued : ∀ keys c write tasks, s.pc = .runSelectionThreadTasks keys →
    s.selectorTasks = (c, write) :: tasks → (s.channel c).isOpen = true
  direct : ∀ c keys, s.pc = .written c keys → (s.channel c).isOpen = true

/-- Whoever is requested to change its interest is open. -/
structure Requested (s : State) : Prop where
  located : s.pc.Located s
  running : s.pc ≠ .left
  queued : ∀ c write, (c, write) ∈ s.selectorTasks → (s.channel c).isOpen = true
  sending : ∀ thread c, s.pool thread = .found c ∨ s.pool thread = .added c →
    (s.channel c).isOpen = true

theorem Requested.survives {s : State} (h : Requested s) : Survives s where
  running := h.running
  queued keys c write tasks _ hTasks := h.queued c write (hTasks ▸ List.mem_cons_self)
  direct c keys hPc := by
    have hLocated := h.located
    rwa [hPc] at hLocated

/-- A step that closes no channel and requests nothing new. -/
theorem Requested.next {s t : State} (h : Requested s) (hLocated : t.pc.Located t)
    (hRunning : t.pc ≠ .left)
    (hOpen : ∀ c, (s.channel c).isOpen = true → (t.channel c).isOpen = true)
    (hTasks : ∀ task ∈ t.selectorTasks, task ∈ s.selectorTasks) (hPool : t.pool = s.pool) :
    Requested t :=
  ⟨hLocated, hRunning, fun c write hMem => hOpen c (h.queued c write (hTasks _ hMem)),
    fun thread c hThread => hOpen c (h.sending thread c (hPool ▸ hThread))⟩

/-- A channel that nobody requested anything for may be closed. -/
theorem Requested.close {s : State} (h : Requested s) {c : Int} (hUnrequested : Unrequested s c)
    {next : Pc}
    (hLocated : (SelectorLoop.close c next s).pc.Located (SelectorLoop.close c next s)) :
    Requested (SelectorLoop.close c next s) := by
  have hOther : ∀ d, d ≠ c → (SelectorLoop.close c next s).channel d = s.channel d :=
    fun d hd => Function.update_of_ne hd _ _
  refine ⟨hLocated, nofun, fun d write hMem => ?_, fun thread d hThread => ?_⟩
  · have hd : d ≠ c := by
      rintro rfl
      exact hUnrequested.1 write hMem
    rw [hOther d hd]
    exact h.queued d write hMem
  · have hd : d ≠ c := by
      rintro rfl
      rcases hThread with hThread | hThread
      · exact (hUnrequested.2 thread).1 hThread
      · exact (hUnrequested.2 thread).2 hThread
    rw [hOther d hd]
    exact h.sending thread d hThread

theorem isOpen_update {channel : Int → Channel} {c d : Int} (write : Bool)
    (h : (channel d).isOpen = true) :
    ((Function.update channel c (.open write)) d).isOpen = true := by
  by_cases hSame : d = c
  · subst hSame
    simp [Channel.isOpen]
  · simpa [hSame] using h

/-- A call for an open channel. -/
theorem Requested.interestOps {s t : State} (h : Requested s) {c : Int} {write : Bool} {next : Pc}
    (hOpen : (t.channel c).isOpen = true) (hChannel : t.channel = s.channel)
    (hTasks : ∀ task ∈ t.selectorTasks, task ∈ s.selectorTasks) (hPool : t.pool = s.pool)
    (hNext : next ≠ .left) (hPlace : ∀ u : State, next.Located u) :
    Requested (SelectorLoop.interestOps c write next t) := by
  unfold SelectorLoop.interestOps
  cases hState : t.channel c with
  | unregistered => simp [hState, Channel.isOpen] at hOpen
  | closed => simp [hState, Channel.isOpen] at hOpen
  | «open» old =>
      refine h.next (hPlace _) hNext (fun d hd => ?_) hTasks hPool
      exact isOpen_update write (hChannel ▸ hd)

theorem step_requested {s t : State} {move : Step} (h : Requested s) (hCareful : Careful s move)
    (hStep : step s move = some t) : Requested t := by
  have hLocated := step_located h.located hStep
  cases step_moved hStep with
  | runTask pc queued =>
      refine h.interestOps (h.queued _ _ (queued ▸ List.mem_cons_self)) rfl
        (fun task hTask => ?_) rfl nofun (fun _ => trivial)
      exact queued ▸ List.mem_cons_of_mem _ hTask
  | accept pc =>
      exact h.next hLocated nofun (fun d hd => isOpen_update false hd) (fun _ hTask => hTask) rfl
  | endOfStream pc => exact h.close (hCareful _ _ _ pc) hLocated
  | writeFailed pc buffer => exact h.close (hCareful _ _ pc) hLocated
  | writtenAndClosed pc empty terminates =>
      exact h.close (hCareful _ _ pc empty terminates) hLocated
  | written pc =>
      exact h.interestOps (h.survives.direct _ _ pc) rfl (fun _ hTask => hTask) rfl nofun
        (fun _ => trivial)
  | @disconnected throws c next pc =>
      obtain rfl : throws = false := hCareful
      refine h.next hLocated ?_ (fun _ hd => hd) (fun _ hTask => hTask) rfl
      have hClosing := h.located
      rw [pc] at hClosing
      rintro rfl
      exact hClosing
  | @lookUp thread c known =>
      refine ⟨hLocated, h.running, h.queued, fun other d hOther => ?_⟩
      by_cases hSame : other = thread
      · subst hSame
        obtain rfl : c = d := by simpa using hOther
        exact hCareful
      · exact h.sending other d (by simpa [hSame] using hOther)
  | @addBuffer thread c found =>
      refine ⟨hLocated, h.running, h.queued, fun other d hOther => ?_⟩
      by_cases hSame : other = thread
      · subst hSame
        obtain rfl : c = d := by simpa using hOther
        exact h.sending other c (Or.inl found)
      · exact h.sending other d (by simpa [hSame] using hOther)
  | @addTask thread c added =>
      refine ⟨hLocated, h.running, fun d write hMem => ?_, fun other d hOther => ?_⟩
      · rcases List.mem_append.1 hMem with hMem | hMem
        · exact h.queued d write hMem
        · obtain ⟨rfl, rfl⟩ : d = c ∧ write = true := by simpa using hMem
          exact h.sending thread d (Or.inr added)
      · by_cases hSame : other = thread
        · subst hSame
          simp at hOther
        · exact h.sending other d (by simpa [hSame] using hOther)
  | terminate => exact h.next hLocated h.running (fun _ hd => hd) (fun _ hTask => hTask) rfl
  | _ => exact h.next hLocated nofun (fun _ hd => hd) (fun _ hTask => hTask) rfl

/-- The selector thread never leaves `serve`, in every run in which channels are closed with
care: no `interestOps` for them is queued or about to be. -/
theorem selector_survives {moves : List Step}
    (hCareful : Transition.Along step Careful start moves) :
    Transition.Always step Survives start moves := by
  have hStart : Requested start := ⟨trivial, nofun, nofun, by simp [start]⟩
  exact (Transition.always_of_along (fun _ _ _ hs hMove hStep => step_requested hs hMove hStep)
    hStart hCareful).mono fun _ hs => hs.survives

/-- Two clients connect and one pool thread has found the second of them when the stream of the
first ends. Its frame is written afterwards. -/
def twoClients : List Step :=
  [.selected [.acceptable, .acceptable], .drained, .nextKey, .nextKey, .nextKey, .lookUp 0 2,
    .selected [.client 1 true false], .drained, .nextKey, .endOfStream, .disconnected false,
    .nextKey, .addBuffer 0, .addTask 0, .selected [], .runTask, .drained, .nextKey,
    .selected [.client 2 false true], .drained, .nextKey, .wrote, .queueEmpty, .updateOps]

/-- Two clients come, the first one leaves, and the frame of the other one is written. -/
theorem selector_survives_twoClients : Transition.Always step Survives start twoClients := by
  apply selector_survives
  unfold twoClients
  iterate 5
    refine ⟨trivial, fun _ h => ?_⟩
    cases h
  refine ⟨rfl, fun _ h => ?_⟩
  cases h
  iterate 3
    refine ⟨trivial, fun _ h => ?_⟩
    cases h
  -- Nobody wants anything of the first client when it is closed.
  refine ⟨fun c writable keys hPc => ?_, fun _ h => ?_⟩
  · cases hPc
    refine ⟨nofun, fun thread => ?_⟩
    by_cases hThread : thread = 0 <;> simp [hThread, handleAccept, start]
  cases h
  refine ⟨rfl, fun _ h => ?_⟩
  cases h
  iterate 12
    refine ⟨trivial, fun _ h => ?_⟩
    cases h
  refine ⟨fun c keys hPc _ hTerminates => ?_, fun _ _ => trivial⟩
  cases hPc
  cases hTerminates

/-- A pool thread requests a write while the selector thread finds the end of the
client's stream. -/
def lateRequest : List Step :=
  [.selected [.acceptable], .drained, .nextKey, .nextKey, .selected [.client 1 true false],
    .drained, .nextKey, .lookUp 0 1, .addBuffer 0, .addTask 0, .endOfStream, .disconnected false,
    .nextKey, .selected [], .runTask]

/-- A connection is closed at the end of its stream while an `interestOps` for it is in the
queue. The key is cancelled then, and the exception of the task ends the loop for everyone. -/
theorem selector_leaves : ¬∀ moves, Transition.Always step Survives start moves := by
  intro h
  have hLeft : (Transition.run step start lateRequest).any
      (fun t => match t.pc with | .left => true | _ => false) = true := by decide
  obtain ⟨t, hRun, hPc⟩ := (Option.any_eq_true _ _).1 hLeft
  apply ((h lateRequest).last hRun).running
  split at hPc
  · assumption
  · cases hPc

end StompGames.SelectorLoop
