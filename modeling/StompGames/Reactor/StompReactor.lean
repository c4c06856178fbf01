import StompGames.Lib.Leases
import StompGames.Reactor.EndOfStream
import StompGames.Reactor.Mailbox

/-! `StompReactor` with all its connections: the selector thread reads into buffers that
the handlers share and submits a task for each, and the threads of the pool decode the bytes and
process the frames. -/
namespace StompGames

open Server

/-- A runnable is known by its buffer. `buffers` holds what is left in each between its position
and its limit. The last four fields are a record of the run: the calls on the server, the bytes
read from each channel and those decoded, and whether a task of a handler has thrown. -/
structure StompReactor where
  pool : ActorThreadPool.State Int Nat
  BUFFER_POOL : List Nat
  allocated : Nat
  buffers : Nat → List UInt8
  encdec : Int → StompMsgEncDec
  closed : Int → Bool
  server : Server
  events : List Event
  bytesRead : Int → List UInt8
  decoded : Int → List UInt8
  thrown : Int → Bool

namespace StompReactor

/-- The most that one call of `read` takes from a channel. -/
def BUFFER_ALLOCATION_SIZE : Nat := 2 ^ 13

/-- The buffer, and the pool without it. -/
def leaseBuffer (r : StompReactor) : Nat × StompReactor :=
  match r.BUFFER_POOL with
  | buf :: rest => (buf, { r with BUFFER_POOL := rest })
  | [] => (r.allocated, { r with allocated := r.allocated + 1 })

/-- `releaseBuffer(buff)`: the buffer goes to the end of the pool, cleared when it is leased. -/
def releaseBuffer (buf : Nat) (r : StompReactor) : StompReactor :=
  { r with BUFFER_POOL := r.BUFFER_POOL ++ [buf] }

/-- The channel is closed and the user is logged out. -/
def close (c : Int) (r : StompReactor) : StompReactor :=
  { r with
    closed := Function.update r.closed c true
    server := (handleDisconnect c r.server).2
    events := r.events ++ [.handleDisconnect c] }

/-- `continueRead` and the `submit` of what it returns. `none` stands for the end of the stream
and for an exception. -/
def continueRead (c : Int) (bytes : Option (List UInt8)) (r : StompReactor) : StompReactor :=
  let (buf, r) := r.leaseBuffer
  match bytes with
  | some bytes => { r with
      pool := ActorThreadPool.submit c buf r.pool
      buffers := Function.update r.buffers buf bytes
      bytesRead := Function.update r.bytesRead c (r.bytesRead c ++ bytes) }
  | none => (r.releaseBuffer buf).close c

/-- The end of the runnable: `finally` gives the buffer back. -/
def endTask (size : ℕ+) (i : Nat) (task : ActorThreadPool.Task Int Nat) (throws : Bool)
    (r : StompReactor) : Option StompReactor :=
  (ActorThreadPool.step size r.pool (.ends i throws)).map fun pool =>
    { r.releaseBuffer task.r with
      pool := pool
      thrown := Function.update r.thrown task.act (r.thrown task.act || throws) }

/-- One turn of the loop of the runnable. -/
def nextByte (size : ℕ+) (i : Nat) (task : ActorThreadPool.Task Int Nat) (b : UInt8)
    (rest : List UInt8) (r : StompReactor) : Option StompReactor :=
  let c := task.act
  let r := { r with
    buffers := Function.update r.buffers task.r rest
    decoded := Function.update r.decoded c (r.decoded c ++ [b]) }
  match StompMsgEncDec.decodeNextByte b (r.encdec c) with
  | (.null, encdec) => some { r with encdec := Function.update r.encdec c encdec }
  | (.overflow, encdec) =>
      endTask size i task true { r with encdec := Function.update r.encdec c encdec }
  | (.message frame, encdec) =>
      let r := { r with
        encdec := Function.update r.encdec c encdec
        events := r.events ++ [Event.process c frame] }
      match process c frame r.server with
      | (.ok _, server) => some { r with server := server }
      | (.error _, server) => endTask size i task true { r with server := server }

/-- What the reactor does: the selector thread accepts, reads and closes, and the threads of the
pool run the tasks byte by byte. -/
inductive Step where
  | accept (c : Int)
  | continueRead (c : Int) (bytes : Option (List UInt8))
  /-- `continueWrite` closes the channel. -/
  | close (c : Int)
  | start (i : Nat)
  | nextByte (i : Nat)
  | endTask (i : Nat)
  | complete (i : Nat)
  | collect (c : Int)

/-- What the threads of the pool do. -/
def Step.ofExecutor : Step → Bool
  | .start _ | .nextByte _ | .endTask _ | .complete _ => true
  | .accept _ | .continueRead _ _ | .close _ | .collect _ => false

/-- A channel that was closed is not selected any more. -/
def step (size : ℕ+) (r : StompReactor) : Step → Option StompReactor
  | .accept c => (r.server.step (.accept c)).map fun server => { r with
      server := server
      events := r.events ++ [.accept c]
      encdec := Function.update r.encdec c .new }
  | .continueRead c bytes =>
      if r.server.accepted c && !r.closed c &&
          bytes.all (fun bytes => bytes.length ≤ BUFFER_ALLOCATION_SIZE) then
        some (r.continueRead c bytes)
      else none
  | .close c => if r.server.accepted c && !r.closed c then some (r.close c) else none
  | .start i => (ActorThreadPool.step size r.pool (.start i)).map fun pool => { r with pool := pool }
  | .nextByte i => match r.pool.threads[i]? with
      | some ⟨task, .running⟩ => match r.buffers task.r with
          | b :: rest => r.nextByte size i task b rest
          | [] => none
      | _ => none
  | .endTask i => match r.pool.threads[i]? with
      | some ⟨task, .running⟩ => match r.buffers task.r with
          | [] => r.endTask size i task false
          | _ => none
      | _ => none
  | .complete i =>
      (ActorThreadPool.step size r.pool (.complete i)).map fun pool => { r with pool := pool }
  | .collect c =>
      (ActorThreadPool.step size r.pool (.collect c)).map fun pool => { r with pool := pool }

/-- The steps again, as a relation with one case for each. -/
inductive Moves (size : ℕ+) (r : StompReactor) : Step → StompReactor → Prop where
  | accept {c : Int} {server : Server} (hServer : r.server.step (.accept c) = some server) :
      Moves size r (.accept c) { r with
        server := server
        events := r.events ++ [.accept c]
        encdec := Function.update r.encdec c .new }
  | read {c : Int} {bytes : List UInt8} (hAccepted : r.server.accepted c = true)
      (hOpen : r.closed c = false) (hFits : bytes.length ≤ BUFFER_ALLOCATION_SIZE) :
      Moves size r (.continueRead c (some bytes)) (r.continueRead c (some bytes))
  | endOfStream {c : Int} (hAccepted : r.server.accepted c = true) (hOpen : r.closed c = false) :
      Moves size r (.continueRead c none) (r.continueRead c none)
  | close {c : Int} (hAccepted : r.server.accepted c = true) (hOpen : r.closed c = false) :
      Moves size r (.close c) (r.close c)
  | start {i : Nat} {pool : ActorThreadPool.State Int Nat}
      (hPool : ActorThreadPool.step size r.pool (.start i) = some pool) :
      Moves size r (.start i) { r with pool := pool }
  | nextByte {i : Nat} {task : ActorThreadPool.Task Int Nat} {b : UInt8} {rest : List UInt8}
      {t : StompReactor} (hTask : r.pool.threads[i]? = some ⟨task, .running⟩)
      (hBuffer : r.buffers task.r = b :: rest) (hNext : r.nextByte size i task b rest = some t) :
      Moves size r (.nextByte i) t
  | endTask {i : Nat} {task : ActorThreadPool.Task Int Nat} {t : StompReactor}
      (hTask : r.pool.threads[i]? = some ⟨task, .running⟩) (hBuffer : r.buffers task.r = [])
      (hEnd : r.endTask size i task false = some t) : Moves size r (.endTask i) t
  | complete {i : Nat} {pool : ActorThreadPool.State Int Nat}
      (hPool : ActorThreadPool.step size r.pool (.complete i) = some pool) :
      Moves size r (.complete i) { r with pool := pool }
  | collect {c : Int} {pool : ActorThreadPool.State Int Nat}
      (hPool : ActorThreadPool.step size r.pool (.collect c) = some pool) :
      Moves size r (.collect c) { r with pool := pool }

theorem step_moves {size : ℕ+} {r t : StompReactor} {label : Step}
    (h : r.step size label = some t) : Moves size r label t := by
  cases label with
  | accept c =>
      obtain ⟨server, hServer, rfl⟩ := Option.map_eq_some_iff.1 h
      exact .accept hServer
  | continueRead c bytes =>
      simp only [step] at h
      split at h
      · rename_i hOpen
        cases h
        simp only [Bool.and_eq_true, Bool.not_eq_true'] at hOpen
        cases bytes with
        | some bytes => exact .read hOpen.1.1 hOpen.1.2 (by simpa using hOpen.2)
        | none => exact .endOfStream hOpen.1.1 hOpen.1.2
      · cases h
  | close c =>
      simp only [step] at h
      split at h
      · rename_i hOpen
        cases h
        simp only [Bool.and_eq_true, Bool.not_eq_true'] at hOpen
        exact .close hOpen.1 hOpen.2
      · cases h
  | start i =>
      obtain ⟨pool, hPool, rfl⟩ := Option.map_eq_some_iff.1 h
      exact .start hPool
  | nextByte i =>
      simp only [step] at h
      split at h
      · split at h
        · exact .nextByte ‹_› ‹_› h
        · cases h
      · cases h
  | endTask i =>
      simp only [step] at h
      split at h
      · split at h
        · exact .endTask ‹_› ‹_› h
        · cases h
      · cases h
  | complete i =>
      obtain ⟨pool, hPool, rfl⟩ := Option.map_eq_some_iff.1 h
      exact .complete hPool
  | collect c =>
      obtain ⟨pool, hPool, rfl⟩ := Option.map_eq_some_iff.1 h
      exact .collect hPool

/-- After the constructor, with a server that has just been started. -/
def Started (r : StompReactor) : Prop :=
  ActorThreadPool.Started r.pool ∧ r.BUFFER_POOL = [] ∧ r.allocated = 0 ∧
    (∀ buf, r.buffers buf = []) ∧ (∀ c, r.closed c = false) ∧ StartedWorking r.server ∧
    r.events = [] ∧ (∀ c, r.bytesRead c = []) ∧ (∀ c, r.decoded c = []) ∧ ∀ c, r.thrown c = false

end StompReactor
end StompGames
