import StompGames.Lib.Transition
import StompGames.Server.StompMsgEncDec

/-! A registered `StompNonBlockingConnectionHandler` between the pool threads that
send to it and the selector thread, statement by statement. -/
namespace StompGames.WriteThreads

/-- A queued call of `interestOps`: it registers the handler's key for
`OP_READ | OP_WRITE`, or it is about the key of another handler. -/
inductive Task where
  | interestOps
  | other
  deriving DecidableEq

/-- What the selector thread does next. -/
inductive Pc where
  | select
  | runSelectionThreadTasks
  | selectedKeys
  -- `continueWrite`: the loop, then the statement after it
  | isEmpty
  | peek
  | write (top : Nat)
  | hasRemaining (top : Nat)
  | remove
  | isEmptyAgain
  | shouldTerminate
  | updateInterestedOps
  /-- In `close`, after `chan.close()`. -/
  | closing (next : Pc)
  /-- An exception has left `serve`. -/
  | left
  deriving DecidableEq

/-- One connection with the selector loop and any number of threads of the pool: the channel, the
queue of its handler, the tasks for the selector, and where each thread stands. -/
structure State where
  isOpen : Bool
  /-- The key is registered for `OP_WRITE`, not for `OP_READ` only. -/
  write : Bool
  /-- `select` found the key writable, and it was not handled yet. -/
  writable : Bool
  shouldTerminate : Bool
  /-- What each `ByteBuffer` has remaining. -/
  buffers : Nat → List UInt8
  /-- How many buffers were wrapped so far. -/
  allocated : Nat
  writeQueue : List Nat
  selectorTasks : List Task
  /-- The pool threads between the two statements of `send`. -/
  sending : Nat → Bool
  pc : Pc
  /-- The bytes the channel has accepted. -/
  written : List UInt8
  /-- The messages sent, in the order in which they were added. -/
  added : List Text

/-- What the selector thread does next, with what the channel takes or throws, or one of the two
statements of `send` by a thread of the pool. -/
inductive Step where
  | selected (writable : Bool)
  /-- A task of another handler throws where that one's key is cancelled. -/
  | runTask (throws : Bool)
  | drained
  /-- `continueRead` meets the end of the stream or an exception. -/
  | endOfStream
  | continueWrite
  | keysDone
  | isEmpty
  | peek
  | write (top accepted : Nat)
  | writeThrows (top : Nat)
  | hasRemaining (top : Nat)
  | remove
  | isEmptyAgain
  | shouldTerminate
  | updateInterestedOps
  /-- The rest of `close`. -/
  | handleDisconnect (next : Pc) (throws : Bool)
  | add (thread : Nat) (msg : Text)
  | enqueue (thread : Nat)
  /-- A pool thread sends to another handler. -/
  | enqueueOther
  /-- A pool thread tears the connection down. -/
  | terminate

/-- The steps of the selector thread. -/
def Step.onSelector : Step → Bool
  | .add _ _ | .enqueue _ | .enqueueOther | .terminate => false
  | _ => true

/-- `key.interestOps(ops)` on the selector thread; it throws on a cancelled key. -/
def interestOps (write : Bool) (next : Pc) (s : State) : State :=
  if s.isOpen then { s with write := write, pc := next } else { s with pc := .left }

/-- `chan.close()`; it cancels the key. -/
def close (next : Pc) (s : State) : State := { s with isOpen := false, pc := .closing next }

/-- One step, which is only taken from the place that comes before it. -/
def step (s : State) : Step → Option State
  | .selected writable =>
      if s.pc = .select ∧ (writable = true → s.isOpen = true ∧ s.write = true) then
        some { s with writable := writable, pc := .runSelectionThreadTasks }
      else none
  | .runTask throws =>
      if s.pc = .runSelectionThreadTasks then match s.selectorTasks with
        | [] => none
        | .interestOps :: tasks =>
            some (interestOps true .runSelectionThreadTasks { s with selectorTasks := tasks })
        | .other :: tasks => some { s with
            selectorTasks := tasks
            pc := if throws then .left else .runSelectionThreadTasks }
      else none
  | .drained =>
      if s.pc = .runSelectionThreadTasks ∧ s.selectorTasks = [] then
        some { s with pc := .selectedKeys }
      else none
  | .endOfStream =>
      if s.pc = .selectedKeys ∧ s.isOpen = true then some (close .selectedKeys s) else none
  | .continueWrite =>
      if s.pc = .selectedKeys ∧ s.isOpen = true ∧ s.writable = true then
        some { s with writable := false, pc := .isEmpty }
      else none
  | .keysDone => if s.pc = .selectedKeys then some { s with pc := .select } else none
  | .isEmpty =>
      if s.pc = .isEmpty then
        some { s with pc := if s.writeQueue = [] then .isEmptyAgain else .peek }
      else none
  | .peek =>
      if s.pc = .peek then match s.writeQueue with
        | [] => some { s with pc := .left }
        | top :: _ => some { s with pc := .write top }
      else none
  | .write top accepted =>
      if s.pc = .write top ∧ s.isOpen = true ∧ accepted ≤ (s.buffers top).length then
        some { s with
          buffers := Function.update s.buffers top ((s.buffers top).drop accepted)
          written := s.written ++ (s.buffers top).take accepted
          pc := .hasRemaining top }
      else none
  | .writeThrows top => if s.pc = .write top then some (close .isEmpty s) else none
  | .hasRemaining top =>
      if s.pc = .hasRemaining top then
        some { s with pc := if s.buffers top = [] then .remove else .selectedKeys }
      else none
  | .remove =>
      if s.pc = .remove then match s.writeQueue with
        | [] => some { s with pc := .left }
        | _ :: rest => some { s with writeQueue := rest, pc := .isEmpty }
      else none
  | .isEmptyAgain =>
      if s.pc = .isEmptyAgain then
        some { s with pc := if s.writeQueue = [] then .shouldTerminate else .selectedKeys }
      else none
  | .shouldTerminate =>
      if s.pc = .shouldTerminate then
        some (if s.shouldTerminate then close .selectedKeys s
          else { s with pc := .updateInterestedOps })
      else none
  | .updateInterestedOps =>
      if s.pc = .updateInterestedOps then some (interestOps false .selectedKeys s) else none
  | .handleDisconnect next throws =>
      if s.pc = .closing next then
        some { s with shouldTerminate := true, pc := if throws then .left else next }
      else none
  | .add thread msg =>
      if s.sending thread = false then
        some { s with
          buffers := Function.update s.buffers s.allocated (StompMsgEncDec.encode msg)
          allocated := s.allocated + 1
          writeQueue := s.writeQueue ++ [s.allocated]
          sending := Function.update s.sending thread true
          added := s.added ++ [msg] }
      else none
  | .enqueue thread =>
      if s.sending thread = true then
        some { s with
          sending := Function.update s.sending thread false
          selectorTasks := s.selectorTasks ++ [.interestOps] }
      else none
  | .enqueueOther => some { s with selectorTasks := s.selectorTasks ++ [.other] }
  | .terminate => some { s with shouldTerminate := true }

/-- A handler that was just registered for `OP_READ`, while the selector thread goes
through the selected keys and other handlers may have queued tasks. -/
def Started (s : State) : Prop :=
  s.isOpen = true ∧ s.writable = false ∧ s.pc = .selectedKeys ∧ s.writeQueue = [] ∧
    (∀ thread, s.sending thread = false) ∧ s.written = [] ∧ s.added = []

end StompGames.WriteThreads
