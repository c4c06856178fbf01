import StompGames.Lib.OutputStream
import StompGames.Reactor.WriteThreads
import Mathlib.Data.List.Nodup

/-! The write queue of a handler: its bytes are the messages in order, and they
never wait without somebody who will go on with them. -/
namespace StompGames.WriteThreads

namespace State

/-- What the channel has accepted, and what the buffers in the queue have remaining. -/
def stream (s : State) : OutputStream UInt8 := ⟨s.written, (s.writeQueue.map s.buffers).flatten⟩

/-- Somebody has yet to register the key for `OP_WRITE`. -/
def Notified (s : State) : Prop :=
  Task.interestOps ∈ s.selectorTasks ∨ ∃ thread, s.sending thread = true

/-- What is known of the queue where the selector thread stands. -/
def Placed (s : State) : Pc → Prop
  | .peek => s.writeQueue ≠ []
  | .write top => ∃ rest, s.writeQueue = top :: rest
  | .hasRemaining top => ∃ rest, s.writeQueue = top :: rest
  | .remove => ∃ top rest, s.writeQueue = top :: rest ∧ s.buffers top = []
  -- The queue was seen empty, so what is in it now was added since.
  | .shouldTerminate => s.writeQueue ≠ [] → s.Notified
  | .updateInterestedOps => s.writeQueue ≠ [] → s.Notified
  | .closing next => next = .isEmpty ∨ next = .selectedKeys
  | _ => True

/-- What holds between the statements of all threads. -/
structure Sound (s : State) : Prop where
  nodup : s.writeQueue.Nodup
  fresh : ∀ top ∈ s.writeQueue, top < s.allocated
  placed : s.Placed s.pc
  awake : s.isOpen = true → s.writeQueue ≠ [] → s.write = true ∨ s.Notified

end State

theorem Started.sound {s : State} (h : Started s) : s.Sound := by
  obtain ⟨-, -, hPc, hQueue, -⟩ := h
  refine ⟨?_, ?_, ?_, fun _ hSome => absurd hQueue hSome⟩
  · rw [hQueue]
    exact List.nodup_nil
  · rw [hQueue]
    exact List.forall_mem_nil _
  · rw [hPc]
    trivial

section
variable {s : State}

/-- The selector thread goes on and touches neither the queue nor the key. -/
theorem State.Sound.goes (h : s.Sound) {pc : Pc} (hPlaced : s.Placed pc) :
    State.Sound { s with pc := pc } where
  nodup := h.nodup
  fresh := h.fresh
  placed := by cases pc <;> exact hPlaced
  awake := h.awake

theorem State.Sound.ready (h : s.Sound) (writable : Bool) :
    State.Sound { s with writable := writable } where
  nodup := h.nodup
  fresh := h.fresh
  placed := by
    have hPlaced := h.placed
    change State.Placed { s with writable := writable } s.pc
    cases hPc : s.pc <;> rw [hPc] at hPlaced <;> exact hPlaced
  awake := h.awake

/-- Closing the channel; nobody waits for a closed one. -/
theorem State.Sound.closed (h : s.Sound) {next : Pc} (hNext : next = .isEmpty ∨ next = .selectedKeys) :
    (close next s).Sound where
  nodup := h.nodup
  fresh := h.fresh
  placed := hNext
  awake hOpen := by cases hOpen

/-- A task is taken out of the queue and run. -/
theorem runTask_sound (h : s.Sound) (hPc : s.pc = .runSelectionThreadTasks) {t : State}
    {throws : Bool} (hStep : step s (.runTask throws) = some t) : t.Sound := by
  simp only [step, if_pos hPc] at hStep
  split at hStep
  · cases hStep
  · cases hStep
    unfold interestOps
    split
    · exact ⟨h.nodup, h.fresh, trivial, fun _ _ => Or.inl rfl⟩
    · rename_i hClosed
      exact ⟨h.nodup, h.fresh, trivial, fun hOpen => absurd hOpen hClosed⟩
  · rename_i tasks hTasks
    cases hStep
    refine ⟨h.nodup, h.fresh, ?_, fun hOpen hQueue => ?_⟩
    · cases throws <;> trivial
    · rcases h.awake hOpen hQueue with hWrite | hTask | hSending
      · exact Or.inl hWrite
      · rw [hTasks] at hTask
        exact Or.inr (Or.inl (List.mem_of_ne_of_mem (by decide) hTask))
      · exact Or.inr (Or.inr hSending)

/-- After a write the head of the queue is still the buffer that was peeked. -/
theorem write_sound (h : s.Sound) {top accepted : Nat} (hPc : s.pc = .write top) :
    State.Sound { s with
      buffers := Function.update s.buffers top ((s.buffers top).drop accepted)
      written := s.written ++ (s.buffers top).take accepted
      pc := .hasRemaining top } where
  nodup := h.nodup
  fresh := h.fresh
  placed := by
    have hPlaced := h.placed
    rw [hPc] at hPlaced
    exact hPlaced
  awake := h.awake

/-- The head of the queue is taken out once it has nothing remaining. -/
theorem remove_sound (h : s.Sound) {top : Nat} {rest : List Nat} (hQueue : s.writeQueue = top :: rest) :
    State.Sound { s with writeQueue := rest, pc := .isEmpty } where
  nodup := by
    have hNodup := h.nodup
    rw [hQueue] at hNodup
    exact hNodup.of_cons
  fresh := by
    intro other hMem
    apply h.fresh
    rw [hQueue]
    exact List.mem_cons_of_mem _ hMem
  placed := trivial
  awake := by
    intro hOpen _
    apply h.awake hOpen
    rw [hQueue]
    exact List.cons_ne_nil _ _

/-- A message goes behind everything that is in the queue, wherever the selector thread is. -/
theorem add_sound (h : s.Sound) (thread : Nat) (msg : Text) :
    State.Sound { s with
      buffers := Function.update s.buffers s.allocated (StompMsgEncDec.encode msg)
      allocated := s.allocated + 1
      writeQueue := s.writeQueue ++ [s.allocated]
      sending := Function.update s.sending thread true
      added := s.added ++ [msg] } where
  nodup := by
    rw [List.nodup_append]
    refine ⟨h.nodup, List.nodup_singleton _, ?_⟩
    intro top hTop other hOther
    rw [List.mem_singleton.1 hOther]
    exact Nat.ne_of_lt (h.fresh top hTop)
  fresh := by
    intro top hTop
    rcases List.mem_append.1 hTop with hTop | hTop
    · exact Nat.lt_succ_of_lt (h.fresh top hTop)
    · rw [List.mem_singleton.1 hTop]
      exact Nat.lt_succ_self _
  placed := by
    have hPlaced := h.placed
    have hSending : ∃ other, Function.update s.sending thread true other = true :=
      ⟨thread, Function.update_self ..⟩
    dsimp only
    cases hPc : s.pc <;> rw [hPc] at hPlaced
    case peek => exact List.append_ne_nil_of_left_ne_nil hPlaced _
    case write top =>
        obtain ⟨rest, hQueue⟩ := hPlaced
        exact ⟨rest ++ [s.allocated], congrArg (· ++ [s.allocated]) hQueue⟩
    case hasRemaining top =>
        obtain ⟨rest, hQueue⟩ := hPlaced
        exact ⟨rest ++ [s.allocated], congrArg (· ++ [s.allocated]) hQueue⟩
    case remove =>
        obtain ⟨top, rest, hQueue, hEmpty⟩ := hPlaced
        have hOld : top < s.allocated := h.fresh top (hQueue ▸ List.mem_cons_self)
        refine ⟨top, rest ++ [s.allocated], congrArg (· ++ [s.allocated]) hQueue, ?_⟩
        exact (Function.update_of_ne (Nat.ne_of_lt hOld) _ _).trans hEmpty
    case shouldTerminate => exact fun _ => Or.inr hSending
    case updateInterestedOps => exact fun _ => Or.inr hSending
    case closing next => exact hPlaced
    all_goals trivial
  awake _ _ := Or.inr (Or.inr ⟨thread, Function.update_self ..⟩)

/-- More tasks, and fewer threads between their statements, as long as somebody is notified. -/
theorem State.Sound.tasked (h : s.Sound) {sending : Nat → Bool} {tasks : List Task}
    (hNotified : s.Notified →
      State.Notified { s with sending := sending, selectorTasks := tasks }) :
    State.Sound { s with sending := sending, selectorTasks := tasks } where
  nodup := h.nodup
  fresh := h.fresh
  placed := by
    have hPlaced := h.placed
    dsimp only
    cases hPc : s.pc <;> rw [hPc] at hPlaced
    case shouldTerminate => exact fun hQueue => hNotified (hPlaced hQueue)
    case updateInterestedOps => exact fun hQueue => hNotified (hPlaced hQueue)
    all_goals exact hPlaced
  awake hOpen hQueue := (h.awake hOpen hQueue).imp_right hNotified

theorem step_sound (h : s.Sound) {t : State} {move : Step} (hStep : step s move = some t) :
    t.Sound := by
  have hPlaced := h.placed
  cases move <;> simp only [step] at hStep
  case runTask throws =>
      by_cases hPc : s.pc = .runSelectionThreadTasks
      · exact runTask_sound h hPc (by simpa only [step] using hStep)
      · rw [if_neg hPc] at hStep
        cases hStep
  case selected writable =>
      split at hStep <;> cases hStep
      exact (h.ready writable).goes trivial
  case drained =>
      split at hStep <;> cases hStep
      exact h.goes trivial
  case endOfStream =>
      split at hStep <;> cases hStep
      exact h.closed (Or.inr rfl)
  case continueWrite =>
      split at hStep <;> cases hStep
      exact (h.ready false).goes trivial
  case keysDone =>
      split at hStep <;> cases hStep
      exact h.goes trivial
  case isEmpty =>
      split at hStep <;> cases hStep
      by_cases hQueue : s.writeQueue = []
      · rw [if_pos hQueue]
        exact h.goes trivial
      · rw [if_neg hQueue]
        exact h.goes hQueue
  case peek =>
      split at hStep
      · rename_i hPc
        rw [hPc] at hPlaced
        split at hStep
        · exact absurd ‹_› hPlaced
        · rename_i top rest hQueue
          cases hStep
          have hTop : s.Placed (.write top) := ⟨rest, hQueue⟩
          exact h.goes hTop
      · cases hStep
  case write top accepted =>
      split at hStep
      · rename_i hGuard
        cases hStep
        exact write_sound h hGuard.1
      · cases hStep
  case writeThrows top =>
      split at hStep <;> cases hStep
      exact h.closed (Or.inl rfl)
  case hasRemaining top =>
      split at hStep
      · rename_i hPc
        cases hStep
        rw [hPc] at hPlaced
        obtain ⟨rest, hQueue⟩ := hPlaced
        by_cases hEmpty : s.buffers top = []
        · rw [if_pos hEmpty]
          have hTop : s.Placed .remove := ⟨top, rest, hQueue, hEmpty⟩
          exact h.goes hTop
        · rw [if_neg hEmpty]
          exact h.goes trivial
      · cases hStep
  case remove =>
      split at hStep
      · rename_i hPc
        rw [hPc] at hPlaced
        obtain ⟨top, rest, hQueue, -⟩ := hPlaced
        rw [hQueue] at hStep
        cases hStep
        exact remove_sound h hQueue
      · cases hStep
  case isEmptyAgain =>
      split at hStep <;> cases hStep
      by_cases hQueue : s.writeQueue = []
      · rw [if_pos hQueue]
        exact h.goes fun hSome => absurd hQueue hSome
      · rw [if_neg hQueue]
        exact h.goes trivial
  case shouldTerminate =>
      split at hStep
      · rename_i hPc
        cases hStep
        rw [hPc] at hPlaced
        split
        · exact h.closed (Or.inr rfl)
        · exact h.goes hPlaced
      · cases hStep
  case updateInterestedOps =>
      split at hStep
      · rename_i hPc
        cases hStep
        rw [hPc] at hPlaced
        unfold interestOps
        split
        · exact ⟨h.nodup, h.fresh, trivial, fun _ hQueue => Or.inr (hPlaced hQueue)⟩
        · exact h.goes trivial
      · cases hStep
  case handleDisconnect next throws =>
      split at hStep
      · rename_i hPc
        cases hStep
        rw [hPc] at hPlaced
        refine ⟨h.nodup, h.fresh, ?_, h.awake⟩
        rcases hPlaced with rfl | rfl <;> cases throws <;> trivial
      · cases hStep
  case add thread msg =>
      split at hStep <;> cases hStep
      exact add_sound h thread msg
  case enqueue thread =>
      split at hStep <;> cases hStep
      exact h.tasked fun _ => Or.inl (List.mem_append_right _ (List.mem_singleton_self _))
  case enqueueOther =>
      cases hStep
      apply h.tasked
      intro hNotified
      exact hNotified.imp_left (List.mem_append_left _)
  case terminate =>
      cases hStep
      refine ⟨h.nodup, h.fresh, ?_, h.awake⟩
      dsimp only
      cases hPc : s.pc <;> rw [hPc] at hPlaced <;> exact hPlaced

/-- A write gives the channel the next bytes. -/
theorem write_stream (h : s.Sound) {top accepted : Nat} (hPc : s.pc = .write top)
    (hFits : accepted ≤ (s.buffers top).length) :
    State.stream { s with
      buffers := Function.update s.buffers top ((s.buffers top).drop accepted)
      written := s.written ++ (s.buffers top).take accepted
      pc := .hasRemaining top } = s.stream.take accepted := by
  have hPlaced := h.placed
  rw [hPc] at hPlaced
  obtain ⟨rest, hQueue⟩ := hPlaced
  have hNodup := h.nodup
  rw [hQueue] at hNodup
  have hRest : rest.map (Function.update s.buffers top ((s.buffers top).drop accepted)) =
      rest.map s.buffers := by
    apply List.map_congr_left
    intro other hMem
    exact Function.update_of_ne (ne_of_mem_of_not_mem hMem (List.nodup_cons.1 hNodup).1) _ _
  unfold State.stream
  dsimp only
  rw [hQueue, List.map_cons, List.map_cons, Function.update_self, hRest,
    OutputStream.take_pieces hFits]

/-- A message hands its bytes in. -/
theorem add_stream (h : s.Sound) (thread : Nat) (msg : Text) :
    State.stream { s with
      buffers := Function.update s.buffers s.allocated (StompMsgEncDec.encode msg)
      allocated := s.allocated + 1
      writeQueue := s.writeQueue ++ [s.allocated]
      sending := Function.update s.sending thread true
      added := s.added ++ [msg] } = s.stream.put (StompMsgEncDec.encode msg) := by
  have hOld : s.writeQueue.map
      (Function.update s.buffers s.allocated (StompMsgEncDec.encode msg)) =
        s.writeQueue.map s.buffers := by
    apply List.map_congr_left
    intro other hMem
    exact Function.update_of_ne (Nat.ne_of_lt (h.fresh other hMem)) _ _
  unfold State.stream OutputStream.put
  dsimp only
  rw [List.map_append, hOld, List.map_singleton, Function.update_self, List.flatten_append,
    List.flatten_singleton]

/-- Every step hands in one message, or it lets the channel accept some bytes. -/
theorem step_stream (h : s.Sound) {t : State} {move : Step} (hStep : step s move = some t) :
    (∃ msg, t.stream = s.stream.put (StompMsgEncDec.encode msg) ∧ t.added = s.added ++ [msg]) ∨
      ∃ accepted, t.stream = s.stream.take accepted ∧ t.added = s.added := by
  have hSame : ∀ u : State, u.stream = s.stream → u.added = s.added →
      ∃ accepted, u.stream = s.stream.take accepted ∧ u.added = s.added :=
    fun u hStream hAdded => ⟨0, hStream.trans s.stream.take_zero.symm, hAdded⟩
  cases move <;> simp only [step] at hStep
  case add thread msg =>
      split at hStep <;> cases hStep
      exact Or.inl ⟨msg, add_stream h thread msg, rfl⟩
  all_goals apply Or.inr
  case write top accepted =>
      split at hStep
      · rename_i hGuard
        cases hStep
        exact ⟨accepted, write_stream h hGuard.1 hGuard.2.2, rfl⟩
      · cases hStep
  case remove =>
      split at hStep
      · rename_i hPc
        have hPlaced := h.placed
        rw [hPc] at hPlaced
        obtain ⟨top, rest, hQueue, hEmpty⟩ := hPlaced
        rw [hQueue] at hStep
        cases hStep
        refine hSame { s with writeQueue := rest, pc := .isEmpty } ?_ rfl
        unfold State.stream
        dsimp only
        rw [hQueue, List.map_cons, hEmpty, List.flatten_cons, List.nil_append]
      · cases hStep
  case runTask throws =>
      split at hStep
      · split at hStep <;> cases hStep
        · apply hSame
          · unfold interestOps
            split <;> rfl
          · unfold interestOps
            split <;> rfl
        · exact hSame _ rfl rfl
      · cases hStep
  case peek =>
      split at hStep
      · split at hStep <;> cases hStep <;> exact hSame _ rfl rfl
      · cases hStep
  case shouldTerminate =>
      split at hStep <;> cases hStep
      apply hSame
      · split <;> rfl
      · split <;> rfl
  case updateInterestedOps =>
      split at hStep <;> cases hStep
      apply hSame
      · unfold interestOps
        split <;> rfl
      · unfold interestOps
        split <;> rfl
  case enqueueOther =>
      cases hStep
      exact hSame _ rfl rfl
  case terminate =>
      cases hStep
      exact hSame _ rfl rfl
  all_goals
    split at hStep <;> cases hStep
    exact hSame _ rfl rfl

end

theorem reachable_sound {s : State} (h : Transition.Reachable Started step s) : s.Sound :=
  h.invariant (fun _ hStart => hStart.sound) fun _ _ _ hs hStep => step_sound hs hStep

/-- Whatever the threads do, a queue that is not empty has its key registered for
`OP_WRITE`, or the task that will do it is queued, unless a thread is about to queue it. -/
theorem output_not_stuck {s : State} (h : Transition.Reachable Started step s)
    (hOpen : s.isOpen = true) (hQueue : s.writeQueue ≠ [])
    (hSending : ∀ thread, s.sending thread = false) :
    s.write = true ∨ Task.interestOps ∈ s.selectorTasks := by
  rcases (reachable_sound h).awake hOpen hQueue with hWrite | hTask | ⟨thread, hBetween⟩
  · exact Or.inl hWrite
  · exact Or.inr hTask
  · rw [hSending thread] at hBetween
    cases hBetween

/-- A handler that was just registered. -/
def registered : State :=
  ⟨true, false, false, false, fun _ => [], 0, [], [], fun _ => false, .selectedKeys, [], []⟩

theorem registered_started : Started registered :=
  ⟨rfl, rfl, rfl, rfl, fun _ => rfl, rfl, rfl⟩

/-- One message is queued and half written, another comes in meanwhile. -/
def halfWriting : List Step :=
  [.add 0 "ab".toList, .enqueue 0, .keysDone, .selected false, .runTask false, .drained, .keysDone,
    .selected true, .drained, .continueWrite, .isEmpty, .peek, .add 1 "c".toList, .write 0 1,
    .hasRemaining 0, .enqueue 1]

/-- The channel has taken a part of a frame, and the rest waits. -/
def halfWritten : State := (Transition.run step registered halfWriting).getD registered

theorem halfWritten_reachable : Transition.Reachable Started step halfWritten :=
  ⟨registered, halfWriting, registered_started, rfl⟩

/-- The rest of a frame waits, and the channel is asked about or is about to be. -/
theorem output_not_stuck_halfWritten :
    halfWritten.write = true ∨ Task.interestOps ∈ halfWritten.selectorTasks := by
  have hSending : halfWritten.sending = Function.update (Function.update (Function.update
      (Function.update (fun _ => false) 0 true) 0 false) 1 true) 1 false := rfl
  apply output_not_stuck halfWritten_reachable rfl (List.cons_ne_nil _ _)
  intro thread
  rw [hSending]
  simp [Function.update_apply]

/-- The bytes that the channel has accepted, and then the bytes that are left in the
queue, are the messages in the order in which they were added. -/
theorem output_intact {s : State} (h : Transition.Reachable Started step s) :
    s.written ++ (s.writeQueue.map s.buffers).flatten = s.added.flatMap StompMsgEncDec.encode := by
  have hBoth : s.stream.total = s.added.flatMap StompMsgEncDec.encode := by
    refine Transition.Reachable.invariant_of (J := State.Sound) (fun _ => reachable_sound)
      (I := fun s => s.stream.total = s.added.flatMap StompMsgEncDec.encode) ?_ ?_ h
    · rintro s ⟨-, -, -, hQueue, -, hWritten, hAdded⟩
      unfold State.stream OutputStream.total
      rw [hQueue, hWritten, hAdded]
      rfl
    · intro s move t hSound hTotal hStep
      obtain ⟨msg, hStream, hAdded⟩ | ⟨accepted, hStream, hAdded⟩ := step_stream hSound hStep
      · rw [hStream, OutputStream.total_put, hTotal, hAdded, List.flatMap_append,
          List.flatMap_singleton]
      · rw [hStream, OutputStream.total_take, hTotal, hAdded]
  exact hBoth

/-- A frame of which a part was taken: what was taken and what remains are the frame. -/
theorem output_intact_halfWritten :
    halfWritten.written ++ (halfWritten.writeQueue.map halfWritten.buffers).flatten =
      halfWritten.added.flatMap StompMsgEncDec.encode :=
  output_intact halfWritten_reachable

end StompGames.WriteThreads
