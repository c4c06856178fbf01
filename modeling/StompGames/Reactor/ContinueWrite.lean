import StompGames.Reactor.WriteQueue

/-! How a call of `continueWrite` ends while nobody sends. A call is the loop
below, and each of its iterations is a few steps of the selector thread. -/
namespace StompGames.ContinueWrite

/-- What `chan.write` does on an open channel: it accepts that many bytes or all that
the buffer has, or it throws. -/
inductive WriteOutcome where
  | accepted (count : Nat)
  | ioException
  deriving DecidableEq

/-- The handler in the call. `writes` and `disconnects` count the calls of `chan.write`
and of `protocol.handleDisconnect`. -/
structure Writer where
  isOpen : Bool
  writeQueue : List (List UInt8)
  shouldTerminate : Bool
  writes : Nat
  disconnects : Nat

/-- How a call of `continueWrite` has ended. -/
inductive Ended where
  | returned
  | threw

/-- A closed channel throws on every write. -/
def Writer.write (outcome : Nat → WriteOutcome) (w : Writer) : WriteOutcome :=
  if w.isOpen then outcome w.writes else .ioException

/-- After `close()`, whether or not its `handleDisconnect` has thrown. -/
def Writer.closed (w : Writer) : Writer :=
  { w with isOpen := false, shouldTerminate := true, disconnects := w.disconnects + 1 }

/-- The statement after the loop. -/
def afterLoop (throws : Nat → Bool) (w : Writer) : Ended × Writer :=
  if w.shouldTerminate then (if throws w.disconnects then .threw else .returned, w.closed)
  else (if w.isOpen then .returned else .threw, w)

/-- `outcome` says what each call of `chan.write` does and `throws` whether each call of
`handleDisconnect` throws. An exception of `close` in the `catch` block leaves the method. -/
def continueWrite (outcome : Nat → WriteOutcome) (throws : Nat → Bool) :
    Nat → Writer → Option (Ended × Writer)
  | 0, _ => none
  | fuel + 1, w => match w.writeQueue with
      | [] => some (afterLoop throws w)
      | top :: rest => match w.write outcome with
          | .accepted count =>
              if top.drop count = [] then
                continueWrite outcome throws fuel
                  { w with writeQueue := rest, writes := w.writes + 1 }
              else some (.returned,
                { w with writeQueue := top.drop count :: rest, writes := w.writes + 1 })
          | .ioException =>
              if throws w.disconnects then
                some (.threw, Writer.closed { w with writes := w.writes + 1 })
              else continueWrite outcome throws fuel (Writer.closed { w with writes := w.writes + 1 })

/-- The call ends without an exception. -/
def Returns (outcome : Nat → WriteOutcome) (throws : Nat → Bool) (w : Writer) : Prop :=
  ∃ fuel w', continueWrite outcome throws fuel w = some (.returned, w')

/-- The `i`-th write takes all of a buffer. -/
def Takes (outcome : Nat → WriteOutcome) (i : Nat) (buffer : List UInt8) : Prop :=
  ∃ count, outcome i = .accepted count ∧ buffer.length ≤ count

/-- Every buffer is taken by its write. -/
def AllTaken (outcome : Nat → WriteOutcome) (queue : List (List UInt8)) : Prop :=
  ∀ i buffer, queue[i]? = some buffer → Takes outcome i buffer

/-- No write throws, as far as the buffers before were taken. -/
def NoneThrows (outcome : Nat → WriteOutcome) (queue : List (List UInt8)) : Prop :=
  ∀ i, i < queue.length → (∀ j buffer, j < i → queue[j]? = some buffer → Takes outcome j buffer) →
    outcome i ≠ .ioException

section
variable {outcome : Nat → WriteOutcome} {throws : Nat → Bool}

theorem allTaken_cons {top : List UInt8} {rest : List (List UInt8)} :
    AllTaken outcome (top :: rest) ↔
      Takes outcome 0 top ∧ AllTaken (fun i => outcome (i + 1)) rest := by
  constructor
  · exact fun h => ⟨h 0 top rfl, fun i buffer hBuffer => h (i + 1) buffer hBuffer⟩
  · rintro ⟨hTop, hRest⟩ i buffer hBuffer
    cases i with
    | zero =>
        cases hBuffer
        exact hTop
    | succ i => exact hRest i buffer hBuffer

theorem noneThrows_cons {top : List UInt8} {rest : List (List UInt8)} :
    NoneThrows outcome (top :: rest) ↔ outcome 0 ≠ .ioException ∧
      (Takes outcome 0 top → NoneThrows (fun i => outcome (i + 1)) rest) := by
  constructor
  · intro h
    constructor
    · apply h 0 (Nat.succ_pos _)
      intro j buffer hBefore
      exact absurd hBefore (Nat.not_lt_zero j)
    · intro hTop i hi hTaken
      apply h (i + 1) (Nat.succ_lt_succ hi)
      intro j buffer hBefore hBuffer
      cases j with
      | zero =>
          cases hBuffer
          exact hTop
      | succ j => exact hTaken j buffer (Nat.lt_of_succ_lt_succ hBefore) hBuffer
  · rintro ⟨hFirst, hRest⟩ i hi hTaken
    cases i with
    | zero => exact hFirst
    | succ i =>
        apply hRest (hTaken 0 top (Nat.succ_pos i) rfl) i (Nat.lt_of_succ_lt_succ hi)
        intro j buffer hBefore hBuffer
        exact hTaken (j + 1) buffer (Nat.succ_lt_succ hBefore) hBuffer

section
variable {fuel : Nat} {w : Writer}

theorem continueWrite_empty (hQueue : w.writeQueue = []) :
    continueWrite outcome throws (fuel + 1) w = some (afterLoop throws w) := by
  rw [continueWrite, hQueue]

theorem continueWrite_accepted {top : List UInt8} {rest : List (List UInt8)} {count : Nat}
    (hQueue : w.writeQueue = top :: rest) (hWrite : w.write outcome = .accepted count) :
    continueWrite outcome throws (fuel + 1) w = if top.drop count = [] then
        continueWrite outcome throws fuel { w with writeQueue := rest, writes := w.writes + 1 }
      else some (.returned,
        { w with writeQueue := top.drop count :: rest, writes := w.writes + 1 }) := by
  rw [continueWrite, hQueue]
  simp only [hWrite]

theorem continueWrite_throws (hQueue : w.writeQueue ≠ []) (hWrite : w.write outcome = .ioException) :
    continueWrite outcome throws (fuel + 1) w = if throws w.disconnects then
        some (.threw, Writer.closed { w with writes := w.writes + 1 })
      else continueWrite outcome throws fuel (Writer.closed { w with writes := w.writes + 1 }) := by
  rw [continueWrite]
  split
  · exact absurd ‹_› hQueue
  · simp only [hWrite]

theorem write_closed (hClosed : w.isOpen = false) : w.write outcome = .ioException := by
  rw [Writer.write, hClosed]
  rfl

theorem write_open (hOpen : w.isOpen = true) : w.write outcome = outcome w.writes := by
  rw [Writer.write, hOpen]
  rfl

/-- On a closed channel the loop never gets past the head of its queue. -/
theorem closed_not_returns (hClosed : w.isOpen = false) (hQueue : w.writeQueue ≠ []) :
    ¬Returns outcome throws w := by
  rintro ⟨fuel, w', h⟩
  induction fuel generalizing w with
  | zero => cases h
  | succ fuel ih =>
      rw [continueWrite_throws hQueue (write_closed hClosed)] at h
      split at h
      · cases h
      · apply ih _ _ h
        · rfl
        · exact hQueue

/-- A client whose channel breaks holds the selector thread for good. -/
theorem closed_runs_on (hClosed : w.isOpen = false) (hQueue : w.writeQueue ≠ [])
    (hThrows : ∀ n, throws n = false) (fuel : Nat) :
    continueWrite outcome throws fuel w = none := by
  induction fuel generalizing w with
  | zero => rfl
  | succ fuel ih =>
      rw [continueWrite_throws hQueue (write_closed hClosed), hThrows, if_neg Bool.false_ne_true]
      apply ih
      · rfl
      · exact hQueue

/-- More fuel is only needed where the loop goes on. -/
theorem returns_iff_of_step {v : Writer} (h : ∀ fuel, continueWrite outcome throws (fuel + 1) w =
    continueWrite outcome throws fuel v) : Returns outcome throws w ↔ Returns outcome throws v := by
  constructor
  · rintro ⟨fuel, w', hRun⟩
    cases fuel with
    | zero => cases hRun
    | succ fuel => exact ⟨fuel, w', (h fuel).symm.trans hRun⟩
  · rintro ⟨fuel, w', hRun⟩
    exact ⟨fuel + 1, w', (h fuel).trans hRun⟩

theorem returns_iff_of_end {result : Ended × Writer}
    (h : ∀ fuel, continueWrite outcome throws (fuel + 1) w = some result) :
    Returns outcome throws w ↔ result.1 = .returned := by
  constructor
  · rintro ⟨fuel, w', hRun⟩
    cases fuel with
    | zero => cases hRun
    | succ fuel =>
        rw [h] at hRun
        rw [Option.some.inj hRun]
  · rintro hEnd
    refine ⟨1, result.2, (h 0).trans ?_⟩
    rw [← hEnd]

end

/-- From any point of a call on an open channel. -/
theorem returns_iff {w : Writer} (hOpen : w.isOpen = true) :
    Returns outcome throws w ↔ NoneThrows (fun i => outcome (w.writes + i)) w.writeQueue ∧
      ¬(w.shouldTerminate = true ∧ AllTaken (fun i => outcome (w.writes + i)) w.writeQueue ∧
        throws w.disconnects = true) := by
  rcases w with ⟨isOpen, queue, shouldTerminate, writes, disconnects⟩
  obtain rfl : isOpen = true := hOpen
  dsimp only
  induction queue generalizing writes with
  | nil =>
      rw [returns_iff_of_end fun _ => continueWrite_empty rfl]
      have hNone : NoneThrows (fun i => outcome (writes + i)) [] := by
        intro i hi
        exact absurd hi (Nat.not_lt_zero i)
      have hAll : AllTaken (fun i => outcome (writes + i)) [] := by
        intro i buffer hBuffer
        cases hBuffer
      cases shouldTerminate <;> cases hThrows : throws disconnects <;>
        simp [afterLoop, hThrows, hNone, hAll]
  | cons top rest ih =>
      rw [noneThrows_cons, allTaken_cons]
      have hShift : (fun i => outcome (writes + (i + 1))) = fun i => outcome (writes + 1 + i) := by
        funext i
        congr 1
        omega
      rw [hShift]
      cases hWrite : outcome writes with
      | ioException =>
          apply iff_of_false
          · rintro ⟨fuel, w', hRun⟩
            cases fuel with
            | zero => cases hRun
            | succ fuel =>
                rw [continueWrite_throws (List.cons_ne_nil _ _) ((write_open rfl).trans hWrite)] at hRun
                split at hRun
                · cases hRun
                · refine closed_not_returns ?_ ?_ ⟨fuel, w', hRun⟩
                  · rfl
                  · exact List.cons_ne_nil top rest
          · exact fun h => h.1.1 rfl
      | accepted count =>
          have hRun : ∀ fuel, continueWrite outcome throws (fuel + 1)
              ⟨true, top :: rest, shouldTerminate, writes, disconnects⟩ = _ :=
            fun fuel => continueWrite_accepted rfl ((write_open rfl).trans hWrite)
          have hTakes : Takes (fun i => outcome (writes + i)) 0 top ↔ top.drop count = [] := by
            rw [List.drop_eq_nil_iff]
            constructor
            · rintro ⟨count', hCount, hLe⟩
              cases hWrite.symm.trans hCount
              exact hLe
            · exact fun hLe => ⟨count, hWrite, hLe⟩
          rw [hTakes]
          by_cases hAll : top.drop count = []
          · rw [returns_iff_of_step fun fuel => (hRun fuel).trans (if_pos hAll), ih]
            simp [hAll]
          · rw [returns_iff_of_end fun fuel => (hRun fuel).trans (if_neg hAll)]
            simp [hAll]

section
open WriteThreads
variable {s : State} {r : Nat} {rest : List Nat}

/-- The handler of the call, seen between the statements of the selector thread. -/
structure Shows (w : Writer) (s : State) : Prop where
  isOpen : s.isOpen = w.isOpen
  shouldTerminate : s.shouldTerminate = w.shouldTerminate
  queue : s.writeQueue.map s.buffers = w.writeQueue

theorem Shows.interestOps {w : Writer} (h : Shows w s) {write : Bool} {next : Pc} :
    Shows w (interestOps write next s) := by
  unfold WriteThreads.interestOps
  split
  · exact ⟨h.isOpen, h.shouldTerminate, h.queue⟩
  · exact ⟨h.isOpen, h.shouldTerminate, h.queue⟩

/-- Where the selector thread goes on. -/
def Ended.pc : Ended → Pc
  | .returned => .selectedKeys
  | .threw => .left

/-- The selector thread peeks at the head of the queue. -/
theorem run_peek (hPc : s.pc = .isEmpty) (hQueue : s.writeQueue = r :: rest) :
    Transition.run step s [.isEmpty, .peek] = some { s with pc := .write r } := by
  simp [Transition.run, step, hPc, hQueue]

/-- A write that leaves nothing over, and the removal of its buffer. -/
theorem run_taken (hPc : s.pc = .write r) (hOpen : s.isOpen = true)
    (hQueue : s.writeQueue = r :: rest) :
    Transition.run step s [.write r (s.buffers r).length, .hasRemaining r, .remove] = some { s with
      buffers := Function.update s.buffers r []
      written := s.written ++ s.buffers r
      writeQueue := rest
      pc := .isEmpty } := by
  simp [Transition.run, step, hPc, hOpen, hQueue]

/-- A write that leaves something over ends the call. -/
theorem run_partial (hPc : s.pc = .write r) (hOpen : s.isOpen = true) {count : Nat}
    (hLeft : (s.buffers r).drop count ≠ []) :
    Transition.run step s [.write r count, .hasRemaining r] = some { s with
      buffers := Function.update s.buffers r ((s.buffers r).drop count)
      written := s.written ++ (s.buffers r).take count
      pc := .selectedKeys } := by
  have hLess : count < (s.buffers r).length := by simpa using hLeft
  simp [Transition.run, step, hPc, hOpen, hLess, Nat.le_of_lt hLess]

theorem run_throws (hPc : s.pc = .write r) (throws : Bool) :
    Transition.run step s [.writeThrows r, .handleDisconnect .isEmpty throws] = some { s with
      isOpen := false
      shouldTerminate := true
      pc := if throws then .left else .isEmpty } := by
  simp [Transition.run, step, close, hPc]

theorem run_afterLoop (throws : Nat → Bool) {w : Writer} (hShows : Shows w s)
    (hPc : s.pc = .isEmpty) (hQueue : s.writeQueue = []) :
    ∃ moves t, (∀ move ∈ moves, move.onSelector = true) ∧ Transition.run step s moves = some t ∧
      Shows (afterLoop throws w).2 t ∧ t.pc = (afterLoop throws w).1.pc := by
  by_cases hTerminate : w.shouldTerminate = true
  · refine ⟨[.isEmpty, .isEmptyAgain, .shouldTerminate,
      .handleDisconnect .selectedKeys (throws w.disconnects)], { s with
        isOpen := false
        shouldTerminate := true
        pc := if throws w.disconnects then .left else .selectedKeys }, ?_, ?_, ?_, ?_⟩
    · simp [Step.onSelector]
    · simp [Transition.run, step, close, hPc, hQueue, hShows.shouldTerminate, hTerminate]
    · rw [afterLoop, if_pos hTerminate]
      exact ⟨rfl, rfl, hShows.queue⟩
    · rw [afterLoop, if_pos hTerminate]
      cases throws w.disconnects <;> rfl
  · have hMoves : Transition.run step s [.isEmpty, .isEmptyAgain, .shouldTerminate,
        .updateInterestedOps] = some (interestOps false .selectedKeys s) := by
      simp [Transition.run, step, interestOps, hPc, hQueue, hShows.shouldTerminate, hTerminate]
    refine ⟨_, _, by simp [Step.onSelector], hMoves, ?_, ?_⟩
    · rw [afterLoop, if_neg hTerminate]
      exact hShows.interestOps
    · rw [afterLoop, if_neg hTerminate]
      unfold interestOps
      rw [hShows.isOpen]
      cases w.isOpen <;> rfl

/-- Every call that ends is a run of the steps of the selector thread. -/
theorem continueWrite_run {fuel : Nat} {w w' : Writer} {ended : Ended}
    (h : continueWrite outcome throws fuel w = some (ended, w')) (hSound : s.Sound)
    (hShows : Shows w s) (hPc : s.pc = .isEmpty) :
    ∃ moves t, (∀ move ∈ moves, move.onSelector = true) ∧ Transition.run step s moves = some t ∧
      Shows w' t ∧ t.pc = ended.pc := by
  induction fuel generalizing w s with
  | zero => cases h
  | succ fuel ih =>
      cases hQueue : s.writeQueue with
      | nil =>
          have hEmpty : w.writeQueue = [] := by
            rw [← hShows.queue, hQueue]
            rfl
          rw [continueWrite_empty hEmpty] at h
          have hEnd := run_afterLoop throws hShows hPc hQueue
          rwa [Option.some.inj h] at hEnd
      | cons r rest =>
          have hHead : w.writeQueue = s.buffers r :: rest.map s.buffers := by
            rw [← hShows.queue, hQueue]
            rfl
          have hPeek := run_peek hPc hQueue
          have hOthers : ∀ bytes, rest.map (Function.update s.buffers r bytes) =
              rest.map s.buffers := by
            intro bytes
            apply List.map_congr_left
            intro other hMem
            have hNodup := hSound.nodup
            rw [hQueue] at hNodup
            exact Function.update_of_ne (ne_of_mem_of_not_mem hMem (List.nodup_cons.1 hNodup).1) _ _
          cases hWrite : w.write outcome with
          | ioException =>
              have hMoves := Transition.run_append_eq_some.2 ⟨_, hPeek,
                run_throws (s := { s with pc := .write r }) rfl (throws w.disconnects)⟩
              have hClosed : Shows (Writer.closed { w with writes := w.writes + 1 }) { s with
                  isOpen := false
                  shouldTerminate := true
                  pc := if throws w.disconnects then .left else .isEmpty } :=
                ⟨rfl, rfl, hShows.queue⟩
              rw [continueWrite_throws (hHead ▸ List.cons_ne_nil _ _) hWrite] at h
              split at h
              · rename_i hThrows
                obtain ⟨rfl, rfl⟩ := Prod.mk.inj (Option.some.inj h)
                exact ⟨_, _, by simp [Step.onSelector], hMoves, hClosed, if_pos hThrows⟩
              · rename_i hThrows
                have hStill := Transition.run_invariant (I := State.Sound)
                  (fun _ _ _ hs hStep => step_sound hs hStep) hMoves hSound
                obtain ⟨moves, t, hOwn, hRun, hEnd⟩ := ih h hStill hClosed (if_neg hThrows)
                refine ⟨_, t, ?_, Transition.run_append_eq_some.2 ⟨_, hMoves, hRun⟩, hEnd⟩
                exact List.forall_mem_append.2 ⟨by simp [Step.onSelector], hOwn⟩
          | accepted count =>
              have hOpen : s.isOpen = true := by
                rw [hShows.isOpen]
                by_contra hClosed
                rw [write_closed (Bool.eq_false_of_not_eq_true hClosed)] at hWrite
                cases hWrite
              rw [continueWrite_accepted hHead hWrite] at h
              split at h
              · have hMoves := Transition.run_append_eq_some.2 ⟨_, hPeek,
                  run_taken (s := { s with pc := .write r }) rfl hOpen hQueue⟩
                have hStill := Transition.run_invariant (I := State.Sound)
                  (fun _ _ _ hs hStep => step_sound hs hStep) hMoves hSound
                obtain ⟨moves, t, hOwn, hRun, hEnd⟩ := ih h hStill
                  ⟨hShows.isOpen, hShows.shouldTerminate, hOthers []⟩ rfl
                refine ⟨_, t, ?_, Transition.run_append_eq_some.2 ⟨_, hMoves, hRun⟩, hEnd⟩
                exact List.forall_mem_append.2 ⟨by simp [Step.onSelector], hOwn⟩
              · have hMoves := Transition.run_append_eq_some.2 ⟨_, hPeek,
                  run_partial (s := { s with pc := .write r }) rfl hOpen ‹_›⟩
                obtain ⟨rfl, rfl⟩ := Prod.mk.inj (Option.some.inj h)
                refine ⟨_, _, by simp [Step.onSelector], hMoves,
                  ⟨hShows.isOpen, hShows.shouldTerminate, ?_⟩, rfl⟩
                dsimp only
                rw [hQueue, List.map_cons, Function.update_self, hOthers]

end

end

/-- A call on an open channel returns exactly where no write throws and the teardown of a
connection that is done does not either. -/
theorem continueWrite_returns_iff (outcome : Nat → WriteOutcome) (throws : Nat → Bool)
    (queue : List (List UInt8)) (shouldTerminate : Bool) :
    Returns outcome throws ⟨true, queue, shouldTerminate, 0, 0⟩ ↔ NoneThrows outcome queue ∧
      ¬(shouldTerminate = true ∧ AllTaken outcome queue ∧ throws 0 = true) := by
  have hShift : (fun i => outcome (0 + i)) = outcome := by
    funext i
    rw [Nat.zero_add]
  rw [returns_iff rfl, hShift]

/-- The channel of one client is broken: it is closed, the loop goes on with the same buffer, and
the selector thread serves nobody any more. -/
theorem continueWrite_runs_on : ¬∀ outcome throws queue shouldTerminate,
    Returns outcome throws ⟨true, queue, shouldTerminate, 0, 0⟩ := by
  intro h
  obtain ⟨fuel, w', hRun⟩ := h (fun _ => .ioException) (fun _ => false) [[0x61]] false
  have hNone : continueWrite (fun _ => .ioException) (fun _ => false) fuel
      ⟨true, [[0x61]], false, 0, 0⟩ = none := by
    cases fuel with
    | zero => rfl
    | succ fuel =>
        rw [continueWrite_throws (List.cons_ne_nil _ _) rfl, if_neg Bool.false_ne_true]
        apply closed_runs_on rfl (List.cons_ne_nil _ _) fun _ => rfl
  rw [hNone] at hRun
  cases hRun

end StompGames.ContinueWrite
