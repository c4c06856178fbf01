import StompGames.Server.StompMsgEncDec
import StompGames.Server.System

/-! The read loops of `StompBlockingConnectionHandler.run` and
`StompNonBlockingConnectionHandler.continueRead`, over any protocol object. -/
namespace StompGames

open Imperative StompMsgEncDec

/-- What a read loop uses of a protocol object with states in `σ`. -/
structure Protocol (σ : Type) where
  process : Text → Method JavaException σ Unit
  shouldTerminate : σ → Bool

/-- The decoder of a connection and its protocol object. -/
structure Reader (σ : Type) where
  encdec : StompMsgEncDec
  protocol : σ

namespace Protocol
variable {σ : Type} (protocol : Protocol σ)

/-- The loop of `run` over these bytes: the frames it hands to the protocol
object, and where it is when it waits for more bytes. An exception that is no
`IOException` ends the loop as `shouldTerminate` does. -/
def run (r : Reader σ) : List UInt8 → List Text × Option (Reader σ)
  | [] => ([], some r)
  | b :: rest =>
      if protocol.shouldTerminate r.protocol then ([], none)
      else match decodeNextByte b r.encdec with
        | (.overflow, _) => ([], none)
        | (.null, encdec) => run ⟨encdec, r.protocol⟩ rest
        | (.message frame, encdec) => match protocol.process frame r.protocol with
            | (.ok _, s) => let (frames, r') := run ⟨encdec, s⟩ rest
                (frame :: frames, r')
            | (.error _, _) => ([frame], none)

/-- The task that `continueRead` makes of one chunk: the frames it hands to the
protocol object, and what it leaves behind. An exception ends the task. -/
def continueRead (r : Reader σ) : List UInt8 → List Text × Reader σ
  | [] => ([], r)
  | b :: rest => match decodeNextByte b r.encdec with
      | (.overflow, encdec) => ([], ⟨encdec, r.protocol⟩)
      | (.null, encdec) => continueRead ⟨encdec, r.protocol⟩ rest
      | (.message frame, encdec) => match protocol.process frame r.protocol with
          | (.ok _, s) => let (frames, r') := continueRead ⟨encdec, s⟩ rest
              (frame :: frames, r')
          | (.error _, s) => ([frame], ⟨encdec, s⟩)

/-- The tasks of all chunks, one after another. -/
def continueReads (r : Reader σ) : List (List UInt8) → List Text × Reader σ
  | [] => ([], r)
  | chunk :: chunks =>
      let (frames, r') := protocol.continueRead r chunk
      let (frames', r'') := continueReads r' chunks
      (frames ++ frames', r'')

end Protocol

/-- The protocol object of connection `conId` on a server. -/
def Server.protocolOf (conId : Int) : Protocol Server where
  process := Server.process conId
  shouldTerminate s := (s.protocols conId).shouldTerminate

/-- Bytes that complete no message when they arrive with `filled` bytes in the
buffer: the next filling where they do, `none` where they do not. When the
buffer overflows the rest of the chunk is skipped. -/
def quiet (filled : Nat) : List UInt8 → Option Nat
  | [] => some filled
  | b :: rest =>
      if b = 0 then none
      else if filled < 1024 then quiet (filled + 1) rest
      else some filled

/-- Chunks that complete no message. -/
def Quiet (filled : Nat) : List (List UInt8) → Prop
  | [] => True
  | chunk :: chunks => match quiet filled chunk with
      | none => False
      | some filled' => Quiet filled' chunks

namespace Protocol
variable {σ : Type} (protocol : Protocol σ)

/-- Where `run` ends within a chunk: the filling of the buffer there and the
bytes of the chunk that a task would still decode. -/
def ending (r : Reader σ) : List UInt8 → Option (Nat × List UInt8)
  | [] => none
  | b :: rest =>
      if protocol.shouldTerminate r.protocol then some (r.encdec.byteBuffer.length, b :: rest)
      else match decodeNextByte b r.encdec with
        | (.overflow, encdec) => some (encdec.byteBuffer.length, [])
        | (.null, encdec) => ending ⟨encdec, r.protocol⟩ rest
        | (.message frame, encdec) => match protocol.process frame r.protocol with
            | (.ok _, s) => ending ⟨encdec, s⟩ rest
            | (.error _, _) => some (encdec.byteBuffer.length, [])

/-- No message is completed after the byte at which `run` ends. -/
def NothingFollows (r : Reader σ) : List (List UInt8) → Prop
  | [] => True
  | chunk :: chunks => match protocol.ending r chunk with
      | some (filled, rest) => Quiet filled (rest :: chunks)
      | none => NothingFollows (protocol.continueRead r chunk).2 chunks

variable {protocol}

/-- The bytes after an exception are not looked at, else the frames of both parts come out. -/
theorem run_append (r : Reader σ) (bytes more : List UInt8) :
    protocol.run r (bytes ++ more) = match protocol.run r bytes with
      | (frames, none) => (frames, none)
      | (frames, some r') =>
          (frames ++ (protocol.run r' more).1, (protocol.run r' more).2) := by
  induction bytes generalizing r with
  | nil => simp [run]
  | cons b rest ih =>
      simp only [List.cons_append, run]
      split
      · rfl
      · rcases decodeNextByte b r.encdec with ⟨frame | _ | _, encdec⟩
        · dsimp only
          rcases protocol.process frame r.protocol with ⟨e | _, s⟩
          · rfl
          · dsimp only
            rw [ih]
            rcases protocol.run ⟨encdec, s⟩ rest with ⟨frames, _ | r'⟩ <;> rfl
        · exact ih _
        · rfl

/-- Until `run` ends the task hands over the same frames and is at the same place. -/
theorem run_of_not_ending {r : Reader σ} {chunk : List UInt8} (h : protocol.ending r chunk = none) :
    protocol.run r chunk =
      ((protocol.continueRead r chunk).1, some (protocol.continueRead r chunk).2) := by
  induction chunk generalizing r with
  | nil => rfl
  | cons b rest ih =>
      simp only [ending] at h
      split at h
      · cases h
      · rename_i hLive
        simp only [run, continueRead, if_neg hLive]
        rcases hDecoded : decodeNextByte b r.encdec with ⟨frame | _ | _, encdec⟩ <;>
          simp only [hDecoded] at h ⊢
        · rcases hProcess : protocol.process frame r.protocol with ⟨e | _, s⟩ <;>
            simp only [hProcess] at h ⊢
          · cases h
          · rw [ih h]
        · exact ih h
        · cases h

/-- Where `run` ends in a chunk, the task goes on with the bytes that are left. -/
theorem run_of_ending {r : Reader σ} {chunk rest : List UInt8} {filled : Nat}
    (h : protocol.ending r chunk = some (filled, rest)) :
    ∃ frames r', protocol.run r chunk = (frames, none) ∧
      r'.encdec.byteBuffer.length = filled ∧
      (protocol.continueRead r chunk).1 = frames ++ (protocol.continueRead r' rest).1 ∧
      (protocol.continueRead r chunk).2 = (protocol.continueRead r' rest).2 := by
  induction chunk generalizing r with
  | nil => cases h
  | cons b tail ih =>
      simp only [ending] at h
      split at h
      · rename_i hDone
        obtain ⟨rfl, rfl⟩ := Prod.mk.inj (Option.some.inj h)
        exact ⟨[], r, by simp only [run, hDone, if_true], rfl, rfl, rfl⟩
      · rename_i hLive
        simp only [run, continueRead, if_neg hLive]
        rcases hDecoded : decodeNextByte b r.encdec with ⟨frame | _ | _, encdec⟩ <;>
          simp only [hDecoded] at h ⊢
        · rcases hProcess : protocol.process frame r.protocol with ⟨e | _, s⟩ <;>
            simp only [hProcess] at h ⊢
          · obtain ⟨rfl, rfl⟩ := Prod.mk.inj (Option.some.inj h)
            exact ⟨[frame], ⟨encdec, s⟩, rfl, rfl, rfl, rfl⟩
          · obtain ⟨frames, r', hRun, hFilled, hFrames, hAfter⟩ := ih h
            refine ⟨frame :: frames, r', ?_, hFilled, ?_, hAfter⟩
            · rw [hRun]
            · rw [hFrames]
              rfl
        · exact ih h
        · obtain ⟨rfl, rfl⟩ := Prod.mk.inj (Option.some.inj h)
          exact ⟨[], ⟨encdec, r.protocol⟩, rfl, rfl, rfl, rfl⟩

/-- One chunk hands over no frame just where it is quiet. -/
theorem continueRead_quiet (protocol : Protocol σ) (r : Reader σ) (chunk : List UInt8) :
    match quiet r.encdec.byteBuffer.length chunk with
    | none => (protocol.continueRead r chunk).1 ≠ []
    | some filled => (protocol.continueRead r chunk).1 = [] ∧
        (protocol.continueRead r chunk).2.encdec.byteBuffer.length = filled := by
  induction chunk generalizing r with
  | nil => exact ⟨rfl, rfl⟩
  | cons b rest ih =>
      by_cases hZero : b = 0
      · simp only [quiet, hZero, if_true, continueRead, decodeNextByte]
        split <;> exact List.cons_ne_nil _ _
      · by_cases hRoom : r.encdec.byteBuffer.length < 1024
        · have hNext := ih ⟨(decodeNextByte b r.encdec).2, r.protocol⟩
          simpa only [quiet, hZero, hRoom, if_true, if_false, dif_pos, continueRead,
            decodeNextByte, List.length_append, List.length_singleton] using hNext
        · simp only [quiet, hZero, hRoom, if_false, dif_neg, not_false_eq_true, continueRead,
            decodeNextByte]
          exact ⟨trivial, trivial⟩

/-- There are no tasks just where no frame ends and no byte overflows. -/
theorem continueReads_quiet (protocol : Protocol σ) (r : Reader σ) (chunks : List (List UInt8)) :
    (protocol.continueReads r chunks).1 = [] ↔ Quiet r.encdec.byteBuffer.length chunks := by
  induction chunks generalizing r with
  | nil => simp [continueReads, Quiet]
  | cons chunk rest ih =>
      have hChunk := protocol.continueRead_quiet r chunk
      simp only [continueReads, Quiet, List.append_eq_nil_iff]
      split <;> rename_i hQuiet <;> rw [hQuiet] at hChunk
      · simp only [iff_false]
        exact fun h => hChunk h.1
      · obtain ⟨hNone, rfl⟩ := hChunk
        rw [← ih]
        exact ⟨fun h => h.2, fun h => ⟨hNone, h⟩⟩

/-- The tasks hand over the frames that `run` hands over just where nothing
follows the byte at which `run` ends. -/
theorem continueReads_eq_run_iff (r : Reader σ) (chunks : List (List UInt8)) :
    (protocol.continueReads r chunks).1 = (protocol.run r chunks.flatten).1 ↔
      protocol.NothingFollows r chunks := by
  induction chunks generalizing r with
  | nil => simp [continueReads, run, NothingFollows]
  | cons chunk rest ih =>
      simp only [continueReads, List.flatten_cons, NothingFollows, run_append]
      cases hEnding : protocol.ending r chunk with
      | none =>
          simp only [run_of_not_ending hEnding, List.append_cancel_left_eq]
          exact ih _
      | some ending =>
          obtain ⟨filled, left⟩ := ending
          obtain ⟨frames, r', hRun, rfl, hFrames, hAfter⟩ := run_of_ending hEnding
          dsimp only
          rw [← protocol.continueReads_quiet r' (left :: rest)]
          simp only [hRun, continueReads, hFrames, hAfter, List.append_assoc,
            List.append_right_eq_self]

end Protocol

/-- The two handlers of a connection hand the same frames to the same protocol, for every stream
and however it is cut, if and only if nothing comes behind the frame that ends the connection. -/
theorem handlers_agree_iff (s : Server) (c : Int) (chunks : List (List UInt8)) :
    ((Server.protocolOf c).continueReads ⟨.new, s⟩ chunks).1 =
        ((Server.protocolOf c).run ⟨.new, s⟩ chunks.flatten).1 ↔
      (Server.protocolOf c).NothingFollows ⟨.new, s⟩ chunks :=
  Protocol.continueReads_eq_run_iff _ chunks

/-- An unknown command ends the connection, and a second one in its chunk is still processed: the
loop of the task does not ask whether the protocol has come to its end. -/
theorem handlers_disagree : ¬∀ (s : Server) (c : Int) (chunks : List (List UInt8)),
    ((Server.protocolOf c).continueReads ⟨.new, s⟩ chunks).1 =
      ((Server.protocolOf c).run ⟨.new, s⟩ chunks.flatten).1 := by
  intro h
  have hEqual := h ((Server.new true fun _ => .reply []).accept 1) 1 [[0x58, 0, 0x58, 0]]
  exact absurd (congrArg List.length hEqual) (by decide)

end StompGames
