import StompGames.Client.StompClient

/-! The parts of the client that touch nothing of what its two threads share: what only
reads, prints or sends. -/
namespace StompGames

open Client Imperative
open Cpp (CppException)

namespace StompClient

/-- What the two threads share, and the subscriptions. -/
def shared (s : StompClient) : Text × Bool × (Text → Option Game) × Bool × (Text → Option Int) :=
  (s.protocol.username, s.protocol.isConnected, s.protocol.Games, s.protocol.ch.isSome,
    s.subscriptions)

/-- The body leaves all of it alone. -/
abbrev Quiet {α : Type} (m : Method CppException StompClient α) : Prop := m.Leaves shared

theorem quiet_print (text : Text) : Quiet (print text) := fun _ => rfl

theorem quiet_write (filePath text : Text) : Quiet (write filePath text) := fun _ => rfl

theorem quiet_addReceipt (rec : Int) (action : Text) : Quiet (addReceipt rec action) := fun _ => rfl

theorem quiet_sendFrameAscii (frame : Text) : Quiet (sendFrameAscii frame) := by
  intro s
  cases hCh : s.protocol.ch with
  | none => simp [sendFrameAscii, hCh]
  | some ch =>
      by_cases hWritable : ch.writable
      · simp [sendFrameAscii, hCh, hWritable, modifyProtocol, shared]
      · simp [sendFrameAscii, hCh, hWritable]

theorem quiet_sendOrFail (frame : Text) : Quiet (sendOrFail frame) := by
  apply Method.leaves_get.bind
  intro s
  dsimp only
  apply Method.leaves_ite
  · apply (Method.leaves_pure false).bind
    exact fun done => Method.leaves_ite (Method.leaves_pure _) (Method.leaves_throw _)
  · apply (quiet_sendFrameAscii frame).bind
    exact fun done => Method.leaves_ite (Method.leaves_pure _) (Method.leaves_throw _)

theorem quiet_handleLogin (hostInfo username password : Text) :
    Quiet (handleLogin hostInfo username password) :=
  Method.leaves_ite (quiet_sendOrFail _) (Method.leaves_throw _)

theorem quiet_fieldOf (line : Text) : Quiet (fieldOf line) :=
  (Cpp.leaves_index shared _ 1).bind fun value => Cpp.leaves_substr shared value 1 none

theorem quiet_readSection (lines : List Text) : Quiet (readSection lines) := by
  induction lines with
  | nil => exact Method.leaves_throw _
  | cons line rest ih =>
      apply Method.leaves_ite
      · apply (Cpp.leaves_substr shared line 4 none).bind
        intro entry
        exact ih.bind fun _ => Method.leaves_pure _
      · exact Method.leaves_pure _

theorem quiet_readUpdates (entries : List Text) (updates : SortedMap Text Text) :
    Quiet (readUpdates entries updates) := by
  induction entries generalizing updates with
  | nil => exact Method.leaves_pure _
  | cons entry rest ih =>
      apply (Cpp.leaves_index shared _ 0).bind
      intro key
      exact (quiet_fieldOf entry).bind fun value => ih _

theorem quiet_parseSection (lines : List Text) : Quiet (parseSection lines) := by
  apply (quiet_readSection lines).bind
  intro sectionAndRest
  exact (quiet_readUpdates _ _).bind fun _ => Method.leaves_pure _

theorem quiet_parseToEvent (lines : List Text) : Quiet (parseToEvent lines) := by
  unfold parseToEvent
  apply (Cpp.leaves_index shared _ _).bind
  intro line
  apply (quiet_fieldOf line).bind
  intro teamA
  apply (Cpp.leaves_index shared _ _).bind
  intro line
  apply (quiet_fieldOf line).bind
  intro teamB
  apply (Cpp.leaves_index shared _ _).bind
  intro line
  apply (quiet_fieldOf line).bind
  intro eventName
  apply (Cpp.leaves_index shared _ _).bind
  intro line
  apply (quiet_fieldOf line).bind
  intro digits
  apply (Cpp.leaves_stoi shared digits).bind
  intro time
  apply (quiet_parseSection _).bind
  intro gameUpdates
  apply (quiet_parseSection _).bind
  intro teamAUpdates
  apply (quiet_parseSection _).bind
  exact fun _ => Method.leaves_pure _

theorem quiet_receiptAction (mes : Text) : Quiet (receiptAction mes) := by
  have hNumber : Quiet (receiptNumber mes) :=
    (Cpp.leaves_substr shared mes _ _).bind (Cpp.leaves_stoi shared)
  exact hNumber.bind fun receiptNum _ => rfl

theorem quiet_handleReceipt (action : List Text) : Quiet (handleReceipt action) := by
  apply (Cpp.leaves_index shared action 0).bind
  intro kind
  apply Method.leaves_ite
  · exact (Cpp.leaves_index shared action 1).bind fun _ => quiet_print _
  · apply Method.leaves_ite
    · exact (Cpp.leaves_index shared action 1).bind fun _ => quiet_print _
    · exact (quiet_print _).bind fun _ => Method.leaves_throw _

theorem quiet_connect (env : Env) (host port : Text) : Quiet (connect env host port) := by
  apply (quiet_print _).bind
  intro _
  apply (Cpp.leaves_stoi shared port).bind
  intro number
  apply Method.leaves_ite
  · exact Method.leaves_pure _
  · exact (quiet_print _).bind fun _ => Method.leaves_throw _

end StompClient
end StompGames
