import StompGames.Client.Quiet
import StompGames.Lib.Transition

/-! What the states of a client have in common: nothing but a login connects it, and a
client that counts as connected has a connection to write to. -/
namespace StompGames.TypedLine

open Client Imperative StompClient
open Cpp (CppException)

/-- A client that counts as connected has a connection. -/
def Attached (s : StompClient) : Prop := s.protocol.isConnected = true → s.protocol.ch.isSome

/-- Whether the client counts as connected, and whether it has a connection. -/
def link (s : StompClient) : Bool × Bool := (s.protocol.isConnected, s.protocol.ch.isSome)

theorem leaves_of_quiet {α : Type} {m : Method CppException StompClient α} (h : StompClient.Quiet m) :
    m.Leaves link := fun s =>
  congrArg (fun shared => (shared.2.1, shared.2.2.2.1)) (h s)

theorem keeps_of_leaves {α : Type} {m : Method CppException StompClient α} (h : m.Leaves link) :
    m.Preserves Attached := h.preserves fun link => link.1 = true → link.2 = true

theorem leaves_games (f : (Text → Option Game) → Text → Option Game) :
    Method.Leaves link (modifyProtocol fun p => { p with Games := f p.Games }) := fun _ => rfl

section
variable (env : Env)

theorem leaves_handleJoin (game : Text) (subId receiptId : Int) :
    Method.Leaves link (handleJoin game subId receiptId) :=
  (leaves_of_quiet (quiet_sendOrFail _)).bind fun _ =>
    leaves_games fun games => Function.update games game (some (.new game))

theorem leaves_handleExit (game : Text) (subId receiptId : Int) :
    Method.Leaves link (handleExit game subId receiptId) :=
  (leaves_of_quiet (quiet_sendOrFail _)).bind fun _ =>
    leaves_games fun games => Function.update games game none

theorem leaves_reportEvents (game : Text) (filePath : Option Text) (events : List Client.Event) :
    Method.Leaves link (reportEvents env game filePath events) := by
  induction events generalizing filePath with
  | nil => exact Method.leaves_pure _
  | cons curr rest ih =>
      apply Method.leaves_get.bind
      intro s
      apply (leaves_of_quiet (quiet_sendOrFail _)).bind
      intro _
      apply Method.Leaves.bind
      · exact fun _ => rfl
      · exact fun _ => ih none

theorem leaves_handleReport (filePath : Text) : Method.Leaves link (handleReport env filePath) := by
  unfold handleReport
  split
  · exact Method.leaves_throw _
  · exact leaves_reportEvents env _ _ _

theorem leaves_handleSummary (game user filePath : Text) :
    Method.Leaves link (handleSummary env game user filePath) := by
  unfold handleSummary
  apply Method.leaves_ite (Method.leaves_throw _)
  apply Method.Leaves.bind
  · exact fun _ => rfl
  intro _
  apply Method.Leaves.bind
  · exact fun _ => rfl
  intro _
  apply Method.leaves_get.bind
  intro s
  apply (Cpp.leaves_index link _ 0).bind
  intro teamA
  apply (Cpp.leaves_index link _ 1).bind
  intro teamB
  repeat apply (leaves_of_quiet (quiet_write _ _)).bind; intro _
  exact leaves_of_quiet (quiet_write _ _)

/-- Only the login touches the link. -/
theorem leaves_process (command : List Text) (receiptId subId : Int) :
    Method.Leaves link (process env command receiptId subId) := by
  have hPrint (text : Text) : Method.Leaves link (print text) := leaves_of_quiet (quiet_print text)
  have hReceipt (receipt : Int) (action : Text) : Method.Leaves link (addReceipt receipt action) :=
    leaves_of_quiet (quiet_addReceipt receipt action)
  have hWord (i : Nat) : Method.Leaves link (Cpp.index command i : Method _ StompClient Text) :=
    Cpp.leaves_index link command i
  apply (hWord 0).bind
  intro action
  apply Method.leaves_ite
  · apply (hWord 1).bind
    intro topic
    apply Method.leaves_get.bind
    intro s
    apply Method.leaves_ite (hPrint _)
    apply Method.Leaves.bind
    · exact fun _ => rfl
    · exact fun _ => (hReceipt _ _).bind fun _ => leaves_handleJoin _ _ _
  apply Method.leaves_ite
  · apply (hWord 1).bind
    intro topic
    apply Method.leaves_get.bind
    intro s
    apply Method.leaves_ite (hPrint _)
    apply (hReceipt _ _).bind
    intro _
    apply Method.leaves_get.bind
    intro s
    apply (leaves_handleExit _ _ _).bind
    exact fun _ _ => rfl
  apply Method.leaves_ite
  · apply (hWord 1).bind
    intro filePath
    exact (leaves_handleReport env filePath).bind fun _ => hPrint _
  apply Method.leaves_ite
  · exact (hReceipt _ _).bind fun _ => leaves_of_quiet (quiet_sendOrFail _)
  apply Method.leaves_ite
  · apply (hWord 1).bind
    intro topic
    apply (hWord 2).bind
    intro user
    apply (hWord 3).bind
    intro filePath
    exact (leaves_handleSummary env topic user filePath).bind fun _ => hPrint _
  · exact hPrint _

theorem keeps_setIsConnected : Method.Preserves Attached (setIsConnected false) := fun _ _ => nofun

theorem keeps_login (command : List Text) : Method.Preserves Attached (login env command) := by
  have hWord (words : List Text) (i : Nat) :
      Method.Preserves Attached (Cpp.index words i : Method _ StompClient Text) :=
    keeps_of_leaves (Cpp.leaves_index link words i)
  apply Method.preserves_bind (hWord command 1)
  intro address
  apply Method.preserves_bind
  · intro s hs
    cases hCh : s.protocol.ch with
    | none =>
        intro hConnected
        have hSome : s.protocol.ch.isSome := hs (by simpa [forget, hCh] using hConnected)
        rw [hCh] at hSome
        cases hSome
    | some ch => simp [Attached, forget, hCh, setIsConnected, modifyProtocol]
  intro _
  apply Method.preserves_bind (hWord _ 0)
  intro host
  apply Method.preserves_bind (hWord _ 1)
  intro port
  apply Method.preserves_bind (keeps_of_leaves (leaves_of_quiet (quiet_connect env host port)))
  intro ch
  apply Method.preserves_bind (hWord command 2)
  intro username
  apply Method.preserves_bind
  · exact fun _ _ _ => rfl
  intro _
  apply Method.preserves_bind (hWord command 3)
  exact fun password => keeps_of_leaves (leaves_of_quiet (quiet_handleLogin _ _ _))

theorem keeps_catching {report : Text → Method CppException StompClient Unit}
    {body : Method CppException StompClient Unit}
    (hReport : ∀ what, Method.Preserves Attached (report what))
    (hBody : body.Preserves Attached) : Method.Preserves Attached (catching report body) := by
  apply Method.preserves_tryCatch hBody
  intro e
  cases e with
  | unchecked => exact Method.preserves_throw _
  | runtime_error what => exact hReport what
  | invalid_argument what => exact hReport what
  | out_of_range what => exact hReport what

theorem keeps_runLine (line : Text) : Method.Preserves Attached (runLine env line) := by
  have hPrint (text : Text) : Method.Preserves Attached (print text) :=
    keeps_of_leaves (leaves_of_quiet (quiet_print text))
  apply keeps_catching fun _ => hPrint _
  apply Method.preserves_bind (keeps_of_leaves (Cpp.leaves_index link _ 0))
  intro comm
  apply Method.preserves_ite fun _ => keeps_login env _
  intro _
  apply Method.preserves_bind (keeps_of_leaves Method.leaves_get)
  intro s
  apply Method.preserves_ite fun _ => hPrint _
  exact fun _ => keeps_of_leaves (leaves_process env _ _ _)

theorem leaves_parseResponse (mes : Option Text) :
    Method.Leaves link (parseResponse env mes) := by
  have hPrint (text : Text) : Method.Leaves link (print text) := leaves_of_quiet (quiet_print text)
  cases mes with
  | none => exact (hPrint _).bind fun _ => Method.leaves_throw _
  | some mes =>
      apply (Cpp.leaves_substr link mes _ _).bind
      intro frameType
      apply Method.leaves_ite ((hPrint _).bind fun _ => Method.leaves_throw _)
      apply Method.leaves_ite (hPrint _)
      apply Method.leaves_ite
      · apply (leaves_of_quiet (quiet_receiptAction mes)).bind
        exact fun _ => leaves_of_quiet (quiet_handleReceipt _)
      apply Method.leaves_ite
      · apply (Cpp.leaves_index link _ 5).bind
        intro line
        apply (leaves_of_quiet (quiet_fieldOf line)).bind
        intro username
        apply Method.leaves_get.bind
        intro s
        apply Method.leaves_ite
        · apply (Cpp.leaves_index link _ 3).bind
          intro line
          apply (leaves_of_quiet (quiet_fieldOf line)).bind
          intro game
          apply (leaves_of_quiet (quiet_parseToEvent _)).bind
          exact fun _ _ => rfl
        · exact Method.leaves_pure _
      · exact Method.leaves_pure _

theorem keeps_handleFrame (mes : Option Text) :
    Method.Preserves Attached (handleFrame env mes) := by
  apply keeps_catching _ (keeps_of_leaves (leaves_parseResponse env mes))
  intro what
  apply Method.preserves_bind (keeps_of_leaves (leaves_of_quiet (quiet_print _)))
  exact fun _ => keeps_setIsConnected

/-- What the two threads turn to next. -/
inductive Input where
  | line (line : Text)
  | frame (mes : Option Text)

/-- After an access out of bounds there is no next state. -/
def next (s : StompClient) (input : Input) : Option StompClient :=
  let run := match input with
    | .line line => runLine env line s
    | .frame mes => handleFrame env mes s
  if run.1.isOk then some run.2 else none

/-- The states of a client, whatever it is told, are attached. -/
theorem attached_of_reachable {s : StompClient}
    (h : Transition.Reachable (· = StompClient.new) (next env) s) : Attached s := by
  apply h.invariant
  · rintro _ rfl
    exact nofun
  · intro s input t hs hNext
    obtain ⟨-, hRun⟩ := Option.ite_none_right_eq_some.1 hNext
    cases hRun
    cases input with
    | line line => exact keeps_runLine env line s hs
    | frame mes => exact keeps_handleFrame env mes s hs

end

end StompGames.TypedLine
