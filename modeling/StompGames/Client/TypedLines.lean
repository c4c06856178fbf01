import StompGames.Client.Attachment
import StompGames.Client.Commands
import StompGames.Cpp.Indexing

/-! Every line that may be typed, as `main` reads it: which of them makes the client read
past the end of its words, and what the ill-formed ones leave behind. -/
namespace StompGames.TypedLine

open Client Imperative StompClient
open Cpp (CppException)

/-- How many words belong to a command. -/
def wordsOf (action : Text) : Option Nat :=
  if action = "login".toList ∨ action = "summary".toList then some 4
  else if action = "join".toList ∨ action = "exit".toList ∨ action = "report".toList then some 2
  else if action = "logout".toList then some 1
  else none

/-- The port in the address of a login, where it is a number. -/
def portOf (address : Text) : Option Int := ((Cpp.split address ':')[1]?).bind Cpp.intOf

/-- A known command with all its words, and with the separators inside them. -/
structure WellFormed (command : List Text) : Prop where
  words : ∃ n, wordsOf (command.getD 0 []) = some n ∧ n ≤ command.length
  address : command.getD 0 [] = "login".toList → (portOf (command.getD 1 [])).isSome
  teams : command.getD 0 [] = "summary".toList → '_' ∈ command.getD 1 []

/-- A turn of the loop of `main`, with the loop of `parseCommand` as it is written. It
returns what is left to be read. -/
def turn (env : Env) (cin : Cpp.IStream) : Method CppException StompClient Cpp.IStream := do
  catching (fun what => print (what ++ ['\n'])) do
    let words ← Cpp.parseCommandAt (lineOf cin) (lineOf cin).length
    command env words
  pure (cin.getline bufsize).2

/-- All of the client but what it has printed. -/
def silent (s : StompClient) : StompClient := { s with console := [] }

/-- The words of the next line, as far as it is read. -/
def wordsRead (cin : Cpp.IStream) : List Text := Cpp.parseCommand (lineOf cin)

/-- No access of the turn is out of bounds, and an ill-formed command changes nothing. -/
structure HandledSafely (env : Env) (cin : Cpp.IStream) (s : StompClient) : Prop where
  inBounds : (turn env cin s).1 ≠ .error .unchecked
  rejected : ¬WellFormed (wordsRead cin) → silent (turn env cin s).2 = silent s

/-- The address names a host that accepts. -/
def Reaches (env : Env) (address : Text) : Prop :=
  ∃ number, portOf address = some number ∧
    env.connects ((Cpp.split address ':').getD 0 []) (number.bmod (2 ^ 16)) = true

/-- There is nothing that a login would forget. -/
structure Idle (s : StompClient) : Prop where
  ch : s.protocol.ch = none
  reciepts : s.reciepts = fun _ => none
  subscriptions : s.subscriptions = fun _ => none

/-- A login has an address with a colon. A word too few, or a port that is no number, does
no harm where it is found out before there is a connection and nothing was forgotten. -/
structure LoginGuarded (env : Env) (command : List Text) (s : StompClient) : Prop where
  address : 2 ≤ command.length
  colon : ':' ∈ command.getD 1 []
  others : 4 ≤ command.length ∧ (portOf (command.getD 1 [])).isSome ∨
    ¬Reaches env (command.getD 1 []) ∧ Idle s

/-- The words that the other commands read are there, and a summary has the separator
between its teams or does not get to it. -/
structure CommandGuarded (env : Env) (command : List Text) : Prop where
  word : wordsOf (command.getD 0 []) = some 2 → 2 ≤ command.length
  summary : command.getD 0 [] = "summary".toList → 4 ≤ command.length ∧
    ('_' ∈ command.getD 1 [] ∨ env.opens (command.getD 3 []) = false)

/-- What keeps a typed line from ending the program: a login has its own condition, and other
commands are looked at only while the client is connected. -/
def Guarded (env : Env) (command : List Text) (s : StompClient) : Prop :=
  if command.getD 0 [] = "login".toList then LoginGuarded env command s
  else s.protocol.isConnected = true → CommandGuarded env command

section
variable {α : Type} {env : Env}

/-- With a connection the body stays in bounds, and keeps the connection. -/
def Checked (m : Method CppException StompClient α) : Prop :=
  m.Ensures (fun s => s.protocol.ch.isSome) (fun _ s => s.protocol.ch.isSome)
    (fun e _ => e ≠ .unchecked)

theorem checked_of_quiet {m : Method CppException StompClient α} (h : StompClient.Quiet m)
    (hBounds : ∀ s, (m s).1 ≠ .error .unchecked) : Checked m := by
  intro s hs
  have hBound := hBounds s
  have hShared := congrArg (fun shared => shared.2.2.2.1) (h s)
  rcases hRun : m s with ⟨e | a, t⟩ <;> rw [hRun] at hBound hShared
  · exact fun hSame => hBound (hSame ▸ rfl)
  · exact hShared.trans hs

theorem Checked.bind {β : Type} {m : Method CppException StompClient α}
    {next : α → Method CppException StompClient β} (first : Checked m)
    (second : ∀ a, Checked (next a)) : Checked (m >>= next) :=
  Method.ensures_bind first second

theorem checked_ite {p : Prop} [Decidable p] {m m' : Method CppException StompClient α}
    (yes : Checked m) (no : Checked m') : Checked (if p then m else m') :=
  Method.ensures_ite (fun _ => yes) fun _ => no

theorem checked_print (text : Text) : Checked (print text) :=
  checked_of_quiet (quiet_print text) fun _ => nofun

theorem checked_modify {f : StompClient → StompClient}
    (h : ∀ s, (f s).protocol.ch = s.protocol.ch) :
    Checked (modify f : Method CppException StompClient Unit) := by
  intro s hs
  change (f s).protocol.ch.isSome
  rw [h s]
  exact hs

theorem checked_get : Checked (get : Method CppException StompClient StompClient) :=
  Method.ensures_get fun _ => id

theorem checked_pure (a : α) : Checked (pure a : Method CppException StompClient α) :=
  Method.ensures_pure a fun _ => id

theorem checked_throw {e : CppException} (h : e ≠ .unchecked) :
    Checked (throw e : Method CppException StompClient α) :=
  Method.ensures_throw e fun _ _ => h

theorem checked_sendFrameAscii (frame : Text) : Checked (sendFrameAscii frame) := by
  intro s hs
  rw [sendFrameAscii_apply hs]
  dsimp only
  split
  · simpa [wrote] using hs
  · exact hs

theorem checked_sendOrFail (frame : Text) : Checked (sendOrFail frame) := by
  apply checked_get.bind
  intro s
  dsimp only
  have hDone (done : Bool) : Checked (if done then pure () else
      throw (.runtime_error
        "A frame could not be sent to the server - shuting down".toList) : Method _ _ Unit) :=
    checked_ite (checked_pure ()) (checked_throw nofun)
  apply checked_ite
  · exact (checked_pure false).bind hDone
  · exact (checked_sendFrameAscii frame).bind hDone

theorem checked_addReceipt (rec : Int) (action : Text) : Checked (addReceipt rec action) :=
  checked_modify fun _ => rfl

theorem checked_handleJoin (game : Text) (subId receiptId : Int) :
    Checked (handleJoin game subId receiptId) :=
  (checked_sendOrFail _).bind fun _ => checked_modify fun _ => rfl

theorem checked_handleExit (game : Text) (subId receiptId : Int) :
    Checked (handleExit game subId receiptId) :=
  (checked_sendOrFail _).bind fun _ => checked_modify fun _ => rfl

theorem checked_reportEvents (game : Text) (filePath : Option Text) (events : List Client.Event) :
    Checked (reportEvents env game filePath events) := by
  induction events generalizing filePath with
  | nil => exact checked_pure _
  | cons curr rest ih =>
      apply checked_get.bind
      intro s
      apply (checked_sendOrFail _).bind
      intro _
      apply Checked.bind
      · exact checked_modify fun _ => rfl
      · exact fun _ => ih none

theorem checked_handleReport (hFiles : ∀ path, env.parseEventsFile path ≠ .error .unchecked)
    (filePath : Text) : Checked (handleReport env filePath) := by
  unfold handleReport
  cases hFile : env.parseEventsFile filePath with
  | error e => exact checked_throw fun hSame => hFiles filePath (hSame ▸ hFile)
  | ok data => exact checked_reportEvents _ _ _

theorem checked_write (filePath text : Text) : Checked (write filePath text) :=
  checked_modify fun _ => rfl

theorem checked_index {words : List α} {i : Nat} (h : i < words.length) :
    Checked (Cpp.index words i : Method CppException StompClient α) := by
  unfold Cpp.index
  rw [List.getElem?_eq_getElem h]
  exact checked_pure _

theorem checked_handleSummary (env : Env) {game : Text} (h : '_' ∈ game) (user filePath : Text) :
    Checked (handleSummary env game user filePath) := by
  have hTeams := Cpp.one_lt_length_split h
  unfold handleSummary
  apply checked_ite
  · exact checked_throw nofun
  apply Checked.bind
  · exact checked_modify fun _ => rfl
  intro _
  apply Checked.bind
  · exact checked_modify fun _ => rfl
  intro _
  apply checked_get.bind
  intro s
  apply (checked_index (Nat.zero_lt_of_lt hTeams)).bind
  intro teamA
  apply (checked_index hTeams).bind
  intro teamB
  repeat apply (checked_write _ _).bind; intro _
  exact checked_write _ _

/-- The two parts of a safe turn, once the line is split. -/
def Handled (m : Method CppException StompClient Unit) (command : List Text) (s : StompClient) :
    Prop :=
  (m s).1 ≠ .error .unchecked ∧ (¬WellFormed command → silent (m s).2 = silent s)

theorem Checked.handled {m : Method CppException StompClient Unit} (h : Checked m)
    {command : List Text} (hCommand : WellFormed command) {s : StompClient}
    (hs : s.protocol.ch.isSome) : Handled m command s := by
  have hRun := h s hs
  refine ⟨?_, fun hIll => absurd hCommand hIll⟩
  intro hError
  rcases hResult : m s with ⟨e | _, t⟩ <;> rw [hResult] at hRun hError
  · exact hRun (Except.error.inj hError)
  · cases hError

theorem handled_congr {m m' : Method CppException StompClient Unit} {s : StompClient}
    (h : m s = m' s) (command : List Text) : Handled m command s ↔ Handled m' command s := by
  rw [Handled, Handled, h]

theorem not_handled {m : Method CppException StompClient Unit} {command : List Text}
    {s t : StompClient} (h : m s = (.error .unchecked, t)) : ¬Handled m command s :=
  fun hHandled => hHandled.1 (by rw [h])

theorem handled_of_silent {m : Method CppException StompClient Unit} {command : List Text}
    {s t : StompClient} {result : Except CppException Unit} (h : m s = (result, t))
    (hResult : result ≠ .error .unchecked) (hSilent : silent t = silent s) :
    Handled m command s := by
  rw [Handled, h]
  exact ⟨hResult, fun _ => hSilent⟩

theorem wordsOf_eq_two {action : Text} (h : wordsOf action = some 2) :
    action = "join".toList ∨ action = "exit".toList ∨ action = "report".toList := by
  unfold wordsOf at h
  split at h
  · cases h
  · split at h
    · assumption
    · split at h <;> cases h

/-- The commands of two words read the second, and then stay in bounds. -/
theorem process_two (hFiles : ∀ path, env.parseEventsFile path ≠ .error .unchecked)
    {action : Text} (h : wordsOf action = some 2) (rest : List Text) (receiptId subId : Int) :
    ∃ next : Text → Method CppException StompClient Unit, (∀ topic, Checked (next topic)) ∧
      process env (action :: rest) receiptId subId = Cpp.index (action :: rest) 1 >>= next := by
  rcases wordsOf_eq_two h with rfl | rfl | rfl
  · refine ⟨_, ?_, rfl⟩
    intro topic
    apply checked_get.bind
    intro s
    apply checked_ite (checked_print _)
    apply Checked.bind
    · exact checked_modify fun _ => rfl
    · exact fun _ => (checked_addReceipt _ _).bind fun _ => checked_handleJoin _ _ _
  · refine ⟨_, ?_, rfl⟩
    intro topic
    apply checked_get.bind
    intro s
    apply checked_ite (checked_print _)
    apply (checked_addReceipt _ _).bind
    intro _
    apply checked_get.bind
    intro s
    apply (checked_handleExit _ _ _).bind
    exact fun _ => checked_modify fun _ => rfl
  · refine ⟨_, ?_, rfl⟩
    intro filePath
    exact (checked_handleReport hFiles filePath).bind fun _ => checked_print _

theorem handled_two (hFiles : ∀ path, env.parseEventsFile path ≠ .error .unchecked)
    {action : Text} (h : wordsOf action = some 2) (rest : List Text) (receiptId subId : Int)
    {s : StompClient} (hs : s.protocol.ch.isSome) :
    Handled (process env (action :: rest) receiptId subId) (action :: rest) s ↔
      2 ≤ (action :: rest).length := by
  obtain ⟨next, hNext, hProcess⟩ := process_two hFiles h rest receiptId subId
  have hLogin : action ≠ "login".toList := by
    rintro rfl
    exact absurd h (by decide)
  have hSummary : action ≠ "summary".toList := by
    rintro rfl
    exact absurd h (by decide)
  cases rest with
  | nil =>
      have hShort : process env [action] receiptId subId s = (.error .unchecked, s) := by
        rw [hProcess]
        rfl
      constructor
      · exact fun hHandled => absurd hHandled (not_handled hShort)
      · intro hLength
        simp at hLength
  | cons topic rest =>
      have hLength : 2 ≤ (action :: topic :: rest).length := by simp
      refine ⟨fun _ => hLength, fun _ => ?_⟩
      rw [hProcess]
      apply ((checked_index (by simp)).bind hNext).handled ?_ hs
      exact ⟨⟨2, h, hLength⟩, fun hSame => absurd hSame hLogin, fun hSame => absurd hSame hSummary⟩

theorem handled_logout (rest : List Text) (receiptId subId : Int) {s : StompClient}
    (hs : s.protocol.ch.isSome) :
    Handled (process env ("logout".toList :: rest) receiptId subId) ("logout".toList :: rest) s := by
  have hProcess : Checked (process env ("logout".toList :: rest) receiptId subId) :=
    (checked_addReceipt _ _).bind fun _ => checked_sendOrFail _
  have hWords : wordsOf "logout".toList = some 1 := by decide
  have hLogin : "logout".toList ≠ "login".toList := by decide
  have hSummary : "logout".toList ≠ "summary".toList := by decide
  apply hProcess.handled ?_ hs
  exact ⟨⟨1, hWords, by simp⟩, fun hSame => absurd hSame hLogin,
    fun hSame => absurd hSame hSummary⟩

/-- A game without the separator between the teams has one piece only. -/
theorem handleSummary_one {game : Text} (h : '_' ∉ game) (user filePath : Text) (s : StompClient) :
    (env.opens filePath = false ∧ ∃ what, handleSummary env game user filePath s =
      (.error (.runtime_error what), s)) ∨
    (env.opens filePath = true ∧ ∃ t, handleSummary env game user filePath s =
      (.error .unchecked, t)) := by
  cases hOpens : env.opens filePath with
  | false =>
      refine Or.inl ⟨rfl, "Cannot open traget file, closing...".toList, ?_⟩
      unfold handleSummary
      rw [hOpens]
      rfl
  | true =>
      refine Or.inr ⟨rfl, (handleSummary env game user filePath s).2, Prod.ext ?_ rfl⟩
      unfold handleSummary
      rw [hOpens, Cpp.split_of_not_mem h]
      rfl

theorem handled_summary (rest : List Text) (receiptId subId : Int) {s : StompClient}
    (hs : s.protocol.ch.isSome) :
    Handled (process env ("summary".toList :: rest) receiptId subId) ("summary".toList :: rest) s ↔
      4 ≤ ("summary".toList :: rest).length ∧
        ('_' ∈ rest.getD 0 [] ∨ env.opens (rest.getD 2 []) = false) := by
  match rest with
  | [] => exact ⟨fun h => absurd h (not_handled rfl), fun h => absurd h.1 (by simp)⟩
  | [_] => exact ⟨fun h => absurd h (not_handled rfl), fun h => absurd h.1 (by simp)⟩
  | [_, _] => exact ⟨fun h => absurd h (not_handled rfl), fun h => absurd h.1 (by simp)⟩
  | topic :: user :: filePath :: rest =>
      have hProcess : process env ("summary".toList :: topic :: user :: filePath :: rest)
          receiptId subId = (do
        handleSummary env topic user filePath
        print ("A summary was created at:".toList ++ filePath ++ ['\n'])) := rfl
      rw [hProcess]
      have hLength : 4 ≤ ("summary".toList :: topic :: user :: filePath :: rest).length := by simp
      change _ ↔ _ ∧ ('_' ∈ topic ∨ env.opens filePath = false)
      by_cases hTeams : '_' ∈ topic
      · refine ⟨fun _ => ⟨hLength, Or.inl hTeams⟩, fun _ => ?_⟩
        have hSummary := checked_handleSummary env hTeams user filePath
        apply (hSummary.bind fun _ => checked_print _).handled ?_ hs
        have hWords : wordsOf "summary".toList = some 4 := by decide
        have hLogin : "summary".toList ≠ "login".toList := by decide
        exact ⟨⟨4, hWords, hLength⟩, fun hSame => absurd hSame hLogin, fun _ => hTeams⟩
      · rcases handleSummary_one hTeams user filePath s with
          ⟨hOpens, what, hRun⟩ | ⟨hOpens, t, hRun⟩
        · refine ⟨fun _ => ⟨hLength, Or.inr hOpens⟩, fun _ => ?_⟩
          have hFails : (handleSummary env topic user filePath >>= fun _ =>
              print ("A summary was created at:".toList ++ filePath ++ ['\n'])) s =
              (.error (.runtime_error what), s) := by
            rw [Method.bind_apply, hRun]
          exact handled_of_silent hFails nofun rfl
        · constructor
          · intro h
            refine absurd h (not_handled (t := t) ?_)
            rw [Method.bind_apply, hRun]
          · rintro ⟨-, hMem | hClosed⟩
            · exact absurd hMem hTeams
            · rw [hOpens] at hClosed
              cases hClosed

/-- Any other word is answered with a message. -/
theorem process_unknown {action : Text} (h : wordsOf action = none) (rest : List Text)
    (receiptId subId : Int) : process env (action :: rest) receiptId subId =
      print ("Unknown command: ".toList ++ action ++ " try again.\n".toList) := by
  have hOther : ∀ known, wordsOf known ≠ none → action ≠ known := by
    rintro known hKnown rfl
    exact hKnown h
  funext s
  simp only [process, Cpp.index, List.getElem?_cons_zero, Method.bind_apply, Method.pure_apply,
    if_neg (hOther "join".toList (by decide)), if_neg (hOther "exit".toList (by decide)),
    if_neg (hOther "report".toList (by decide)), if_neg (hOther "logout".toList (by decide)),
    if_neg (hOther "summary".toList (by decide))]

theorem handled_process (hFiles : ∀ path, env.parseEventsFile path ≠ .error .unchecked)
    {command : List Text} (hSome : command ≠ []) (hLogin : command.getD 0 [] ≠ "login".toList)
    (receiptId subId : Int) {s : StompClient} (hs : s.protocol.ch.isSome) :
    Handled (process env command receiptId subId) command s ↔ CommandGuarded env command := by
  obtain ⟨action, rest, rfl⟩ := List.exists_cons_of_ne_nil hSome
  change action ≠ "login".toList at hLogin
  by_cases hTwo : wordsOf action = some 2
  · have hSummary : action ≠ "summary".toList := by
      rintro rfl
      exact absurd hTwo (by decide)
    rw [handled_two hFiles hTwo rest receiptId subId hs]
    exact ⟨fun h => ⟨fun _ => h, fun hSame => absurd hSame hSummary⟩, fun h => h.word hTwo⟩
  by_cases hSummary : action = "summary".toList
  · subst hSummary
    rw [handled_summary rest receiptId subId hs]
    exact ⟨fun h => ⟨fun hSame => absurd hSame hTwo, fun _ => h⟩, fun h => h.summary rfl⟩
  have hGuarded : CommandGuarded env (action :: rest) :=
    ⟨fun hSame => absurd hSame hTwo, fun hSame => absurd hSame hSummary⟩
  refine ⟨fun _ => hGuarded, fun _ => ?_⟩
  by_cases hLogout : action = "logout".toList
  · subst hLogout
    exact handled_logout rest receiptId subId hs
  · have hFour : ¬(action = "login".toList ∨ action = "summary".toList) :=
      not_or.2 ⟨hLogin, hSummary⟩
    have hNotTwo :
        ¬(action = "join".toList ∨ action = "exit".toList ∨ action = "report".toList) := by
      intro h
      apply hTwo
      rw [wordsOf, if_neg hFour, if_pos h]
    have hUnknown : wordsOf action = none := by
      rw [wordsOf, if_neg hFour, if_neg hNotTwo, if_neg hLogout]
    rw [process_unknown hUnknown]
    exact handled_of_silent rfl nofun rfl

/-- The connection is closed and what was noted about it is gone. -/
def forgotten (s : StompClient) : StompClient := (forget s).2

theorem forget_apply (s : StompClient) : forget s = (.ok (), forgotten s) := by
  unfold forgotten forget
  cases hCh : s.protocol.ch <;> simp [hCh, setIsConnected, modifyProtocol]

/-- A login leaves no trace where there was nothing to forget. -/
theorem silent_forgotten_iff {s : StompClient} : silent (forgotten s) = silent s ↔ Idle s := by
  have hForgotten : forgotten s = { s with
      protocol := if s.protocol.ch.isSome then
        { s.protocol with ch := none, isConnected := false } else s.protocol
      reciepts := fun _ => none
      subscriptions := fun _ => none } := by
    unfold forgotten forget
    cases hCh : s.protocol.ch <;> simp [hCh, setIsConnected, modifyProtocol]
  rw [hForgotten]
  constructor
  · intro h
    refine ⟨?_, (congrArg StompClient.reciepts h).symm, (congrArg StompClient.subscriptions h).symm⟩
    have hCh := congrArg (fun t => t.protocol.ch) h
    cases hSome : s.protocol.ch with
    | none => rfl
    | some ch => simp [silent, hSome] at hCh
  · rintro ⟨hCh, hReciepts, hSubscriptions⟩
    simp [silent, hCh, hReciepts, hSubscriptions]

/-- The part of the login that opens the connection. -/
def dial (env : Env) (address : Text) :
    Method CppException StompClient Client.ConnectionHandler := do
  let host ← Cpp.index (Cpp.split address ':') 0
  let port ← Cpp.index (Cpp.split address ':') 1
  connect env host port

/-- And the part that uses it. -/
def greet (address : Text) (rest : List Text) (ch : Client.ConnectionHandler) :
    Method CppException StompClient Unit := do
  let username ← Cpp.index rest 0
  start ch username
  let password ← Cpp.index rest 1
  handleLogin address username password

theorem login_eq (env : Env) (action address : Text) (rest : List Text) (s : StompClient) :
    login env (action :: address :: rest) s =
      (dial env address >>= greet address rest) (forgotten s) := by
  change (forget >>= fun _ => Cpp.index (Cpp.split address ':') 0 >>= fun host =>
    Cpp.index (Cpp.split address ':') 1 >>= fun port =>
      connect env host port >>= greet address rest) s = _
  rw [Method.bind_apply, forget_apply, dial, Method.bind_assoc]
  simp only [Method.bind_assoc]

/-- An address without a colon has no port. -/
theorem dial_noColon (env : Env) {address : Text} (h : ':' ∉ address) (s : StompClient) :
    dial env address s = (.error .unchecked, s) := by
  rw [dial, Cpp.split_of_not_mem h]
  rfl

/-- The state once the connection was announced. -/
def announced (host port : Text) (s : StompClient) : StompClient :=
  { s with console := s.console ++
    ["Connecting to ".toList ++ host ++ " on port: ".toList ++ port ++ ['\n']] }

theorem connect_noNumber {port : Text} (h : Cpp.intOf port = none) (host : Text)
    (s : StompClient) : ∃ e t, connect env host port s = (.error e, t) ∧ e ≠ .unchecked ∧
      silent t = silent s := by
  obtain ⟨e, hRun, hChecked⟩ := Cpp.stoi_of_intOf_none h (announced host port s)
  refine ⟨e, announced host port s, ?_, hChecked, rfl⟩
  rw [connect, Method.bind_apply, print, Method.modify_apply]
  change (Cpp.stoi port >>= _) (announced host port s) = _
  rw [Method.bind_apply, hRun]

theorem connect_number {port : Text} {number : Int} (h : Cpp.intOf port = some number)
    (host : Text) (s : StompClient) : ∃ t, silent t = silent s ∧ connect env host port s =
      if env.connects host (number.bmod (2 ^ 16)) then (.ok ⟨true, []⟩, t)
      else (.error (.runtime_error ("Cannot connect to ".toList ++ host ++ ':' :: port)), t) := by
  have hRun : ∃ m : Method CppException StompClient Client.ConnectionHandler,
      connect env host port s = m (announced host port s) ∧
      m = if env.connects host (number.bmod (2 ^ 16)) then pure ⟨true, []⟩
        else print ("Cannot connect to ".toList ++ host ++ ':' :: port ++ ['\n']) >>= fun _ =>
          throw (.runtime_error ("Cannot connect to ".toList ++ host ++ ':' :: port)) := by
    refine ⟨_, ?_, rfl⟩
    rw [connect, Method.bind_apply, print, Method.modify_apply]
    change (Cpp.stoi port >>= _) (announced host port s) = _
    rw [Method.bind_apply, Cpp.stoi_of_intOf h]
  obtain ⟨m, hConnect, rfl⟩ := hRun
  rw [hConnect]
  cases env.connects host (number.bmod (2 ^ 16)) with
  | true => exact ⟨announced host port s, rfl, rfl⟩
  | false => exact ⟨{ announced host port s with console := (announced host port s).console ++
      ["Cannot connect to ".toList ++ host ++ ':' :: port ++ ['\n']] }, rfl, rfl⟩

/-- With a colon the host is asked just where the port is a number. -/
theorem dial_apply (env : Env) {address : Text} (h : ':' ∈ address) (s : StompClient) :
    (Reaches env address ∧ ∃ t, dial env address s = (.ok ⟨true, []⟩, t) ∧ silent t = silent s) ∨
    (¬Reaches env address ∧ ∃ e t, dial env address s = (.error e, t) ∧ e ≠ .unchecked ∧
      silent t = silent s) := by
  obtain ⟨host, port, others, hPieces⟩ : ∃ host port others,
      Cpp.split address ':' = host :: port :: others := by
    match hSplit : Cpp.split address ':', Cpp.one_lt_length_split h with
    | host :: port :: others, _ => exact ⟨host, port, others, rfl⟩
  have hDial : dial env address = connect env host port := by
    rw [dial, hPieces]
    rfl
  have hReaches : Reaches env address ↔ ∃ number, Cpp.intOf port = some number ∧
      env.connects host (number.bmod (2 ^ 16)) = true := by
    rw [Reaches, portOf, hPieces]
    rfl
  rw [hDial, hReaches]
  cases hPort : Cpp.intOf port with
  | none =>
      refine Or.inr ⟨?_, connect_noNumber hPort host s⟩
      rintro ⟨number, hNumber, -⟩
      cases hNumber
  | some number =>
      obtain ⟨t, hSilent, hConnect⟩ := connect_number hPort host s
      rw [hConnect]
      cases hHost : env.connects host (number.bmod (2 ^ 16)) with
      | true => exact Or.inl ⟨⟨number, rfl, hHost⟩, t, rfl, hSilent⟩
      | false =>
          refine Or.inr ⟨?_, _, t, rfl, by simp, hSilent⟩
          rintro ⟨other, hNumber, hAccepts⟩
          obtain rfl := Option.some.inj hNumber
          rw [hHost] at hAccepts
          cases hAccepts

/-- After the connection the two last words are read. -/
theorem greet_short {rest : List Text} (h : rest.length < 2) (address : Text)
    (ch : Client.ConnectionHandler) (s : StompClient) :
    ∃ t, greet address rest ch s = (.error .unchecked, t) := by
  match rest, h with
  | [], _ => exact ⟨_, rfl⟩
  | [username], _ => exact ⟨_, rfl⟩

theorem greet_checked {rest : List Text} (h : 2 ≤ rest.length) {address : Text}
    (hColon : ':' ∈ address) (ch : Client.ConnectionHandler) (s : StompClient) :
    (greet address rest ch s).1 ≠ .error .unchecked := by
  obtain ⟨username, password, others, rfl⟩ : ∃ username password others,
      rest = username :: password :: others := by
    match rest, h with
    | username :: password :: others, _ => exact ⟨username, password, others, rfl⟩
  have hSend : greet address (username :: password :: others) ch s =
      sendOrFail (connectFrame (address.takeWhile (· != ':')) username password)
        (s.started ch username) := by
    change handleLogin address username password (s.started ch username) = _
    rw [handleLogin, if_pos hColon]
  intro hError
  have hChecked := checked_sendOrFail
    (connectFrame (address.takeWhile (· != ':')) username password) (s.started ch username) rfl
  rw [hSend] at hError
  rcases hRun : sendOrFail (connectFrame (address.takeWhile (· != ':')) username password)
    (s.started ch username) with ⟨e | _, t⟩ <;> rw [hRun] at hChecked hError
  · exact hChecked (Except.error.inj hError)
  · cases hError

theorem wellFormed_login_iff {command : List Text} (h : command.getD 0 [] = "login".toList) :
    WellFormed command ↔ 4 ≤ command.length ∧ (portOf (command.getD 1 [])).isSome := by
  have hFour : wordsOf (command.getD 0 []) = some 4 := by
    rw [h]
    decide
  have hSummary : command.getD 0 [] ≠ "summary".toList := by
    rw [h]
    decide
  constructor
  · intro hCommand
    obtain ⟨n, hWords, hLength⟩ := hCommand.words
    rw [hFour] at hWords
    obtain rfl := Option.some.inj hWords
    exact ⟨hLength, hCommand.address h⟩
  · rintro ⟨hLength, hPort⟩
    exact ⟨⟨4, hFour, hLength⟩, fun _ => hPort, fun hSame => absurd hSame hSummary⟩

/-- Once the host has accepted, the login needs all of its words. -/
theorem handled_reached {action address : Text} {rest : List Text} {s t : StompClient}
    (hCommand : WellFormed (action :: address :: rest) ↔ 2 ≤ rest.length) (hColon : ':' ∈ address)
    (hRun : login env (action :: address :: rest) s = greet address rest ⟨true, []⟩ t) :
    Handled (login env (action :: address :: rest)) (action :: address :: rest) s ↔
      2 ≤ rest.length := by
  by_cases hWords : 2 ≤ rest.length
  · refine ⟨fun _ => hWords, fun _ => ⟨?_, fun hIll => absurd (hCommand.2 hWords) hIll⟩⟩
    rw [hRun]
    exact greet_checked hWords hColon _ t
  · obtain ⟨u, hGreet⟩ := greet_short (Nat.lt_of_not_le hWords) address ⟨true, []⟩ t
    exact ⟨fun h => absurd h (not_handled (hRun.trans hGreet)), fun h => absurd h hWords⟩

theorem handled_login {command : List Text} (hSome : command ≠ [])
    (hLogin : command.getD 0 [] = "login".toList) (s : StompClient) :
    Handled (login env command) command s ↔ LoginGuarded env command s := by
  match command, hSome with
  | [action], _ => exact ⟨fun h => absurd h (not_handled rfl), fun h => absurd h.address (by simp)⟩
  | action :: address :: rest, _ =>
      have hRun := login_eq env action address rest s
      have hLength : (action :: address :: rest).length = rest.length + 2 := by simp
      have hCommand := wellFormed_login_iff hLogin
      by_cases hColon : ':' ∈ address
      · rcases dial_apply env hColon (forgotten s) with
          ⟨hReaches, t, hDial, -⟩ | ⟨hReaches, e, t, hDial, hChecked, hSilent⟩
        · rw [Method.bind_apply, hDial] at hRun
          have hPort : (portOf address).isSome := by
            obtain ⟨number, hNumber, -⟩ := hReaches
            exact Option.isSome_iff_exists.2 ⟨number, hNumber⟩
          have hWords : WellFormed (action :: address :: rest) ↔ 2 ≤ rest.length := by
            rw [hCommand, hLength]
            exact ⟨fun h => by omega, fun h => ⟨by omega, hPort⟩⟩
          rw [handled_reached hWords hColon hRun]
          constructor
          · exact fun h => ⟨by omega, hColon, Or.inl ⟨by omega, hPort⟩⟩
          · rintro ⟨-, -, hAll | hNot⟩
            · exact hWords.1 (hCommand.2 hAll)
            · exact absurd hReaches hNot.1
        · rw [Method.bind_apply, hDial] at hRun
          have hAfter : silent t = silent s ↔ Idle s := by
            rw [← silent_forgotten_iff, hSilent]
          have hHandled : Handled (login env (action :: address :: rest))
              (action :: address :: rest) s ↔
              (¬WellFormed (action :: address :: rest) → Idle s) := by
            rw [Handled, hRun, ← hAfter]
            exact and_iff_right fun hSame => hChecked (Except.error.inj hSame)
          rw [hHandled, hCommand, ← or_iff_not_imp_left]
          constructor
          · exact fun h => ⟨by omega, hColon, h.imp_right fun hIdle => ⟨hReaches, hIdle⟩⟩
          · exact fun h => h.others.imp_right And.right
      · have hDial := dial_noColon env hColon (forgotten s)
        rw [Method.bind_apply, hDial] at hRun
        exact ⟨fun h => absurd h (not_handled hRun), fun h => absurd h.colon hColon⟩

theorem turn_eq (env : Env) (cin : Cpp.IStream) : turn env cin = runCommand env cin := by
  funext s
  have hWords : (Cpp.parseCommandAt (lineOf cin) (lineOf cin).length >>=
      StompClient.command env) s = StompClient.command env (wordsRead cin) s := by
    rw [Method.bind_apply, Cpp.parseCommandAt_eq]
    rfl
  rw [turn, runCommand, runLine, catching, catching, Method.bind_apply, Method.bind_apply,
    Method.tryCatch_apply, Method.tryCatch_apply, hWords]
  rfl

/-- The scan of `handleLogin` as it is written. -/
theorem handleLogin_scan (hostInfo username password : Text) :
    handleLogin hostInfo username password = (do
      let host ← Cpp.scanHost hostInfo 0 []
      sendOrFail (connectFrame host username password)) := by
  funext s
  rw [Method.bind_apply, Cpp.scanHost_eq hostInfo (Nat.zero_le _), List.drop_zero,
    List.nil_append, handleLogin]
  split <;> rfl

/-- What is caught is printed. -/
theorem handledSafely_iff_handled (env : Env) (cin : Cpp.IStream) (s : StompClient) :
    HandledSafely env cin s ↔
      Handled (StompClient.command env (wordsRead cin)) (wordsRead cin) s := by
  have hTurn : ((turn env cin s).1 = .error .unchecked ↔
      (StompClient.command env (wordsRead cin) s).1 = .error .unchecked) ∧
      silent (turn env cin s).2 = silent (StompClient.command env (wordsRead cin) s).2 := by
    rw [turn_eq, runCommand, Method.bind_apply, runLine, catching, Method.tryCatch_apply,
      wordsRead]
    rcases StompClient.command env (Cpp.parseCommand (lineOf cin)) s with ⟨e | _, t⟩
    · cases e with
      | unchecked => exact ⟨by simp, rfl⟩
      | _ => exact ⟨iff_of_false (by simp [print]) (by simp), rfl⟩
    · exact ⟨by simp, rfl⟩
  rw [Handled, ← hTurn.2]
  exact ⟨fun h => ⟨fun hBad => h.inBounds (hTurn.1.2 hBad), h.rejected⟩,
    fun h => ⟨fun hBad => h.1 (hTurn.1.1 hBad), h.2⟩⟩

/-- The commands other than the login are refused without a connection. -/
theorem handled_other (hFiles : ∀ path, env.parseEventsFile path ≠ .error .unchecked)
    {s : StompClient} (hAttached : Attached s) {command : List Text} (hSome : command ≠ [])
    (hLogin : command.getD 0 [] ≠ "login".toList) :
    Handled (otherCommand env command) command s ↔
      (s.protocol.isConnected = true → CommandGuarded env command) := by
  cases hConnected : s.protocol.isConnected with
  | false =>
      have hRefused : otherCommand env command s = print
          ("You first must login to host before using any commands other " ++
            "than login.\n").toList s := by
        simp only [otherCommand, Method.bind_apply, Method.get_apply, hConnected, Bool.not_false,
          if_true]
      have hReturns : (Except.ok () : Except CppException Unit) ≠ .error .unchecked := by simp
      exact ⟨fun _ hTrue => absurd hTrue Bool.false_ne_true,
        fun _ => handled_of_silent hRefused hReturns rfl⟩
  | true =>
      have hProcess : otherCommand env command s =
          process env command s.receiptIdGen s.subIdGen s := by
        simp only [otherCommand, Method.bind_apply, Method.get_apply, hConnected, Bool.not_true,
          Bool.false_eq_true, if_false]
      rw [handled_congr hProcess, handled_process hFiles hSome hLogin _ _ (hAttached hConnected)]
      exact ⟨fun h _ => h, fun h => h rfl⟩

end

/-- Whatever is typed, the next turn stays within bounds and leaves an ill-formed command
without effect just where the words that it reads are guarded. -/
theorem handled_safely_iff {env : Env} {s : StompClient}
    (hFiles : ∀ path, env.parseEventsFile path ≠ .error .unchecked) (hAttached : Attached s)
    (cin : Cpp.IStream) : HandledSafely env cin s ↔ Guarded env (wordsRead cin) s := by
  have hSome : wordsRead cin ≠ [] := Cpp.split_ne_nil (lineOf cin) ' '
  have hCommand : StompClient.command env (wordsRead cin) =
      if (wordsRead cin).getD 0 [] = "login".toList then login env (wordsRead cin)
      else otherCommand env (wordsRead cin) := by
    obtain ⟨action, rest, hShape⟩ := List.exists_cons_of_ne_nil hSome
    rw [hShape]
    rfl
  rw [handledSafely_iff_handled, hCommand, Guarded]
  split
  · rename_i hLogin
    exact handled_login hSome hLogin s
  · rename_i hLogin
    exact handled_other hFiles hAttached hSome hLogin

/-- A client without event files, and a host that accepts. -/
def noFiles : Env :=
  ⟨id, fun _ => .error (.runtime_error "parse error".toList), fun _ => false, fun _ _ => true⟩

/-- The lines that are typed into a client. -/
def typing (lines : List Text) : Cpp.IStream := ⟨lines.flatMap (· ++ ['\n']), true⟩

theorem wordsRead_typing {line : Text} (hLine : '\n' ∉ line) (hFits : line.length < bufsize)
    (hZero : '\x00' ∉ line) (lines : List Text) :
    wordsRead (typing (line :: lines)) = Cpp.parseCommand line := by
  have hShape : (typing (line :: lines)).rest = line ++ '\n' :: (typing lines).rest := by
    simp [typing]
  have hRead : (typing (line :: lines)).getline bufsize = (line, typing lines) := by
    have hFirst := Cpp.getline_line hLine hFits (typing lines).rest
    rwa [← hShape] at hFirst
  rw [wordsRead, lineOf, hRead, Cpp.cString_eq hZero]

/-- A login, and after it a game is joined. -/
theorem handled_safely_login : Attached .new ∧
    HandledSafely noFiles
      (typing ["login 127.0.0.1:7777 meni films".toList, "join germany_japan".toList]) .new := by
  have hAttached : Attached .new := nofun
  have hWords : Cpp.parseCommand "login 127.0.0.1:7777 meni films".toList =
      ["login".toList, "127.0.0.1:7777".toList, "meni".toList, "films".toList] := by decide
  have hPort : portOf "127.0.0.1:7777".toList = some 7777 := by decide
  have hLogin : LoginGuarded noFiles
      ["login".toList, "127.0.0.1:7777".toList, "meni".toList, "films".toList] .new :=
    ⟨by decide, by decide, Or.inl ⟨by decide, Option.isSome_of_eq_some hPort⟩⟩
  refine ⟨hAttached, (handled_safely_iff (fun _ => by simp [noFiles]) hAttached _).2 ?_⟩
  rw [wordsRead_typing (by decide) (by decide) (by decide), hWords]
  exact (if_pos rfl).mpr hLogin

/-- A line with the command alone. Its second word is read all the same, from behind the end of
the vector. -/
theorem login_word_out_of_bounds :
    (turn noFiles (typing ["login".toList]) .new).1 = .error .unchecked ∧
      ¬HandledSafely noFiles (typing ["login".toList]) .new := by
  have hTurn : (turn noFiles (typing ["login".toList]) .new).1 = .error .unchecked := by
    rw [turn_eq, runCommand, Method.bind_apply, runLine]
    rw [show Cpp.parseCommand (lineOf (typing ["login".toList])) = ["login".toList] from
      wordsRead_typing (by decide) (by decide) (by decide) []]
    rfl
  exact ⟨hTurn, fun h => h.inBounds hTurn⟩

end StompGames.TypedLine
