import StompGames.Server.Broadcast

/-! Requests without a body: what the server reads out of their text, what it does
for a subscriber that is logged in, and how it answers. -/
namespace StompGames.Server

open Imperative

/-- A command line, header lines and an empty line. -/
def requestText (command : Text) (headers : List (Text × Text)) : Text :=
  (command :: headers.map fun header => header.1 ++ ':' :: header.2).flatMap (· ++ ['\n']) ++
    ['\n']

/-- What header lines say after what was read before. The last line for a name counts. -/
def headersFrom (read : Headers) (headers : List (Text × Text)) : Headers :=
  headers.foldl (fun read header => Function.update read header.1 (some header.2)) read

/-- The map that these header lines are read into, when nothing was read before them. -/
def headersOf (headers : List (Text × Text)) : Headers := headersFrom (fun _ => none) headers

/-- A header whose line is read back as it was meant. -/
structure HeaderOk (header : Text × Text) : Prop where
  named : header.1 ≠ []
  visible : header.1.head? ≠ some '\x00'
  colon : ':' ∉ header.1
  nameBreak : ∀ ch ∈ header.1, Java.isLineBreak ch = false
  valueBreak : ∀ ch ∈ header.2, Java.isLineBreak ch = false

theorem HeaderOk.line_noBreak {header : Text × Text} (h : HeaderOk header) :
    ∀ ch ∈ header.1 ++ ':' :: header.2, Java.isLineBreak ch = false := by
  intro ch hMem
  rcases List.mem_append.1 hMem with hName | hValue
  · exact h.nameBreak ch hName
  · rcases List.mem_cons.1 hValue with rfl | hValue
    · rfl
    · exact h.valueBreak ch hValue

/-- Only line breaks matter in a value. -/
theorem HeaderOk.withValue {name : Text} (h : HeaderOk (name, [])) {value : Text}
    (hValue : ∀ ch ∈ value, Java.isLineBreak ch = false) : HeaderOk (name, value) :=
  { h with valueBreak := hValue }

/-- Reading stops behind the header lines. -/
theorem readHeaders_lines_left {headers : List (Text × Text)}
    (h : ∀ header ∈ headers, HeaderOk header) {left : List Text}
    (hLeft : left = [] ∨ left.head? = some []) (read : Headers) :
    readHeaders read ((headers.map fun header => header.1 ++ ':' :: header.2) ++ left) =
      (headersFrom read headers, .ok left) := by
  induction headers generalizing read with
  | nil =>
      cases left with
      | nil => rfl
      | cons line lines =>
          obtain rfl : line = [] := by simpa using hLeft
          rfl
  | cons header rest ih =>
      have hOk := h header List.mem_cons_self
      have hNotEnd : ((header.1 ++ ':' :: header.2).isEmpty ||
          (header.1 ++ ':' :: header.2).head? == some '\x00') = false := by
        cases hName : header.1 with
        | nil => exact absurd hName hOk.named
        | cons ch name =>
            have hVisible := hOk.visible
            rw [hName] at hVisible
            simpa using hVisible
      rw [List.map_cons, List.cons_append, readHeaders, hNotEnd, if_neg Bool.false_ne_true,
        Java.splitColon_append hOk.colon]
      exact ih (fun header hMem => h header (List.mem_cons_of_mem _ hMem)) _

theorem readHeaders_lines {headers : List (Text × Text)} (h : ∀ header ∈ headers, HeaderOk header)
    (read : Headers) : readHeaders read (headers.map fun header => header.1 ++ ':' :: header.2) =
      (headersFrom read headers, .ok []) := by
  have hRead := readHeaders_lines_left h (Or.inl rfl) read
  rwa [List.append_nil] at hRead

/-- A request is read as what it is made of. -/
theorem parseFrame_requestText {command : Text} (hCommand : command ≠ [])
    (hBreak : ∀ ch ∈ command, Java.isLineBreak ch = false) {headers : List (Text × Text)}
    (h : ∀ header ∈ headers, HeaderOk header) :
    parseFrame (requestText command headers) = (headersOf headers, .ok (command, [])) := by
  have hLines : ∀ line ∈ command :: headers.map fun header => header.1 ++ ':' :: header.2,
      line ≠ [] ∧ ∀ ch ∈ line, Java.isLineBreak ch = false := by
    intro line hMem
    rcases List.mem_cons.1 hMem with rfl | hMem
    · exact ⟨hCommand, hBreak⟩
    · obtain ⟨header, hHeader, rfl⟩ := List.mem_map.1 hMem
      exact ⟨by simp, (h header hHeader).line_noBreak⟩
  have hSplit : Java.splitLines (requestText command headers) =
      command :: headers.map fun header => header.1 ++ ':' :: header.2 := by
    unfold requestText
    generalize hAll : (command :: headers.map fun header => header.1 ++ ':' :: header.2) = lines
    rw [hAll] at hLines
    obtain ⟨before, last, rfl⟩ := (List.eq_nil_or_concat' lines).resolve_left
      (hAll ▸ List.cons_ne_nil _ _)
    exact Java.splitLines_lines (fun line hMem => (hLines line hMem).2)
      (hLines last (by simp)).1
  unfold parseFrame
  rw [hSplit]
  cases command with
  | nil => exact absurd rfl hCommand
  | cons ch rest =>
      dsimp only
      rw [readHeaders_lines h]
      rfl

/-- After the subscription was made. -/
def subscribed (s : Server) (c subId : Int) (channel : Text) : Server :=
  let sub : Subscription := ⟨s.cManager.subManager.allocated, subId, c, channel⟩
  { s with cManager := { s.cManager with subManager := s.cManager.subManager.added sub } }

/-- The server without one subscription. No other part of its state is changed. -/
def unsubscribed (s : Server) (sub : Subscription) : Server :=
  { s with cManager := { s.cManager with subManager := s.cManager.subManager.removed sub } }

theorem process_subscribe {s : Server} {c : Int} (hLogged : s.LoggedIn c) {message body : Text}
    {headers : Headers} (hParse : parseFrame message = (headers, .ok ("SUBSCRIBE".toList, body)))
    {channel id receipt : Text} {subId receiptId : Int}
    (hDest : headers "destination".toList = some channel)
    (hId : headers "id".toList = some id) (hSubId : Java.parseInt id = some subId)
    (hReceipt : headers "receipt".toList = some receipt)
    (hReceiptId : Java.parseInt receipt = some receiptId)
    (hNew : ∀ sub ∈ s.cManager.subManager.ofConnection c, sub.channel ≠ channel) :
    process c message s =
      (.ok (), (s.subscribed c subId channel).sent c (receiptFrame receiptId)) := by
  have hDispatch : dispatch c "SUBSCRIBE".toList headers body s =
      (do conCheck c; solveSubscribe c headers; answerReceipt c headers) s := rfl
  have hSubscribe : solveSubscribe c headers s = (.ok (), s.subscribed c subId channel) := by
    simp only [solveSubscribe, hDest, hId, Method.bind_apply, parseInt, hSubId, Method.pure_apply,
      onCManager, ConnectionsManager.subscribe, ConnectionsManager.onSubManager,
      Method.zoom_apply, SubscriptionManager.subscribe_new hNew, subscribed]
  rw [process_eq hParse, hDispatch]
  simp only [Method.bind_apply, conCheck_apply, if_pos hLogged, hSubscribe, answerReceipt_apply,
    hReceipt, hReceiptId]

/-- The first of the connection's subscriptions with the id is the one that goes. -/
theorem solveUnsubscribe_found {s : Server} (hIndexed : s.Indexed) {c : Int} {headers : Headers}
    {id : Text} {subId : Int} (hId : headers "id".toList = some id)
    (hSubId : Java.parseInt id = some subId) {sub : Subscription}
    (hFind : (s.cManager.subManager.ofConnection c).find? (fun sub => sub.subId = subId) =
      some sub) : solveUnsubscribe c headers s = (.ok (), s.unsubscribed sub) := by
  have hListed : s.cManager.subManager.subDict c =
      some (s.cManager.subManager.ofConnection c) :=
    SubscriptionManager.subDict_of_mem (List.mem_of_find?_eq_some hFind)
  simp only [solveUnsubscribe, hId, Method.bind_apply, parseInt, hSubId, Method.pure_apply,
    onCManager, ConnectionsManager.unsubscribe, ConnectionsManager.onSubManager,
    Method.zoom_apply, SubscriptionManager.unsubscribe_apply hIndexed, hListed, hFind,
    unsubscribed]

theorem process_unsubscribe {s : Server} (hIndexed : s.Indexed) {c : Int}
    (hLogged : s.LoggedIn c) {message body : Text} {headers : Headers}
    (hParse : parseFrame message = (headers, .ok ("UNSUBSCRIBE".toList, body)))
    {id receipt : Text} {subId receiptId : Int}
    (hId : headers "id".toList = some id) (hSubId : Java.parseInt id = some subId)
    (hReceipt : headers "receipt".toList = some receipt)
    (hReceiptId : Java.parseInt receipt = some receiptId) {sub : Subscription}
    (hFind : (s.cManager.subManager.ofConnection c).find? (fun sub => sub.subId = subId) =
      some sub) :
    process c message s = (.ok (), (s.unsubscribed sub).sent c (receiptFrame receiptId)) := by
  have hDispatch : dispatch c "UNSUBSCRIBE".toList headers body s =
      (do conCheck c; solveUnsubscribe c headers; answerReceipt c headers) s := rfl
  rw [process_eq hParse, hDispatch]
  simp only [Method.bind_apply, conCheck_apply, if_pos hLogged,
    solveUnsubscribe_found hIndexed hId hSubId hFind, answerReceipt_apply, hReceipt, hReceiptId]

/-- Handlers and handed frames are those of `start`. -/
def Unanswered (start s : Server) : Prop :=
  s.cManager.connecetions = start.cManager.connecetions ∧ s.cManager.handed = start.cManager.handed

section
variable {start : Server}

theorem unanswered_parseInt (text : Text) :
    Method.Preserves (Unanswered start) (parseInt text) := by
  unfold parseInt
  split
  · exact Method.preserves_throw _
  · exact Method.preserves_pure _

theorem unanswered_onSubManager (m : Method JavaException SubscriptionManager Unit) :
    Method.Preserves (Unanswered start) (onCManager (ConnectionsManager.onSubManager m)) :=
  fun _ hs => hs

theorem unanswered_solveSubscribe (c : Int) (headers : Headers) :
    Method.Preserves (Unanswered start) (solveSubscribe c headers) := by
  unfold solveSubscribe
  split
  · exact Method.preserves_throw _
  · exact Method.preserves_throw _
  · exact Method.preserves_bind (unanswered_parseInt _) fun _ => unanswered_onSubManager _

theorem unanswered_solveUnsubscribe (c : Int) (headers : Headers) :
    Method.Preserves (Unanswered start) (solveUnsubscribe c headers) := by
  unfold solveUnsubscribe
  split
  · exact Method.preserves_throw _
  · exact Method.preserves_bind (unanswered_parseInt _) fun _ => unanswered_onSubManager _

end

theorem answerReceipt_handed {c : Int} {headers : Headers} {s t : Server}
    (hHandler : s.cManager.connecetions c = some ⟨c⟩)
    (h : answerReceipt c headers s = (.ok (), t)) :
    t.handedTo c = s.handedTo c ++ answerOf headers := by
  rw [answerReceipt_apply] at h
  unfold answerOf
  cases hReceipt : headers "receipt".toList with
  | none =>
      rw [hReceipt] at h
      cases h
      exact (List.append_nil _).symm
  | some receipt =>
      rw [hReceipt] at h
      dsimp only at h ⊢
      cases hNumber : Java.parseInt receipt with
      | none =>
          rw [hNumber] at h
          cases h
      | some receiptId =>
          rw [hNumber] at h
          cases h
          simp [handedTo, sent, ConnectionsManager.delivered_handed, hHandler]

/-- A request of a subscriber that is carried out is answered by its receipt and
by nothing else. -/
theorem request_answered {s t : Server} (hIndexed : s.Indexed) {c : Int}
    (hHandler : s.cManager.connecetions c = some ⟨c⟩) {message command body : Text}
    {headers : Headers} (hParse : parseFrame message = (headers, .ok (command, body)))
    (hCommand : command = "SUBSCRIBE".toList ∨ command = "UNSUBSCRIBE".toList ∨
      command = "DISCONNECT".toList) (h : attempt c message s = (.ok (), t)) :
    process c message s = (.ok (), t) ∧ t.handedTo c = s.handedTo c ++ answerOf headers := by
  refine ⟨by rw [process, Method.tryCatch_apply, h], ?_⟩
  have hChecked : ∀ m : Method JavaException Server Unit,
      (do conCheck c; m) s = (.ok (), t) → m s = (.ok (), t) := by
    intro m hRun
    rw [Method.bind_apply, conCheck_apply] at hRun
    by_cases hLogged : s.LoggedIn c
    · rwa [if_pos hLogged] at hRun
    · rw [if_neg hLogged] at hRun
      cases hRun
  have hSolved : ∀ m : Method JavaException Server Unit, Method.Preserves (Unanswered s) m →
      (do m; answerReceipt c headers) s = (.ok (), t) →
        t.handedTo c = s.handedTo c ++ answerOf headers := by
    intro m hKept hRun
    obtain ⟨hSame, hHanded⟩ := hKept s ⟨rfl, rfl⟩
    rw [Method.bind_apply] at hRun
    rcases hSolve : m s with ⟨e | _, mid⟩ <;> rw [hSolve] at hRun hSame hHanded
    · cases hRun
    · rw [answerReceipt_handed ((congrFun hSame c).trans hHandler) hRun, handedTo, hHanded]
      rfl
  simp only [attempt, hParse] at h
  rcases hCommand with rfl | rfl | rfl
  · exact hSolved _ (unanswered_solveSubscribe c headers)
      (hChecked (do solveSubscribe c headers; answerReceipt c headers) h)
  · exact hSolved _ (unanswered_solveUnsubscribe c headers)
      (hChecked (do solveUnsubscribe c headers; answerReceipt c headers) h)
  · have hRun := hChecked (do answerReceipt c headers; handleDisconnect c) h
    have hMid := preserves_answerReceipt headers s (show Touched c s s from ⟨hIndexed, .refl⟩)
    rw [Method.bind_apply] at hRun
    rcases hAnswer : answerReceipt c headers s with ⟨e | _, mid⟩ <;> rw [hAnswer] at hRun hMid
    · cases hRun
    · have hManager := (handleDisconnect_freed hMid.1 c).1
      obtain ⟨-, -, -, -, -, -, hHanded⟩ := ConnectionsManager.disconnect_apply hMid.1 c
      rw [← answerReceipt_handed hHandler hAnswer]
      dsimp only at hRun
      rw [hRun] at hManager
      unfold handedTo
      rw [hManager, hHanded]

end StompGames.Server
