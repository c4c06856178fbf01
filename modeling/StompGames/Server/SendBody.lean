import StompGames.Server.Broadcast
import StompGames.Server.FrameLayout

/-! What becomes of the body of a `SEND` frame. It is cut into lines at line breaks of
every kind, trailing empty lines are dropped, and newlines join the others again. -/
namespace StompGames

open Imperative

namespace Java

/-- `ending` is one line break of a text that goes on with `rest`. -/
def EndsLine (ending rest : Text) : Prop :=
  ending = ['\r', '\n'] ∨ ∃ c, isLineBreak c = true ∧ ending = [c] ∧
    ¬(c = '\r' ∧ rest.head? = some '\n')

theorem lineBreakPieces_ending {ending rest : Text} (h : EndsLine ending rest) (piece : Text) :
    lineBreakPieces piece (ending ++ rest) = piece :: lineBreakPieces [] rest := by
  rcases h with rfl | ⟨c, hBreak, rfl, hPair⟩
  · rfl
  · have hSingle : ∀ tail, c = '\r' → rest = '\n' :: tail → False := by
      intro tail hc hRest
      exact hPair ⟨hc, by rw [hRest]; rfl⟩
    rw [List.singleton_append, lineBreakPieces.eq_3 _ _ _ hSingle, if_pos hBreak]

/-- A text of lines, each ended by a line break, and of what follows them. -/
inductive LinesThen : List Text → Text → Text → Prop where
  | rest (text : Text) : LinesThen [] text text
  | line {line ending text rest : Text} {lines : List Text}
      (noBreak : ∀ c ∈ line, isLineBreak c = false) (ends : EndsLine ending text)
      (following : LinesThen lines rest text) :
      LinesThen (line :: lines) rest (line ++ ending ++ text)

theorem LinesThen.pieces {lines : List Text} {rest text : Text} (h : LinesThen lines rest text) :
    lineBreakPieces [] text = lines ++ lineBreakPieces [] rest := by
  induction h with
  | rest text => rfl
  | line noBreak ends following ih =>
      rw [List.append_assoc, lineBreakPieces_append noBreak, lineBreakPieces_ending ends, ih]
      rfl

theorem lineBreakPieces_ne_nil (piece text : Text) : lineBreakPieces piece text ≠ [] := by
  fun_induction lineBreakPieces piece text with
  | case1 piece => exact List.cons_ne_nil _ _
  | case2 piece rest ih => exact List.cons_ne_nil _ _
  | case3 piece c rest hNot hBreak ih => exact List.cons_ne_nil _ _
  | case4 piece c rest hNot hBreak ih => exact ih

/-- Pieces that only newlines separate are joined to the text again. -/
theorem intercalate_lineBreakPieces {piece text : Text}
    (h : ∀ c ∈ text, isLineBreak c = true → c = '\n') :
    ['\n'].intercalate (lineBreakPieces piece text) = piece ++ text := by
  fun_induction lineBreakPieces piece text with
  | case1 piece => simp
  | case2 piece rest ih => exact absurd (h '\r' List.mem_cons_self (by decide)) (by decide)
  | case3 piece c rest hNot hBreak ih =>
      obtain rfl := h c List.mem_cons_self hBreak
      obtain ⟨next, others, hPieces⟩ :=
        List.exists_cons_of_ne_nil (lineBreakPieces_ne_nil [] rest)
      have hRest := ih fun d hd => h d (List.mem_cons_of_mem _ hd)
      rw [hPieces] at hRest ⊢
      rw [List.intercalate_cons_cons, hRest, List.nil_append, List.append_assoc]
      rfl
  | case4 piece c rest hNot hBreak ih =>
      rw [ih fun d hd => h d (List.mem_cons_of_mem _ hd), List.append_assoc, List.singleton_append]

theorem intercalate_concat {separator : Char} {lines : List Text} (h : lines ≠ []) (last : Text) :
    [separator].intercalate (lines ++ [last]) =
      [separator].intercalate lines ++ separator :: last := by
  induction lines with
  | nil => exact absurd rfl h
  | cons line rest ih =>
      cases rest with
      | nil => simp
      | cons next rest =>
          have hRest := ih (List.cons_ne_nil _ _)
          rw [List.cons_append, List.cons_append, List.intercalate_cons_cons,
            ← List.cons_append, hRest, List.intercalate_cons_cons]
          simp only [List.append_assoc]

/-- What `split` and joining the lines again make of a text. -/
def relined (text : Text) : Text :=
  ['\n'].intercalate ((lineBreakPieces [] text).rdropWhile List.isEmpty)

/-- A text whose line breaks are newlines, and that does not end with one. -/
def Reversible (text : Text) : Prop :=
  (∀ c ∈ text, isLineBreak c = true → c = '\n') ∧ text.getLast? ≠ some '\n'

theorem reversible_of_all {text : Text}
    (hBreaks : (text.all fun c => !isLineBreak c || c == '\n') = true)
    (hLast : text.getLast? ≠ some '\n') : Reversible text := by
  refine ⟨fun c hMem hBreak => ?_, hLast⟩
  have hHere := List.all_eq_true.1 hBreaks c hMem
  rw [hBreak] at hHere
  exact eq_of_beq hHere

theorem Reversible.relined {text : Text} (h : Reversible text) : relined text = text := by
  have hJoined : ['\n'].intercalate (lineBreakPieces [] text) = [] ++ text :=
    intercalate_lineBreakPieces h.1
  rw [List.nil_append] at hJoined
  obtain hNone | ⟨lines, last, hPieces⟩ := List.eq_nil_or_concat' (lineBreakPieces [] text)
  · exact absurd hNone (lineBreakPieces_ne_nil [] text)
  · unfold Java.relined
    rw [hPieces] at hJoined ⊢
    by_cases hLast : last = []
    · subst hLast
      cases lines with
      | nil => exact hJoined
      | cons line lines =>
          rw [intercalate_concat (List.cons_ne_nil _ _)] at hJoined
          refine absurd ?_ h.2
          rw [← hJoined, List.getLast?_append]
          rfl
    · rw [List.rdropWhile_concat_neg _ _ _ (by simpa using hLast), hJoined]

theorem reversible_of_relined {text : Text} (h : relined text = text) : Reversible text := by
  have hBreak : ∀ line ∈ (lineBreakPieces [] text).rdropWhile List.isEmpty, ∀ c ∈ line,
      isLineBreak c = false := by
    intro line hLine c hc
    have hPiece := (List.rdropWhile_prefix _ _).subset hLine
    exact (mem_lineBreakPieces hPiece (List.forall_mem_nil _) c hc).1
  unfold relined at h
  constructor
  · intro c hc hSplits
    rw [← h] at hc
    obtain hNewline | ⟨line, hLine, hc⟩ := mem_intercalate hc
    · exact hNewline
    · rw [hBreak line hLine c hc] at hSplits
      cases hSplits
  · intro hEnd
    obtain hNone | ⟨lines, last, hKept⟩ :=
      List.eq_nil_or_concat' ((lineBreakPieces [] text).rdropWhile List.isEmpty)
    · rw [hNone] at h
      rw [← h] at hEnd
      cases hEnd
    · have hLast : last ≠ [] := by
        intro hEmpty
        have hNot := List.rdropWhile_last_not List.isEmpty (lineBreakPieces [] text)
          (by rw [hKept]; exact List.concat_ne_nil _ _)
        simp only [hKept, List.getLast_append_singleton, hEmpty] at hNot
        exact hNot rfl
      have hTail : text.getLast? = last.getLast? := by
        rw [← h, hKept]
        cases lines with
        | nil => simp
        | cons line lines =>
            obtain ⟨c, tail, rfl⟩ := List.exists_cons_of_ne_nil hLast
            rw [intercalate_concat (List.cons_ne_nil _ _), List.getLast?_append,
              List.getLast?_cons_cons, List.getLast?_cons, Option.some_or]
      have hMem : '\n' ∈ last := List.mem_of_getLast? (hTail ▸ hEnd)
      have hFalse := hBreak last (by rw [hKept]; simp) _ hMem
      cases hFalse

/-- Exactly such texts come back as they are. -/
theorem relined_eq_iff (text : Text) : relined text = text ↔ Reversible text :=
  ⟨reversible_of_relined, Reversible.relined⟩

theorem LinesThen.mem {lines : List Text} {rest text : Text} (h : LinesThen lines rest text) :
    ∀ line ∈ lines, ∀ c ∈ line, c ∈ text := by
  induction h with
  | rest text => exact List.forall_mem_nil _
  | line noBreak ends following ih =>
      refine List.forall_mem_cons.2 ⟨?_, ?_⟩
      · intro c hc
        exact List.mem_append_left _ (List.mem_append_left _ hc)
      · intro other hOther c hc
        exact List.mem_append_right _ (ih other hOther c hc)

theorem rdropWhile_append_pieces (lines pieces : List Text) :
    (lines ++ pieces).rdropWhile List.isEmpty =
      if pieces.rdropWhile List.isEmpty = [] then lines.rdropWhile List.isEmpty
      else lines ++ pieces.rdropWhile List.isEmpty := by
  induction pieces using List.reverseRecOn with
  | nil => simp
  | append_singleton pieces last ih =>
      rw [← List.append_assoc, List.rdropWhile_concat, List.rdropWhile_concat]
      by_cases hLast : last.isEmpty = true
      · rw [if_pos hLast, if_pos hLast, ih]
      · rw [if_neg hLast, if_neg hLast, if_neg (List.concat_ne_nil _ _), List.append_assoc]

end Java

/-- A `SEND` frame: the command line, header lines, an empty line and then `b`. -/
structure SendText (headerLines : List Text) (b message : Text) : Prop where
  lines : Java.LinesThen ("SEND".toList :: (headerLines ++ [[]])) b message
  header : ∀ line ∈ headerLines, line ≠ []
  nul : '\x00' ∉ message

/-- `split` keeps the empty line just where it keeps a line of `b`. -/
theorem SendText.splitLines {headerLines : List Text} {b message : Text}
    (h : SendText headerLines b message) : ∃ left, Java.splitLines message =
      "SEND".toList :: (headerLines ++ left) ∧ (left = [] ∨ left.head? = some []) ∧
        ['\n'].intercalate (left.drop 1) = Java.relined b := by
  have hNonempty : ∀ line ∈ "SEND".toList :: headerLines, ¬line.isEmpty = true := by
    refine List.forall_mem_cons.2 ⟨?_, ?_⟩
    · decide
    · intro line hLine hEmpty
      exact h.header line hLine (List.isEmpty_iff.1 hEmpty)
  have hKept : ("SEND".toList :: headerLines).rdropWhile List.isEmpty =
      "SEND".toList :: headerLines :=
    List.rdropWhile_eq_self_iff.2 fun hl => hNonempty _ (List.getLast_mem hl)
  have hSplit : Java.splitLines message =
      ("SEND".toList :: (headerLines ++ [[]]) ++ Java.lineBreakPieces [] b).rdropWhile
        List.isEmpty := by
    unfold Java.splitLines
    rw [h.lines.pieces]
    split
    · rename_i whole hOne
      have hLength := congrArg List.length hOne
      simp at hLength
    · rfl
  rw [hSplit, Java.rdropWhile_append_pieces]
  by_cases hNone : (Java.lineBreakPieces [] b).rdropWhile List.isEmpty = []
  · refine ⟨[], ?_, Or.inl rfl, ?_⟩
    · rw [if_pos hNone, ← List.cons_append, List.rdropWhile_concat_pos _ _ _ rfl, hKept,
        List.append_nil]
    · unfold Java.relined
      rw [hNone]
      rfl
  · refine ⟨[] :: (Java.lineBreakPieces [] b).rdropWhile List.isEmpty, ?_, Or.inr rfl, rfl⟩
    rw [if_neg hNone, List.cons_append, List.append_assoc]
    rfl

/-- Reading stops behind the header lines. -/
theorem readHeaders_left {headerLines left : List Text}
    (hHeader : ∀ line ∈ headerLines, line ≠ [] ∧ '\x00' ∉ line)
    (hLeft : left = [] ∨ left.head? = some []) {headers : Headers} {rest : List Text}
    (h : (readHeaders headers (headerLines ++ left)).2 = .ok rest) : rest = left := by
  induction headerLines generalizing headers with
  | nil =>
      rcases hLeft with rfl | hHead
      · exact (Except.ok.inj h).symm
      · obtain ⟨lines, rfl⟩ : ∃ lines, left = [] :: lines := by
          cases left with
          | nil => cases hHead
          | cons line lines => exact ⟨lines, by rw [Option.some.inj hHead]⟩
        exact (Except.ok.inj h).symm
  | cons line headerLines ih =>
      obtain ⟨⟨hLine, hNul⟩, hRest⟩ := List.forall_mem_cons.1 hHeader
      have hGoesOn : ¬(line.isEmpty || line.head? == some '\x00') = true := by
        intro hStops
        rcases Bool.or_eq_true_iff.1 hStops with hEmpty | hZero
        · exact hLine (List.isEmpty_iff.1 hEmpty)
        · exact hNul (List.mem_of_head? (eq_of_beq hZero))
      rw [List.cons_append, readHeaders, if_neg hGoesOn] at h
      split at h
      · exact ih hRest h
      · cases h

theorem SendText.parsed {headerLines : List Text} {b message : Text}
    (h : SendText headerLines b message) {headers : Headers} {command body : Text}
    (hParse : parseFrame message = (headers, .ok (command, body))) :
    command = "SEND".toList ∧ body = Java.relined b := by
  obtain ⟨left, hSplit, hLeft, hBody⟩ := h.splitLines
  have hHeader : ∀ line ∈ headerLines, line ≠ [] ∧ '\x00' ∉ line := by
    intro line hLine
    refine ⟨h.header line hLine, fun hZero => h.nul ?_⟩
    exact h.lines.mem line (List.mem_cons_of_mem _ (List.mem_append_left _ hLine)) _ hZero
  unfold parseFrame at hParse
  rw [hSplit] at hParse
  simp only [show "SEND".toList = 'S' :: "END".toList by decide] at hParse
  rcases hRead : readHeaders (fun _ => none) (headerLines ++ left) with ⟨read, e | rest⟩ <;>
    rw [hRead] at hParse
  · cases hParse
  · have hRest := readHeaders_left hHeader hLeft (by rw [hRead])
    cases hParse
    exact ⟨by decide, by rw [hRest, hBody]⟩

/-- What follows the first empty line. -/
def afterEmptyLine : Text → Text
  | '\n' :: '\n' :: rest => rest
  | _ :: rest => afterEmptyLine rest
  | [] => []

/-- The body of a frame: what follows the first empty line, up to the last character. -/
def frameBody (frame : Text) : Text := (afterEmptyLine frame).dropLast

theorem afterEmptyLine_line {line : Text} (hLine : '\n' ∉ line) (text : Text) :
    afterEmptyLine (line ++ '\n' :: text) = afterEmptyLine ('\n' :: text) := by
  induction line with
  | nil => rfl
  | cons c line ih =>
      obtain ⟨hc, hRest⟩ := List.ne_and_not_mem_of_not_mem_cons hLine
      rw [List.cons_append, afterEmptyLine.eq_2 _ _ (fun _ h _ => hc h.symm), ih hRest]

theorem afterEmptyLine_lines {lines : List Text} (hNone : lines ≠ [])
    (h : ∀ line ∈ lines, line ≠ [] ∧ SingleLine line) (rest : Text) :
    afterEmptyLine (lines.flatMap (· ++ ['\n']) ++ '\n' :: rest) = rest := by
  induction lines with
  | nil => exact absurd rfl hNone
  | cons line lines ih =>
      obtain ⟨⟨-, hSingle⟩, hLines⟩ := List.forall_mem_cons.1 h
      rw [List.flatMap_cons, List.append_assoc, List.append_assoc, List.singleton_append,
        afterEmptyLine_line hSingle.newline_not_mem]
      cases lines with
      | nil => rfl
      | cons next lines =>
          obtain ⟨⟨hNext, hNextLine⟩, -⟩ := List.forall_mem_cons.1 hLines
          obtain ⟨c, tail, rfl⟩ := List.exists_cons_of_ne_nil hNext
          have hc : c ≠ '\n' := by
            rintro rfl
            exact hNextLine.newline_not_mem List.mem_cons_self
          have hSkip : ∀ text : Text, afterEmptyLine ('\n' :: c :: text) =
              afterEmptyLine (c :: text) :=
            fun text => afterEmptyLine.eq_2 _ _ fun _ _ hSame => hc (List.cons.inj hSame).1
          exact (hSkip _).trans (ih (List.cons_ne_nil _ _) hLines)

/-- The first line of a frame. -/
def frameCommand (frame : Text) : Text := frame.takeWhile (· != '\n')

theorem Composed.frameCommand {frame body : Text} {lines : List Text}
    (h : Composed frame lines body) : lines.head? = some (StompGames.frameCommand frame) := by
  have hSingle := h.singleLine
  rw [h.eq_frameText]
  cases lines with
  | nil => cases h
  | cons line lines =>
      have hLine : '\n' ∉ line := (hSingle line List.mem_cons_self).2.newline_not_mem
      rw [frameText, List.flatMap_cons, List.append_assoc, List.append_assoc,
        List.singleton_append]
      exact congrArg some (Framing.upTo_append hLine _).symm

theorem Composed.frameBody {frame body : Text} {lines : List Text} (h : Composed frame lines body)
    : StompGames.frameBody frame = body := by
  have hLines : lines ≠ [] := by cases h <;> exact List.cons_ne_nil _ _
  rw [h.eq_frameText, StompGames.frameBody, frameText, afterEmptyLine_lines hLines h.singleLine,
    List.dropLast_concat]

namespace Server

/-- A `SEND` that returns has broadcast its body. -/
theorem solveSend_ok {s : Server} {c : Int} {headers : Headers} {channel body : Text}
    (hDest : headers "destination".toList = some channel)
    (h : (solveSend c headers body s).1 = .ok ()) :
    ∃ db, solveSend c headers body s = (.ok (), s.broadcasted db channel body) := by
  obtain ⟨other, db, hOther, -, -, hRun⟩ | ⟨e, db, hThrown, -⟩ := solveSend_cases c headers body s
  · obtain rfl := Option.some.inj (hDest.symm.trans hOther)
    exact ⟨db, hRun⟩
  · rw [hThrown] at h
    cases h

/-- An accepted `SEND` hands out its broadcast and then at most a receipt. -/
theorem accepted_send_handed {s : Server} {c : Int} {message body channel : Text}
    {headers : Headers} (hParse : parseFrame message = (headers, .ok ("SEND".toList, body)))
    (hAccepted : (attempt c message s).1 = .ok ())
    (hDest : headers "destination".toList = some channel) :
    ∃ receipts, (process c message s).2.cManager.handed = s.cManager.handed ++
        (s.cManager.broadcastFrames channel body ++ receipts) ∧
      ∀ entry ∈ receipts, ∃ receiptId, entry.2 = receiptFrame receiptId := by
  have hDispatch : attempt c message s =
      (do conCheck c; solveSend c headers body; answerReceipt c headers) s := by
    simp only [attempt, hParse]
    rfl
  have hProcess : process c message s = attempt c message s := by
    have hReturns : attempt c message s = (.ok (), (attempt c message s).2) :=
      Prod.ext hAccepted rfl
    rw [process, Method.tryCatch_apply, hReturns]
  rw [hProcess]
  rw [hDispatch] at hAccepted ⊢
  by_cases hLogged : s.LoggedIn c
  · rcases hSend : solveSend c headers body s with ⟨e | done, t⟩
    · simp only [Method.bind_apply, conCheck_apply, if_pos hLogged, hSend] at hAccepted
      cases hAccepted
    · obtain ⟨db, hBroadcast⟩ := solveSend_ok hDest (by rw [hSend])
      obtain ⟨-, rfl⟩ := Prod.mk.inj (hSend.symm.trans hBroadcast)
      simp only [Method.bind_apply, conCheck_apply, if_pos hLogged, hSend,
        answerReceipt_apply] at hAccepted ⊢
      split at hAccepted
      · exact ⟨[], by rw [List.append_nil]; rfl, List.forall_mem_nil _⟩
      · split at hAccepted
        · cases hAccepted
        · rename_i receiptId _
          refine ⟨_, (ConnectionsManager.delivered_handed c (receiptFrame receiptId) _).trans
            (List.append_assoc ..), fun entry hEntry => ?_⟩
          obtain ⟨handler, -, rfl⟩ := Option.map_eq_some_iff.1 (Option.mem_toList.1 hEntry)
          exact ⟨receiptId, rfl⟩
  · simp only [Method.bind_apply, conCheck_apply, if_neg hLogged] at hAccepted
    cases hAccepted

/-- The `MESSAGE` frames among those handed out between two states. -/
def emittedMessages (s t : Server) : List Text :=
  ((t.cManager.handed.drop s.cManager.handed.length).map Prod.snd).filter
    (frameCommand · = "MESSAGE".toList)

theorem emittedMessages_send {s t : Server} {channel body : Text} (hChannel : SingleLine channel)
    (hNul : '\x00' ∉ body)
    {receipts : List (ConnectionHandler × Text)}
    (hHanded : t.cManager.handed = s.cManager.handed ++
      (s.cManager.broadcastFrames channel body ++ receipts))
    (hReceipts : ∀ entry ∈ receipts, ∃ receiptId, entry.2 = receiptFrame receiptId) :
    s.emittedMessages t = (s.cManager.broadcastFrames channel body).map Prod.snd := by
  have hNone : (receipts.map Prod.snd).filter (frameCommand · = "MESSAGE".toList) = [] := by
    rw [List.filter_eq_nil_iff]
    intro frame hFrame
    obtain ⟨entry, hEntry, rfl⟩ := List.mem_map.1 hFrame
    obtain ⟨receiptId, hReceipt⟩ := hReceipts entry hEntry
    rw [hReceipt, ← Option.some.inj (Composed.receipt receiptId).frameCommand]
    decide
  have hAll : ((s.cManager.broadcastFrames channel body).map Prod.snd).filter
      (frameCommand · = "MESSAGE".toList) =
        (s.cManager.broadcastFrames channel body).map Prod.snd := by
    rw [List.filter_eq_self]
    intro frame hFrame
    obtain ⟨entry, hEntry, rfl⟩ := List.mem_map.1 hFrame
    obtain ⟨sub, -, hSub⟩ := List.mem_filterMap.1 hEntry
    obtain ⟨handler, -, rfl⟩ := Option.map_eq_some_iff.1 hSub
    rw [← Option.some.inj (Composed.message sub.subId _ hChannel hNul).frameCommand]
    decide
  rw [emittedMessages, hHanded, List.drop_left, List.map_append, List.filter_append, hAll, hNone,
    List.append_nil]

/-- What an accepted `SEND` frame makes of its body, and who receives it. -/
theorem emitted_of_sendText {s : Server} {c : Int} {headerLines : List Text}
    {b message channel : Text} (hFrame : SendText headerLines b message)
    (hAccepted : (attempt c message s).1 = .ok ())
    (hDest : (parseFrame message).1 "destination".toList = some channel) :
    s.emittedMessages (process c message s).2 =
        (s.cManager.broadcastFrames channel (Java.relined b)).map Prod.snd ∧
      ∀ frame ∈ s.emittedMessages (process c message s).2, frameBody frame = Java.relined b := by
  rcases hParse : parseFrame message with ⟨headers, e | ⟨command, body⟩⟩
  · rw [attempt, hParse] at hAccepted
    cases hAccepted
  · obtain ⟨rfl, rfl⟩ := hFrame.parsed hParse
    obtain ⟨hHeaders, hOk, -⟩ := parseFrame_singleLine hFrame.nul
    rw [hParse] at hDest hHeaders hOk
    have hChannel : SingleLine channel := hHeaders _ _ hDest
    have hNul : '\x00' ∉ Java.relined b := (hOk _ _ rfl).2
    obtain ⟨receipts, hHanded, hReceipts⟩ := accepted_send_handed hParse hAccepted hDest
    have hEmitted := emittedMessages_send hChannel hNul hHanded hReceipts
    refine ⟨hEmitted, fun frame hMem => ?_⟩
    rw [hEmitted] at hMem
    obtain ⟨entry, hEntry, rfl⟩ := List.mem_map.1 hMem
    obtain ⟨sub, -, hSub⟩ := List.mem_filterMap.1 hEntry
    obtain ⟨handler, -, rfl⟩ := Option.map_eq_some_iff.1 hSub
    exact (Composed.message _ _ hChannel hNul).frameBody

/-- A broadcast reaches nobody just where no subscriber has a handler. -/
theorem broadcastFrames_eq_nil_iff (m : ConnectionsManager) (channel body : Text) :
    m.broadcastFrames channel body = [] ↔
      ∀ sub ∈ m.subManager.ofChannel channel, m.connecetions sub.conId = none := by
  unfold ConnectionsManager.broadcastFrames
  rw [List.filterMap_eq_nil_iff]
  simp only [Option.map_eq_none_iff]

/-- The body of an accepted `SEND` frame comes out as it went in just where it has no
line breaks but newlines, and none at its end, or where nobody receives it. -/
theorem send_verbatim_iff {s : Server} {c : Int} {headerLines : List Text}
    {b message channel : Text} (hFrame : SendText headerLines b message)
    (hAccepted : (attempt c message s).1 = .ok ())
    (hDest : (parseFrame message).1 "destination".toList = some channel) :
    (∀ frame ∈ s.emittedMessages (process c message s).2, frameBody frame = b) ↔
      Java.Reversible b ∨ ∀ sub ∈ s.cManager.subManager.ofChannel channel,
        s.cManager.connecetions sub.conId = none := by
  obtain ⟨hEmitted, hBody⟩ := emitted_of_sendText hFrame hAccepted hDest
  rw [← Java.relined_eq_iff, ← broadcastFrames_eq_nil_iff _ _ (Java.relined b)]
  constructor
  · intro h
    by_cases hSilent : s.cManager.broadcastFrames channel (Java.relined b) = []
    · exact Or.inr hSilent
    · obtain ⟨entry, hEntry⟩ := List.exists_mem_of_ne_nil _ hSilent
      have hMem : entry.2 ∈ s.emittedMessages (process c message s).2 := by
        rw [hEmitted]
        exact List.mem_map_of_mem hEntry
      exact Or.inl ((hBody entry.2 hMem).symm.trans (h entry.2 hMem))
  · rintro (hSame | hSilent) frame hMem
    · exact (hBody frame hMem).trans hSame
    · rw [hEmitted, hSilent] at hMem
      cases hMem

/-- Lines that only newlines end. -/
theorem endsLine_newline (rest : Text) : Java.EndsLine ['\n'] rest :=
  Or.inr ⟨'\n', by decide, rfl, fun h => absurd h.1 (by decide)⟩

/-- A frame with one header line. -/
theorem sendText_goal (b : Text) (hNul : '\x00' ∉ b) :
    SendText ["destination:/a".toList] b ("SEND\ndestination:/a\n\n".toList ++ b) where
  lines := by
    have hLines : "SEND\ndestination:/a\n\n".toList ++ b = "SEND".toList ++ ['\n'] ++
        ("destination:/a".toList ++ ['\n'] ++ ([] ++ ['\n'] ++ b)) := by
      rw [show "SEND\ndestination:/a\n\n".toList = "SEND".toList ++ ['\n'] ++
        ("destination:/a".toList ++ ['\n'] ++ ['\n']) by decide]
      simp only [List.append_assoc, List.nil_append]
    rw [hLines]
    exact .line (Java.noBreak_of_any (by decide)) (endsLine_newline _)
      (.line (Java.noBreak_of_any (by decide)) (endsLine_newline _)
        (.line (List.forall_mem_nil _) (endsLine_newline _) (.rest b)))
  header := by decide
  nul := by
    intro hMem
    rcases List.mem_append.1 hMem with hMem | hMem
    · exact absurd hMem (by decide)
    · exact hNul hMem

/-- A subscriber sends such a frame. -/
theorem accepted_goal {s : Server} {b : Text}
    (h : (attempt 1 ("SEND\ndestination:/a\n\n".toList ++ b) s).1.isOk = true)
    (hDest : (parseFrame ("SEND\ndestination:/a\n\n".toList ++ b)).1 "destination".toList ==
      some "/a".toList) :
    (attempt 1 ("SEND\ndestination:/a\n\n".toList ++ b) s).1 = .ok () ∧
      (parseFrame ("SEND\ndestination:/a\n\n".toList ++ b)).1 "destination".toList =
        some "/a".toList :=
  ⟨Method.eq_ok_of_isOk h, eq_of_beq hDest⟩

/-- A report of two goals, with an empty line between them. -/
def goals : Text := "user:meni\nevent name:goal\n\nevent name:goal".toList

/-- Both subscribers are sent it as it is. -/
theorem send_verbatim_goals :
    (attempt 1 ("SEND\ndestination:/a\n\n".toList ++ goals) twoSubscribers).1 = .ok () ∧
      ∀ frame ∈ twoSubscribers.emittedMessages
        (process 1 ("SEND\ndestination:/a\n\n".toList ++ goals) twoSubscribers).2,
        frameBody frame = goals := by
  obtain ⟨hAccepted, hDest⟩ := accepted_goal (s := twoSubscribers) (b := goals) (by decide +kernel)
    (by decide +kernel)
  exact ⟨hAccepted, (send_verbatim_iff (sendText_goal _ (by decide)) hAccepted hDest).2
    (Or.inl (Java.reversible_of_all (by decide) (by decide)))⟩

/-- The line break at the end of a body is lost: `split` has no piece behind it, and the lines
are joined again. -/
theorem send_not_verbatim : ¬∀ s, Transition.Reachable Started step s →
    ∀ c headerLines b message, '\x00' ∉ b → SendText headerLines b message →
      (attempt c message s).1 = .ok () →
      ∀ frame ∈ s.emittedMessages (process c message s).2, frameBody frame = b := by
  intro h
  have hReachable : Transition.Reachable Started step oneSubscriber :=
    ⟨.new true fun _ => .reply [], [.accept 1, .process 1 (connectFrame "meni" "films"),
      .process 1 "SUBSCRIBE\nid:7\ndestination:/a\n\n".toList], ⟨true, _, rfl⟩, rfl⟩
  have hFrame := sendText_goal "goal\n".toList (by decide)
  obtain ⟨hAccepted, hDest⟩ := accepted_goal (s := oneSubscriber) (b := "goal\n".toList)
    (by decide +kernel) (by decide +kernel)
  have hAll := h _ hReachable 1 _ _ _ (by decide) hFrame hAccepted
  obtain ⟨hEmitted, hBody⟩ := emitted_of_sendText hFrame hAccepted hDest
  have hSome : oneSubscriber.cManager.broadcastFrames "/a".toList
      (Java.relined "goal\n".toList) ≠ [] := by decide +kernel
  obtain ⟨entry, hEntry⟩ := List.exists_mem_of_ne_nil _ hSome
  have hMem := List.mem_map_of_mem (f := Prod.snd) hEntry
  rw [← hEmitted] at hMem
  exact absurd ((hBody _ hMem).symm.trans (hAll _ hMem)) (by decide)

end Server
end StompGames
