import StompGames.Client.EventTransport
import StompGames.Client.Resilience
import StompGames.Server.SendBody

/-! An event on its whole way: the `SEND` frame that `handleReport` makes of it, the body
that the server makes of that frame, and the event that another client reads. The strings of a
client are bytes; what the server works on are the texts that it decodes them into. -/
namespace StompGames

namespace Java

theorem linesThen_flatMap {lines : List Text} (h : ∀ line ∈ lines, ∀ c ∈ line, isLineBreak c = false)
    (rest : Text) : LinesThen lines rest (lines.flatMap (· ++ ['\n']) ++ rest) := by
  induction lines with
  | nil => exact .rest rest
  | cons line lines ih =>
      obtain ⟨hLine, hLines⟩ := List.forall_mem_cons.1 h
      have hEnds : EndsLine ['\n'] (lines.flatMap (· ++ ['\n']) ++ rest) :=
        Or.inr ⟨'\n', by decide, rfl, fun hPair => absurd hPair.1 (by decide)⟩
      rw [List.flatMap_cons, List.append_assoc]
      exact .line hLine hEnds (ih hLines)

/-- Only the line breaks are lost between the pieces. -/
theorem lineBreakPieces_flatten (piece text : Text) :
    (lineBreakPieces piece text).flatten = piece ++ text.filter fun c => !isLineBreak c := by
  fun_induction lineBreakPieces piece text with
  | case1 piece => simp
  | case2 piece rest ih => simpa [isLineBreak] using ih
  | case3 piece c rest hNot hBreak ih => simp [hBreak, ih]
  | case4 piece c rest hNot hBreak ih => simp [hBreak, ih]

theorem flatten_rdropWhile (pieces : List Text) :
    (pieces.rdropWhile List.isEmpty).flatten = pieces.flatten := by
  induction pieces using List.reverseRecOn with
  | nil => rfl
  | append_singleton pieces last ih =>
      rw [List.rdropWhile_concat]
      split
      · rename_i hEmpty
        rw [ih, List.flatten_append, List.isEmpty_iff.1 hEmpty]
        simp
      · rfl

/-- Lines before the rest are kept, where the last of them is not empty. -/
theorem relined_append {lines : List Text} {last : Text}
    (h : ∀ line ∈ lines ++ [last], ∀ c ∈ line, isLineBreak c = false) (hLast : last ≠ [])
    (rest : Text) : relined ((lines ++ [last]).flatMap (· ++ ['\n']) ++ rest) =
      ['\n'].intercalate (lines ++ [last] ++ (lineBreakPieces [] rest).rdropWhile List.isEmpty) := by
  have hKept : (lines ++ [last]).rdropWhile List.isEmpty = lines ++ [last] :=
    List.rdropWhile_concat_neg _ _ _ (by simpa using hLast)
  rw [relined, (linesThen_flatMap h rest).pieces, rdropWhile_append_pieces]
  split
  · rename_i hNone
    rw [hKept, hNone, List.append_nil]
  · rfl

end Java

namespace Cpp

theorem getLines_intercalate {lines : List Text} (hNone : lines ≠ [])
    (h : ∀ line ∈ lines, '\n' ∉ line) : getLines (['\n'].intercalate lines) = lines := by
  induction lines with
  | nil => exact absurd rfl hNone
  | cons line lines ih =>
      obtain ⟨hLine, hLines⟩ := List.forall_mem_cons.1 h
      cases lines with
      | nil => rw [List.intercalate_singleton, getLines, splitLoop_of_not_mem hLine, List.nil_append]
      | cons next lines =>
          rw [List.intercalate_cons_cons, List.append_assoc, List.singleton_append,
            getLines_line hLine, ih (List.cons_ne_nil _ _) hLines]

end Cpp

namespace StompClient

open Client Imperative
open Cpp (CppException)

/-- A `SEND` frame with these contents. -/
def sendFrame (game : Text) (filePath : Option Text) (body : Text) : Text :=
  "SEND\ndestination:/".toList ++ game ++
    (match filePath with
      | some filePath => "\nfile-name:".toList ++ filePath
      | none => []) ++
    "\n\n".toList ++ body

/-- The frame of one turn of the loop of `handleReport`. Only the first names the file. -/
def reportFrame (game : Text) (filePath : Option Text) (username : Text) (e : Client.Event) :
    Text :=
  sendFrame game filePath (ConstructEventFrame username e)

theorem reportEvents_cons (env : Env) (game : Text) (filePath : Option Text) (e : Client.Event)
    (rest : List Client.Event) : reportEvents env game filePath (e :: rest) = (do
      let s ← get
      sendOrFail (reportFrame game filePath s.protocol.username e)
      addUpdate env game s.protocol.username e
      reportEvents env game none rest) := rfl

/-- The headers of the frames of `handleReport`. The file is named in that of the first event. -/
def reportHeaders (game : Text) (filePath : Option Text) : List (Text × Text) :=
  ("destination".toList, '/' :: game) ::
    (filePath.map fun filePath => ("file-name".toList, filePath)).toList

/-- A string of the client that is a text of one line for the server. -/
def OneLine (text : Text) : Prop := Cpp.IsUtf8 text ∧ SingleLine (Cpp.decoded text)

instance (text : Text) : Decidable (OneLine text) := inferInstanceAs (Decidable (_ ∧ _))

namespace OneLine
variable {text rest : Text}

theorem append (h : OneLine text) (h' : OneLine rest) : OneLine (text ++ rest) :=
  ⟨h.1.append h'.1, h.1.decoded_append h'.1 ▸ h.2.append h'.2⟩

theorem literal (hAscii : text.all (·.toNat < 0x80))
    (h : text.all (fun c => !Java.isLineBreak c && c != '\x00') = true) : OneLine text :=
  ⟨.literal hAscii, (Cpp.decoded_literal hAscii).symm ▸ .of_all h⟩

theorem newline_not_mem (h : OneLine text) : '\n' ∉ text :=
  fun hMem => h.2.newline_not_mem ((h.1.mem_decoded_iff (by decide)).2 hMem)

theorem zero_not_mem (h : OneLine text) : '\x00' ∉ text :=
  fun hMem => h.2.zero_not_mem ((h.1.mem_decoded_iff (by decide)).2 hMem)

theorem of_decimal (n : Int) : OneLine (Decimal.decimal n) := by
  have hAscii : Cpp.utf8 (Decimal.decimal n) = Decimal.decimal n :=
    Cpp.utf8_of_ascii fun c hc => Decimal.ascii_of_mem hc
  have hDecoded : Cpp.decoded (Decimal.decimal n) = Decimal.decimal n := by
    rw [← hAscii, Cpp.decoded_utf8, hAscii]
  exact ⟨hAscii ▸ .of_utf8 _, hDecoded.symm ▸ .of_decimal n⟩

end OneLine

/-- An event whose fields are single lines for the server, with keys that the client can
tell from their values. The description can have several lines. -/
structure OneLineFields (username : Text) (e : Client.Event) : Prop where
  user : OneLine username
  teamA : OneLine e.teamAName
  teamB : OneLine e.teamBName
  name : OneLine e.name
  time : -2 ^ 31 ≤ e.time ∧ e.time < 2 ^ 31
  updates : ∀ updates ∈ [e.gameUpdates, e.teamAUpdates, e.teamBUpdates],
    ∀ entry ∈ updates.entries, OneLine entry.1 ∧ OneLine entry.2 ∧ ':' ∉ entry.1
  description : Cpp.IsUtf8 e.description ∧ '\x00' ∉ e.description

section
variable {username game : Text} {e : Client.Event} {filePath : Option Text}

theorem OneLineFields.singleLineFields (h : OneLineFields username e) :
    SingleLineFields username e := by
  have hUpdates : ∀ updates ∈ [e.gameUpdates, e.teamAUpdates, e.teamBUpdates],
      SingleLineUpdates updates := by
    intro updates hMem entry hEntry
    obtain ⟨hKey, hValue, hColon⟩ := h.updates updates hMem entry hEntry
    exact ⟨hKey.newline_not_mem, hValue.newline_not_mem, hColon⟩
  exact ⟨h.user.newline_not_mem, h.teamA.newline_not_mem, h.teamB.newline_not_mem,
    h.name.newline_not_mem, h.time, hUpdates _ (by simp), hUpdates _ (by simp),
    hUpdates _ (by simp)⟩

theorem OneLineFields.reportLines (h : OneLineFields username e) :
    ∀ line ∈ reportLines username e, OneLine line := by
  have hSection : ∀ updates ∈ [e.gameUpdates, e.teamAUpdates, e.teamBUpdates],
      ∀ line ∈ sectionLines updates, OneLine line := by
    intro updates hMem line hLine
    obtain ⟨entry, hEntry, rfl⟩ := List.mem_map.1 hLine
    obtain ⟨hKey, hValue, -⟩ := h.updates updates hMem entry hEntry
    have hBlanks : OneLine "    ".toList := .literal (by decide) (by decide)
    have hColon : OneLine ": ".toList := .literal (by decide) (by decide)
    exact ((hBlanks.append hKey).append hColon).append hValue
  have hName : ∀ name : Text, name.all (·.toNat < 0x80) →
      name.all (fun c => !Java.isLineBreak c && c != '\x00') = true → ∀ value, OneLine value →
      OneLine (name ++ value) := fun _ hAscii hName _ hValue =>
    (OneLine.literal hAscii hName).append hValue
  unfold StompClient.reportLines
  simp only [List.forall_mem_append, List.forall_mem_cons]
  exact ⟨⟨⟨⟨⟨⟨⟨hName _ (by decide) (by decide) _ h.user, hName _ (by decide) (by decide) _ h.teamA,
    hName _ (by decide) (by decide) _ h.teamB, hName _ (by decide) (by decide) _ h.name,
    hName _ (by decide) (by decide) _ (.of_decimal _), .literal (by decide) (by decide), nofun⟩,
    hSection _ (by simp)⟩, .literal (by decide) (by decide), nofun⟩, hSection _ (by simp)⟩,
    .literal (by decide) (by decide), nofun⟩, hSection _ (by simp)⟩,
    .literal (by decide) (by decide), nofun⟩

theorem newline_isUtf8 : Cpp.IsUtf8 ['\n'] := .literal (by decide)

/-- The body of a report is UTF-8, and the server decodes it line by line. -/
theorem OneLineFields.decoded_body (h : OneLineFields username e) :
    Cpp.IsUtf8 (ConstructEventFrame username e) ∧
      Cpp.decoded (ConstructEventFrame username e) =
        ((StompClient.reportLines username e).map Cpp.decoded).flatMap (· ++ ['\n']) ++
          (Cpp.decoded e.description ++ ['\n']) := by
  have hNewline : Cpp.decoded ['\n'] = ['\n'] := Cpp.decoded_literal (by decide)
  have hLine : ∀ line ∈ StompClient.reportLines username e, Cpp.IsUtf8 (line ++ ['\n']) :=
    fun line hMem => (h.reportLines line hMem).1.append newline_isUtf8
  have hLines := Cpp.IsUtf8.flatMap hLine
  have hLast := h.description.1.append newline_isUtf8
  rw [ConstructEventFrame_eq]
  refine ⟨hLines.append hLast, ?_⟩
  have hDecoded : Cpp.decoded ((StompClient.reportLines username e).flatMap (· ++ ['\n'])) =
      ((StompClient.reportLines username e).map Cpp.decoded).flatMap (· ++ ['\n']) := by
    rw [Cpp.IsUtf8.decoded_flatMap hLine, List.flatMap_map]
    apply List.flatMap_congr
    intro line hMem
    rw [(h.reportLines line hMem).1.decoded_append newline_isUtf8, hNewline]
  rw [hLines.decoded_append hLast, hDecoded, h.description.1.decoded_append newline_isUtf8, hNewline]

theorem OneLineFields.zero_not_mem_body (h : OneLineFields username e) :
    '\x00' ∉ Cpp.decoded (ConstructEventFrame username e) := by
  rw [h.decoded_body.1.mem_decoded_iff (by decide), ConstructEventFrame_eq]
  intro hZero
  rcases List.mem_append.1 hZero with hZero | hZero
  · obtain ⟨line, hLine, hChar⟩ := List.mem_flatMap.1 hZero
    rcases List.mem_append.1 hChar with hChar | hChar
    · exact (h.reportLines line hLine).zero_not_mem hChar
    · exact absurd (List.mem_singleton.1 hChar) (by decide)
  · rcases List.mem_append.1 hZero with hZero | hZero
    · exact h.description.2 hZero
    · exact absurd (List.mem_singleton.1 hZero) (by decide)

/-- The lines of the description that the server hands on. -/
def descriptionLines (e : Client.Event) : List Text :=
  (Java.lineBreakPieces [] (Cpp.decoded e.description ++ ['\n'])).rdropWhile List.isEmpty

/-- The lines of the body as the server hands them on, and as a client gets them. -/
def relayedLines (username : Text) (e : Client.Event) : List Text :=
  reportLines username e ++ (descriptionLines e).map Cpp.utf8

theorem relined_body (h : OneLineFields username e) :
    Java.relined (Cpp.decoded (ConstructEventFrame username e)) =
      ['\n'].intercalate ((reportLines username e).map Cpp.decoded ++ descriptionLines e) := by
  obtain ⟨lines, hLines⟩ : ∃ lines, reportLines username e = lines ++ ["description:".toList] :=
    ⟨_, rfl⟩
  have hHeading : Cpp.decoded "description:".toList = "description:".toList :=
    Cpp.decoded_literal (by decide)
  have hDecoded : (reportLines username e).map Cpp.decoded =
      lines.map Cpp.decoded ++ ["description:".toList] := by
    rw [hLines, List.map_append, List.map_singleton, hHeading]
  have hBreaks : ∀ line ∈ lines.map Cpp.decoded ++ ["description:".toList], ∀ c ∈ line,
      Java.isLineBreak c = false := by
    rw [← hDecoded]
    intro line hMem c hc
    obtain ⟨line, hLine, rfl⟩ := List.mem_map.1 hMem
    exact ((h.reportLines line hLine).2 c hc).1
  rw [h.decoded_body.2, hDecoded, Java.relined_append hBreaks (by decide)]
  rfl

theorem newline_not_mem_descriptionLines (e : Client.Event) :
    ∀ line ∈ descriptionLines e, '\n' ∉ line := by
  intro line hLine hNewline
  have hPiece := (List.rdropWhile_prefix _ _).subset hLine
  have hBreak := (Java.mem_lineBreakPieces hPiece (List.forall_mem_nil _) _ hNewline).1
  cases hBreak

theorem getLines_relined (h : OneLineFields username e) :
    Cpp.getLines (Cpp.utf8 (Java.relined (Cpp.decoded (ConstructEventFrame username e)))) =
      relayedLines username e := by
  have hLines : ((reportLines username e).map Cpp.decoded ++ descriptionLines e).map Cpp.utf8 =
      relayedLines username e := by
    rw [List.map_append, Cpp.IsUtf8.map_utf8_decoded fun line hLine => (h.reportLines line hLine).1]
    rfl
  rw [relined_body h, Cpp.utf8_intercalate (by decide), hLines]
  apply Cpp.getLines_intercalate
  · exact List.append_ne_nil_of_left_ne_nil (List.append_ne_nil_of_right_ne_nil _ (by decide)) _
  · intro line hLine hNewline
    rcases List.mem_append.1 hLine with hLine | hLine
    · exact (h.reportLines line hLine).newline_not_mem hNewline
    · obtain ⟨line, hPiece, rfl⟩ := List.mem_map.1 hLine
      exact newline_not_mem_descriptionLines e line hPiece ((Cpp.mem_utf8_iff (by decide)).1 hNewline)

/-- An event as it arrives through the server: values end at their first colon, and the
line breaks of the description are gone. -/
def relayed (e : Client.Event) : Client.Event :=
  { received e with
    description := Cpp.utf8 ((Cpp.decoded e.description).filter fun c => !Java.isLineBreak c) }

/-- The lines after the sender's, as the client takes them apart. -/
theorem reports_relayedLines (h : OneLineFields username e) :
    Reports ((relayedLines username e).drop 1) (relayed e) := by
  have hDescription : ((descriptionLines e).map Cpp.utf8).flatten = (relayed e).description := by
    rw [← Cpp.utf8_flatten, descriptionLines, Java.flatten_rdropWhile, Java.lineBreakPieces_flatten]
    simp [relayed, Java.isLineBreak]
  have hReports := reports_append h.singleLineFields ((descriptionLines e).map Cpp.utf8)
  rw [hDescription] at hReports
  exact hReports

theorem relayed_eq_self_iff (h : Cpp.IsUtf8 e.description) :
    (keyOf username = username ∧ relayed e = e) ↔
      ColonFree username e ∧ ∀ c ∈ Cpp.decoded e.description, Java.isLineBreak c = false := by
  have hFilter : (relayed e).description = e.description ↔
      ∀ c ∈ Cpp.decoded e.description, Java.isLineBreak c = false := by
    constructor
    · intro hSame
      have hKept := congrArg Cpp.decoded hSame
      rw [relayed, Cpp.decoded_utf8, List.filter_eq_self] at hKept
      simpa only [Bool.not_eq_true'] using hKept
    · intro hBreaks
      have hKept : ((Cpp.decoded e.description).filter fun c => !Java.isLineBreak c) =
          Cpp.decoded e.description :=
        List.filter_eq_self.2 (by simpa only [Bool.not_eq_true'] using hBreaks)
      rw [relayed, hKept]
      exact h
  have hNewline : (∀ c ∈ Cpp.decoded e.description, Java.isLineBreak c = false) →
      '\n' ∉ e.description := fun hBreaks hMem =>
    absurd (hBreaks _ ((h.mem_decoded_iff (by decide)).2 hMem)) (by decide)
  have hReceived : (keyOf username = username ∧ received e = e) ↔
      ColonFree username e ∧ '\n' ∉ e.description := received_eq_self_iff
  constructor
  · rintro ⟨hUser, hSame⟩
    have hBreaks := hFilter.1 (congrArg Client.Event.description hSame)
    have hLines : (e.description.filter (· != '\n')) = e.description :=
      List.filter_eq_self.2 (Framing.bne_of_not_mem (hNewline hBreaks))
    have hOther : received e = e := by
      calc received e
          = { relayed e with description := e.description.filter (· != '\n') } := rfl
        _ = e := by rw [hSame, hLines]
    exact ⟨(hReceived.1 ⟨hUser, hOther⟩).1, hBreaks⟩
  · rintro ⟨hColon, hBreaks⟩
    obtain ⟨hUser, hOther⟩ := hReceived.2 ⟨hColon, hNewline hBreaks⟩
    refine ⟨hUser, ?_⟩
    calc relayed e
        = { received e with description := (relayed e).description } := rfl
      _ = e := by rw [hOther, hFilter.2 hBreaks]

theorem reportHeaders_ok (hGame : SingleLine game) (hFile : ∀ path ∈ filePath, SingleLine path) :
    ∀ header ∈ reportHeaders game filePath, Server.HeaderOk header := by
  intro header hMem
  rcases List.mem_cons.1 hMem with rfl | hMem
  · refine Server.HeaderOk.withValue ⟨by decide, by decide, by decide, Java.noBreak_of_any (by decide),
      List.forall_mem_nil _⟩ fun c hc => ?_
    rcases List.mem_cons.1 hc with rfl | hc
    · rfl
    · exact (hGame c hc).1
  · obtain ⟨path, hPath, rfl⟩ := Option.map_eq_some_iff.1 (Option.mem_toList.1 hMem)
    exact Server.HeaderOk.withValue ⟨by decide, by decide, by decide,
      Java.noBreak_of_any (by decide), List.forall_mem_nil _⟩ fun c hc => (hFile path hPath c hc).1

/-- The same as the lines of the frame. -/
def reportHeaderLines (game : Text) (filePath : Option Text) : List Text :=
  (reportHeaders game filePath).map fun header => header.1 ++ ':' :: header.2

theorem sendFrame_eq (game : Text) (filePath : Option Text) (body : Text) :
    sendFrame game filePath body =
      ("SEND".toList :: (reportHeaderLines game filePath ++ [[]])).flatMap (· ++ ['\n']) ++
        body := by
  have hStart : "SEND\ndestination:/".toList = "SEND".toList ++ '\n' ::
      ("destination".toList ++ [':', '/']) := by decide
  have hName : "\nfile-name:".toList = '\n' :: ("file-name".toList ++ [':']) := by decide
  have hEnd : "\n\n".toList = ['\n', '\n'] := by decide
  unfold sendFrame reportHeaderLines reportHeaders
  rw [hStart, hName, hEnd]
  cases filePath <;> simp

/-- It is a `SEND` frame to the channel of its game. -/
theorem sendText_sendFrame (hGame : SingleLine game) (hFile : ∀ path ∈ filePath, SingleLine path)
    {body : Text} (hBody : '\x00' ∉ body) :
    SendText (reportHeaderLines game filePath) body (sendFrame game filePath body) := by
  have hHeaders := reportHeaders_ok hGame hFile
  have hLines : ∀ line ∈ reportHeaderLines game filePath, line ≠ [] ∧ SingleLine line := by
    intro line hLine
    obtain ⟨header, hHeader, rfl⟩ := List.mem_map.1 hLine
    refine ⟨by simp, ?_⟩
    rcases List.mem_cons.1 hHeader with rfl | hHeader
    · have hName : SingleLine "destination:/".toList := .of_all (by decide)
      exact hName.append hGame
    · obtain ⟨path, hPath, rfl⟩ := Option.map_eq_some_iff.1 (Option.mem_toList.1 hHeader)
      have hName : SingleLine "file-name:".toList := .of_all (by decide)
      exact hName.append (hFile path hPath)
  have hAll : ∀ line ∈ "SEND".toList :: (reportHeaderLines game filePath ++ [[]]), SingleLine line := by
    refine List.forall_mem_cons.2 ⟨.of_all (by decide), List.forall_mem_append.2 ⟨?_, ?_⟩⟩
    · exact fun line hLine => (hLines line hLine).2
    · exact List.forall_mem_singleton.2 nofun
  rw [sendFrame_eq]
  refine ⟨Java.linesThen_flatMap (fun line hLine c hc => (hAll line hLine c hc).1) _,
    fun line hLine => (hLines line hLine).1, fun hZero => ?_⟩
  rcases List.mem_append.1 hZero with hZero | hZero
  · obtain ⟨line, hLine, hChar⟩ := List.mem_flatMap.1 hZero
    rcases List.mem_append.1 hChar with hChar | hChar
    · exact (hAll line hLine).zero_not_mem hChar
    · exact absurd (List.mem_singleton.1 hChar) (by decide)
  · exact hBody hZero

theorem parseFrame_sendFrame (hGame : SingleLine game)
    (hFile : ∀ path ∈ filePath, SingleLine path) {body : Text} (hBody : '\x00' ∉ body) :
    parseFrame (sendFrame game filePath body) =
      (Server.headersOf (reportHeaders game filePath), .ok ("SEND".toList, Java.relined body)) := by
  obtain ⟨left, hSplit, hLeft, hRest⟩ := (sendText_sendFrame hGame hFile hBody).splitLines
  unfold parseFrame
  rw [hSplit]
  simp only [show "SEND".toList = 'S' :: "END".toList by decide]
  rw [reportHeaderLines, Server.readHeaders_lines_left (reportHeaders_ok hGame hFile) hLeft]
  dsimp only
  rw [hRest]
  rfl

/-- The server decodes the bytes of the frame part by part. -/
theorem decoded_sendFrame (hGame : Cpp.IsUtf8 game) (hFile : ∀ path ∈ filePath, Cpp.IsUtf8 path)
    {body : Text} (hBody : Cpp.IsUtf8 body) : Cpp.decoded (sendFrame game filePath body) =
      sendFrame (Cpp.decoded game) (filePath.map Cpp.decoded) (Cpp.decoded body) := by
  have hLiteral : ∀ text : Text, text.all (·.toNat < 0x80) → Cpp.IsUtf8 text ∧
      Cpp.decoded text = text := fun text h => ⟨.literal h, Cpp.decoded_literal h⟩
  obtain ⟨hStart, hStartText⟩ := hLiteral "SEND\ndestination:/".toList (by decide)
  obtain ⟨hName, hNameText⟩ := hLiteral "\nfile-name:".toList (by decide)
  obtain ⟨hEnd, hEndText⟩ := hLiteral "\n\n".toList (by decide)
  have hTail := hEnd.append hBody
  unfold sendFrame
  cases filePath with
  | none =>
      simp only [Option.map_none, List.append_nil, List.append_assoc]
      rw [hStart.decoded_append (hGame.append hTail), hGame.decoded_append hTail,
        hEnd.decoded_append hBody, hStartText, hEndText]
  | some path =>
      have hPath := hFile path rfl
      simp only [Option.map_some, List.append_assoc]
      rw [hStart.decoded_append (hGame.append (hName.append (hPath.append hTail))),
        hGame.decoded_append (hName.append (hPath.append hTail)),
        hName.decoded_append (hPath.append hTail), hPath.decoded_append hTail,
        hEnd.decoded_append hBody, hStartText, hNameText, hEndText]

/-- A report is a `SEND` frame to the channel of its game, once the server has decoded it. -/
theorem parseFrame_reportFrame (hGame : OneLine game) (hFile : ∀ path ∈ filePath, OneLine path)
    (h : OneLineFields username e) :
    parseFrame (Cpp.decoded (reportFrame game filePath username e)) =
      (Server.headersOf (reportHeaders (Cpp.decoded game) (filePath.map Cpp.decoded)),
        .ok ("SEND".toList,
          Java.relined (Cpp.decoded (ConstructEventFrame username e)))) := by
  have hPaths : ∀ path ∈ filePath.map Cpp.decoded, SingleLine path := by
    intro path hMem
    obtain ⟨bytes, hBytes, rfl⟩ := Option.map_eq_some_iff.1 hMem
    exact (hFile bytes hBytes).2
  rw [reportFrame, decoded_sendFrame hGame.1 (fun path hPath => (hFile path hPath).1)
    h.decoded_body.1]
  exact parseFrame_sendFrame hGame.2 hPaths h.zero_not_mem_body

theorem reportHeaders_values (game : Text) (filePath : Option Text) :
    Server.headersOf (reportHeaders game filePath) "destination".toList = some ('/' :: game) ∧
      Server.headersOf (reportHeaders game filePath) "receipt".toList = none := by
  cases filePath with
  | none => exact ⟨by rfl, by rfl⟩
  | some path => exact ⟨by rfl, by rfl⟩

end

end StompClient
end StompGames
