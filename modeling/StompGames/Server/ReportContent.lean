import StompGames.Lib.Framing
import StompGames.Server.ReportRows
import Mathlib.Data.List.GetD

/-! When the report shows what is stored. -/
namespace StompGames.ServerReport

open Database Python Imperative

variable {isPrintable : Char → Bool}

/-- The entries of one section, as they are read from the reply. -/
def readEntries (least : Nat) (body : List Text → List Text) (result : Text) : List Entry :=
  ((Java.split ['|'] result).drop 1).filterMap (entryOf least body)

/-- An entry that is read from a reply has at least the parts that the loop asks for, and none of
them has a separator in it. -/
theorem mem_readEntries {least : Nat} {body : List Text → List Text} {result : Text} {e : Entry}
    (h : e ∈ readEntries least body result) :
    ∃ fields, least ≤ fields.length ∧ (∀ field ∈ fields, Plain field) ∧
      e = ⟨fields.getD 0 [], body fields⟩ := by
  obtain ⟨part, hPart, hEntry⟩ := List.mem_filterMap.1 h
  have hPipe := pipe_not_mem_of_mem_split (List.mem_of_mem_drop hPart)
  unfold entryOf at hEntry
  split at hEntry
  · rename_i hLeast
    cases hEntry
    exact ⟨fieldsOf part, hLeast, fun field hField => plain_of_mem_fieldsOf hPipe hField, rfl⟩
  · cases hEntry

section
variable {least k : Nat} {body : List Text → List Text} {nothing : Text} {rows : List Text}
  {others : List Entry}

theorem sectionLines_replyOf : sectionLines nothing (rowLines least body []) (replyOf rows) =
    if 1 < (Java.split ['|'] (replyOf rows)).length then
      headed (some []) (readEntries least body (replyOf rows))
    else [nothing] := by
  have hStarts : "SUCCESS".toList.isPrefixOf (replyOf rows) = true :=
    List.isPrefixOf_iff_prefix.2 (List.prefix_append _ _)
  rw [sectionLines, if_pos hStarts]
  dsimp only
  rw [rowLines_eq]
  rfl

/-- A section that shows the entries has read them. -/
theorem readEntries_of_section (hBody : ∀ fields, Entry.Proper ⟨[], body fields⟩ k)
    (hOthers : ∀ e ∈ others, e.Proper k) (hNothing : ¬userLabel <+: nothing) (hSome : others ≠ [])
    (h : sectionLines nothing (rowLines least body []) (replyOf rows) = stored nothing others) :
    readEntries least body (replyOf rows) = others ∧ ∀ e ∈ others.head?, e.user ≠ [] := by
  have hStored : stored nothing others = headed none others := by simp [stored, hSome]
  have hEntries : ∀ e ∈ readEntries least body (replyOf rows), e.Proper k := by
    intro e hMem
    obtain ⟨fields, -, -, rfl⟩ := mem_readEntries hMem
    exact hBody fields
  rw [sectionLines_replyOf, hStored] at h
  split at h
  · exact (headed_empty_eq_iff hEntries hOthers hSome).1 h
  · obtain ⟨other, rest, rfl⟩ := List.exists_cons_of_ne_nil hSome
    rw [headed, if_neg (Option.some_ne_none _).symm] at h
    have hHeading : nothing = userLabel ++ other.user := (List.cons.inj h).1
    exact absurd (hHeading ▸ List.prefix_append _ _) hNothing

/-- The parts of a reply. Each row ends with the separator and is followed by another one, so an
empty part stands behind each, but for the last ones that `split` drops. -/
theorem split_replyOf (h : ∀ row ∈ rows, '|' ∉ row) (hSome : rows ≠ []) :
    Java.split ['|'] (replyOf rows) = "SUCCESS".toList ::
      (rows.flatMap fun row => [row, []]).rdropWhile List.isEmpty := by
  obtain ⟨row, rest, rfl⟩ := List.exists_cons_of_ne_nil hSome
  exact Java.split_cons (pieces_rows h (by decide)) (by decide)

/-- Rows without the separator are read one by one. -/
theorem readEntries_replyOf (hLeast : 1 < least) (h : ∀ row ∈ rows, '|' ∉ row)
    (hSome : rows ≠ []) :
    readEntries least body (replyOf rows) = rows.filterMap (entryOf least body) := by
  have hFields : (fieldsOf []).length = 1 := rfl
  have hEmpty : entryOf least body [] = none := by
    rw [entryOf, hFields, if_neg (by omega)]
  rw [readEntries, split_replyOf h hSome, List.drop_one, List.tail_cons,
    Java.filterMap_rdropWhile hEmpty]
  clear h hSome
  induction rows with
  | nil => rfl
  | cons row rest ih =>
      rw [List.flatMap_cons, List.filterMap_append, ih]
      cases hRow : entryOf least body row <;> simp [hRow, hEmpty]

/-- A section whose entries are all read shows them as it should. -/
theorem section_of_readEntries (hOthers : ∀ e ∈ others, e.Proper k) (hSome : others ≠ [])
    (hFirst : ∀ e ∈ others.head?, e.user ≠ [])
    (h : readEntries least body (replyOf rows) = others) :
    sectionLines nothing (rowLines least body []) (replyOf rows) = stored nothing others := by
  have hStored : stored nothing others = headed none others := by simp [stored, hSome]
  have hParts : 1 < (Java.split ['|'] (replyOf rows)).length := by
    by_contra hFew
    apply hSome
    rw [← h, readEntries, List.drop_eq_nil_of_le (Nat.not_lt.1 hFew)]
    rfl
  rw [sectionLines_replyOf, if_pos hParts, hStored]
  exact (headed_empty_eq_iff (h ▸ hOthers) hOthers hSome).2 ⟨h, hFirst⟩

end

theorem filterMap_eq_map_iff {α β : Type} {f : α → Option β} {g : α → β} {items : List α} :
    items.filterMap f = items.map g ↔ ∀ a ∈ items, f a = some (g a) := by
  induction items with
  | nil => simp
  | cons a rest ih =>
      rw [List.forall_mem_cons, ← ih, List.map_cons]
      cases hFirst : f a with
      | some b => simp [hFirst]
      | none =>
          have hLength := List.length_filterMap_le f rest
          constructor
          · intro hSame
            have hSameLength := congrArg List.length hSame
            simp [hFirst] at hSameLength
            omega
          · intro hNever
            cases hNever.1

/-- A table and its section: how a record is sent and what the report has to show of it,
what makes the rows of a reply come apart, and which records come out as they were. -/
structure Table (Record : Type) where
  least : Nat
  width : Nat
  body : List Text → List Text
  nothing : Text
  row : Record → Text
  entry : Record → Entry
  IsPlain : Record → Prop
  IsShown : Record → Prop
  one_lt_least : 1 < least
  body_proper : ∀ fields, Entry.Proper ⟨[], body fields⟩ width
  entry_proper : ∀ r, (entry r).Proper width
  nothing_no_label : ¬userLabel <+: nothing
  pipe_not_mem : ∀ r, IsPlain r → '|' ∉ row r
  plain_of_fields : ∀ r fields, least ≤ fields.length → (∀ field ∈ fields, Plain field) →
    entry r = ⟨fields.getD 0 [], body fields⟩ → IsPlain r
  entryOf_row_iff : ∀ r, IsPlain r → (entryOf least body (row r) = some (entry r) ↔ IsShown r)
  plain_of_shown : ∀ r, IsShown r → IsPlain r

namespace Table
variable {Record : Type} (table : Table Record)

/-- The lines that the report prints of the records. -/
def lines (records : List Record) : List Text :=
  sectionLines table.nothing (rowLines table.least table.body [])
    (replyOf (records.map table.row))

/-- Rows that are plain are read one by one, and each counts for itself. -/
theorem readEntries_rows {records : List Record} (h : ∀ r ∈ records, table.IsPlain r)
    (hSome : records ≠ []) :
    readEntries table.least table.body (replyOf (records.map table.row)) =
      records.filterMap fun r => entryOf table.least table.body (table.row r) := by
  have hPipe : ∀ row ∈ records.map table.row, '|' ∉ row := by
    intro row hRow
    obtain ⟨r, hr, rfl⟩ := List.mem_map.1 hRow
    exact table.pipe_not_mem r (h r hr)
  rw [readEntries_replyOf table.one_lt_least hPipe (by simpa using hSome), List.filterMap_map]
  rfl

/-- Plain records are read as they are where each of them comes out as it was. -/
theorem readEntries_iff {records : List Record} (h : ∀ r ∈ records, table.IsPlain r)
    (hSome : records ≠ []) :
    readEntries table.least table.body (replyOf (records.map table.row)) =
      records.map table.entry ↔ ∀ r ∈ records, table.IsShown r := by
  rw [table.readEntries_rows h hSome, filterMap_eq_map_iff]
  exact forall₂_congr fun r hr => table.entryOf_row_iff r (h r hr)

/-- The section shows its records just where each record is shown, and the first one has a name:
an empty name is the one that the loop starts with. -/
theorem lines_iff (records : List Record) :
    table.lines records = stored table.nothing (records.map table.entry) ↔
      (∀ r ∈ records, table.IsShown r) ∧ ∀ r ∈ records.head?, (table.entry r).user ≠ [] := by
  by_cases hNone : records = []
  · subst hNone
    exact ⟨fun _ => ⟨List.forall_mem_nil _, by simp⟩, fun _ => rfl⟩
  have hSome : records.map table.entry ≠ [] := by simpa using hNone
  have hProper : ∀ e ∈ records.map table.entry, e.Proper table.width := by
    intro e hMem
    obtain ⟨r, -, rfl⟩ := List.mem_map.1 hMem
    exact table.entry_proper r
  have hHead : (∀ e ∈ (records.map table.entry).head?, e.user ≠ []) ↔
      ∀ r ∈ records.head?, (table.entry r).user ≠ [] := by
    simp [List.head?_map]
  constructor
  · intro h
    obtain ⟨hRead, hFirst⟩ :=
      readEntries_of_section table.body_proper hProper table.nothing_no_label hSome h
    have hPlain : ∀ r ∈ records, table.IsPlain r := by
      intro r hr
      obtain ⟨fields, hLeast, hFields, hEntry⟩ :=
        mem_readEntries (hRead ▸ List.mem_map_of_mem hr)
      exact table.plain_of_fields r fields hLeast hFields hEntry
    exact ⟨(table.readEntries_iff hPlain hNone).1 hRead, hHead.1 hFirst⟩
  · rintro ⟨hShown, hFirst⟩
    have hPlain : ∀ r ∈ records, table.IsPlain r :=
      fun r hr => table.plain_of_shown r (hShown r hr)
    apply section_of_readEntries hProper hSome (hHead.2 hFirst)
    exact (table.readEntries_iff hPlain hNone).2 hShown

end Table

/-- A text that comes out of the reply as it was stored. -/
structure Shown (isPrintable : Char → Bool) (text : Text) : Prop where
  plain : Plain text
  chars : ∀ c ∈ text, isShown isPrintable c = true

theorem shown_iff {text : Text} (h : Plain text) :
    Shown isPrintable text ↔ escaped isPrintable text = text := by
  rw [escaped_eq_iff h.quote]
  exact ⟨Shown.chars, fun hChars => ⟨h, hChars⟩⟩

/-- A row of `login_history` as Python's `str` shows the tuple. -/
def loginRow (isPrintable : Char → Bool) (r : LoginRecord) : Text :=
  strTuple isPrintable r.row

/-- A row of `file_tracking` as Python's `str` shows the tuple. -/
def fileRow (isPrintable : Char → Bool) (r : FileRecord) : Text := strTuple isPrintable r.row

theorem rdropWhile_last (texts : List Text) {last : Text} (h : last ≠ []) :
    (texts ++ [last]).rdropWhile List.isEmpty = texts ++ [last] :=
  List.rdropWhile_concat_neg _ _ _ (by simpa using h)

theorem plain_loginRow {r : LoginRecord} (h : Plain r.username) :
    ∀ field ∈ r.row, PlainField field := by
  intro field hField text hText
  simp only [LoginRecord.row, List.mem_cons, List.not_mem_nil, or_false] at hField
  rcases hField with rfl | rfl | rfl
  · cases hText
    exact h
  · cases hText
    exact plain_time _
  · cases hLogout : r.logout_time with
    | none =>
        rw [hLogout] at hText
        cases hText
    | some time =>
        rw [hLogout] at hText
        cases hText
        exact plain_time time

theorem loginBody_eq (user login logout : Text) : loginBody [user, login, logout] =
    [loginLabel ++ login, logoutLabel ++
      if logout = "None".toList then "Still logged in".toList else logout] := rfl

/-- A login is always read, with its name as `repr` has escaped it. -/
theorem entryOf_loginRow {r : LoginRecord} (h : Plain r.username) :
    entryOf 3 loginBody (loginRow isPrintable r) =
      some ⟨escaped isPrintable r.username, (ofLogin r).body⟩ := by
  have hLast : shownField isPrintable (r.logout_time.map Datetime.text) ≠ [] := by
    cases r.logout_time with
    | none => exact List.cons_ne_nil _ _
    | some time =>
        change escaped isPrintable time.text ≠ []
        rw [escaped_time]
        exact time.text_ne_nil
  have hFields : fieldsOf (loginRow isPrintable r) = [escaped isPrintable r.username,
      r.login_time.text, shownField isPrintable (r.logout_time.map Datetime.text)] := by
    have hKept := rdropWhile_last [escaped isPrintable r.username, r.login_time.text] hLast
    rw [loginRow, LoginRecord.row, fieldsOf_strTuple (plain_loginRow h)]
    simpa [shownField, escaped_time] using hKept
  have hBody : loginBody (fieldsOf (loginRow isPrintable r)) = (ofLogin r).body := by
    rw [hFields, loginBody_eq]
    cases hLogout : r.logout_time with
    | none =>
        rw [ofLogin, hLogout]
        rfl
    | some time =>
        rw [ofLogin, hLogout, Option.map_some, shownField, escaped_time,
          if_neg time.text_ne_none]
  rw [entryOf, hBody, hFields, if_pos (by simp)]
  rfl

theorem plain_fileRow {r : FileRecord} (hUser : Plain r.username) (hFile : Plain r.filename)
    (hChannel : Plain r.game_channel) : ∀ field ∈ r.row, PlainField field := by
  intro field hField text hText
  simp only [FileRecord.row, List.mem_cons, List.not_mem_nil, or_false] at hField
  rcases hField with rfl | rfl | rfl | rfl
  · cases hText
    exact hUser
  · cases hText
    exact hFile
  · cases hText
    exact plain_time _
  · cases hText
    exact hChannel

theorem escaped_eq_nil_iff (isPrintable : Char → Bool) {text : Text} :
    escaped isPrintable text = [] ↔ text = [] := by
  constructor
  · intro h
    have hLength := length_le_escaped isPrintable text
    rw [h] at hLength
    exact List.length_eq_zero_iff.1 (Nat.le_zero.1 hLength)
  · rintro rfl
    rfl

/-- A row with an empty channel has a field too few. -/
theorem entryOf_fileRow {r : FileRecord} (hUser : Plain r.username) (hFile : Plain r.filename)
    (hChannel : Plain r.game_channel) :
    entryOf 4 fileBody (fileRow isPrintable r) =
      if r.game_channel = [] then none
      else some ⟨escaped isPrintable r.username, [fileLabel ++ escaped isPrintable r.filename,
        timeLabel ++ r.upload_time.text, gameLabel ++ escaped isPrintable r.game_channel, []]⟩ := by
  have hFields : fieldsOf (fileRow isPrintable r) =
      [escaped isPrintable r.username, escaped isPrintable r.filename, r.upload_time.text,
        escaped isPrintable r.game_channel].rdropWhile List.isEmpty := by
    rw [fileRow, FileRecord.row, fieldsOf_strTuple (plain_fileRow hUser hFile hChannel)]
    simp [shownField, escaped_time]
  split
  · rename_i hEmpty
    have hDropped := List.rdropWhile_concat_pos List.isEmpty
      [escaped isPrintable r.username, escaped isPrintable r.filename, r.upload_time.text] [] rfl
    have hKept := rdropWhile_last
      [escaped isPrintable r.username, escaped isPrintable r.filename] r.upload_time.text_ne_nil
    have hThree : fieldsOf (fileRow isPrintable r) = [escaped isPrintable r.username,
        escaped isPrintable r.filename, r.upload_time.text] := by
      rw [hFields, (escaped_eq_nil_iff isPrintable).2 hEmpty]
      exact hDropped.trans hKept
    rw [entryOf, hThree, if_neg (by simp)]
  · rename_i hSome
    have hChannel : escaped isPrintable r.game_channel ≠ [] :=
      fun h => hSome ((escaped_eq_nil_iff isPrintable).1 h)
    have hKept := rdropWhile_last [escaped isPrintable r.username,
      escaped isPrintable r.filename, r.upload_time.text] hChannel
    have hFour : fieldsOf (fileRow isPrintable r) = [escaped isPrintable r.username,
        escaped isPrintable r.filename, r.upload_time.text, escaped isPrintable r.game_channel] :=
      hFields.trans hKept
    rw [entryOf, hFour, if_pos (by simp)]
    rfl

theorem loginBody_proper (fields : List Text) : Entry.Proper ⟨[], loginBody fields⟩ 2 := by
  refine ⟨by decide, rfl, ?_⟩
  intro line hMem
  simp only [loginBody, List.mem_cons, List.not_mem_nil, or_false] at hMem
  rcases hMem with rfl | rfl
  · exact fun h => absurd (List.cons_prefix_cons.1 h).1 (by decide)
  · exact fun h => absurd (List.cons_prefix_cons.1 h).1 (by decide)

theorem ofLogin_proper (r : LoginRecord) : (ofLogin r).Proper 2 := by
  refine ⟨by decide, rfl, ?_⟩
  intro line hMem
  simp only [ofLogin, List.mem_cons, List.not_mem_nil, or_false] at hMem
  rcases hMem with rfl | rfl
  · exact fun h => absurd (List.cons_prefix_cons.1 h).1 (by decide)
  · exact fun h => absurd (List.cons_prefix_cons.1 h).1 (by decide)

theorem fileBody_proper (fields : List Text) : Entry.Proper ⟨[], fileBody fields⟩ 4 := by
  refine ⟨by decide, rfl, ?_⟩
  intro line hMem
  simp only [fileBody, List.mem_cons, List.not_mem_nil, or_false] at hMem
  rcases hMem with rfl | rfl | rfl | rfl
  · exact fun h => absurd (List.cons_prefix_cons.1 h).1 (by decide)
  · exact fun h => absurd (List.cons_prefix_cons.1 h).1 (by decide)
  · exact fun h => absurd (List.cons_prefix_cons.1 h).1 (by decide)
  · exact fun h => absurd (List.prefix_nil.1 h) (by decide)

theorem ofFile_proper (r : FileRecord) : (ofFile r).Proper 4 :=
  fileBody_proper [r.username, r.filename, r.upload_time.text, r.game_channel]

/-- The rows as the query gives them. -/
theorem loginsReply_eq (logins : List LoginRecord) :
    loginsReply isPrintable logins = replyOf (logins.map (loginRow isPrintable)) := by
  rw [loginsReply, execute_sql_query_eq, List.map_map]
  rfl

theorem filesReply_eq (files : List FileRecord) :
    filesReply isPrintable files = replyOf (files.map (fileRow isPrintable)) := by
  rw [filesReply, execute_sql_query_eq, List.map_map]
  rfl

/-- The records of the login history. -/
def loginTable (isPrintable : Char → Bool) : Table LoginRecord where
  least := 3
  width := 2
  body := loginBody
  nothing := "   No login history".toList
  row := loginRow isPrintable
  entry := ofLogin
  IsPlain r := Plain r.username
  IsShown r := Shown isPrintable r.username
  one_lt_least := by decide
  body_proper := loginBody_proper
  entry_proper := ofLogin_proper
  nothing_no_label := by decide
  pipe_not_mem _ h := pipe_not_mem_strTuple (plain_loginRow h)
  plain_of_fields := by
    intro r fields hLeast hFields hEntry
    have hUser : r.username = fields.getD 0 [] := congrArg Entry.user hEntry
    rw [hUser, List.getD_eq_getElem _ _ (by omega)]
    exact hFields _ (List.getElem_mem _)
  entryOf_row_iff := by
    intro r hPlain
    rw [entryOf_loginRow hPlain, Option.some.injEq, shown_iff hPlain, ofLogin, Entry.mk.injEq]
    exact and_iff_left rfl
  plain_of_shown _ h := h.plain

/-- The second section of the report is right just where every name is printed as it is, and the
first one is not empty. -/
theorem login_section_iff (logins : List LoginRecord) :
    loginSection (loginsReply isPrintable logins) =
        stored "   No login history".toList (logins.map ofLogin) ↔
      (∀ r ∈ logins, Shown isPrintable r.username) ∧ ∀ r ∈ logins.head?, r.username ≠ [] := by
  rw [loginsReply_eq]
  exact (loginTable isPrintable).lines_iff logins

/-- A row of the file table that comes out as it was stored. -/
structure FileShown (isPrintable : Char → Bool) (r : FileRecord) : Prop where
  username : Shown isPrintable r.username
  filename : Shown isPrintable r.filename
  game_channel : Shown isPrintable r.game_channel
  channel_ne_nil : r.game_channel ≠ []

/-- When an upload is shown as it is stored: what is read of its row, with each text as `repr`
has escaped it, has to be the upload itself. A row that ends with an empty channel is not read.
-/
theorem fileShown_iff {r : FileRecord} (hUser : Plain r.username) (hFile : Plain r.filename)
    (hChannel : Plain r.game_channel) :
    FileShown isPrintable r ↔ (if r.game_channel = [] then none
      else some (Entry.mk (escaped isPrintable r.username)
        [fileLabel ++ escaped isPrintable r.filename, timeLabel ++ r.upload_time.text,
          gameLabel ++ escaped isPrintable r.game_channel, []])) = some (ofFile r) := by
  by_cases hEmpty : r.game_channel = []
  · rw [if_pos hEmpty]
    exact ⟨fun h => absurd hEmpty h.channel_ne_nil, fun h => by cases h⟩
  · rw [if_neg hEmpty, Option.some.injEq, ofFile, Entry.mk.injEq]
    simp only [List.cons.injEq, List.append_cancel_left_eq, and_true, true_and]
    rw [← shown_iff hUser, ← shown_iff hFile, ← shown_iff hChannel]
    exact ⟨fun h => ⟨h.username, h.filename, h.game_channel⟩,
      fun h => ⟨h.1, h.2.1, h.2.2, hEmpty⟩⟩

/-- The records of the uploaded files. -/
def fileTable (isPrintable : Char → Bool) : Table FileRecord where
  least := 4
  width := 4
  body := fileBody
  nothing := "   No files uploaded".toList
  row := fileRow isPrintable
  entry := ofFile
  IsPlain r := Plain r.username ∧ Plain r.filename ∧ Plain r.game_channel
  IsShown := FileShown isPrintable
  one_lt_least := by decide
  body_proper := fileBody_proper
  entry_proper := ofFile_proper
  nothing_no_label := by decide
  pipe_not_mem := by
    rintro r ⟨hUser, hFile, hChannel⟩
    exact pipe_not_mem_strTuple (plain_fileRow hUser hFile hChannel)
  plain_of_fields := by
    intro r fields hLeast hFields hEntry
    have hField (i : Nat) (hi : i < 4) : Plain (fields.getD i []) := by
      rw [List.getD_eq_getElem _ _ (by omega)]
      exact hFields _ (List.getElem_mem _)
    simp only [ofFile, fileBody, Entry.mk.injEq, List.cons.injEq, List.append_cancel_left_eq,
      and_true] at hEntry
    obtain ⟨hUser, hFile, -, hChannel⟩ := hEntry
    rw [hUser, hFile, hChannel]
    exact ⟨hField 0 (by decide), hField 1 (by decide), hField 3 (by decide)⟩
  entryOf_row_iff := by
    rintro r ⟨hUser, hFile, hChannel⟩
    rw [entryOf_fileRow hUser hFile hChannel, fileShown_iff hUser hFile hChannel]
  plain_of_shown _ h := ⟨h.username.plain, h.filename.plain, h.game_channel.plain⟩

/-- The third section of the report is right just where every upload is shown, and the first one
has a user with a name. -/
theorem file_section_iff (files : List FileRecord) :
    fileSection (filesReply isPrintable files) =
        stored "   No files uploaded".toList (files.map ofFile) ↔
      (∀ r ∈ files, FileShown isPrintable r) ∧ ∀ r ∈ files.head?, r.username ≠ [] := by
  rw [filesReply_eq]
  exact (fileTable isPrintable).lines_iff files

section
variable (now : Text) (users : List (Text × Datetime)) (logins : List LoginRecord)
  (files : List FileRecord)

/-- The lines before the login part. -/
def layoutHead (isPrintable : Char → Bool) (now : Text) (users : List (Text × Datetime)) :
    List Text :=
  [repeatText ['='] 80, "SERVER REPORT - Generated at: ".toList ++ now, repeatText ['='] 80,
    "\n1. REGISTERED USERS:".toList, repeatText ['-'] 80] ++
    usersSection (usersReply isPrintable users) ++
    ["\n2. LOGIN HISTORY:".toList, repeatText ['-'] 80]

/-- The line that begins the third part. -/
def fileHeading : Text := "\n3. FILE UPLOADS:".toList

theorem printed_eq : printed isPrintable now users logins files = layout isPrintable now users
    (loginSection (loginsReply isPrintable logins))
    (fileSection (filesReply isPrintable files)) := by
  simp only [layout, List.append_assoc, List.cons_append, List.nil_append]
  simp only [printed, printReport, println, query, executeSQL, Method.bind_apply,
    Method.modify_apply, Method.zoom_apply, Method.get_apply, Database.new, called, service,
    Method.pure_apply, List.append_assoc, List.nil_append, List.cons_append]

/-- The head of the report, and the two sections with the heading between them. -/
theorem layout_eq (loginLines fileLines : List Text) :
    layout isPrintable now users loginLines fileLines = layoutHead isPrintable now users ++
      (loginLines ++ fileHeading :: repeatText ['-'] 80 :: (fileLines ++ [repeatText ['='] 80])) := by
  have hShape (start shown loginLines fileLines rest : List Text) (a b c d : Text) :
      start ++ shown ++ a :: b :: loginLines ++ c :: d :: fileLines ++ rest =
        start ++ shown ++ [a, b] ++ (loginLines ++ c :: d :: (fileLines ++ rest)) := by
    simp only [List.append_assoc, List.cons_append, List.nil_append]
  exact hShape _ _ _ _ _ _ _ _ _

variable {now users logins files}

/-- The heading of the third part ends the second, so the two parts can be told apart. -/
theorem layout_inj {loginLines loginLines' fileLines fileLines' : List Text}
    (h : fileHeading ∉ loginLines) (h' : fileHeading ∉ loginLines') :
    layout isPrintable now users loginLines fileLines =
        layout isPrintable now users loginLines' fileLines' ↔
      loginLines = loginLines' ∧ fileLines = fileLines' := by
  rw [layout_eq, layout_eq, List.append_cancel_left_eq, Framing.append_cons_inj h h', List.cons.injEq,
    List.append_cancel_right_eq]
  simp only [true_and]

/-- No line of the login part is the heading of the next one. -/
theorem fileHeading_ne_append {label : Text} (h : label.head? = some ' ') (rest : Text) :
    fileHeading ≠ label ++ rest := by
  intro hSame
  have hHead : some '\n' = some ' ' := by
    calc some '\n' = fileHeading.head? := rfl
      _ = (label ++ rest).head? := by rw [← hSame]
      _ = some ' ' := by rw [List.head?_append, h]; rfl
  exact absurd hHead (by decide)

theorem fileHeading_not_mem_body {login logout : Text} :
    fileHeading ∉ [loginLabel ++ login, logoutLabel ++ logout] := by
  rw [List.mem_cons, List.mem_singleton, not_or]
  exact ⟨fileHeading_ne_append rfl login, fileHeading_ne_append rfl logout⟩

/-- No line of an entry is the heading of the third section, so the sections can be told apart.
-/
theorem fileHeading_not_mem_headed {entries : List Entry}
    (hBodies : ∀ e ∈ entries, fileHeading ∉ e.body) (before : Option Text) :
    fileHeading ∉ headed before entries := by
  induction entries generalizing before with
  | nil => exact List.not_mem_nil
  | cons e rest ih =>
      obtain ⟨hFirst, hRest⟩ := List.forall_mem_cons.1 hBodies
      have hHeading : fileHeading ∉ [userLabel ++ e.user] := by
        rw [List.mem_singleton]
        intro hSame
        exact absurd (hSame ▸ List.prefix_append userLabel e.user) (by decide)
      rw [headed, List.mem_append, List.mem_append, not_or, not_or]
      refine ⟨⟨?_, hFirst⟩, ih hRest _⟩
      split
      · exact List.not_mem_nil
      · exact hHeading

theorem fileHeading_not_mem_loginSection (logins : List LoginRecord) :
    fileHeading ∉ loginSection (loginsReply isPrintable logins) := by
  rw [loginsReply_eq, loginSection, sectionLines_replyOf]
  split
  · apply fileHeading_not_mem_headed
    intro e hMem
    obtain ⟨fields, -, -, rfl⟩ := mem_readEntries hMem
    exact fileHeading_not_mem_body
  · decide

theorem fileHeading_not_mem_stored (logins : List LoginRecord) :
    fileHeading ∉ stored "   No login history".toList (logins.map ofLogin) := by
  unfold stored
  split
  · decide
  · apply fileHeading_not_mem_headed
    intro e hMem
    obtain ⟨r, -, rfl⟩ := List.mem_map.1 hMem
    exact fileHeading_not_mem_body

/-- The two parts decide about the whole report. -/
theorem showsStored_iff : ShowsStored isPrintable now users logins files ↔
    loginSection (loginsReply isPrintable logins) =
        stored "   No login history".toList (logins.map ofLogin) ∧
      fileSection (filesReply isPrintable files) =
        stored "   No files uploaded".toList (files.map ofFile) := by
  rw [ShowsStored, printed_eq, layout_inj (fileHeading_not_mem_loginSection logins)
    (fileHeading_not_mem_stored logins)]

/-- The report shows what is stored just where no stored text holds a character or a
separator that has a meaning in the reply, no channel is empty, and neither table begins
with an empty name. -/
theorem report_shows_stored_iff (now : Text) (users : List (Text × Datetime))
    (logins : List LoginRecord) (files : List FileRecord) :
    ShowsStored isPrintable now users logins files ↔
      ((∀ r ∈ logins, Shown isPrintable r.username) ∧ ∀ r ∈ logins.head?, r.username ≠ []) ∧
      (∀ r ∈ files, FileShown isPrintable r) ∧ ∀ r ∈ files.head?, r.username ≠ [] := by
  rw [showsStored_iff, login_section_iff, file_section_iff]

/-- A login of a user whose name has an apostrophe. -/
def quotedName : List LoginRecord :=
  [⟨"O'Hara".toList, ⟨"2024-01-31 12:00:00".toList, by decide⟩, none⟩]

/-- A name with an apostrophe. The report takes single quotes away, and prints the double quotes
that `repr` has put around such a name. -/
theorem quoted_name_altered :
    loginSection (loginsReply (fun _ => true) quotedName) =
      ["\n   User: \"OHara\"".toList, "      Login:  2024-01-31 12:00:00".toList,
        "      Logout: Still logged in".toList] ∧
    ¬ShowsStored (fun _ => true) [] [] quotedName [] := by
  constructor
  · decide +kernel
  · rw [showsStored_iff]
    intro h
    exact absurd h.1 (by decide +kernel)

end

end StompGames.ServerReport
