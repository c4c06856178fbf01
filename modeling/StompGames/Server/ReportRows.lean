import StompGames.Server.ReportEntries

/-! The way of a row through the reply: what `repr` makes of plain texts, and what the
report reads from it. -/
namespace StompGames

open Python

namespace Datetime

theorem mem_text (time : Datetime) {c : Char} (h : c ∈ time.text) :
    c.isDigit = true ∨ c = '-' ∨ c = ' ' ∨ c = ':' := by
  have hShape : (if c.isDigit then '0' else c) ∈ "0000-00-00 00:00:00".toList := by
    rw [← time.shape]
    exact List.mem_map_of_mem h
  by_cases hDigit : c.isDigit = true
  · exact Or.inl hDigit
  · rw [if_neg hDigit] at hShape
    have hChars : ∀ d ∈ "0000-00-00 00:00:00".toList, d = '0' ∨ d = '-' ∨ d = ' ' ∨ d = ':' := by
      simp
    rcases hChars c hShape with rfl | hOther
    · exact absurd (by decide) hDigit
    · exact Or.inr hOther

theorem not_mem_text (time : Datetime) {c : Char} (h : c.isDigit = false)
    (hOther : c ≠ '-' ∧ c ≠ ' ' ∧ c ≠ ':') : c ∉ time.text := by
  intro hMem
  rcases time.mem_text hMem with hDigit | hMem
  · rw [h] at hDigit
    cases hDigit
  · rcases hMem with hMem | hMem | hMem
    · exact hOther.1 hMem
    · exact hOther.2.1 hMem
    · exact hOther.2.2 hMem

theorem text_ne_nil (time : Datetime) : time.text ≠ [] := by
  intro hNil
  have hShape := time.shape
  rw [hNil] at hShape
  exact absurd hShape (by decide)

theorem text_ne_none (time : Datetime) : time.text ≠ "None".toList := by
  intro hNone
  have hLetter : 'N' ∈ time.text := by
    rw [hNone]
    decide
  exact time.not_mem_text (by decide) (by decide) hLetter

end Datetime

namespace ServerReport

open Database

variable {isPrintable : Char → Bool}

theorem not_infix_of_not_mem {text : Text} (h : ',' ∉ text) : ¬[',', ' '] <:+: text :=
  fun hInfix => h (hInfix.subset List.mem_cons_self)

theorem plain_time (time : Datetime) : Plain time.text := by
  constructor
  · exact time.not_mem_text (by decide) (by decide)
  · exact time.not_mem_text (by decide) (by decide)
  · exact time.not_mem_text (by decide) (by decide)
  · exact time.not_mem_text (by decide) (by decide)
  · exact not_infix_of_not_mem (time.not_mem_text (by decide) (by decide))

theorem escaped_time (time : Datetime) : escaped isPrintable time.text = time.text := by
  apply (escaped_eq_iff (plain_time time).quote).2
  intro c hMem
  rcases time.mem_text hMem with hDigit | rfl | rfl | rfl
  · have hRange : 48 ≤ c.toNat ∧ c.toNat ≤ 57 := by
      simpa [Char.isDigit, Char.le_def, UInt32.le_iff_toNat_le] using hDigit
    have hBackslash : c ≠ '\\' := by
      rintro rfl
      exact absurd hDigit (by decide)
    simp only [isShown, Bool.and_eq_true, bne_iff_ne, decide_eq_true_eq, Bool.or_eq_true]
    exact ⟨⟨⟨hBackslash, by omega⟩, by omega⟩, Or.inl (by omega)⟩
  · rfl
  · rfl
  · rfl

/-- What does not begin with a comma does not take part in a separator behind it. -/
theorem infix_append_of_not_mem {first rest : Text} (h : ',' ∉ first)
    (hInfix : [',', ' '] <:+: first ++ rest) : [',', ' '] <:+: rest := by
  induction first with
  | nil => exact hInfix
  | cons c first ih =>
      obtain ⟨hComma, hFirst⟩ := List.ne_and_not_mem_of_not_mem_cons h
      rw [List.cons_append, List.infix_cons_iff] at hInfix
      rcases hInfix with hPrefix | hInfix
      · exact absurd (List.cons_prefix_cons.1 hPrefix).1 hComma
      · exact ih hFirst hInfix

theorem head_escaped {text : Text} (h : [' '] <+: escaped isPrintable text) :
    [' '] <+: text := by
  cases text with
  | nil => exact h
  | cons c rest =>
      rw [escaped, List.flatMap_cons] at h
      cases hShown : isShown isPrintable c with
      | true =>
          by_cases hQuote : c = '\x27'
          · subst hQuote
            rw [reprChar, if_pos (Or.inl rfl)] at h
            exact absurd (List.cons_prefix_cons.1 h).1 (by decide)
          · rw [reprChar_of_isShown hShown hQuote] at h
            obtain ⟨rfl, -⟩ := List.cons_prefix_cons.1 h
            exact List.cons_prefix_cons.2 ⟨rfl, List.nil_prefix⟩
      | false =>
          obtain ⟨name, hName, -⟩ := reprChar_of_not_isShown '\x27' hShown
          rw [hName] at h
          exact absurd (List.cons_prefix_cons.1 h).1 (by decide)

/-- Escapes bring in neither commas nor blanks. -/
theorem not_infix_escaped {text : Text} (h : ¬[',', ' '] <:+: text) :
    ¬[',', ' '] <:+: escaped isPrintable text := by
  induction text with
  | nil => exact h
  | cons c rest ih =>
      rw [List.infix_cons_iff, not_or] at h
      have hRest := ih h.2
      intro hInfix
      rw [escaped, List.flatMap_cons] at hInfix
      by_cases hComma : c = ','
      · subst hComma
        have hChar : reprChar isPrintable '\x27' ',' = [','] := rfl
        rw [hChar, List.singleton_append, List.infix_cons_iff] at hInfix
        rcases hInfix with hPrefix | hInfix
        · have hBlank := head_escaped (List.cons_prefix_cons.1 hPrefix).2
          exact h.1 (List.cons_prefix_cons.2 ⟨rfl, hBlank⟩)
        · exact hRest hInfix
      · have hChar : ',' ∉ reprChar isPrintable '\x27' c := by
          intro hMem
          have hSingle : ',' ∈ escaped isPrintable [c] := by simpa [escaped] using hMem
          rcases mem_escaped hSingle with hMem | hMem | hMem
          · exact hComma (List.mem_singleton.1 hMem).symm
          · exact absurd hMem (by decide)
          · exact absurd hMem (by decide)
        exact hRest (infix_append_of_not_mem hChar hInfix)

theorem not_mem_escaped {text : Text} {c : Char} (h : c ∉ text) (hAlphanum : c.isAlphanum = false)
    (hBackslash : c ≠ '\\') : c ∉ escaped isPrintable text := by
  intro hMem
  rcases mem_escaped hMem with hMem | hMem | hMem
  · exact h hMem
  · rw [hAlphanum] at hMem
    cases hMem
  · exact hBackslash hMem

theorem Plain.escaped {text : Text} (h : Plain text) : Plain (escaped isPrintable text) where
  opening := not_mem_escaped h.opening (by decide) (by decide)
  closing := not_mem_escaped h.closing (by decide) (by decide)
  quote := not_mem_escaped h.quote (by decide) (by decide)
  pipe := not_mem_escaped h.pipe (by decide) (by decide)
  comma := not_infix_escaped h.comma

/-- A field between its separators, without its quotes. -/
def shownField (isPrintable : Char → Bool) : Option Text → Text
  | none => "None".toList
  | some text => Python.escaped isPrintable text

/-- A field of a row that is plain where it is not `None`. -/
def PlainField (field : Option Text) : Prop := ∀ text ∈ field, Plain text

theorem plain_none : Plain "None".toList := by
  constructor
  · decide
  · decide
  · decide
  · decide
  · exact not_infix_of_not_mem (by decide)

theorem plain_shownField {field : Option Text} (h : PlainField field) :
    Plain (shownField isPrintable field) := by
  cases field with
  | none => exact plain_none
  | some text => exact (h text rfl).escaped

theorem remove_append (c : Char) (first second : Text) :
    Java.remove c (first ++ second) = Java.remove c first ++ Java.remove c second :=
  List.filter_append ..

theorem remove_of_not_mem {c : Char} {text : Text} (h : c ∉ text) : Java.remove c text = text := by
  apply List.filter_eq_self.2
  intro d hd
  simp only [bne_iff_ne]
  rintro rfl
  exact h hd

/-- The text of a row with the parentheses and the quotes removed. -/
def bare (text : Text) : Text :=
  Java.remove '\x27' (Java.remove ')' (Java.remove '(' text))

theorem bare_append (first second : Text) : bare (first ++ second) = bare first ++ bare second := by
  simp only [bare, remove_append]

theorem bare_repr {field : Option Text} (h : PlainField field) :
    bare (reprField isPrintable field) = shownField isPrintable field := by
  cases field with
  | none => rfl
  | some text =>
      have hPlain : Plain (Python.escaped isPrintable text) := (h text rfl).escaped
      have hQuote : bare ['\x27'] = [] := rfl
      rw [reprField, reprStr_eq (h text rfl).quote, ← List.singleton_append, bare_append, bare_append,
        hQuote, List.append_nil, List.nil_append, shownField, bare,
        remove_of_not_mem hPlain.opening, remove_of_not_mem hPlain.closing,
        remove_of_not_mem hPlain.quote]

theorem bare_intercalate {row : List (Option Text)} (h : ∀ field ∈ row, PlainField field) :
    bare (", ".toList.intercalate (row.map (reprField isPrintable))) =
      ", ".toList.intercalate (row.map (shownField isPrintable)) := by
  induction row with
  | nil => rfl
  | cons field rest ih =>
      obtain ⟨hField, hRest⟩ := List.forall_mem_cons.1 h
      cases rest with
      | nil => simpa using bare_repr hField
      | cons next rest =>
          have hSep : bare ", ".toList = ", ".toList := rfl
          simp only [List.map_cons, List.intercalate_cons_cons] at ih ⊢
          rw [bare_append, bare_append, bare_repr hField, hSep, ih hRest]

theorem pipe_not_mem_repr {field : Option Text} (h : PlainField field) :
    '|' ∉ reprField isPrintable field := by
  cases field with
  | none => exact plain_none.pipe
  | some text =>
      have hPlain : Plain (Python.escaped isPrintable text) := (h text rfl).escaped
      rw [reprField, reprStr_eq (h text rfl).quote]
      simpa using hPlain.pipe

theorem not_mem_intercalate {sep : Text} {c : Char} (hSep : c ∉ sep) {texts : List Text}
    (h : ∀ text ∈ texts, c ∉ text) : c ∉ sep.intercalate texts := by
  induction texts with
  | nil => exact List.not_mem_nil
  | cons text rest ih =>
      obtain ⟨hText, hRest⟩ := List.forall_mem_cons.1 h
      cases rest with
      | nil => simpa using hText
      | cons next rest =>
          rw [List.intercalate_cons_cons]
          simp only [List.mem_append, not_or]
          exact ⟨⟨hText, hSep⟩, ih hRest⟩

/-- A text that is followed by a separator holds none because of that. -/
theorem not_infix_concat {text : Text} (h : ¬[',', ' '] <:+: text) :
    ¬[',', ' '] <:+: text ++ [','] := by
  intro hInfix
  rcases List.infix_concat_iff.1 hInfix with hSuffix | hInfix
  · obtain ⟨before, hBefore⟩ := hSuffix
    have hLast := congrArg List.getLast? hBefore
    simp at hLast
  · exact h hInfix

section
variable {first second : Option Text} {rest : List (Option Text)}

theorem strTuple_eq : strTuple isPrintable (first :: second :: rest) =
    '(' :: ", ".toList.intercalate ((first :: second :: rest).map (reprField isPrintable)) ++
      [')'] := rfl

theorem pipe_not_mem_strTuple (h : ∀ field ∈ first :: second :: rest, PlainField field) :
    '|' ∉ strTuple isPrintable (first :: second :: rest) := by
  have hFields : '|' ∉
      ", ".toList.intercalate ((first :: second :: rest).map (reprField isPrintable)) := by
    apply not_mem_intercalate (by decide)
    intro text hMem
    obtain ⟨field, hField, rfl⟩ := List.mem_map.1 hMem
    exact pipe_not_mem_repr (h field hField)
  rw [strTuple_eq]
  simp only [List.cons_append, List.mem_cons, List.mem_append, List.not_mem_nil, or_false, not_or]
  exact ⟨by decide, hFields, by decide⟩

/-- The fields of a row as they are read, less the empty ones at its end. -/
theorem fieldsOf_strTuple (h : ∀ field ∈ first :: second :: rest, PlainField field) :
    fieldsOf (strTuple isPrintable (first :: second :: rest)) =
      ((first :: second :: rest).map (shownField isPrintable)).rdropWhile List.isEmpty := by
  have hBare : bare (strTuple isPrintable (first :: second :: rest)) =
      ", ".toList.intercalate ((first :: second :: rest).map (shownField isPrintable)) := by
    have hOpening : bare ['('] = [] := rfl
    have hClosing : bare [')'] = [] := rfl
    rw [strTuple_eq, ← List.singleton_append, bare_append, bare_append, hOpening, hClosing,
      bare_intercalate h, List.nil_append, List.append_nil]
  have hPieces : Java.pieces ", ".toList 0
      (", ".toList.intercalate ((first :: second :: rest).map (shownField isPrintable))) =
        (first :: second :: rest).map (shownField isPrintable) := by
    apply Java.pieces_intercalate (by decide) (by simp)
    intro text hMem
    obtain ⟨field, hField, rfl⟩ := List.mem_map.1 hMem
    exact not_infix_concat (plain_shownField (h field hField)).comma
  change Java.split _ (bare _) = _
  rw [hBare, Java.split, hPieces]
  rfl

end

/-- The reply with these rows. -/
def replyOf (rows : List Text) : Text :=
  "SUCCESS".toList ++ rows.flatMap fun row => '|' :: row ++ ['|']

theorem execute_sql_query_eq (rows : List (List (Option Text))) :
    execute_sql_query isPrintable (.ok rows) = replyOf (rows.map (strTuple isPrintable)) := by
  have hLoop (res : Text) : rows.foldl
      (fun res row => res ++ ('|' :: strTuple isPrintable row ++ ['|'])) res =
        res ++ (rows.map (strTuple isPrintable)).flatMap fun row => '|' :: row ++ ['|'] := by
    induction rows generalizing res with
    | nil => simp
    | cons row rest ih =>
        rw [List.foldl_cons, ih]
        simp
  exact hLoop _

theorem pieces_pipe {text : Text} (h : '|' ∉ text) (rest : Text) :
    Java.pieces ['|'] 0 (text ++ '|' :: rest) = text :: Java.pieces ['|'] 0 rest := by
  apply Java.pieces_append (List.cons_ne_nil _ _)
  rw [List.dropLast_singleton, List.append_nil, List.singleton_infix_iff]
  exact h

/-- Every row is a part, and every second part is empty. -/
theorem pieces_rows {rows : List Text} (h : ∀ row ∈ rows, '|' ∉ row) {text : Text}
    (hText : '|' ∉ text) :
    Java.pieces ['|'] 0 (text ++ rows.flatMap fun row => '|' :: row ++ ['|']) =
      text :: rows.flatMap fun row => [row, []] := by
  induction rows generalizing text with
  | nil =>
      rw [List.flatMap_nil, List.append_nil]
      apply Java.pieces_of_not_infix
      rw [List.singleton_infix_iff]
      exact hText
  | cons row rest ih =>
      obtain ⟨hRow, hRest⟩ := List.forall_mem_cons.1 h
      have hNext := ih hRest (List.not_mem_nil (a := '|'))
      rw [List.nil_append] at hNext
      rw [List.flatMap_cons, List.flatMap_cons, List.cons_append, List.cons_append,
        pieces_pipe hText, List.append_assoc, List.singleton_append, pieces_pipe hRow, hNext]
      rfl

end ServerReport
end StompGames
