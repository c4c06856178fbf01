import StompGames.Server.ServerReport

/-! The lines of the report as entries. Where two reports agree, they show the same
entries, and an entry that was read from the reply has only plain texts. -/
namespace StompGames.ServerReport

open Database

/-- A text that none of the separators and none of the removed characters occur in. -/
structure Plain (text : Text) : Prop where
  opening : '(' ∉ text
  closing : ')' ∉ text
  quote : '\x27' ∉ text
  pipe : '|' ∉ text
  comma : ¬[',', ' '] <:+: text

/-- The body of an entry has lines, and none that could be a heading. -/
def Entry.Proper (e : Entry) (lines : Nat) : Prop :=
  0 < lines ∧ e.body.length = lines ∧ ∀ line ∈ e.body, ¬userLabel <+: line

section
variable {k : Nat} {e : Entry} {entries others : List Entry}

theorem Entry.Proper.first (h : e.Proper k) : ∃ line rest, e.body = line :: rest ∧ ¬userLabel <+: line := by
  obtain ⟨hPos, hLength, hLines⟩ := h
  cases hBody : e.body with
  | nil =>
      rw [hBody, List.length_nil] at hLength
      omega
  | cons line rest => exact ⟨line, rest, rfl, hLines line (hBody ▸ List.mem_cons_self)⟩

/-- A heading and a body never begin alike. -/
theorem Entry.Proper.not_heading (h : e.Proper k) (user : Text) (rest more : List Text) :
    e.body ++ rest ≠ (userLabel ++ user) :: more := by
  obtain ⟨line, lines, hBody, hNot⟩ := h.first
  intro hSame
  rw [hBody, List.cons_append, List.cons.injEq] at hSame
  exact hNot (hSame.1 ▸ List.prefix_append _ _)

theorem headed_ne_nil (before : Option Text) (hFirst : e.Proper k) (rest : List Entry) :
    headed before (e :: rest) ≠ [] := by
  obtain ⟨line, lines, hBody, -⟩ := hFirst.first
  rw [headed, hBody]
  simp

/-- The entries can be read from the lines. -/
theorem headed_injective (hEntries : ∀ e ∈ entries, e.Proper k) (hOthers : ∀ e ∈ others, e.Proper k)
    {before : Option Text} (h : headed before entries = headed before others) : entries = others := by
  induction entries generalizing before others with
  | nil =>
      cases others with
      | nil => rfl
      | cons other rest =>
          exact absurd h.symm (headed_ne_nil before (hOthers other List.mem_cons_self) rest)
  | cons e entries ih =>
      obtain ⟨hFirst, hRest⟩ := List.forall_mem_cons.1 hEntries
      cases others with
      | nil => exact absurd h (headed_ne_nil before hFirst entries)
      | cons other others =>
          obtain ⟨hOther, hMore⟩ := List.forall_mem_cons.1 hOthers
          have hSame : e.user = other.user ∧ e.body ++ headed (some e.user) entries =
              other.body ++ headed (some other.user) others := by
            simp only [headed] at h
            split_ifs at h with hOld hOld' hOld'
            · exact ⟨Option.some.inj (hOld.symm.trans hOld'), by simpa using h⟩
            · exact absurd (by simpa using h) (hFirst.not_heading _ _ _)
            · exact absurd (by simpa using h.symm) (hOther.not_heading _ _ _)
            · simp only [List.cons_append, List.cons.injEq, List.append_cancel_left_eq] at h
              exact ⟨h.1, h.2⟩
          obtain ⟨hUser, hLines⟩ := hSame
          have hLength : e.body.length = other.body.length := hFirst.2.1.trans hOther.2.1.symm
          obtain ⟨hBody, hTail⟩ := List.append_inj hLines hLength
          rw [hUser] at hTail
          have hEntry : e = other := by
            cases e
            cases other
            simp only at hUser hBody
            rw [hUser, hBody]
          rw [hEntry, ih hRest hMore hTail]

/-- The loop begins with an empty name as the current user. -/
theorem headed_empty_eq_iff (hEntries : ∀ e ∈ entries, e.Proper k)
    (hOthers : ∀ e ∈ others, e.Proper k) (hSome : others ≠ []) :
    headed (some []) entries = headed none others ↔
      entries = others ∧ ∀ e ∈ others.head?, e.user ≠ [] := by
  obtain ⟨other, rest, rfl⟩ := List.exists_cons_of_ne_nil hSome
  constructor
  · intro h
    cases entries with
    | nil => exact absurd h.symm (headed_ne_nil none (hOthers other List.mem_cons_self) rest)
    | cons e entries =>
        have hUser : e.user ≠ [] := by
          intro hEmpty
          rw [headed, if_pos (congrArg some hEmpty.symm), headed, if_neg (Option.some_ne_none _).symm] at h
          exact absurd (by simpa using h) ((hEntries e List.mem_cons_self).not_heading _ _ _)
        have hNone : headed (some []) (e :: entries) = headed none (e :: entries) := by
          rw [headed, headed, if_neg fun hSame => hUser (Option.some.inj hSame).symm,
            if_neg (Option.some_ne_none _).symm]
        have hSame := headed_injective hEntries hOthers (hNone ▸ h)
        exact ⟨hSame, by simpa [← hSame] using hUser⟩
  · rintro ⟨rfl, hUser⟩
    have hFirst : other.user ≠ [] := by simpa using hUser
    rw [headed, headed, if_neg fun hSame => hFirst (Option.some.inj hSame).symm,
      if_neg (Option.some_ne_none _).symm]

end

/-- The entry of a part that has enough fields. -/
def entryOf (least : Nat) (body : List Text → List Text) (part : Text) : Option Entry :=
  if least ≤ (fieldsOf part).length then
    some ⟨(fieldsOf part).getD 0 [], body (fieldsOf part)⟩
  else none

theorem rowLines_eq (least : Nat) (body : List Text → List Text) (currentUser : Text)
    (parts : List Text) : rowLines least body currentUser parts =
      headed (some currentUser) (parts.filterMap (entryOf least body)) := by
  induction parts generalizing currentUser with
  | nil => rfl
  | cons part parts ih =>
      by_cases hLeast : least ≤ (fieldsOf part).length
      · have hEntry : entryOf least body part =
            some ⟨(fieldsOf part).getD 0 [], body (fieldsOf part)⟩ := if_pos hLeast
        rw [rowLines, if_pos hLeast, List.filterMap_cons_some hEntry, headed, ih]
        simp [eq_comm]
      · have hEntry : entryOf least body part = none := if_neg hLeast
        rw [rowLines, if_neg hLeast, List.filterMap_cons_none hEntry, ih]

theorem mem_remove {c d : Char} {text : Text} (h : d ∈ Java.remove c text) : d ∈ text ∧ d ≠ c := by
  simpa [Java.remove] using h

/-- A field is plain, whatever the part was. -/
theorem plain_of_mem_fieldsOf {part field : Text} (hPart : '|' ∉ part)
    (h : field ∈ fieldsOf part) : Plain field := by
  have hPiece := (Java.pieces_spec _ 0).1 field (Java.mem_pieces_of_mem_split h)
  have hChars : ∀ c ∈ field, c ∈ part ∧ c ≠ '(' ∧ c ≠ ')' ∧ c ≠ '\x27' := by
    intro c hc
    obtain ⟨hRest, hQuote⟩ := mem_remove (hPiece.1.subset hc)
    obtain ⟨hRest, hClosing⟩ := mem_remove hRest
    obtain ⟨hRest, hOpening⟩ := mem_remove hRest
    exact ⟨hRest, hOpening, hClosing, hQuote⟩
  constructor
  · exact fun hc => (hChars _ hc).2.1 rfl
  · exact fun hc => (hChars _ hc).2.2.1 rfl
  · exact fun hc => (hChars _ hc).2.2.2 rfl
  · exact fun hc => hPart (hChars _ hc).1
  · exact hPiece.2 (by decide)

/-- A part of the reply has no separator left. -/
theorem pipe_not_mem_of_mem_split {part result : Text} (h : part ∈ Java.split ['|'] result) :
    '|' ∉ part := by
  have hPiece := (Java.pieces_spec _ 0).1 part (Java.mem_pieces_of_mem_split h)
  intro hMem
  exact hPiece.2 (by decide) ((List.singleton_infix_iff _ _).2 hMem)

end StompGames.ServerReport
