import StompGames.Java.Strings
import Mathlib.Data.List.Infix

/-! `String.split` for a regular expression that matches one fixed text. -/
namespace StompGames.Java

/-- The pieces between the occurrences of a separator. `skip` counts the characters of
an occurrence that are still to be passed over. -/
def pieces (sep : Text) : Nat → Text → List Text
  | _, [] => [[]]
  | skip + 1, _ :: rest => pieces sep skip rest
  | 0, c :: rest =>
      if sep.isPrefixOf (c :: rest) then [] :: pieces sep (sep.length - 1) rest
      else (pieces sep 0 rest).modifyHead (c :: ·)

/-- Trailing empty strings are dropped, but a text without the separator is returned as
it is. -/
def split (sep text : Text) : List Text :=
  match pieces sep 0 text with
  | [whole] => [whole]
  | pieces => pieces.rdropWhile List.isEmpty

/-- `text.replace(c, "")`. -/
def remove (c : Char) (text : Text) : Text := text.filter (· != c)

section
variable {sep text : Text}

theorem pieces_skip (passed rest : Text) :
    pieces sep passed.length (passed ++ rest) = pieces sep 0 rest := by
  induction passed with
  | nil => rfl
  | cons c passed ih => exact ih

theorem pieces_cons_of_other {c : Char} {rest : Text} (h : ¬sep <+: c :: rest) :
    pieces sep 0 (c :: rest) = (pieces sep 0 rest).modifyHead (c :: ·) := by
  have hFalse : sep.isPrefixOf (c :: rest) = false := by
    rw [Bool.eq_false_iff]
    exact fun hPrefix => h (List.isPrefixOf_iff_prefix.1 hPrefix)
  rw [pieces, if_neg (Bool.eq_false_iff.1 hFalse)]

/-- A separator at the beginning. -/
theorem pieces_sep (hSep : sep ≠ []) (rest : Text) :
    pieces sep 0 (sep ++ rest) = [] :: pieces sep 0 rest := by
  obtain ⟨c, tail, rfl⟩ := List.exists_cons_of_ne_nil hSep
  have hPrefix : (c :: tail).isPrefixOf (c :: (tail ++ rest)) = true :=
    List.isPrefixOf_iff_prefix.2 (List.prefix_append (c :: tail) rest)
  rw [List.cons_append, pieces, if_pos hPrefix, List.length_cons, Nat.add_sub_cancel,
    pieces_skip]

theorem pieces_of_not_infix (h : ¬sep <:+: text) : pieces sep 0 text = [text] := by
  induction text with
  | nil => rfl
  | cons c rest ih =>
      rw [List.infix_cons_iff, not_or] at h
      rw [pieces_cons_of_other h.1, ih h.2]
      rfl

/-- The first piece ends where the separator first occurs. -/
theorem pieces_append (hSep : sep ≠ []) (h : ¬sep <:+: text ++ sep.dropLast) (rest : Text) :
    pieces sep 0 (text ++ (sep ++ rest)) = text :: pieces sep 0 rest := by
  induction text with
  | nil => exact pieces_sep hSep rest
  | cons c tail ih =>
      rw [List.cons_append, List.infix_cons_iff, not_or] at h
      have hNot : ¬sep <+: c :: (tail ++ (sep ++ rest)) := by
        intro hPrefix
        apply h.1
        have hShort : c :: (tail ++ sep.dropLast) <+: c :: (tail ++ (sep ++ rest)) := by
          have hLast : sep.dropLast <+: sep ++ rest :=
            (List.dropLast_prefix sep).trans (List.prefix_append sep rest)
          exact (List.prefix_cons_inj c).2 ((List.prefix_append_right_inj tail).2 hLast)
        apply List.prefix_of_prefix_length_le hPrefix hShort
        simp only [List.length_cons, List.length_append, List.length_dropLast]
        omega
      rw [List.cons_append, pieces_cons_of_other hNot, ih h.2]
      rfl

/-- Splitting undoes joining. -/
theorem pieces_intercalate (hSep : sep ≠ []) {texts : List Text} (hTexts : texts ≠ [])
    (h : ∀ text ∈ texts, ¬sep <:+: text ++ sep.dropLast) :
    pieces sep 0 (sep.intercalate texts) = texts := by
  induction texts with
  | nil => exact absurd rfl hTexts
  | cons text rest ih =>
      obtain ⟨hText, hRest⟩ := List.forall_mem_cons.1 h
      cases rest with
      | nil =>
          rw [List.intercalate_singleton]
          exact pieces_of_not_infix fun hInfix =>
            hText (hInfix.trans (List.prefix_append _ _).isInfix)
      | cons next rest =>
          rw [List.intercalate_cons_cons, List.append_assoc, pieces_append hSep hText,
            ih (List.cons_ne_nil _ _) hRest]

theorem pieces_ne_nil (sep text : Text) (skip : Nat) : pieces sep skip text ≠ [] := by
  induction text generalizing skip with
  | nil => simp [pieces]
  | cons c rest ih =>
      cases skip with
      | succ skip => exact ih skip
      | zero =>
          rw [pieces]
          split
          · exact List.cons_ne_nil _ _
          · obtain ⟨first, others, hPieces⟩ := List.exists_cons_of_ne_nil (ih 0)
            rw [hPieces]
            exact List.cons_ne_nil _ _

/-- What a piece is: a part of the text without the separator. The first one, where
nothing is skipped, is the beginning of the text. -/
theorem pieces_spec (text : Text) (skip : Nat) :
    (∀ piece ∈ pieces sep skip text, piece <:+: text ∧ (sep ≠ [] → ¬sep <:+: piece)) ∧
      (skip = 0 → ∀ first others, pieces sep skip text = first :: others → first <+: text) := by
  induction text generalizing skip with
  | nil =>
      constructor
      · intro piece hPiece
        rw [pieces, List.mem_singleton] at hPiece
        subst hPiece
        exact ⟨List.infix_rfl, fun hSep hInfix => hSep (List.infix_nil.1 hInfix)⟩
      · intro _ first others hPieces
        rw [pieces] at hPieces
        cases hPieces
        exact List.prefix_rfl
  | cons c rest ih =>
      cases skip with
      | succ skip =>
          constructor
          · intro piece hPiece
            obtain ⟨hInfix, hNone⟩ := (ih skip).1 piece hPiece
            exact ⟨hInfix.trans (List.suffix_cons c rest).isInfix, hNone⟩
          · intro hZero
            cases hZero
      | zero =>
          by_cases hPrefix : sep.isPrefixOf (c :: rest) = true
          · rw [pieces, if_pos hPrefix]
            constructor
            · intro piece hPiece
              rcases List.mem_cons.1 hPiece with rfl | hPiece
              · exact ⟨List.nil_infix, fun hSep hInfix => hSep (List.infix_nil.1 hInfix)⟩
              · obtain ⟨hInfix, hNone⟩ := (ih _).1 piece hPiece
                exact ⟨hInfix.trans (List.suffix_cons c rest).isInfix, hNone⟩
            · intro _ first others hPieces
              cases hPieces
              exact List.nil_prefix
          · have hNot : ¬sep <+: c :: rest := fun h => hPrefix (List.isPrefixOf_iff_prefix.2 h)
            obtain ⟨first, others, hRest⟩ :=
              List.exists_cons_of_ne_nil (pieces_ne_nil sep rest 0)
            have hFirst := (ih 0).2 rfl first others hRest
            have hExtended : c :: first <+: c :: rest := (List.prefix_cons_inj c).2 hFirst
            rw [pieces_cons_of_other hNot, hRest, List.modifyHead_cons]
            constructor
            · intro piece hPiece
              rcases List.mem_cons.1 hPiece with rfl | hPiece
              · refine ⟨hExtended.isInfix, fun hSep hInfix => ?_⟩
                rcases List.infix_cons_iff.1 hInfix with hHead | hTail
                · exact hNot (hHead.trans hExtended)
                · exact ((ih 0).1 first (hRest ▸ List.mem_cons_self)).2 hSep hTail
              · obtain ⟨hInfix, hNone⟩ := (ih 0).1 piece (hRest ▸ List.mem_cons_of_mem _ hPiece)
                exact ⟨hInfix.trans (List.suffix_cons c rest).isInfix, hNone⟩
            · intro _ head tail hPieces
              cases hPieces
              exact hExtended

theorem mem_pieces_of_mem_split {piece : Text} (h : piece ∈ split sep text) :
    piece ∈ pieces sep 0 text := by
  unfold split at h
  split at h
  · rename_i whole hWhole
    rw [hWhole]
    exact h
  · exact (List.rdropWhile_prefix List.isEmpty _).subset h

theorem rdropWhile_cons_of_not {α : Type} {p : α → Bool} {first : α} (h : p first = false)
    (rest : List α) : (first :: rest).rdropWhile p = first :: rest.rdropWhile p := by
  have hFirst : ¬p first = true := Bool.eq_false_iff.1 h
  induction rest using List.reverseRecOn with
  | nil => exact List.rdropWhile_concat_neg p [] first hFirst
  | append_singleton rest last ih =>
      rw [← List.cons_append]
      by_cases hLast : p last = true
      · rw [List.rdropWhile_concat_pos _ _ _ hLast, List.rdropWhile_concat_pos _ _ _ hLast, ih]
      · rw [List.rdropWhile_concat_neg _ _ _ hLast, List.rdropWhile_concat_neg _ _ _ hLast]
        rfl

/-- What is dropped makes no difference to a loop that skips empty pieces. -/
theorem filterMap_rdropWhile {β : Type} {f : Text → Option β} (h : f [] = none)
    (pieces : List Text) :
    (pieces.rdropWhile List.isEmpty).filterMap f = pieces.filterMap f := by
  induction pieces using List.reverseRecOn with
  | nil => rfl
  | append_singleton pieces last ih =>
      by_cases hLast : last.isEmpty = true
      · rw [List.rdropWhile_concat_pos _ _ _ hLast, ih, List.isEmpty_iff.1 hLast]
        simp [h]
      · rw [List.rdropWhile_concat_neg _ _ _ hLast]

/-- Two pieces or more, of which the first stays. -/
theorem split_cons {first second : Text} {others : List Text}
    (h : pieces sep 0 text = first :: second :: others) (hFirst : first ≠ []) :
    split sep text = first :: (second :: others).rdropWhile List.isEmpty := by
  have hKept : first.isEmpty = false := by simpa using hFirst
  rw [split, h]
  exact rdropWhile_cons_of_not hKept _

end
end StompGames.Java
