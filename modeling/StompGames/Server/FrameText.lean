import StompGames.Server.StompMsgProtocol

/-! What the texts that the server reads out of a frame can contain. A frame has no
zero character, it is cut at line breaks of every kind, and header values and
the command are single lines of it. -/
namespace StompGames

/-- A text that neither ends a line nor a frame anywhere. -/
def SingleLine (text : Text) : Prop := ∀ c ∈ text, Java.isLineBreak c = false ∧ c ≠ '\x00'

instance (text : Text) : Decidable (SingleLine text) := List.decidableBAll _ text

namespace SingleLine

theorem append {text rest : Text} (h : SingleLine text) (h' : SingleLine rest) :
    SingleLine (text ++ rest) := by
  intro c hc
  rcases List.mem_append.1 hc with hc | hc
  · exact h c hc
  · exact h' c hc

theorem newline_not_mem {text : Text} (h : SingleLine text) : '\n' ∉ text :=
  fun hMem => absurd (h _ hMem).1 (by decide)

theorem zero_not_mem {text : Text} (h : SingleLine text) : '\x00' ∉ text :=
  fun hMem => (h _ hMem).2 rfl

/-- A literal, as it can be evaluated. -/
theorem of_all {text : Text} (h : text.all (fun c => !Java.isLineBreak c && c != '\x00') = true) :
    SingleLine text := by
  intro c hc
  simpa using List.all_eq_true.1 h c hc

theorem of_decimal (n : Int) : SingleLine (Decimal.decimal n) := by
  intro c hc
  refine ⟨Java.isLineBreak_of_mem_decimal hc, ?_⟩
  rintro rfl
  exact Decimal.not_mem_decimal (by decide) (by decide) hc

end SingleLine

namespace Java

/-- The pieces are made of what was read, and no line break is in them. -/
theorem mem_lineBreakPieces {piece text line : Text} (h : line ∈ lineBreakPieces piece text)
    (hPiece : ∀ c ∈ piece, isLineBreak c = false) :
    ∀ c ∈ line, isLineBreak c = false ∧ (c ∈ piece ∨ c ∈ text) := by
  induction piece, text using lineBreakPieces.induct with
  | case1 piece =>
      obtain rfl := List.mem_singleton.1 h
      exact fun c hc => ⟨hPiece c hc, Or.inl hc⟩
  | case2 piece rest ih =>
      rw [lineBreakPieces] at h
      rcases List.mem_cons.1 h with rfl | h
      · exact fun c hc => ⟨hPiece c hc, Or.inl hc⟩
      · intro c hc
        obtain ⟨hBreak, hMem⟩ := ih h (List.forall_mem_nil _) c hc
        exact ⟨hBreak, Or.inr (List.mem_cons_of_mem _ (List.mem_cons_of_mem _
          (hMem.resolve_left List.not_mem_nil)))⟩
  | case3 piece d rest hNot hBreak ih =>
      rw [lineBreakPieces.eq_3 _ _ _ hNot, if_pos hBreak] at h
      rcases List.mem_cons.1 h with rfl | h
      · exact fun c hc => ⟨hPiece c hc, Or.inl hc⟩
      · intro c hc
        obtain ⟨hBreak, hMem⟩ := ih h (List.forall_mem_nil _) c hc
        exact ⟨hBreak, Or.inr (List.mem_cons_of_mem _ (hMem.resolve_left List.not_mem_nil))⟩
  | case4 piece d rest hNot hBreak ih =>
      rw [lineBreakPieces.eq_3 _ _ _ hNot, if_neg hBreak] at h
      intro c hc
      have hNext : ∀ c ∈ piece ++ [d], isLineBreak c = false := by
        intro c hc
        rcases List.mem_append.1 hc with hc | hc
        · exact hPiece c hc
        · rw [List.mem_singleton.1 hc]
          exact Bool.eq_false_of_not_eq_true hBreak
      obtain ⟨hLine, hMem⟩ := ih h hNext c hc
      refine ⟨hLine, ?_⟩
      rcases hMem with hMem | hMem
      · rcases List.mem_append.1 hMem with hMem | hMem
        · exact Or.inl hMem
        · exact Or.inr (List.mem_singleton.1 hMem ▸ List.mem_cons_self)
      · exact Or.inr (List.mem_cons_of_mem _ hMem)

/-- The lines of a frame. -/
theorem singleLine_of_mem_splitLines {message line : Text} (hMessage : '\x00' ∉ message)
    (h : line ∈ splitLines message) : SingleLine line := by
  have hPiece : line ∈ lineBreakPieces [] message := by
    unfold splitLines at h
    split at h
    · rename_i whole hWhole
      rw [hWhole]
      exact h
    · exact (List.rdropWhile_prefix _ _).subset h
  intro c hc
  obtain ⟨hBreak, hMem⟩ := mem_lineBreakPieces hPiece nofun c hc
  refine ⟨hBreak, ?_⟩
  rintro rfl
  exact hMessage (hMem.resolve_left List.not_mem_nil)

/-- The pieces of a line are parts of it, and so no piece has a line break. -/
theorem singleLine_of_mem_splitColon {line part : Text} (hLine : SingleLine line)
    (h : part ∈ splitColon line) : SingleLine part := by
  unfold splitColon at h
  split at h
  · obtain rfl := List.mem_singleton.1 h
    exact hLine
  · rename_i colon value hRest
    intro c hc
    apply hLine
    rcases List.mem_cons.1 h with rfl | h
    · exact (List.takeWhile_prefix _).subset hc
    · obtain rfl := List.mem_singleton.1 h
      apply (List.dropWhile_suffix _).subset
      rw [hRest]
      exact List.mem_cons_of_mem _ hc

end Java

/-- Every header value is a single line. -/
def SingleLineHeaders (headers : Headers) : Prop :=
  ∀ name value, headers name = some value → SingleLine value

/-- The headers that were read, the lines that are left and the exception all come from the
lines. -/
theorem readHeaders_singleLine {lines : List Text} (hLines : ∀ line ∈ lines, SingleLine line)
    {headers : Headers} (h : SingleLineHeaders headers) :
    SingleLineHeaders (readHeaders headers lines).1 ∧
      (∀ rest, (readHeaders headers lines).2 = .ok rest → rest ⊆ lines) ∧
      ∀ e, (readHeaders headers lines).2 = .error e → SingleLine e.getMessage := by
  induction lines generalizing headers with
  | nil => exact ⟨h, fun rest hRest => Except.ok.inj hRest ▸ List.Subset.refl _, nofun⟩
  | cons line lines ih =>
      unfold readHeaders
      split
      · exact ⟨h, fun rest hRest => Except.ok.inj hRest ▸ List.Subset.refl _, nofun⟩
      · split
        · rename_i name value hSplit
          have hValue : SingleLine value :=
            Java.singleLine_of_mem_splitColon (hLines line List.mem_cons_self)
              (hSplit ▸ List.mem_cons_of_mem _ List.mem_cons_self)
          have hNext : SingleLineHeaders (Function.update headers name (some value)) := by
            intro other value' hOther
            by_cases hName : other = name
            · subst hName
              rw [Function.update_self] at hOther
              exact Option.some.inj hOther ▸ hValue
            · rw [Function.update_of_ne hName] at hOther
              exact h other value' hOther
          obtain ⟨hAll, hRest, hError⟩ :=
            ih (fun l hl => hLines l (List.mem_cons_of_mem _ hl)) hNext
          exact ⟨hAll, fun rest hOk => List.subset_cons_of_subset _ (hRest rest hOk), hError⟩
        · refine ⟨h, nofun, fun e he => ?_⟩
          cases he
          exact .of_all (by decide)

theorem mem_intercalate {separator c : Char} {lines : List Text}
    (h : c ∈ [separator].intercalate lines) : c = separator ∨ ∃ line ∈ lines, c ∈ line := by
  induction lines with
  | nil => cases h
  | cons line rest ih =>
      cases rest with
      | nil =>
          rw [List.intercalate_singleton] at h
          exact Or.inr ⟨line, List.mem_cons_self, h⟩
      | cons next rest =>
          rw [List.intercalate_cons_cons] at h
          rcases List.mem_append.1 h with h | h
          · rcases List.mem_append.1 h with h | h
            · exact Or.inr ⟨line, List.mem_cons_self, h⟩
            · exact Or.inl (List.mem_singleton.1 h)
          · obtain hc | ⟨other, hOther, hc⟩ := ih h
            · exact Or.inl hc
            · exact Or.inr ⟨other, List.mem_cons_of_mem _ hOther, hc⟩

theorem zero_not_mem_intercalate {lines : List Text} (h : ∀ line ∈ lines, '\x00' ∉ line) :
    '\x00' ∉ ['\n'].intercalate lines := by
  intro hMem
  obtain hNewline | ⟨line, hLine, hZero⟩ := mem_intercalate hMem
  · exact absurd hNewline (by decide)
  · exact h line hLine hZero

/-- What a frame without zero characters is read as. -/
theorem parseFrame_singleLine {message : Text} (hMessage : '\x00' ∉ message) :
    SingleLineHeaders (parseFrame message).1 ∧
      (∀ command body, (parseFrame message).2 = .ok (command, body) →
        SingleLine command ∧ '\x00' ∉ body) ∧
      ∀ e, (parseFrame message).2 = .error e → SingleLine e.getMessage := by
  have hNone : SingleLineHeaders fun _ => none := nofun
  have hAll : ∀ line ∈ Java.splitLines message, SingleLine line :=
    fun line => Java.singleLine_of_mem_splitLines hMessage
  unfold parseFrame
  split
  · refine ⟨hNone, nofun, fun e he => ?_⟩
    cases he
    exact .of_all (by decide)
  · refine ⟨hNone, nofun, fun e he => ?_⟩
    cases he
    exact .of_all (by decide)
  · rename_i command lines _ hSplit
    rw [hSplit] at hAll
    obtain ⟨hCommand, hLines⟩ := List.forall_mem_cons.1 hAll
    obtain ⟨hHeaders, hRest, hError⟩ := readHeaders_singleLine hLines hNone
    rcases hRead : readHeaders (fun _ => none) lines with ⟨headers, e | rest⟩ <;>
      rw [hRead] at hHeaders hRest hError
    · refine ⟨hHeaders, nofun, fun e' he => ?_⟩
      cases he
      exact hError e rfl
    · refine ⟨hHeaders, fun command' body hOk => ?_, nofun⟩
      obtain ⟨rfl, rfl⟩ := Prod.mk.inj (Except.ok.inj hOk)
      refine ⟨hCommand, zero_not_mem_intercalate fun line hLine => ?_⟩
      exact (hLines line (hRest rest rfl (List.mem_of_mem_drop hLine))).zero_not_mem

end StompGames
