import Mathlib.Data.List.TakeWhile

/-! Texts that a mark ends. The first mark is where such a text ends, whatever follows. -/
namespace Framing

section
variable {α : Type} {mark : α}

/-- The first mark cuts a text in one way only. -/
theorem append_cons_inj {before before' rest rest' : List α} (h : mark ∉ before)
    (h' : mark ∉ before') :
    before ++ mark :: rest = before' ++ mark :: rest' ↔ before = before' ∧ rest = rest' := by
  induction before generalizing before' with
  | nil =>
      cases before' with
      | nil => simp
      | cons x tail =>
          have hMark : mark ≠ x := fun hSame => h' (hSame ▸ List.mem_cons_self)
          simp [hMark]
  | cons x tail ih =>
      rw [List.mem_cons, not_or] at h
      cases before' with
      | nil => simp [Ne.symm h.1]
      | cons x' tail' =>
          rw [List.mem_cons, not_or] at h'
          rw [List.cons_append, List.cons_append, List.cons.injEq, List.cons.injEq, ih h.2 h'.2,
            and_assoc]

/-- A beginning without the mark lies before the first mark. -/
theorem exists_of_append_eq {part later before rest : List α} (hPart : mark ∉ part)
    (h : part ++ later = before ++ mark :: rest) :
    ∃ left, before = part ++ left ∧ later = left ++ mark :: rest := by
  induction part generalizing before with
  | nil => exact ⟨before, rfl, h⟩
  | cons x part ih =>
      rw [List.mem_cons, not_or] at hPart
      cases before with
      | nil => exact absurd (List.cons.inj h).1.symm hPart.1
      | cons y before =>
          obtain ⟨rfl, hTail⟩ := List.cons.inj h
          obtain ⟨left, rfl, hLater⟩ := ih hPart.2 hTail
          exact ⟨left, rfl, hLater⟩

end

section
variable {α : Type} [BEq α] [LawfulBEq α] {mark : α}

/-- What stands before the first mark, all of it where there is none. -/
def upTo (mark : α) (items : List α) : List α := items.takeWhile (· != mark)

/-- What follows the first mark. -/
def after (mark : α) (items : List α) : List α := (items.dropWhile (· != mark)).drop 1

theorem not_mem_upTo (mark : α) (items : List α) : mark ∉ upTo mark items := by
  intro h
  have hOther := List.mem_takeWhile_imp h
  simp at hOther

theorem bne_of_not_mem {items : List α} (h : mark ∉ items) : ∀ x ∈ items, (x != mark) = true :=
  fun _ hx => bne_iff_ne.2 (ne_of_mem_of_not_mem hx h)

theorem upTo_append {before : List α} (h : mark ∉ before) (rest : List α) :
    upTo mark (before ++ mark :: rest) = before := by
  rw [upTo, List.takeWhile_append_of_pos (bne_of_not_mem h)]
  simp

theorem after_append {before : List α} (h : mark ∉ before) (rest : List α) :
    after mark (before ++ mark :: rest) = rest := by
  rw [after, List.dropWhile_append_of_pos (bne_of_not_mem h)]
  simp

theorem after_of_not_mem {items : List α} (h : mark ∉ items) : after mark items = [] := by
  rw [after, List.dropWhile_eq_nil_iff.2 (bne_of_not_mem h)]
  rfl

/-- The first mark, with what stands before and after it. -/
theorem eq_of_mem {items : List α} (h : mark ∈ items) :
    items = upTo mark items ++ mark :: after mark items := by
  obtain ⟨before, rest, rfl, hFirst⟩ := List.eq_append_cons_of_mem h
  rw [upTo_append hFirst, after_append hFirst]

end
end Framing
