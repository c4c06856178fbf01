import Mathlib.Data.List.Basic

/-! An output stream: what its sink has accepted, and what it is still to be given. -/

/-- What a reader has taken of a stream, and what is still to be taken, in order. -/
structure OutputStream (α : Type) where
  accepted : List α
  pending : List α

namespace OutputStream
variable {α : Type}

/-- More is handed in, behind everything that is pending. -/
def put (items : List α) (s : OutputStream α) : OutputStream α :=
  { s with pending := s.pending ++ items }

/-- The sink takes the first `n` pending items. -/
def take (n : Nat) (s : OutputStream α) : OutputStream α :=
  ⟨s.accepted ++ s.pending.take n, s.pending.drop n⟩

/-- Everything that was ever handed in, as far as it was not lost, repeated or reordered. -/
def total (s : OutputStream α) : List α := s.accepted ++ s.pending

theorem total_put (items : List α) (s : OutputStream α) :
    (s.put items).total = s.total ++ items := (List.append_assoc ..).symm

theorem take_zero (s : OutputStream α) : s.take 0 = s := by
  unfold take
  rw [List.take_zero, List.append_nil, List.drop_zero]

theorem total_take (n : Nat) (s : OutputStream α) : (s.take n).total = s.total := by
  unfold total take
  rw [List.append_assoc, List.take_append_drop]

/-- Pieces of the pending items, the first of which the sink works on. -/
theorem take_pieces {accepted head : List α} {rest : List (List α)} {n : Nat}
    (h : n ≤ head.length) : (⟨accepted, (head :: rest).flatten⟩ : OutputStream α).take n =
      ⟨accepted ++ head.take n, (head.drop n :: rest).flatten⟩ := by
  unfold take
  rw [List.flatten_cons, List.take_append_of_le_length h, List.drop_append_of_le_length h,
    List.flatten_cons]

end OutputStream
