import Mathlib.Data.List.Nodup
import Mathlib.Logic.Function.Basic

/-! Items that are leased out and given back. A new one is made when none is free. -/

/-- What each holder has, the oldest first. -/
structure Leases (Holder : Type) where
  free : List Nat
  made : Nat
  held : Holder → List Nat

namespace Leases

variable {Holder : Type}

/-- The item that the next lease takes. -/
def next (l : Leases Holder) : Nat := l.free.head?.getD l.made

/-- Every item is in one place. -/
structure Exclusive (l : Leases Holder) : Prop where
  free : l.free.Nodup
  held : ∀ h, (l.held h).Nodup
  made : ∀ item, (item ∈ l.free ∨ ∃ h, item ∈ l.held h) → item < l.made
  leased : ∀ h, List.Disjoint (l.held h) l.free
  apart : ∀ h h', h ≠ h' → List.Disjoint (l.held h) (l.held h')

/-- An item is taken and given back at once. -/
def borrow (l : Leases Holder) : Leases Holder :=
  match l.free with
  | item :: rest => { l with free := rest ++ [item] }
  | [] => { l with free := [l.made], made := l.made + 1 }

variable {l : Leases Holder}

theorem Exclusive.start : Exclusive (⟨[], 0, fun _ => []⟩ : Leases Holder) :=
  ⟨List.nodup_nil, fun _ => List.nodup_nil, by simp, by simp, by simp⟩

/-- What is leased next is with nobody. -/
theorem Exclusive.next_not_mem (hl : l.Exclusive) (h : Holder) : l.next ∉ l.held h := by
  intro hMem
  cases hFree : l.free with
  | nil =>
      have hMade : l.next = l.made := by simp [next, hFree]
      exact absurd (hl.made _ (Or.inr ⟨h, hMem⟩)) (by omega)
  | cons item rest =>
      have hNext : l.next = item := by simp [next, hFree]
      rw [hNext] at hMem
      exact hl.leased h hMem (hFree ▸ List.mem_cons_self)

theorem Exclusive.borrow (hl : l.Exclusive) : l.borrow.Exclusive := by
  cases hFree : l.free with
  | cons item rest =>
      have hPerm : l.borrow.free.Perm l.free := by
        simp only [Leases.borrow, hFree]
        exact List.perm_append_singleton item rest
      have hRest : l.borrow.held = l.held ∧ l.borrow.made = l.made := by
        simp [Leases.borrow, hFree]
      refine ⟨hPerm.nodup_iff.2 hl.free, ?_, ?_, ?_, ?_⟩
      · exact hRest.1 ▸ hl.held
      · intro other hMem
        rw [hRest.1, hPerm.mem_iff] at hMem
        exact hRest.2 ▸ hl.made other hMem
      · intro h
        rw [hRest.1]
        exact fun other hMem hOther => hl.leased h hMem (hPerm.mem_iff.1 hOther)
      · exact hRest.1 ▸ hl.apart
  | nil =>
      have hBorrow : l.borrow = { l with free := [l.made], made := l.made + 1 } := by
        simp [Leases.borrow, hFree]
      rw [hBorrow]
      refine ⟨List.nodup_singleton _, hl.held, ?_, fun h other hMem hOther => ?_, hl.apart⟩
      · rintro other (hMem | hMem)
        · rw [List.mem_singleton.1 hMem]
          exact Nat.lt_succ_self _
        · exact Nat.lt_succ_of_lt (hl.made other (Or.inr hMem))
      · have hLt := hl.made other (Or.inr ⟨h, hMem⟩)
        rw [List.mem_singleton.1 hOther] at hLt
        exact Nat.lt_irrefl _ hLt

variable [DecidableEq Holder]

/-- The holder gets an item that is free, or a new one where there is none. -/
def lease (h : Holder) (l : Leases Holder) : Leases Holder :=
  match l.free with
  | item :: rest => { l with free := rest, held := Function.update l.held h (l.held h ++ [item]) }
  | [] => { l with made := l.made + 1, held := Function.update l.held h (l.held h ++ [l.made]) }

/-- Its oldest item is given back. -/
def release (h : Holder) (l : Leases Holder) : Leases Holder :=
  { l with
    free := l.free ++ (l.held h).take 1
    held := Function.update l.held h ((l.held h).drop 1) }

@[simp] theorem lease_held (h : Holder) :
    (l.lease h).held = Function.update l.held h (l.held h ++ [l.next]) := by
  cases hFree : l.free <;> simp [lease, next, hFree]

theorem lease_free_sublist (h : Holder) : ((l.lease h).free).Sublist l.free := by
  cases hFree : l.free with
  | nil => simp [lease, hFree]
  | cons item rest => simp [lease, hFree]

theorem Exclusive.next_not_free (hl : l.Exclusive) (h : Holder) : l.next ∉ (l.lease h).free := by
  cases hFree : l.free with
  | nil => simp [lease, hFree]
  | cons item rest =>
      have hNodup := hl.free
      rw [hFree, List.nodup_cons] at hNodup
      simpa [lease, next, hFree] using hNodup.1

theorem Exclusive.next_lt (hl : l.Exclusive) (h : Holder) :
    l.next < (l.lease h).made ∧ l.made ≤ (l.lease h).made := by
  cases hFree : l.free with
  | nil => simp [lease, next, hFree]
  | cons item rest =>
      have hLt := hl.made item (Or.inl (hFree ▸ List.mem_cons_self))
      simp [lease, next, hFree, hLt]

theorem Exclusive.lease (hl : l.Exclusive) (h : Holder) : (l.lease h).Exclusive := by
  have hHeld : ∀ other item, item ∈ (l.lease h).held other →
      item ∈ l.held other ∨ other = h ∧ item = l.next := by
    intro other item hMem
    rw [lease_held] at hMem
    by_cases hOther : other = h
    · subst hOther
      simpa using hMem
    · rw [Function.update_of_ne hOther] at hMem
      exact Or.inl hMem
  refine ⟨hl.free.sublist (lease_free_sublist h), fun other => ?_, ?_, fun other item => ?_,
    fun other other' hNe item hMem hMem' => ?_⟩
  · rw [lease_held]
    by_cases hOther : other = h
    · subst hOther
      rw [Function.update_self, List.nodup_append']
      exact ⟨hl.held other, List.nodup_singleton _, by simpa using hl.next_not_mem other⟩
    · rw [Function.update_of_ne hOther]
      exact hl.held other
  · rintro item (hMem | ⟨other, hMem⟩)
    · exact Nat.lt_of_lt_of_le (hl.made item (Or.inl ((lease_free_sublist h).subset hMem)))
        (hl.next_lt h).2
    · rcases hHeld other item hMem with hOld | ⟨-, rfl⟩
      · exact Nat.lt_of_lt_of_le (hl.made item (Or.inr ⟨other, hOld⟩)) (hl.next_lt h).2
      · exact (hl.next_lt h).1
  · intro hMem hFree
    rcases hHeld other item hMem with hOld | ⟨-, rfl⟩
    · exact hl.leased other hOld ((lease_free_sublist h).subset hFree)
    · exact hl.next_not_free h hFree
  · rcases hHeld other item hMem with hOld | ⟨rfl, rfl⟩
    · rcases hHeld other' item hMem' with hOld' | ⟨rfl, rfl⟩
      · exact hl.apart other other' hNe hOld hOld'
      · exact hl.next_not_mem other hOld
    · rcases hHeld other' _ hMem' with hOld' | ⟨rfl, -⟩
      · exact hl.next_not_mem other' hOld'
      · exact hNe rfl

theorem Exclusive.release (hl : l.Exclusive) (h : Holder) : (l.release h).Exclusive := by
  have hHeld : ∀ other item, item ∈ (l.release h).held other → item ∈ l.held other ∧
      (other = h → item ∉ (l.held h).take 1) := by
    intro other item hMem
    change item ∈ Function.update l.held h _ other at hMem
    by_cases hOther : other = h
    · subst hOther
      rw [Function.update_self] at hMem
      have hNodup := hl.held other
      rw [← List.take_append_drop 1 (l.held other), List.nodup_append'] at hNodup
      exact ⟨List.mem_of_mem_drop hMem, fun _ hTaken => hNodup.2.2 hTaken hMem⟩
    · rw [Function.update_of_ne hOther] at hMem
      exact ⟨hMem, fun hSame => absurd hSame hOther⟩
  have hTaken : ∀ item ∈ (l.held h).take 1, item ∈ l.held h := fun _ => List.mem_of_mem_take
  refine ⟨?_, fun other => ?_, ?_, fun other item hMem hFree => ?_,
    fun other other' hNe item hMem hMem' => ?_⟩
  · refine List.nodup_append'.2 ⟨hl.free, (hl.held h).sublist (List.take_sublist _ _), ?_⟩
    exact fun item hFree hMem => hl.leased h (hTaken item hMem) hFree
  · change (Function.update l.held h _ other).Nodup
    by_cases hOther : other = h
    · subst hOther
      rw [Function.update_self]
      exact (hl.held other).sublist (List.drop_sublist _ _)
    · rw [Function.update_of_ne hOther]
      exact hl.held other
  · rintro item (hMem | ⟨other, hMem⟩)
    · rcases List.mem_append.1 hMem with hOld | hBack
      · exact hl.made item (Or.inl hOld)
      · exact hl.made item (Or.inr ⟨h, hTaken item hBack⟩)
    · exact hl.made item (Or.inr ⟨other, (hHeld other item hMem).1⟩)
  · obtain ⟨hOld, hKept⟩ := hHeld other item hMem
    rcases List.mem_append.1 hFree with hBefore | hBack
    · exact hl.leased other hOld hBefore
    · by_cases hOther : other = h
      · exact hKept hOther hBack
      · exact hl.apart other h hOther hOld (hTaken item hBack)
  · exact hl.apart other other' hNe (hHeld other item hMem).1 (hHeld other' item hMem').1

end Leases
