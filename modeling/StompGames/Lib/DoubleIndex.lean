import Mathlib.Data.List.Nodup
import Mathlib.Logic.Function.Basic

/-! Items kept in two indexes at once: in the list of their key and in the list
of their owner. An owner has at most one item of each key. -/
namespace DoubleIndex

variable {ι K L : Type} {key : ι → K} {owner : ι → L}

/-- The two indexes hold the same items, each once and at its own places. -/
structure Consistent (key : ι → K) (owner : ι → L) (byKey : K → List ι) (byOwner : L → List ι) :
    Prop where
  key_of_mem : ∀ k x, x ∈ byKey k → key x = k
  owner_of_mem : ∀ o x, x ∈ byOwner o → owner x = o
  same : ∀ x, x ∈ byKey (key x) ↔ x ∈ byOwner (owner x)
  nodup_key : ∀ k, (byKey k).Nodup
  nodup_owner : ∀ o, (byOwner o).Nodup
  unique : ∀ o, ∀ x ∈ byOwner o, ∀ y ∈ byOwner o, key x = key y → x = y

theorem Consistent.empty : Consistent key owner (fun _ => []) (fun _ => []) where
  key_of_mem := by simp
  owner_of_mem := by simp
  same := by simp
  nodup_key := by simp
  nodup_owner := by simp
  unique := by simp

section
variable {byKey : K → List ι} {byOwner : L → List ι}

/-- Membership in a key's list, seen from the owner's side. -/
theorem Consistent.mem_key_iff (h : Consistent key owner byKey byOwner) (k : K) (x : ι) :
    x ∈ byKey k ↔ key x = k ∧ x ∈ byOwner (owner x) := by
  constructor
  · intro hx
    have hk := h.key_of_mem k x hx
    exact ⟨hk, (h.same x).1 (hk ▸ hx)⟩
  · rintro ⟨rfl, hx⟩
    exact (h.same x).2 hx

theorem Consistent.mem_owner_iff (h : Consistent key owner byKey byOwner) (o : L) (x : ι) :
    x ∈ byOwner o ↔ owner x = o ∧ x ∈ byKey (key x) := by
  constructor
  · intro hx
    have ho := h.owner_of_mem o x hx
    exact ⟨ho, (h.same x).2 (ho ▸ hx)⟩
  · rintro ⟨rfl, hx⟩
    exact (h.same x).1 hx

/-- Items are dropped from both indexes by the same test. -/
theorem Consistent.filter (h : Consistent key owner byKey byOwner) (keep : ι → Bool) :
    Consistent key owner (fun k => (byKey k).filter keep) (fun o => (byOwner o).filter keep) where
  key_of_mem k x hx := h.key_of_mem k x (List.mem_of_mem_filter hx)
  owner_of_mem o x hx := h.owner_of_mem o x (List.mem_of_mem_filter hx)
  same x := by simp only [List.mem_filter, h.same x]
  nodup_key k := (h.nodup_key k).filter _
  nodup_owner o := (h.nodup_owner o).filter _
  unique o x hx y hy := h.unique o x (List.mem_of_mem_filter hx) y (List.mem_of_mem_filter hy)

variable [DecidableEq K] [DecidableEq L]

/-- A new item of a key its owner has no item of goes to the end of both lists. -/
theorem Consistent.add (h : Consistent key owner byKey byOwner) {x : ι}
    (hNew : x ∉ byKey (key x)) (hUnique : ∀ y ∈ byOwner (owner x), key y ≠ key x) :
    Consistent key owner (Function.update byKey (key x) (byKey (key x) ++ [x]))
      (Function.update byOwner (owner x) (byOwner (owner x) ++ [x])) := by
  have hOwner : x ∉ byOwner (owner x) := fun hx => hNew ((h.same x).2 hx)
  have hKey : ∀ k y, y ∈ Function.update byKey (key x) (byKey (key x) ++ [x]) k ↔
      y ∈ byKey k ∨ (y = x ∧ k = key x) := by
    intro k y
    by_cases hk : k = key x
    · subst hk
      simp
    · simp [hk]
  have hOwn : ∀ o y, y ∈ Function.update byOwner (owner x) (byOwner (owner x) ++ [x]) o ↔
      y ∈ byOwner o ∨ (y = x ∧ o = owner x) := by
    intro o y
    by_cases ho : o = owner x
    · subst ho
      simp
    · simp [ho]
  constructor
  · intro k y hy
    rcases (hKey k y).1 hy with hy | ⟨rfl, rfl⟩
    · exact h.key_of_mem k y hy
    · rfl
  · intro o y hy
    rcases (hOwn o y).1 hy with hy | ⟨rfl, rfl⟩
    · exact h.owner_of_mem o y hy
    · rfl
  · intro y
    rw [hKey, hOwn]
    constructor
    · rintro (hy | ⟨rfl, -⟩)
      · exact Or.inl ((h.same y).1 hy)
      · exact Or.inr ⟨rfl, rfl⟩
    · rintro (hy | ⟨rfl, -⟩)
      · exact Or.inl ((h.same y).2 hy)
      · exact Or.inr ⟨rfl, rfl⟩
  · intro k
    by_cases hk : k = key x
    · subst hk
      rw [Function.update_self, List.nodup_append]
      refine ⟨h.nodup_key _, List.nodup_singleton _, ?_⟩
      simpa using fun a ha => ne_of_mem_of_not_mem ha hNew
    · rw [Function.update_of_ne hk]
      exact h.nodup_key k
  · intro o
    by_cases ho : o = owner x
    · subst ho
      rw [Function.update_self, List.nodup_append]
      refine ⟨h.nodup_owner _, List.nodup_singleton _, ?_⟩
      simpa using fun a ha => ne_of_mem_of_not_mem ha hOwner
    · rw [Function.update_of_ne ho]
      exact h.nodup_owner o
  · intro o y hy z hz hyz
    rcases (hOwn o y).1 hy with hyOld | ⟨hyNew, ho⟩ <;>
      rcases (hOwn o z).1 hz with hzOld | ⟨hzNew, ho'⟩
    · exact h.unique o y hyOld z hzOld hyz
    · exact absurd (hzNew ▸ hyz) (hUnique y (ho' ▸ hyOld))
    · exact absurd (hyNew ▸ hyz.symm) (hUnique z (ho ▸ hzOld))
    · rw [hyNew, hzNew]

variable [DecidableEq ι]

/-- Erasing an item from its two lists is filtering it out everywhere. -/
theorem Consistent.erase_eq_filter (h : Consistent key owner byKey byOwner) (x : ι) :
    Function.update byKey (key x) ((byKey (key x)).erase x) =
        (fun k => (byKey k).filter (· != x)) ∧
      Function.update byOwner (owner x) ((byOwner (owner x)).erase x) =
        (fun o => (byOwner o).filter (· != x)) := by
  have hOther : ∀ list : List ι, x ∉ list → list.filter (· != x) = list := by
    intro list hx
    rw [List.filter_eq_self]
    intro y hy
    simpa using ne_of_mem_of_not_mem hy hx
  constructor
  · funext k
    by_cases hk : k = key x
    · subst hk
      rw [Function.update_self, (h.nodup_key _).erase_eq_filter]
    · rw [Function.update_of_ne hk, hOther]
      exact fun hx => hk (h.key_of_mem k x hx).symm
  · funext o
    by_cases ho : o = owner x
    · subst ho
      rw [Function.update_self, (h.nodup_owner _).erase_eq_filter]
    · rw [Function.update_of_ne ho, hOther]
      exact fun hx => ho (h.owner_of_mem o x hx).symm

end
end DoubleIndex
