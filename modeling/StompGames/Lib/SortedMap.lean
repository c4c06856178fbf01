import Mathlib.Data.List.Basic
import Mathlib.Order.Lattice

/-! Finite maps that are walked through in the order of their keys. -/

/-- A finite map as the list of its entries, by ascending key. Two maps with the same entries are
the same. -/
structure SortedMap (K V : Type) [LinearOrder K] where
  entries : List (K × V)
  sorted : entries.Pairwise fun a b => a.1 < b.1

namespace SortedMap
variable {K V W : Type} [LinearOrder K]

/-- The map without entries. -/
def empty : SortedMap K V := ⟨[], List.Pairwise.nil⟩

/-- The value of a key. -/
def find? (m : SortedMap K V) (k : K) : Option V :=
  (m.entries.find? fun entry => entry.1 = k).map Prod.snd

/-- The entries with one value set, at the place of its key. -/
def insertEntry (k : K) (v : V) : List (K × V) → List (K × V)
  | [] => [(k, v)]
  | entry :: rest =>
      if k < entry.1 then (k, v) :: entry :: rest
      else if k = entry.1 then (k, v) :: rest
      else entry :: insertEntry k v rest

theorem mem_insertEntry {k : K} {v : V} {entries : List (K × V)} {entry : K × V}
    (h : entry ∈ insertEntry k v entries) : entry = (k, v) ∨ entry ∈ entries := by
  induction entries with
  | nil => exact Or.inl (List.mem_singleton.1 h)
  | cons first rest ih =>
      unfold insertEntry at h
      split at h
      · exact List.mem_cons.1 h
      · split at h
        · exact (List.mem_cons.1 h).imp_right (List.mem_cons_of_mem _)
        · rcases List.mem_cons.1 h with rfl | h
          · exact Or.inr List.mem_cons_self
          · exact (ih h).imp_right (List.mem_cons_of_mem _)

theorem insertEntry_sorted (k : K) (v : V) {entries : List (K × V)}
    (h : entries.Pairwise fun a b => a.1 < b.1) :
    (insertEntry k v entries).Pairwise fun a b => a.1 < b.1 := by
  induction entries with
  | nil => exact List.pairwise_singleton _ _
  | cons first rest ih =>
      obtain ⟨hFirst, hRest⟩ := List.pairwise_cons.1 h
      unfold insertEntry
      split
      · rename_i hLess
        refine List.pairwise_cons.2 ⟨fun entry hEntry => ?_, h⟩
        rcases List.mem_cons.1 hEntry with rfl | hEntry
        · exact hLess
        · exact lt_trans hLess (hFirst entry hEntry)
      · rename_i hNotLess
        split
        · rename_i hSame
          exact List.pairwise_cons.2 ⟨fun entry hEntry => hSame ▸ hFirst entry hEntry, hRest⟩
        · rename_i hOther
          refine List.pairwise_cons.2 ⟨fun entry hEntry => ?_, ih hRest⟩
          rcases mem_insertEntry hEntry with rfl | hEntry
          · exact lt_of_le_of_ne (not_lt.1 hNotLess) (Ne.symm hOther)
          · exact hFirst entry hEntry

/-- The map with a new value for a key, which has one entry before and after. -/
def insert (m : SortedMap K V) (k : K) (v : V) : SortedMap K V :=
  ⟨insertEntry k v m.entries, insertEntry_sorted k v m.sorted⟩

/-- The same keys with other values. -/
def mapValues (f : V → W) (m : SortedMap K V) : SortedMap K W :=
  ⟨m.entries.map fun entry => (entry.1, f entry.2), by
    rw [List.pairwise_map]
    exact m.sorted⟩

theorem insertEntry_last {k : K} (v : V) {entries : List (K × V)}
    (h : ∀ entry ∈ entries, entry.1 < k) : insertEntry k v entries = entries ++ [(k, v)] := by
  induction entries with
  | nil => rfl
  | cons entry rest ih =>
      obtain ⟨hFirst, hRest⟩ := List.forall_mem_cons.1 h
      rw [insertEntry, if_neg (lt_asymm hFirst), if_neg (ne_of_gt hFirst), ih hRest]
      rfl

/-- Entries that come in the order of their keys are kept as they come. -/
theorem foldl_insert_entries {ι : Type} (key : ι → K) (value : ι → V) (items : List ι)
    (m : SortedMap K V) (hSorted : (m.entries ++ items.map fun i => (key i, value i)).Pairwise
      fun a b => a.1 < b.1) :
    (items.foldl (fun m i => m.insert (key i) (value i)) m).entries =
      m.entries ++ items.map fun i => (key i, value i) := by
  induction items generalizing m with
  | nil => simp
  | cons i rest ih =>
      have hLast : ∀ entry ∈ m.entries, entry.1 < key i := fun entry hEntry =>
        (List.pairwise_append.1 hSorted).2.2 entry hEntry _ (List.mem_map_of_mem List.mem_cons_self)
      have hInsert : (m.insert (key i) (value i)).entries = m.entries ++ [(key i, value i)] :=
        insertEntry_last _ hLast
      rw [List.foldl_cons, ih, hInsert]
      · simp
      · rw [hInsert]
        simpa using hSorted

@[ext] theorem ext {m m' : SortedMap K V} (h : m.entries = m'.entries) : m = m' := by
  cases m
  cases m'
  cases h
  rfl

theorem mapValues_eq_self_iff {f : V → V} {m : SortedMap K V} :
    m.mapValues f = m ↔ ∀ entry ∈ m.entries, f entry.2 = entry.2 := by
  constructor
  · intro h entry hEntry
    have hMap : m.entries.map (fun entry => (entry.1, f entry.2)) = m.entries.map id := by
      rw [List.map_id]
      exact congrArg entries h
    exact congrArg Prod.snd (List.map_inj_left.1 hMap entry hEntry)
  · intro h
    apply ext
    calc m.entries.map (fun entry => (entry.1, f entry.2))
        = m.entries.map id := List.map_congr_left fun entry hEntry => by rw [h entry hEntry]; rfl
      _ = m.entries := List.map_id _

end SortedMap
