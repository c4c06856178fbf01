import Mathlib.Data.List.Induction
import Mathlib.Data.List.Sort
import Mathlib.Order.Lattice

/-! Records in the order of a key, and values that later records replace. -/
namespace KeyOrder

variable {ι K V : Type}

/-- No two items have the same key. -/
def Distinct (key : ι → K) (items : List ι) : Prop :=
  items.Pairwise fun first second => key first ≠ key second

instance [DecidableEq K] (key : ι → K) (items : List ι) : Decidable (Distinct key items) :=
  inferInstanceAs (Decidable (items.Pairwise _))

theorem Distinct.perm {key : ι → K} {items others : List ι} (h : Distinct key items)
    (hPerm : items.Perm others) : Distinct key others :=
  hPerm.pairwise h fun hNe => Ne.symm hNe

variable [LinearOrder K]

/-- The keys do not go down. Items of one key may stand in any order. -/
def Sorted (key : ι → K) (items : List ι) : Prop :=
  items.Pairwise fun first second => key first ≤ key second

/-- What a sorting function by this key gives. -/
def Sorts (key : ι → K) (sort : List ι → List ι) : Prop :=
  ∀ items, (sort items).Perm items ∧ Sorted key (sort items)

/-- The value of the record with the highest key among those that have one. -/
def Latest (key : ι → K) (value : ι → Option V) (items : List ι) (v : V) : Prop :=
  ∃ item ∈ items, value item = some v ∧
    ∀ other ∈ items, (value other).isSome → key other ≤ key item

/-- The value after all records, each of which may replace it. -/
def lastValue (value : ι → Option V) (initial : V) (items : List ι) : V :=
  items.foldl (fun v item => (value item).getD v) initial

section
variable {key : ι → K} {items others : List ι}

theorem Sorted.strict (h : Sorted key items) (hDistinct : Distinct key items) :
    items.Pairwise fun first second => key first < key second :=
  (h.and hDistinct).imp fun hBoth => lt_of_le_of_ne hBoth.1 hBoth.2

/-- With distinct keys there is one order. -/
theorem Sorted.eq_of_perm (hItems : Sorted key items) (hOthers : Sorted key others)
    (hDistinct : Distinct key items) (hPerm : items.Perm others) : items = others := by
  have hStrict := hItems.strict hDistinct
  have hStrictOthers := hOthers.strict (hDistinct.perm hPerm)
  apply hPerm.eq_of_pairwise _ hStrict hStrictOthers
  intro first second _ _ hLess hMore
  exact absurd hMore (lt_asymm hLess)

variable {value : ι → Option V} {initial v : V}

theorem lastValue_append (initial : V) :
    lastValue value initial (items ++ others) =
      lastValue value (lastValue value initial items) others :=
  List.foldl_append

theorem lastValue_none (h : ∀ item ∈ items, value item = none) :
    lastValue value initial items = initial := by
  induction items with
  | nil => rfl
  | cons item rest ih =>
      obtain ⟨hFirst, hRest⟩ := List.forall_mem_cons.1 h
      rw [lastValue, List.foldl_cons, hFirst]
      exact ih hRest

/-- In sorted records the value that stays is the latest one. -/
theorem lastValue_latest (h : Sorted key items) (hSome : ∃ item ∈ items, (value item).isSome) :
    Latest key value items (lastValue value initial items) := by
  induction items using List.reverseRecOn with
  | nil =>
      obtain ⟨item, hMem, -⟩ := hSome
      cases hMem
  | append_singleton before last ih =>
      obtain ⟨hBefore, -, hLast⟩ := List.pairwise_append.1 h
      cases hValue : value last with
      | some v =>
          refine ⟨last, List.mem_append_right _ List.mem_cons_self, ?_, ?_⟩
          · rw [hValue, lastValue_append]
            simp [lastValue, hValue]
          · intro other hOther _
            rcases List.mem_append.1 hOther with hOther | hOther
            · exact hLast other hOther last List.mem_cons_self
            · rw [List.mem_singleton.1 hOther]
      | none =>
          have hSomeBefore : ∃ item ∈ before, (value item).isSome := by
            obtain ⟨item, hMem, hItem⟩ := hSome
            rcases List.mem_append.1 hMem with hMem | hMem
            · exact ⟨item, hMem, hItem⟩
            · rw [List.mem_singleton.1 hMem, hValue] at hItem
              cases hItem
          have hSame : lastValue value initial (before ++ [last]) =
              lastValue value initial before := by
            rw [lastValue_append]
            simp [lastValue, hValue]
          obtain ⟨item, hMem, hItem, hMax⟩ := ih hBefore hSomeBefore
          refine ⟨item, List.mem_append_left _ hMem, hSame ▸ hItem, ?_⟩
          intro other hOther hOtherSome
          rcases List.mem_append.1 hOther with hOther | hOther
          · exact hMax other hOther hOtherSome
          · rw [List.mem_singleton.1 hOther, hValue] at hOtherSome
            cases hOtherSome

theorem Latest.perm (h : Latest key value items v) (hPerm : items.Perm others) :
    Latest key value others v := by
  obtain ⟨item, hMem, hValue, hMax⟩ := h
  exact ⟨item, hPerm.mem_iff.1 hMem, hValue, fun other hOther =>
    hMax other (hPerm.mem_iff.2 hOther)⟩

end
end KeyOrder
