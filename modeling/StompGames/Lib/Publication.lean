import Mathlib.Data.List.Pairwise

/-! Messages that are published one after another, each to some of the nodes. All nodes get
them in one order. -/

/-- The messages, and for every node the places in the log of those that it got. -/
structure Publication (Node Message : Type) where
  log : List Message
  got : Node → List Nat

namespace Publication

variable {Node Message : Type}

/-- Nothing was published, and nobody has anything. -/
def start : Publication Node Message := ⟨[], fun _ => []⟩

/-- A message goes to the end of the log, and each receiver gets its number. -/
def publish (message : Message) (receives : Node → Bool) (p : Publication Node Message) :
    Publication Node Message :=
  ⟨p.log ++ [message], fun node => p.got node ++ if receives node then [p.log.length] else []⟩

/-- No node gets a message that was not published, twice, or out of order. -/
structure Ordered (p : Publication Node Message) : Prop where
  logged : ∀ node, ∀ k ∈ p.got node, k < p.log.length
  increasing : ∀ node, (p.got node).Pairwise (· < ·)

variable {p : Publication Node Message}

theorem ordered_start : (start : Publication Node Message).Ordered :=
  ⟨fun _ _ h => absurd h List.not_mem_nil, fun _ => List.Pairwise.nil⟩

theorem Ordered.publish (h : p.Ordered) (message : Message) (receives : Node → Bool) :
    (p.publish message receives).Ordered := by
  constructor
  · intro node k hMem
    rw [Publication.publish, List.length_append, List.length_singleton]
    rcases List.mem_append.1 hMem with hOld | hNew
    · exact Nat.lt_succ_of_lt (h.logged node k hOld)
    · split at hNew
      · rw [List.mem_singleton.1 hNew]
        exact Nat.lt_succ_self _
      · cases hNew
  · intro node
    change (p.got node ++ if receives node then [p.log.length] else []).Pairwise (· < ·)
    split
    · rw [List.pairwise_append]
      refine ⟨h.increasing node, List.pairwise_singleton _ _, fun k hk l hl => ?_⟩
      rw [List.mem_singleton.1 hl]
      exact h.logged node k hk
    · rw [List.append_nil]
      exact h.increasing node

/-- What one node gets first, no node gets last. -/
theorem Ordered.same_order (h : p.Ordered) {node other : Node} {k l : Nat}
    (hFirst : [k, l].Sublist (p.got node)) : ¬[l, k].Sublist (p.got other) := by
  intro hLast
  have hLt := List.pairwise_pair.1 ((h.increasing node).sublist hFirst)
  have hGt := List.pairwise_pair.1 ((h.increasing other).sublist hLast)
  omega

end Publication
