import StompGames.Lib.Transition
import Mathlib.Logic.Function.Basic

/-! Nodes that write entries to topics, and a hub that hands every entry on to the nodes
subscribed to its topic. A node keeps its own entries when it writes them, and those of
the others when it reads them. -/
namespace Replication

/-- An item, with who wrote it and the topic it was written to. -/
structure Entry (Node Topic Item : Type) where
  sender : Node
  topic : Topic
  item : Item

/-- `relayed` counts the entries of a node that the hub has handed on. -/
structure State (Node Topic Item : Type) where
  written : Node → List (Entry Node Topic Item)
  relayed : Node → Nat
  inbox : Node → List (Entry Node Topic Item)
  stored : Node → List (Entry Node Topic Item)

/-- A node writes an item, the hub relays the next item of a node, or a node reads what it has
been sent. -/
inductive Label (Node Topic Item : Type) where
  | write (c : Node) (topic : Topic) (item : Item)
  | relay (c : Node)
  | read (d : Node)

variable {Node Topic Item : Type} [DecidableEq Node] [DecidableEq Topic]

/-- The entries of one node on one topic. -/
def of (c : Node) (topic : Topic) (entries : List (Entry Node Topic Item)) :
    List (Entry Node Topic Item) :=
  entries.filter fun e => e.sender = c ∧ e.topic = topic

namespace State

/-- The writer stores its own item at once, before anyone else has it. -/
def write (c : Node) (topic : Topic) (item : Item) (s : State Node Topic Item) :
    State Node Topic Item :=
  { s with
    written := Function.update s.written c (s.written c ++ [⟨c, topic, item⟩])
    stored := Function.update s.stored c (s.stored c ++ [⟨c, topic, item⟩]) }

/-- The next item of a node goes to everyone who is subscribed to its topic. -/
def relay (subscribed : Node → Topic → Bool) (c : Node) (e : Entry Node Topic Item)
    (s : State Node Topic Item) : State Node Topic Item :=
  { s with
    relayed := Function.update s.relayed c (s.relayed c + 1)
    inbox := fun d => if subscribed d e.topic then s.inbox d ++ [e] else s.inbox d }

/-- Its own entries a node has stored already. -/
def read (d : Node) (e : Entry Node Topic Item) (rest : List (Entry Node Topic Item))
    (s : State Node Topic Item) : State Node Topic Item :=
  { s with
    inbox := Function.update s.inbox d rest
    stored := Function.update s.stored d (if e.sender = d then s.stored d else s.stored d ++ [e]) }

end State

/-- One step, where there is something to relay or to read. -/
def step (subscribed : Node → Topic → Bool) (s : State Node Topic Item) :
    Label Node Topic Item → Option (State Node Topic Item)
  | .write c topic item => some (s.write c topic item)
  | .relay c => match (s.written c)[s.relayed c]? with
      | some e => some (s.relay subscribed c e)
      | none => none
  | .read d => match s.inbox d with
      | e :: rest => some (s.read d e rest)
      | [] => none

/-- Nobody has written anything. -/
def start : State Node Topic Item := ⟨fun _ => [], fun _ => 0, fun _ => [], fun _ => []⟩

/-- Of the entries of another node on a topic, a subscribed node has stored or still in its
inbox exactly those that were relayed, in the order in which they were written. -/
structure Ordered (subscribed : Node → Topic → Bool) (s : State Node Topic Item) : Prop where
  relayed : ∀ c, s.relayed c ≤ (s.written c).length
  sender : ∀ c, ∀ e ∈ s.written c, e.sender = c
  own : ∀ c topic, of c topic (s.stored c) = of c topic (s.written c)
  others : ∀ c d topic, c ≠ d → subscribed d topic = true →
    of c topic (s.stored d ++ s.inbox d) = of c topic ((s.written c).take (s.relayed c))

section
variable {subscribed : Node → Topic → Bool} {s t : State Node Topic Item} {c d : Node}
  {topic : Topic}

@[simp] theorem of_append (first second : List (Entry Node Topic Item)) :
    of c topic (first ++ second) = of c topic first ++ of c topic second :=
  List.filter_append ..

theorem of_singleton (e : Entry Node Topic Item) :
    of c topic [e] = if e.sender = c ∧ e.topic = topic then [e] else [] := by
  by_cases h : e.sender = c ∧ e.topic = topic <;> simp [of, h]

theorem of_singleton_of_ne {e : Entry Node Topic Item} (h : e.sender ≠ c) :
    of c topic [e] = [] := by
  rw [of_singleton, if_neg fun hBoth => h hBoth.1]

theorem ordered_start : Ordered subscribed (start : State Node Topic Item) :=
  ⟨fun _ => Nat.zero_le _, nofun, fun _ _ => rfl, fun _ _ _ _ _ => rfl⟩

theorem Ordered.write (h : Ordered subscribed s) (c : Node) (topic : Topic) (item : Item) :
    Ordered subscribed (s.write c topic item) := by
  have hWritten : ∀ d, d ≠ c → (s.write c topic item).written d = s.written d :=
    fun d hOther => Function.update_of_ne hOther _ _
  have hStored : ∀ d, d ≠ c → (s.write c topic item).stored d = s.stored d :=
    fun d hOther => Function.update_of_ne hOther _ _
  have hSelf : (s.write c topic item).written c = s.written c ++ [⟨c, topic, item⟩] :=
    Function.update_self ..
  constructor
  · intro d
    by_cases hOther : d = c
    · subst hOther
      rw [hSelf, List.length_append]
      exact Nat.le_add_right_of_le (h.relayed d)
    · rw [hWritten d hOther]
      exact h.relayed d
  · intro d e hMem
    by_cases hOther : d = c
    · subst hOther
      rw [hSelf, List.mem_append, List.mem_singleton] at hMem
      rcases hMem with hMem | rfl
      · exact h.sender d e hMem
      · rfl
    · rw [hWritten d hOther] at hMem
      exact h.sender d e hMem
  · intro d other
    by_cases hOther : d = c
    · subst hOther
      have hOwn : (s.write d topic item).stored d = s.stored d ++ [⟨d, topic, item⟩] :=
        Function.update_self ..
      rw [hSelf, hOwn, of_append, of_append, h.own]
    · rw [hWritten d hOther, hStored d hOther]
      exact h.own d other
  · intro a d other hNe hSub
    -- The new entry is its sender's own, and not relayed yet.
    have hTake : ((s.write c topic item).written a).take (s.relayed a) =
        (s.written a).take (s.relayed a) := by
      by_cases hOther : a = c
      · subst hOther
        rw [hSelf, List.take_append_of_le_length (h.relayed a)]
      · rw [hWritten a hOther]
    have hHeld : of a other ((s.write c topic item).stored d ++ s.inbox d) =
        of a other (s.stored d ++ s.inbox d) := by
      by_cases hOther : d = c
      · subst hOther
        have hOwn : (s.write d topic item).stored d = s.stored d ++ [⟨d, topic, item⟩] :=
          Function.update_self ..
        have hNone : of a other [⟨d, topic, item⟩] = [] := of_singleton_of_ne (Ne.symm hNe)
        rw [hOwn, of_append, of_append, of_append, hNone, List.append_nil]
      · rw [hStored d hOther]
    exact hHeld.trans ((h.others a d other hNe hSub).trans (congrArg (of a other) hTake).symm)

theorem Ordered.relay (h : Ordered subscribed s) {e : Entry Node Topic Item}
    (hNext : (s.written c)[s.relayed c]? = some e) : Ordered subscribed (s.relay subscribed c e) := by
  obtain ⟨hLt, hEntry⟩ := List.getElem?_eq_some_iff.1 hNext
  have hSender : e.sender = c := h.sender c e (hEntry ▸ List.getElem_mem hLt)
  have hTake : (s.written c).take (s.relayed c + 1) = (s.written c).take (s.relayed c) ++ [e] := by
    rw [List.take_add_one, hNext]
    rfl
  refine ⟨fun d => ?_, h.sender, h.own, fun a d other hNe hSub => ?_⟩
  · change Function.update s.relayed c (s.relayed c + 1) d ≤ (s.written d).length
    by_cases hOther : d = c
    · subst hOther
      rw [Function.update_self]
      exact hLt
    · rw [Function.update_of_ne hOther]
      exact h.relayed d
  · have hBefore := h.others a d other hNe hSub
    rw [of_append] at hBefore
    have hInbox : of a other ((s.relay subscribed c e).inbox d) =
        of a other (s.inbox d) ++ of a other [e] := by
      change of a other (if subscribed d e.topic then s.inbox d ++ [e] else s.inbox d) = _
      split
      · rw [of_append]
      · rename_i hNot
        have hNone : of a other [e] = [] := by
          rw [of_singleton, if_neg]
          rintro ⟨-, rfl⟩
          exact hNot hSub
        rw [hNone, List.append_nil]
    rw [of_append, hInbox, ← List.append_assoc]
    change of a other (s.stored d) ++ of a other (s.inbox d) ++ of a other [e] =
      of a other ((s.written a).take (Function.update s.relayed c (s.relayed c + 1) a))
    rw [hBefore]
    by_cases hOther : a = c
    · subst hOther
      rw [Function.update_self, hTake, of_append]
    · rw [Function.update_of_ne hOther, of_singleton_of_ne (hSender ▸ Ne.symm hOther),
        List.append_nil]

theorem Ordered.read (h : Ordered subscribed s) {e : Entry Node Topic Item}
    {rest : List (Entry Node Topic Item)} (hNext : s.inbox d = e :: rest) :
    Ordered subscribed (s.read d e rest) := by
  refine ⟨h.relayed, h.sender, fun a other => ?_, fun a b other hNe hSub => ?_⟩
  · by_cases hReader : a = d
    · subst hReader
      have hStored : of a other ((s.read a e rest).stored a) = of a other (s.stored a) := by
        change of a other (Function.update s.stored a _ a) = _
        rw [Function.update_self]
        split
        · rfl
        · rename_i hForeign
          rw [of_append, of_singleton_of_ne hForeign, List.append_nil]
      exact hStored.trans (h.own a other)
    · exact (congrArg (of a other) (Function.update_of_ne hReader _ _)).trans (h.own a other)
  · have hBefore := h.others a b other hNe hSub
    by_cases hReader : b = d
    · subst hReader
      have hMoved : of a other ((s.read b e rest).stored b ++ (s.read b e rest).inbox b) =
          of a other (s.stored b ++ s.inbox b) := by
        change of a other (Function.update s.stored b _ b ++ Function.update s.inbox b rest b) = _
        rw [Function.update_self, Function.update_self, hNext]
        split
        · rename_i hOwn
          have hNot : of a other [e] = [] := of_singleton_of_ne (hOwn ▸ Ne.symm hNe)
          rw [← List.singleton_append, of_append, of_append, of_append, hNot, List.nil_append]
        · rw [List.append_assoc, List.singleton_append]
      exact hMoved.trans hBefore
    · have hSame : (s.read d e rest).stored b ++ (s.read d e rest).inbox b =
          s.stored b ++ s.inbox b := by
        change Function.update s.stored d _ b ++ Function.update s.inbox d rest b = _
        rw [Function.update_of_ne hReader, Function.update_of_ne hReader]
      exact (congrArg (of a other) hSame).trans hBefore

/-- What a node wrote only grows, by one entry at a time. -/
theorem step_written {label : Label Node Topic Item} (hStep : step subscribed s label = some t)
    (c : Node) (topic : Topic) : of c topic (t.written c) = of c topic (s.written c) ∨
      ∃ e, of c topic (t.written c) = of c topic (s.written c) ++ [e] := by
  cases label with
  | write d other item =>
      cases hStep
      by_cases hOther : c = d
      · subst hOther
        have hWritten : (s.write c other item).written c = s.written c ++ [⟨c, other, item⟩] :=
          Function.update_self ..
        rw [hWritten, of_append, of_singleton]
        split
        · exact Or.inr ⟨_, rfl⟩
        · exact Or.inl (List.append_nil _)
      · exact Or.inl (congrArg (of c topic) (Function.update_of_ne hOther _ _))
  | relay d =>
      simp only [step] at hStep
      split at hStep <;> cases hStep
      exact Or.inl rfl
  | read d =>
      simp only [step] at hStep
      split at hStep <;> cases hStep
      exact Or.inl rfl

/-- What a node stores of another is a beginning of what that one wrote. -/
theorem Ordered.stored_prefix (h : Ordered subscribed s) (hSub : subscribed d topic = true) :
    of c topic (s.stored d) <+: of c topic (s.written c) := by
  by_cases hSelf : c = d
  · subst hSelf
    exact (h.own c topic).symm ▸ List.prefix_rfl
  · have hHeld : of c topic (s.stored d) <+: of c topic ((s.written c).take (s.relayed c)) := by
      rw [← h.others c d topic hSelf hSub, of_append]
      exact List.prefix_append _ _
    exact hHeld.trans ((List.take_prefix _ _).filter _)

/-- And all of it, once nothing of it is on its way. -/
theorem Ordered.stored_eq (h : Ordered subscribed s) (hRelayed : s.relayed c = (s.written c).length)
    (hInbox : s.inbox d = []) (hSub : subscribed d topic = true) :
    of c topic (s.stored d) = of c topic (s.written c) := by
  by_cases hSelf : c = d
  · subst hSelf
    exact h.own c topic
  · have hHeld := h.others c d topic hSelf hSub
    rwa [hInbox, List.append_nil, hRelayed, List.take_length] at hHeld

end

end Replication
