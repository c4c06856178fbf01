import StompGames.Lib.DoubleIndex
import StompGames.Server.Database

/-! `SubscriptionManager.java`: the subscriptions by channel and by connection. -/
namespace StompGames

open Imperative

/-- A subscription object: the id that the client chose, its connection and its channel. Lists
compare subscriptions by identity, which is `ref`. -/
structure Subscription where
  ref : Nat
  subId : Int
  conId : Int
  channel : Text
  deriving DecidableEq

/-- The two concurrent maps, of the channels and of the connections, whose lists hold the same
objects. `allocated` counts the subscription objects made so far. -/
structure SubscriptionManager where
  subscriptions : Text → Option (List Subscription)
  subDict : Int → Option (List Subscription)
  allocated : Nat

/-- A call on what `map.get` returned, which fails on a missing entry with the
`NullPointerException` of the call. -/
def deref {σ α : Type} (entry : Option α) : Method JavaException σ α :=
  match entry with
  | none => throw .nullPointer
  | some value => pure value

namespace SubscriptionManager

/-- A manager without channels and without connections. -/
def new : SubscriptionManager := ⟨fun _ => none, fun _ => none, 0⟩

/-- The entry of a channel, which is removed with `none`. The lists are values here, and what the
source does to a list in place is put back under its key. -/
def setChannel (channel : Text) (list : Option (List Subscription)) (m : SubscriptionManager) :
    SubscriptionManager :=
  { m with subscriptions := Function.update m.subscriptions channel list }

/-- The entry of a connection, which is removed with `none`. -/
def setConnection (conId : Int) (list : Option (List Subscription)) (m : SubscriptionManager) :
    SubscriptionManager :=
  { m with subDict := Function.update m.subDict conId list }

/-- `addTopicIfNeeded(channel)`: an empty list for a channel that has none, so that the `get`
that comes next finds it. -/
def addTopicIfNeeded (channel : Text) : Method JavaException SubscriptionManager Unit := do
  let m ← get
  if (m.subscriptions channel).isSome then pure ()
  else modify (setChannel channel (some []))

/-- `removeTopicIfNeeded(channel)`: a channel whose list has become empty is forgotten, and a
`SEND` to it then finds no list at all. -/
def removeTopicIfNeeded (channel : Text) : Method JavaException SubscriptionManager Unit := do
  let m ← get
  if m.subscriptions channel = some [] then modify (setChannel channel none)
  else pure ()

/-- `subscribe(subId, conId, channel)`: a second subscription of the connection to the channel is
refused, one with the same id is not. The channel is `none` where the caller passes `null`, which
no map takes as a key. -/
def subscribe (subId conId : Int) (channel : Option Text) :
    Method JavaException SubscriptionManager Unit := do
  let m ← get
  if ((m.subDict conId).getD []).any fun s => some s.channel = channel then
    throw (.runtime "Connection already subscribed to the topic".toList)
  else match channel with
    | none => throw .nullPointer
    | some channel => do
      let toAdd : Subscription := ⟨m.allocated, subId, conId, channel⟩
      modify fun m => { m with allocated := m.allocated + 1 }
      addTopicIfNeeded channel
      let m ← get
      let ofChannel ← deref (m.subscriptions channel)
      modify (setChannel channel (some (ofChannel ++ [toAdd])))
      let m ← get
      if (m.subDict conId).isSome then pure ()
      else modify (setConnection conId (some []))
      let m ← get
      let ofConnection ← deref (m.subDict conId)
      modify (setConnection conId (some (ofConnection ++ [toAdd])))

/-- `removeSub(s)`: out of the list of the channel, then out of that of the connection, and the
channel goes if that was its last. -/
def removeSub (s : Subscription) : Method JavaException SubscriptionManager Unit := do
  let m ← get
  let ofChannel ← deref (m.subscriptions s.channel)
  modify (setChannel s.channel (some (ofChannel.erase s)))
  let m ← get
  let ofConnection ← deref (m.subDict s.conId)
  modify (setConnection s.conId (some (ofConnection.erase s)))
  removeTopicIfNeeded s.channel

/-- `unsubscribe(subscriptionId, connectionId)`. The search stops at the first subscription with
the id, and ends silently where there is none; a connection that never subscribed is an error. -/
def unsubscribe (subscriptionId connectionId : Int) :
    Method JavaException SubscriptionManager Unit := do
  let m ← get
  match m.subDict connectionId with
  | none =>
      throw (.runtime "Cannot cancel subscription on a non existing user.".toList)
  | some list => match list.find? fun s => s.subId = subscriptionId with
      | none => pure ()
      | some s => removeSub s

/-- `disconnectUser(connectionId)`: every subscription of the connection is removed. The loop
runs over the list as it was when the loop began. -/
def disconnectUser (connectionId : Int) : Method JavaException SubscriptionManager Unit := do
  let m ← get
  match m.subDict connectionId with
  | none => pure ()
  | some list => do
      forM list removeSub
      modify (setConnection connectionId none)

/-- `isSubscribedToChannel(channel, connectionId)`, a search through the list of the channel. The
list of the connection is not asked. -/
def isSubscribedToChannel (channel : Text) (connectionId : Int) (m : SubscriptionManager) : Bool :=
  ((m.subscriptions channel).getD []).any fun s => s.conId = connectionId

/-- The list of a channel, empty where the channel has no entry. -/
def ofChannel (m : SubscriptionManager) (channel : Text) : List Subscription :=
  (m.subscriptions channel).getD []

/-- The list of a connection, empty where the connection has no entry. -/
def ofConnection (m : SubscriptionManager) (conId : Int) : List Subscription :=
  (m.subDict conId).getD []

/-- What holds between calls. -/
structure Consistent (m : SubscriptionManager) : Prop where
  indexes : DoubleIndex.Consistent Subscription.channel Subscription.conId m.ofChannel
    m.ofConnection
  channel_nonempty : ∀ channel, m.subscriptions channel ≠ some []
  ref_lt : ∀ channel, ∀ s ∈ m.ofChannel channel, s.ref < m.allocated

section
variable (m : SubscriptionManager) (channel : Text) (conId : Int)
  (list : Option (List Subscription))

theorem setChannel_ofChannel : (setChannel channel list m).ofChannel =
    Function.update m.ofChannel channel (list.getD []) := by
  funext other
  by_cases h : other = channel
  · subst h
    simp [ofChannel, setChannel]
  · simp [ofChannel, setChannel, h]

theorem setConnection_ofConnection : (setConnection conId list m).ofConnection =
    Function.update m.ofConnection conId (list.getD []) := by
  funext other
  by_cases h : other = conId
  · subst h
    simp [ofConnection, setConnection]
  · simp [ofConnection, setConnection, h]

@[simp] theorem setConnection_ofChannel :
    (setConnection conId list m).ofChannel = m.ofChannel := rfl

end

theorem Consistent.new : Consistent .new where
  indexes := DoubleIndex.Consistent.empty
  channel_nonempty := by simp [SubscriptionManager.new]
  ref_lt := by simp [SubscriptionManager.new, ofChannel]

/-- A channel with a subscription has an entry in the map. -/
theorem subscriptions_of_mem {m : SubscriptionManager} {channel : Text} {s : Subscription}
    (h : s ∈ m.ofChannel channel) : m.subscriptions channel = some (m.ofChannel channel) := by
  unfold ofChannel at h ⊢
  cases hEntry : m.subscriptions channel with
  | none => simp [hEntry] at h
  | some list => rfl

/-- A connection with a subscription has an entry in the map. -/
theorem subDict_of_mem {m : SubscriptionManager} {conId : Int} {s : Subscription}
    (h : s ∈ m.ofConnection conId) : m.subDict conId = some (m.ofConnection conId) := by
  unfold ofConnection at h ⊢
  cases hEntry : m.subDict conId with
  | none => simp [hEntry] at h
  | some list => rfl

/-- The query on a channel answers for the connection. -/
theorem Consistent.isSubscribedToChannel_iff {m : SubscriptionManager} (h : m.Consistent)
    (channel : Text) (conId : Int) :
    m.isSubscribedToChannel channel conId = true ↔
      ∃ s ∈ m.ofConnection conId, s.channel = channel := by
  change ((m.ofChannel channel).any fun s => s.conId = conId) = true ↔ _
  rw [List.any_eq_true]
  constructor
  · rintro ⟨s, hs, hCon⟩
    obtain ⟨hChannel, hOwner⟩ := (h.indexes.mem_key_iff channel s).1 hs
    exact ⟨s, of_decide_eq_true hCon ▸ hOwner, hChannel⟩
  · rintro ⟨s, hs, rfl⟩
    obtain ⟨hCon, hKey⟩ := (h.indexes.mem_owner_iff conId s).1 hs
    exact ⟨s, hKey, by simpa using hCon⟩

/-- The state after a subscription was made. -/
def added (m : SubscriptionManager) (s : Subscription) : SubscriptionManager :=
  { subscriptions := Function.update m.subscriptions s.channel
      (some (m.ofChannel s.channel ++ [s]))
    subDict := Function.update m.subDict s.conId (some (m.ofConnection s.conId ++ [s]))
    allocated := m.allocated + 1 }

/-- The state after a subscription was taken out. -/
def removed (m : SubscriptionManager) (s : Subscription) : SubscriptionManager :=
  { m with
    subscriptions := Function.update m.subscriptions s.channel
      (if (m.ofChannel s.channel).erase s = [] then none
        else some ((m.ofChannel s.channel).erase s))
    subDict := Function.update m.subDict s.conId (some ((m.ofConnection s.conId).erase s)) }

/-- The connection is in the channel already. -/
theorem subscribe_duplicate {m : SubscriptionManager} {conId : Int} {channel : Text}
    {s : Subscription} (hs : s ∈ m.ofConnection conId) (hChannel : s.channel = channel)
    (subId : Int) :
    subscribe subId conId (some channel) m =
      (.error (.runtime "Connection already subscribed to the topic".toList), m) := by
  have hAny : (((m.subDict conId).getD []).any fun s => some s.channel = some channel) = true :=
    List.any_eq_true.2 ⟨s, hs, by simpa using hChannel⟩
  simp only [subscribe, Method.bind_apply, Method.get_apply, hAny, if_true, Method.throw_apply]

/-- The subscription is added to both lists, and its number is used up. -/
theorem subscribe_new {m : SubscriptionManager} {conId : Int} {channel : Text}
    (hNew : ∀ s ∈ m.ofConnection conId, s.channel ≠ channel) (subId : Int) :
    subscribe subId conId (some channel) m =
      (.ok (), m.added ⟨m.allocated, subId, conId, channel⟩) := by
  have hAny : (((m.subDict conId).getD []).any fun s => some s.channel = some channel) = false := by
    rw [List.any_eq_false]
    exact fun s hs => by simpa using hNew s hs
  simp only [subscribe, Method.bind_apply, Method.get_apply, hAny, Bool.false_eq_true, if_false,
    Method.modify_apply, addTopicIfNeeded, Method.ite_apply, Method.pure_apply]
  cases hChannel : m.subscriptions channel <;> cases hConnection : m.subDict conId <;>
    simp [hChannel, hConnection, deref, setChannel, setConnection, added, ofChannel, ofConnection]

/-- No channel compares as `null`, and so the key is what the call fails on. -/
theorem subscribe_null (subId conId : Int) (m : SubscriptionManager) :
    subscribe subId conId none m = (.error .nullPointer, m) := by
  simp [subscribe]

/-- A subscription that is in both lists is taken out of both. -/
theorem removeSub_of_mem {m : SubscriptionManager} {s : Subscription}
    (hChannel : s ∈ m.ofChannel s.channel) (hConnection : s ∈ m.ofConnection s.conId) :
    removeSub s m = (.ok (), m.removed s) := by
  have hSubs := subscriptions_of_mem hChannel
  have hDict := subDict_of_mem hConnection
  simp only [removeSub, Method.bind_apply, Method.get_apply, hSubs, deref, Method.pure_apply,
    Method.modify_apply, setChannel, hDict, setConnection, removeTopicIfNeeded,
    Function.update_self, Option.some.injEq, Method.ite_apply]
  split
  · simp [removed, ‹_ = []›]
  · simp [removed, ‹¬_ = []›]

theorem added_ofChannel (m : SubscriptionManager) (s : Subscription) :
    (m.added s).ofChannel =
      Function.update m.ofChannel s.channel (m.ofChannel s.channel ++ [s]) :=
  setChannel_ofChannel m s.channel (some (m.ofChannel s.channel ++ [s]))

theorem added_ofConnection (m : SubscriptionManager) (s : Subscription) :
    (m.added s).ofConnection =
      Function.update m.ofConnection s.conId (m.ofConnection s.conId ++ [s]) :=
  setConnection_ofConnection m s.conId (some (m.ofConnection s.conId ++ [s]))

/-- Removal filters the subscription out of every list. -/
theorem Consistent.removed_lists {m : SubscriptionManager} (h : m.Consistent) (s : Subscription) :
    (m.removed s).ofChannel = (fun channel => (m.ofChannel channel).filter (· != s)) ∧
      (m.removed s).ofConnection = (fun conId => (m.ofConnection conId).filter (· != s)) := by
  obtain ⟨hChannel, hConnection⟩ := h.indexes.erase_eq_filter s
  refine ⟨?_, ?_⟩
  · have hSet := setChannel_ofChannel m s.channel
      (if (m.ofChannel s.channel).erase s = [] then none
        else some ((m.ofChannel s.channel).erase s))
    have hGet : (if (m.ofChannel s.channel).erase s = [] then none
        else some ((m.ofChannel s.channel).erase s)).getD [] =
          (m.ofChannel s.channel).erase s := by
      split
      · simp [‹_ = []›]
      · rfl
    rw [hGet, hChannel] at hSet
    exact hSet
  · have hSet := setConnection_ofConnection m s.conId (some ((m.ofConnection s.conId).erase s))
    rw [Option.getD_some, hConnection] at hSet
    exact hSet

/-- Both lists gain the same subscription, which the connection did not have. -/
theorem Consistent.added {m : SubscriptionManager} (h : m.Consistent) {subId conId : Int}
    {channel : Text} (hNew : ∀ s ∈ m.ofConnection conId, s.channel ≠ channel) :
    (m.added ⟨m.allocated, subId, conId, channel⟩).Consistent where
  indexes := by
    rw [added_ofChannel, added_ofConnection]
    exact h.indexes.add (fun hMem => absurd (h.ref_lt _ _ hMem) (Nat.lt_irrefl _)) hNew
  channel_nonempty other := by
    unfold SubscriptionManager.added
    by_cases hOther : other = channel
    · subst hOther
      simp
    · simpa [hOther] using h.channel_nonempty other
  ref_lt other s hs := by
    rw [added_ofChannel] at hs
    change s.ref < m.allocated + 1
    by_cases hOther : other = channel
    · subst hOther
      rw [Function.update_self] at hs
      rcases List.mem_append.1 hs with hs | hs
      · exact Nat.lt_succ_of_lt (h.ref_lt _ s hs)
      · rw [List.mem_singleton.1 hs]
        exact Nat.lt_succ_self _
    · rw [Function.update_of_ne hOther] at hs
      exact Nat.lt_succ_of_lt (h.ref_lt _ s hs)

/-- Both lists lose the same subscription. -/
theorem Consistent.removed {m : SubscriptionManager} (h : m.Consistent) (s : Subscription) :
    (m.removed s).Consistent where
  indexes := by
    rw [(h.removed_lists s).1, (h.removed_lists s).2]
    exact h.indexes.filter _
  channel_nonempty other := by
    unfold SubscriptionManager.removed
    by_cases hOther : other = s.channel
    · subst hOther
      simp only [Function.update_self, ne_eq]
      split
      · simp
      · exact fun hEq => ‹¬_ = []› (Option.some.inj hEq)
    · simpa [hOther] using h.channel_nonempty other
  ref_lt other t ht := by
    rw [(h.removed_lists s).1] at ht
    exact h.ref_lt other t (List.mem_of_mem_filter ht)

/-- The first subscription of the connection with the id is taken out. -/
theorem unsubscribe_apply {m : SubscriptionManager} (h : m.Consistent) (subId conId : Int) :
    unsubscribe subId conId m = match m.subDict conId with
      | none => (.error (.runtime "Cannot cancel subscription on a non existing user.".toList), m)
      | some list => match list.find? fun s => s.subId = subId with
          | none => (.ok (), m)
          | some s => (.ok (), m.removed s) := by
  simp only [unsubscribe, Method.bind_apply, Method.get_apply]
  cases hEntry : m.subDict conId with
  | none => rfl
  | some list =>
      dsimp only
      cases hFind : list.find? fun s => s.subId = subId with
      | none => rfl
      | some s =>
          have hListed : s ∈ m.ofConnection conId := by
            simpa [ofConnection, hEntry] using List.mem_of_find?_eq_some hFind
          have hCon := h.indexes.owner_of_mem conId s hListed
          exact removeSub_of_mem ((h.indexes.same s).2 (hCon ▸ hListed)) (hCon ▸ hListed)

private theorem filter_ne_filter_not_mem (s : Subscription) (rest list : List Subscription) :
    (list.filter (· != s)).filter (· ∉ rest) = list.filter (· ∉ s :: rest) := by
  rw [List.filter_filter]
  apply List.filter_congr
  intro t _
  by_cases hHead : t = s <;> by_cases hRest : t ∈ rest <;> simp [hHead, hRest]

/-- The loop of `disconnectUser`: it takes out the subscriptions it is given,
never meets a missing list, and keeps the entry of the connection. -/
theorem removeSubs_apply {m : SubscriptionManager} (h : m.Consistent) {conId : Int}
    {list : List Subscription} (hEntry : (m.subDict conId).isSome)
    (hList : ∀ s ∈ list, s ∈ m.ofConnection conId) (hNodup : list.Nodup) :
    ∃ m', (forM list removeSub : Method JavaException SubscriptionManager PUnit) m = (.ok (), m') ∧
      m'.Consistent ∧ m'.allocated = m.allocated ∧
      (∀ other, other ≠ conId → m'.subDict other = m.subDict other) ∧
      m'.ofChannel = (fun channel => (m.ofChannel channel).filter (· ∉ list)) ∧
      m'.ofConnection = (fun other => (m.ofConnection other).filter (· ∉ list)) := by
  induction list generalizing m with
  | nil => exact ⟨m, rfl, h, rfl, fun _ _ => rfl, by simp, by simp⟩
  | cons s rest ih =>
      have hs := hList s (List.mem_cons_self ..)
      have hCon : s.conId = conId := h.indexes.owner_of_mem conId s hs
      have hFirst := removeSub_of_mem ((h.indexes.same s).2 (hCon ▸ hs)) (hCon ▸ hs)
      obtain ⟨hChannels, hConnections⟩ := h.removed_lists s
      obtain ⟨hFresh, hRestNodup⟩ := List.nodup_cons.1 hNodup
      have hRest : ∀ t ∈ rest, t ∈ (m.removed s).ofConnection conId := by
        intro t ht
        rw [hConnections]
        refine List.mem_filter.2 ⟨hList t (List.mem_cons_of_mem _ ht), ?_⟩
        simpa using ne_of_mem_of_not_mem ht hFresh
      have hKept : ((m.removed s).subDict conId).isSome := by
        simp [SubscriptionManager.removed, hCon]
      obtain ⟨m', hRun, hCons, hAlloc, hOthers, hCh, hConn⟩ :=
        ih (h.removed s) hKept hRest hRestNodup
      refine ⟨m', ?_, hCons, hAlloc, ?_, ?_, ?_⟩
      · rw [List.forM_cons, Method.bind_apply, hFirst]
        exact hRun
      · intro other hOther
        rw [hOthers other hOther]
        simp [SubscriptionManager.removed, hCon, hOther]
      · rw [hCh, hChannels]
        funext channel
        exact filter_ne_filter_not_mem s rest _
      · rw [hConn, hConnections]
        funext other
        exact filter_ne_filter_not_mem s rest _

/-- `disconnectUser` takes out the subscriptions of its connection and no others. -/
theorem disconnectUser_apply {m : SubscriptionManager} (h : m.Consistent) (conId : Int) :
    ∃ m', disconnectUser conId m = (.ok (), m') ∧ m'.Consistent ∧ m'.subDict conId = none ∧
      (∀ other, other ≠ conId → m'.subDict other = m.subDict other) ∧
      m'.ofChannel = (fun channel => (m.ofChannel channel).filter fun s => s.conId ≠ conId) := by
  cases hEntry : m.subDict conId with
  | none =>
      refine ⟨m, by simp [disconnectUser, hEntry], h, hEntry, fun _ _ => rfl, ?_⟩
      funext channel
      refine (List.filter_eq_self.2 fun s hs => ?_).symm
      have hOwner := ((h.indexes.mem_key_iff channel s).1 hs).2
      have hNil : m.ofConnection conId = [] := by simp [ofConnection, hEntry]
      simp only [decide_eq_true_eq]
      rintro rfl
      simp [hNil] at hOwner
  | some list =>
      have hList : m.ofConnection conId = list := by simp [ofConnection, hEntry]
      have hIsSome : (m.subDict conId).isSome := by simp [hEntry]
      have hMem : ∀ s ∈ list, s ∈ m.ofConnection conId := fun s hs => hList ▸ hs
      obtain ⟨m', hRun, hCons, -, hOthers, hCh, hConn⟩ :=
        removeSubs_apply h hIsSome hMem (hList ▸ h.indexes.nodup_owner conId)
      refine ⟨setConnection conId none m', ?_, ?_, by simp [setConnection], ?_, ?_⟩
      · simp only [disconnectUser, Method.bind_apply, Method.get_apply, hEntry, hRun,
          Method.modify_apply]
      · have hGone : m'.ofConnection conId = [] := by
          rw [hConn]
          exact List.filter_eq_nil_iff.2 fun s hs => by simpa using hList ▸ hs
        have hSame : (setConnection conId none m').ofConnection = m'.ofConnection := by
          rw [setConnection_ofConnection, Option.getD_none, ← hGone, Function.update_eq_self]
        refine ⟨?_, hCons.channel_nonempty, hCons.ref_lt⟩
        rw [setConnection_ofChannel, hSame]
        exact hCons.indexes
      · intro other hOther
        rw [← hOthers other hOther]
        simp [setConnection, hOther]
      · rw [setConnection_ofChannel, hCh]
        funext channel
        apply List.filter_congr
        intro s hs
        have hOwner := ((h.indexes.mem_key_iff channel s).1 hs).2
        have hMem : s ∈ list ↔ s.conId = conId := by
          rw [← hList]
          exact ⟨fun hs => h.indexes.owner_of_mem conId s hs, fun hc => hc ▸ hOwner⟩
        simp [hMem]

end SubscriptionManager
end StompGames
