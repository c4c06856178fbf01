import StompGames.Server.SubscriptionManager

/-! Runs of the subscription manager: whatever is called, with whatever
arguments, the two indexes stay two views of one set of subscriptions. -/
namespace StompGames.SubscriptionManager

open Imperative

/-- One call by some thread, atomic as in the source. -/
inductive Call where
  | subscribe (subId conId : Int) (channel : Option Text)
  | unsubscribe (subscriptionId connectionId : Int)
  | disconnectUser (connectionId : Int)

/-- The method that is called, with its arguments in the order of the source. -/
def Call.body : Call → Method JavaException SubscriptionManager Unit
  | .subscribe subId conId channel => SubscriptionManager.subscribe subId conId channel
  | .unsubscribe subscriptionId connectionId =>
      SubscriptionManager.unsubscribe subscriptionId connectionId
  | .disconnectUser connectionId => SubscriptionManager.disconnectUser connectionId

/-- The manager after the calls, from the empty one. Some of them may have thrown. -/
def afterCalls (calls : List Call) : SubscriptionManager :=
  calls.foldl (fun m call => (call.body m).2) .new

/-- How one call can end: it throws and changes nothing, or it returns after
making one subscription, taking one out, taking a connection out, or nothing. -/
theorem Call.cases {m : SubscriptionManager} (h : m.Consistent) (call : Call) :
    (∃ e, call.body m = (.error e, m) ∧
      (e = .nullPointer → ∃ subId conId, call = .subscribe subId conId none)) ∨
    (∃ subId conId channel, call = .subscribe subId conId (some channel) ∧
      (∀ s ∈ m.ofConnection conId, s.channel ≠ channel) ∧
      call.body m = (.ok (), m.added ⟨m.allocated, subId, conId, channel⟩)) ∨
    (∃ subId conId, call = .unsubscribe subId conId ∧
      (call.body m = (.ok (), m) ∨ ∃ s ∈ m.ofConnection conId, s.subId = subId ∧
        call.body m = (.ok (), m.removed s))) ∨
    (∃ conId m', call = .disconnectUser conId ∧ call.body m = (.ok (), m') ∧ m'.Consistent) := by
  cases call with
  | subscribe subId conId channel =>
      cases channel with
      | none => exact Or.inl ⟨_, subscribe_null subId conId m, fun _ => ⟨subId, conId, rfl⟩⟩
      | some channel =>
          by_cases hDup : ∃ s ∈ m.ofConnection conId, s.channel = channel
          · obtain ⟨s, hs, hChannel⟩ := hDup
            exact Or.inl ⟨_, subscribe_duplicate hs hChannel subId, nofun⟩
          · have hNew : ∀ s ∈ m.ofConnection conId, s.channel ≠ channel :=
              fun s hs hChannel => hDup ⟨s, hs, hChannel⟩
            exact Or.inr (Or.inl ⟨subId, conId, channel, rfl, hNew, subscribe_new hNew subId⟩)
  | unsubscribe subId conId =>
      have hApply := unsubscribe_apply h subId conId
      cases hEntry : m.subDict conId with
      | none =>
          rw [hEntry] at hApply
          exact Or.inl ⟨_, hApply, nofun⟩
      | some list =>
          refine Or.inr (Or.inr (Or.inl ⟨subId, conId, rfl, ?_⟩))
          cases hFind : list.find? fun s => s.subId = subId with
          | none =>
              simp only [hEntry, hFind] at hApply
              exact Or.inl hApply
          | some s =>
              simp only [hEntry, hFind] at hApply
              refine Or.inr ⟨s, ?_, by simpa using List.find?_some hFind, hApply⟩
              simpa [ofConnection, hEntry] using List.mem_of_find?_eq_some hFind
  | disconnectUser conId =>
      obtain ⟨m', hRun, hCons, -⟩ := disconnectUser_apply h conId
      exact Or.inr (Or.inr (Or.inr ⟨conId, m', rfl, hRun, hCons⟩))

/-- Every call preserves the alignment. -/
theorem Call.consistent {m : SubscriptionManager} (h : m.Consistent) (call : Call) :
    (call.body m).2.Consistent := by
  obtain ⟨e, hRun, -⟩ | ⟨subId, conId, channel, -, hNew, hRun⟩ |
    ⟨subId, conId, -, hRun | ⟨s, -, -, hRun⟩⟩ | ⟨conId, m', -, hRun, hCons⟩ := call.cases h
  · rw [hRun]
    exact h
  · rw [hRun]
    exact h.added hNew
  · rw [hRun]
    exact h
  · rw [hRun]
    exact h.removed s
  · rw [hRun]
    exact hCons

/-- The invariant of all calls, each of which keeps it. -/
theorem afterCalls_consistent (calls : List Call) : (afterCalls calls).Consistent := by
  have hAll : ∀ (calls : List Call) (m : SubscriptionManager), m.Consistent →
      (calls.foldl (fun m call => (call.body m).2) m).Consistent := by
    intro calls
    induction calls with
    | nil => exact fun m h => h
    | cons call rest ih => exact fun m h => ih _ (call.consistent h)
  exact hAll calls .new .new

/-- What the indexes promise between calls, and what the next call does to them. -/
structure Exact (m : SubscriptionManager) : Prop where
  same : ∀ s, s ∈ m.ofChannel s.channel ↔ s ∈ m.ofConnection s.conId
  own_channel : ∀ channel, ∀ s ∈ m.ofChannel channel, s.channel = channel
  own_connection : ∀ conId, ∀ s ∈ m.ofConnection conId, s.conId = conId
  once_channel : ∀ channel, (m.ofChannel channel).Nodup
  once_connection : ∀ conId, (m.ofConnection conId).Nodup
  one_each : ∀ conId, ∀ s ∈ m.ofConnection conId, ∀ t ∈ m.ofConnection conId,
    s.channel = t.channel → s = t
  channel_nonempty : ∀ channel, m.subscriptions channel ≠ some []
  query : ∀ channel conId, m.isSubscribedToChannel channel conId = true ↔
    ∃ s ∈ m.ofConnection conId, s.channel = channel
  removable : ∀ conId, ∀ s ∈ m.ofConnection conId, (removeSub s m).1 = .ok ()
  lists_present : ∀ call : Call, (call.body m).1 = .error .nullPointer →
    ∃ subId conId, call = .subscribe subId conId none
  disconnect_exact : ∀ conId, ∃ m', disconnectUser conId m = (.ok (), m') ∧
    m'.subDict = Function.update m.subDict conId none ∧
    ∀ channel, m'.ofChannel channel = (m.ofChannel channel).filter fun s => s.conId ≠ conId
  throw_unchanged : ∀ (call : Call) e, (call.body m).1 = .error e →
    (call.body m).2.subscriptions = m.subscriptions ∧ (call.body m).2.subDict = m.subDict

/-- No call fails on a missing list, and the only `NullPointerException` is that of a `null` key.
-/
theorem Consistent.lists_present {m : SubscriptionManager} (h : m.Consistent) (call : Call)
    (hNull : (call.body m).1 = .error .nullPointer) :
    ∃ subId conId, call = .subscribe subId conId none := by
  obtain ⟨e, hRun, hOnly⟩ | ⟨_, _, _, -, -, hRun⟩ | ⟨_, _, -, hRun | ⟨_, -, -, hRun⟩⟩ |
    ⟨_, _, -, hRun, -⟩ := call.cases h <;> rw [hRun] at hNull
  · exact hOnly (Except.error.inj hNull)
  all_goals cases hNull

/-- A call that throws has changed nothing, as every check comes before the first change. -/
theorem Consistent.throw_unchanged {m : SubscriptionManager} (h : m.Consistent) (call : Call)
    {e : JavaException} (hThrow : (call.body m).1 = .error e) : (call.body m).2 = m := by
  obtain ⟨e, hRun, hOnly⟩ | ⟨_, _, _, -, -, hRun⟩ | ⟨_, _, -, hRun | ⟨_, -, -, hRun⟩⟩ |
    ⟨_, _, -, hRun, -⟩ := call.cases h <;> rw [hRun] at hThrow
  · rw [hRun]
  all_goals cases hThrow

/-- After every sequence of calls, those that throw included, the lists of the channels and of
the connections hold the same subscriptions, each once and in the order in which they were made.
-/
theorem afterCalls_exact (calls : List Call) : (afterCalls calls).Exact := by
  have h := afterCalls_consistent calls
  refine ⟨h.indexes.same, h.indexes.key_of_mem, h.indexes.owner_of_mem, h.indexes.nodup_key,
    h.indexes.nodup_owner, h.indexes.unique, h.channel_nonempty, h.isSubscribedToChannel_iff,
    ?_, h.lists_present, ?_, ?_⟩
  · intro conId s hs
    obtain ⟨rfl, hChannel⟩ := (h.indexes.mem_owner_iff conId s).1 hs
    rw [removeSub_of_mem hChannel hs]
  · intro conId
    obtain ⟨m', hRun, -, hGone, hOthers, hChannels⟩ := disconnectUser_apply h conId
    refine ⟨m', hRun, ?_, fun channel => congrFun hChannels channel⟩
    funext other
    by_cases hOther : other = conId
    · subst hOther
      simpa using hGone
    · simpa [hOther] using hOthers other hOther
  · intro call e hThrow
    rw [h.throw_unchanged call hThrow]
    exact ⟨rfl, rfl⟩

end StompGames.SubscriptionManager
