import StompGames.Concurrency.SubscriptionThreads

/-! Threads that create and drop the list of one channel at the same time. A list that
is replaced or dropped while another connection relies on it takes the subscriptions of
that connection with it; where this never happens, none is ever lost. -/
namespace StompGames.SubscriptionThreads

open Threads

/-- No connection relies on the list that the channel has now: it is empty, and no
thread is about to add to it. -/
def Unused (s : SubscriptionThreads) (channel : Text) : Prop :=
  ∀ list, s.shared.subscriptions channel = some list → s.shared.lists list = [] ∧
    ∀ c toAdd, s.place c ≠ .addToChannel toAdd list

/-- A channel gets a new list, or loses the one it has, only while no connection relies
on that list, and it loses it only while no thread has found it there and not fetched
it yet. -/
def Separate (s : SubscriptionThreads) (label : Int × SubscriptionTask) : Prop :=
  match s.place label.1 with
  | .putChannel toAdd => s.Unused toAdd.channel
  | .removeTopic sub _ => s.Unused sub.channel ∧
      (∀ c toAdd, s.place c = .getChannel toAdd → toAdd.channel ≠ sub.channel) ∧
      ∀ c other after, s.place c = .getTopic other after → other.channel ≠ sub.channel
  | _ => True

/-- A subscription that is new to the connection. -/
def New (c : Int) (m : SubscriptionShared) (toAdd : Subscription) : Prop :=
  toAdd.conId = c ∧ ∀ list, m.subDict c = some list → ∀ s ∈ list, s.channel ≠ toAdd.channel

/-- The subscription is in the list of this connection. -/
def Listed (c : Int) (m : SubscriptionShared) (s : Subscription) : Prop :=
  ∃ list, m.subDict c = some list ∧ s ∈ list

/-- What is still to be removed is listed, each subscription once. -/
def Follows (c : Int) (m : SubscriptionShared) : AfterRemoval → Prop
  | .unsubscribed => True
  | .disconnecting rest => rest.Nodup ∧ ∀ s ∈ rest, Listed c m s

/-- The subscription that is being removed comes before all of these. -/
def Precedes (s : Subscription) : AfterRemoval → Prop
  | .unsubscribed => True
  | .disconnecting rest => s ∉ rest

/-- What a thread knows where it stands. -/
def Stands (c : Int) (m : SubscriptionShared) : SubscriptionPlace → Prop
  | .failed => False
  | .containsChannel toAdd | .putChannel toAdd => New c m toAdd
  | .getChannel toAdd => New c m toAdd ∧ m.subscriptions toAdd.channel ≠ none
  | .addToChannel toAdd list => New c m toAdd ∧ m.subscriptions toAdd.channel = some list
  | .containsConnection toAdd | .putConnection toAdd => New c m toAdd ∧ InChannel m toAdd
  | .getConnection toAdd | .addToConnection toAdd =>
      New c m toAdd ∧ InChannel m toAdd ∧ m.subDict c ≠ none
  | .findSubscription _ | .getUserList => m.subDict c ≠ none
  | .getChannelOf s after | .removeFromChannel s _ after | .getConnectionOf s after
  | .removeFromConnection s after => Listed c m s ∧ Precedes s after ∧ Follows c m after
  | .containsTopic _ after | .sizeOfTopic _ _ after | .removeTopic _ after => Follows c m after
  | .getTopic s after => m.subscriptions s.channel ≠ none ∧ Follows c m after
  | _ => True

/-- What the thread of one connection knows: the list of the connection is its own, and each
subscription in it is in the list of its channel, but for the one that is being removed. -/
structure Own (c : Int) (m : SubscriptionShared) (place : SubscriptionPlace) : Prop where
  owner : ∀ s, Listed c m s → s.conId = c
  distinct : ∀ list, m.subDict c = some list → (list.map Subscription.channel).Nodup
  reached : ∀ s, Listed c m s → place.removing ≠ some s → InChannel m s
  stands : Stands c m place

/-- The lists of channels have been allocated. -/
def Global (m : SubscriptionShared) : Prop :=
  ∀ channel list, m.subscriptions channel = some list → list < m.allocatedLists

/-- The outline of the proof, which needs no auxiliary value. -/
def outline : Outline Unit Int SubscriptionShared SubscriptionPlace :=
  ⟨fun _ => Global, fun _ => Own⟩

/-- What a connection relies on is still there. -/
structure Kept (c : Int) (m m' : SubscriptionShared) (place : SubscriptionPlace) : Prop where
  subDict : m'.subDict c = m.subDict c
  inChannel : ∀ s, s.conId = c → InChannel m s → InChannel m' s
  getChannel : ∀ toAdd, place = .getChannel toAdd → m.subscriptions toAdd.channel ≠ none →
    m'.subscriptions toAdd.channel ≠ none
  addToChannel : ∀ toAdd list, place = .addToChannel toAdd list →
    m.subscriptions toAdd.channel = some list → m'.subscriptions toAdd.channel = some list
  getTopic : ∀ s after, place = .getTopic s after → m.subscriptions s.channel ≠ none →
    m'.subscriptions s.channel ≠ none

section
variable {c : Int} {m m' : SubscriptionShared} {place : SubscriptionPlace}

theorem listed_iff (hSubDict : m'.subDict c = m.subDict c) (s : Subscription) :
    Listed c m' s ↔ Listed c m s := by
  unfold Listed
  rw [hSubDict]

theorem New.kept {toAdd : Subscription} (hSubDict : m'.subDict c = m.subDict c)
    (h : New c m toAdd) : New c m' toAdd := by
  unfold New
  rw [hSubDict]
  exact h

theorem Follows.kept {after : AfterRemoval} (hSubDict : m'.subDict c = m.subDict c)
    (h : Follows c m after) : Follows c m' after := by
  cases after with
  | unsubscribed => trivial
  | disconnecting rest => exact ⟨h.1, fun s hs => (listed_iff hSubDict s).2 (h.2 s hs)⟩

theorem Own.kept (h : Own c m place) (hKept : Kept c m m' place) : Own c m' place := by
  have hListed := listed_iff hKept.subDict
  refine ⟨fun s hs => h.owner s ((hListed s).1 hs), ?_, fun s hs hNot => ?_, ?_⟩
  · rw [hKept.subDict]
    exact h.distinct
  · have hs := (hListed s).1 hs
    exact hKept.inChannel s (h.owner s hs) (h.reached s hs hNot)
  · have hStands := h.stands
    have hNew : ∀ {toAdd}, New c m toAdd → New c m' toAdd := fun hNew => hNew.kept hKept.subDict
    have hFollows : ∀ {after}, Follows c m after → Follows c m' after :=
      fun hFollows => hFollows.kept hKept.subDict
    cases place with
    | failed => exact hStands
    | containsChannel toAdd => exact hNew hStands
    | putChannel toAdd => exact hNew hStands
    | getChannel toAdd => exact ⟨hNew hStands.1, hKept.getChannel toAdd rfl hStands.2⟩
    | addToChannel toAdd list => exact ⟨hNew hStands.1, hKept.addToChannel toAdd list rfl hStands.2⟩
    | containsConnection toAdd =>
        exact ⟨hNew hStands.1, hKept.inChannel toAdd hStands.1.1 hStands.2⟩
    | putConnection toAdd =>
        exact ⟨hNew hStands.1, hKept.inChannel toAdd hStands.1.1 hStands.2⟩
    | getConnection toAdd =>
        obtain ⟨hToAdd, hIn, hSome⟩ := hStands
        exact ⟨hNew hToAdd, hKept.inChannel toAdd hToAdd.1 hIn, hKept.subDict ▸ hSome⟩
    | addToConnection toAdd =>
        obtain ⟨hToAdd, hIn, hSome⟩ := hStands
        exact ⟨hNew hToAdd, hKept.inChannel toAdd hToAdd.1 hIn, hKept.subDict ▸ hSome⟩
    | findSubscription id =>
        change m'.subDict c ≠ none
        rw [hKept.subDict]
        exact hStands
    | getUserList =>
        change m'.subDict c ≠ none
        rw [hKept.subDict]
        exact hStands
    | getChannelOf s after => exact ⟨(hListed s).2 hStands.1, hStands.2.1, hFollows hStands.2.2⟩
    | removeFromChannel s list after =>
        exact ⟨(hListed s).2 hStands.1, hStands.2.1, hFollows hStands.2.2⟩
    | getConnectionOf s after => exact ⟨(hListed s).2 hStands.1, hStands.2.1, hFollows hStands.2.2⟩
    | removeFromConnection s after =>
        exact ⟨(hListed s).2 hStands.1, hStands.2.1, hFollows hStands.2.2⟩
    | containsTopic s after => exact hFollows hStands
    | sizeOfTopic s list after => exact hFollows hStands
    | removeTopic s after => exact hFollows hStands
    | getTopic s after => exact ⟨hKept.getTopic s after rfl hStands.1, hFollows hStands.2⟩
    | _ => trivial

theorem kept_of_same (hSubscriptions : m'.subscriptions = m.subscriptions)
    (hLists : m'.lists = m.lists) (hSubDict : m'.subDict c = m.subDict c) : Kept c m m' place := by
  refine ⟨hSubDict, fun s _ hIn => ?_, ?_, ?_, ?_⟩
  · unfold InChannel
    rw [hSubscriptions, hLists]
    exact hIn
  · rw [hSubscriptions]
    exact fun _ _ h => h
  · rw [hSubscriptions]
    exact fun _ _ _ h => h
  · rw [hSubscriptions]
    exact fun _ _ _ h => h

theorem kept_setConnection {d : Int} (hOther : c ≠ d) (list : Option (List Subscription)) :
    Kept c m (m.setConnection d list) place :=
  kept_of_same rfl rfl (Function.update_of_ne hOther _ _)

/-- A list is changed, and none of this connection's subscriptions is taken out of it. -/
theorem kept_setList {list : ListRef} {content : List Subscription}
    (h : ∀ s, s.conId = c → s ∈ m.lists list → s ∈ content) :
    Kept c m (m.setList list content) place := by
  refine ⟨rfl, fun s hs ⟨other, hOther, hMem⟩ => ⟨other, hOther, ?_⟩, fun _ _ h => h,
    fun _ _ _ h => h, fun _ _ _ h => h⟩
  by_cases hList : other = list
  · subst hList
    simpa [SubscriptionShared.setList] using h s hs hMem
  · simpa [SubscriptionShared.setList, hList] using hMem

/-- The channel's entry is another one afterwards, and this connection does not rely on
the old one. -/
theorem kept_channel (channel : Text) {entry : Option ListRef}
    (hSubscriptions : m'.subscriptions = Function.update m.subscriptions channel entry)
    (hLists : ∀ other list, m.subscriptions other = some list → m'.lists list = m.lists list)
    (hSubDict : m'.subDict = m.subDict)
    (hUnused : ∀ list, m.subscriptions channel = some list → m.lists list = [] ∧
      ∀ toAdd, place ≠ .addToChannel toAdd list)
    (hFound : entry = none → (∀ toAdd, place = .getChannel toAdd → toAdd.channel ≠ channel) ∧
      ∀ s after, place = .getTopic s after → s.channel ≠ channel) : Kept c m m' place := by
  have hOther : ∀ {other}, other ≠ channel → m'.subscriptions other = m.subscriptions other := by
    intro other hNe
    rw [hSubscriptions, Function.update_of_ne hNe]
  refine ⟨by rw [hSubDict], fun s _ ⟨list, hList, hMem⟩ => ⟨list, ?_, ?_⟩, fun toAdd hPlace hSome => ?_,
    fun toAdd list hPlace hList => ?_, fun s after hPlace hSome => ?_⟩
  · rw [hOther, hList]
    rintro rfl
    rw [(hUnused list hList).1] at hMem
    exact absurd hMem List.not_mem_nil
  · rwa [hLists s.channel list hList]
  · by_cases hNe : toAdd.channel = channel
    · rw [hSubscriptions, hNe, Function.update_self]
      exact fun hNone => (hFound hNone).1 toAdd hPlace hNe
    · rwa [hOther hNe]
  · rw [hOther, hList]
    rintro rfl
    exact (hUnused list hList).2 toAdd hPlace
  · by_cases hNe : s.channel = channel
    · rw [hSubscriptions, hNe, Function.update_self]
      exact fun hNone => (hFound hNone).2 s after hPlace hNe
    · rwa [hOther hNe]

/-- The place changes, and a subscription that was being removed still is. -/
theorem Own.to (h : Own c m place) {place' : SubscriptionPlace}
    (hRemoving : place'.removing = place.removing) (hStands : Stands c m place') :
    Own c m place' := by
  refine ⟨h.owner, h.distinct, ?_, hStands⟩
  rw [hRemoving]
  exact h.reached

/-- A change of the channels that takes out none of this connection's subscriptions but
the one that is being removed. -/
theorem Own.channels (h : Own c m place) {place' : SubscriptionPlace}
    (hSubDict : m'.subDict c = m.subDict c)
    (hReached : ∀ s, Listed c m s → place'.removing ≠ some s → InChannel m' s)
    (hStands : Stands c m' place') : Own c m' place' := by
  have hListed := listed_iff hSubDict
  refine ⟨fun s hs => h.owner s ((hListed s).1 hs), ?_,
    fun s hs hNot => hReached s ((hListed s).1 hs) hNot, hStands⟩
  rw [hSubDict]
  exact h.distinct

/-- The loop of `disconnectUser` goes on. -/
theorem stands_after {after : AfterRemoval} (h : Follows c m after) : Stands c m after.place := by
  cases after with
  | unsubscribed => trivial
  | disconnecting rest =>
      cases rest with
      | nil => trivial
      | cons s rest =>
          obtain ⟨hNodup, hListed⟩ := h
          obtain ⟨hNot, hRest⟩ := List.nodup_cons.1 hNodup
          exact ⟨hListed s List.mem_cons_self, hNot, hRest,
            fun x hx => hListed x (List.mem_cons_of_mem _ hx)⟩

theorem removing_after (after : AfterRemoval) : after.place.removing = none := by
  cases after with
  | unsubscribed => rfl
  | disconnecting rest => cases rest <;> rfl

theorem Own.nodup (h : Own c m place) {list : List Subscription} (hList : m.subDict c = some list) :
    list.Nodup := List.Nodup.of_map _ (h.distinct list hList)

theorem Own.inChannel (h : Own c m place) (hRemoving : place.removing = none) {s : Subscription}
    (hs : Listed c m s) : InChannel m s := h.reached s hs (by simp [hRemoving])

end

section
variable {c : Int} {m : SubscriptionShared} {content : List Subscription}

theorem setConnection_subDict (list : Option (List Subscription)) :
    (m.setConnection c list).subDict c = list := Function.update_self _ _ _

theorem listed_setConnection {s : Subscription} :
    Listed c (m.setConnection c (some content)) s ↔ s ∈ content := by
  unfold Listed
  rw [setConnection_subDict]
  constructor
  · rintro ⟨list, hList, hMem⟩
    exact Option.some.inj hList ▸ hMem
  · exact fun hMem => ⟨content, rfl, hMem⟩

/-- The list of the connection is another one afterwards. -/
theorem own_setConnection {place : SubscriptionPlace} (hOwner : ∀ s ∈ content, s.conId = c)
    (hDistinct : (content.map Subscription.channel).Nodup)
    (hReached : ∀ s ∈ content, InChannel m s)
    (hStands : Stands c (m.setConnection c (some content)) place) :
    Own c (m.setConnection c (some content)) place := by
  refine ⟨fun s hs => hOwner s (listed_setConnection.1 hs), fun list hList => ?_,
    fun s hs _ => hReached s (listed_setConnection.1 hs), hStands⟩
  rw [setConnection_subDict] at hList
  obtain rfl := Option.some.inj hList
  exact hDistinct

end

section
variable {s : SubscriptionThreads} (h : outline.HoldsAt () s) {c : Int}
include h

theorem holds_next {m : SubscriptionShared} {place : SubscriptionPlace} (hGlobal : Global m)
    (hOwn : Own c m place) (hKept : ∀ d, d ≠ c → Kept d s.shared m (s.place d)) :
    outline.Holds ⟨m, Function.update s.place c place⟩ :=
  ⟨(), Outline.HoldsAt.next hGlobal hOwn fun d hOther => Own.kept (h.2 d) (hKept d hOther)⟩

/-- Only the place changes. -/
theorem holds_look {place : SubscriptionPlace}
    (hRemoving : place.removing = (s.place c).removing) (hStands : Stands c s.shared place) :
    outline.Holds ⟨s.shared, Function.update s.place c place⟩ :=
  holds_next h h.1 ((show Own c s.shared (s.place c) from h.2 c).to hRemoving hStands)
    fun _ _ => kept_of_same rfl rfl rfl

/-- The list of the connection changes. -/
theorem holds_setConnection {list : Option (List Subscription)} {place : SubscriptionPlace}
    (hOwn : Own c (s.shared.setConnection c list) place) :
    outline.Holds ⟨s.shared.setConnection c list, Function.update s.place c place⟩ :=
  holds_next h h.1 hOwn fun _ hOther => kept_setConnection hOther list

theorem holds_checkChannel {subId : Int} {channel : Text}
    (hPlace : s.place c = .checkChannel subId channel)
    (hNew : (((s.shared.subDict c).getD []).any fun sub => sub.channel = channel) = false) :
    outline.Holds ⟨{ s.shared with allocated := s.shared.allocated + 1 }, Function.update s.place c
      (.containsChannel ⟨s.shared.allocated, subId, c, channel⟩)⟩ := by
  have hOwn : Own c s.shared (s.place c) := h.2 c
  refine holds_next h h.1 (hOwn.channels rfl (fun sub hSub _ => ?_) ⟨rfl, fun list hList sub hSub => ?_⟩)
    fun _ _ => kept_of_same rfl rfl rfl
  · exact hOwn.inChannel (by rw [hPlace]; rfl) hSub
  · rw [show s.shared.subDict c = some list from hList, Option.getD_some] at hNew
    simpa using List.any_eq_false.1 hNew sub hSub

theorem holds_putChannel {toAdd : Subscription} (hPlace : s.place c = .putChannel toAdd)
    (hUnused : s.Unused toAdd.channel) :
    outline.Holds ⟨s.shared.putNewList toAdd.channel,
      Function.update s.place c (.getChannel toAdd)⟩ := by
  have hGlobal : Global s.shared := h.1
  have hOwn : Own c s.shared (s.place c) := h.2 c
  have hKept : ∀ d place', (∀ list, s.shared.subscriptions toAdd.channel = some list →
      ∀ other, place' ≠ .addToChannel other list) →
      Kept d s.shared (s.shared.putNewList toAdd.channel) place' := by
    intro d place' hNot
    refine kept_channel toAdd.channel rfl (fun other list hList => ?_) rfl
      (fun list hList => ⟨(hUnused list hList).1, hNot list hList⟩) nofun
    exact Function.update_of_ne (Nat.ne_of_lt (hGlobal other list hList)) _ _
  have hMine := hKept c (s.place c) (by simp [hPlace])
  refine holds_next h ?_ (hOwn.channels rfl (fun sub hSub _ => ?_) ⟨?_, ?_⟩)
    fun d _ => hKept d (s.place d) fun list hList => (hUnused list hList).2 d
  · intro other list hList
    rcases PartialMap.put_eq_some.1 hList with ⟨-, rfl⟩ | ⟨-, hList⟩
    · exact Nat.lt_succ_self _
    · exact Nat.lt_succ_of_lt (hGlobal other list hList)
  · exact hMine.inChannel sub (hOwn.owner sub hSub) (hOwn.inChannel (by rw [hPlace]; rfl) hSub)
  · have hStands := hOwn.stands
    rw [hPlace] at hStands
    exact hStands
  · simp [SubscriptionShared.putNewList, SubscriptionShared.setChannel, SubscriptionShared.setList]

theorem holds_removeTopic {sub : Subscription} {after : AfterRemoval}
    (hPlace : s.place c = .removeTopic sub after) (hSeparate : s.Separate (c, .next)) :
    outline.Holds ⟨s.shared.setChannel sub.channel none, Function.update s.place c after.place⟩ := by
  have hGlobal : Global s.shared := h.1
  have hOwn : Own c s.shared (s.place c) := h.2 c
  unfold Separate at hSeparate
  rw [hPlace] at hSeparate
  obtain ⟨hUnused, hNoneFound, hNoneSized⟩ := hSeparate
  have hKept : ∀ d, Kept d s.shared (s.shared.setChannel sub.channel none) (s.place d) := by
    intro d
    exact kept_channel sub.channel rfl (fun _ _ _ => rfl) rfl
      (fun list hList => ⟨(hUnused list hList).1, (hUnused list hList).2 d⟩)
      fun _ => ⟨hNoneFound d, hNoneSized d⟩
  refine holds_next h ?_ (hOwn.channels rfl (fun other hSub _ => ?_) ?_) fun d _ => hKept d
  · intro other list hList
    exact hGlobal other list (PartialMap.remove_eq_some.1 hList).2
  · exact (hKept c).inChannel other (hOwn.owner other hSub)
      (hOwn.inChannel (by rw [hPlace]; rfl) hSub)
  · have hStands := hOwn.stands
    rw [hPlace] at hStands
    exact stands_after (Follows.kept rfl hStands)

theorem holds_addToChannel {toAdd : Subscription} {list : ListRef}
    (hPlace : s.place c = .addToChannel toAdd list) :
    outline.Holds ⟨s.shared.setList list (s.shared.lists list ++ [toAdd]),
      Function.update s.place c (.containsConnection toAdd)⟩ := by
  have hOwn : Own c s.shared (s.place c) := h.2 c
  have hKept : ∀ d place', Kept d s.shared
      (s.shared.setList list (s.shared.lists list ++ [toAdd])) place' :=
    fun d place' => kept_setList fun sub _ hMem => List.mem_append_left _ hMem
  have hStands := hOwn.stands
  rw [hPlace] at hStands
  refine holds_next h h.1 (hOwn.channels rfl (fun sub hSub _ => ?_) ⟨hStands.1, list, hStands.2, ?_⟩)
    fun d _ => hKept d _
  · exact (hKept c (s.place c)).inChannel sub (hOwn.owner sub hSub)
      (hOwn.inChannel (by rw [hPlace]; rfl) hSub)
  · simp [SubscriptionShared.setList]

theorem holds_removeFromChannel {sub : Subscription} {list : ListRef} {after : AfterRemoval}
    (hPlace : s.place c = .removeFromChannel sub list after) :
    outline.Holds ⟨s.shared.setList list ((s.shared.lists list).erase sub),
      Function.update s.place c (.getConnectionOf sub after)⟩ := by
  have hOwn : Own c s.shared (s.place c) := h.2 c
  have hStands := hOwn.stands
  rw [hPlace] at hStands
  refine holds_next h h.1 (hOwn.channels rfl (fun other hOther hNot => ?_) hStands)
    fun d hOther => kept_setList fun other hConnection hMem => ?_
  · obtain ⟨ofChannel, hEntry, hMem⟩ := hOwn.inChannel (by rw [hPlace]; rfl) hOther
    refine ⟨ofChannel, hEntry, ?_⟩
    have hNe : other ≠ sub := fun hSame => hNot (congrArg some hSame.symm)
    by_cases hList : ofChannel = list
    · subst hList
      simpa [SubscriptionShared.setList] using (List.mem_erase_of_ne hNe).2 hMem
    · simpa [SubscriptionShared.setList, hList] using hMem
  · have hNe : other ≠ sub := by
      rintro rfl
      exact hOther (hConnection.symm.trans (hOwn.owner other hStands.1))
    exact (List.mem_erase_of_ne hNe).2 hMem

theorem holds_putConnection {toAdd : Subscription} (hPlace : s.place c = .putConnection toAdd) :
    outline.Holds ⟨s.shared.setConnection c (some []),
      Function.update s.place c (.getConnection toAdd)⟩ := by
  have hStands := (show Own c s.shared (s.place c) from h.2 c).stands
  rw [hPlace] at hStands
  refine holds_setConnection h (own_setConnection nofun List.nodup_nil nofun
    ⟨⟨hStands.1.1, fun list hList sub hSub => ?_⟩, hStands.2, ?_⟩)
  · exact absurd (listed_setConnection.1 ⟨list, hList, hSub⟩) List.not_mem_nil
  · simp [setConnection_subDict]

/-- The subscription is acknowledged. -/
theorem holds_addToConnection {toAdd : Subscription} (hPlace : s.place c = .addToConnection toAdd) :
    outline.Holds ⟨s.shared.setConnection c ((s.shared.subDict c).map fun list => list ++ [toAdd]),
      Function.update s.place c .idle⟩ := by
  have hOwn : Own c s.shared (s.place c) := h.2 c
  have hStands := hOwn.stands
  rw [hPlace] at hStands
  obtain ⟨⟨hConId, hNew⟩, hIn, hSome⟩ := hStands
  obtain ⟨list, hList⟩ := Option.ne_none_iff_exists'.1 hSome
  rw [hList, Option.map_some]
  refine holds_setConnection h (own_setConnection (fun sub hSub => ?_) ?_ (fun sub hSub => ?_) trivial)
  · rcases List.mem_append.1 hSub with hSub | hSub
    · exact hOwn.owner sub ⟨list, hList, hSub⟩
    · rw [List.mem_singleton.1 hSub, hConId]
  · rw [List.map_append, List.nodup_append]
    refine ⟨hOwn.distinct list hList, List.nodup_singleton _, fun channel hChannel other hOther => ?_⟩
    obtain ⟨sub, hSub, rfl⟩ := List.mem_map.1 hChannel
    rw [List.map_singleton, List.mem_singleton] at hOther
    rw [hOther]
    exact hNew list hList sub hSub
  · rcases List.mem_append.1 hSub with hSub | hSub
    · exact hOwn.inChannel (by rw [hPlace]; rfl) ⟨list, hList, hSub⟩
    · rw [List.mem_singleton.1 hSub]
      exact hIn

theorem holds_removeFromConnection {sub : Subscription} {after : AfterRemoval}
    (hPlace : s.place c = .removeFromConnection sub after) :
    outline.Holds ⟨s.shared.setConnection sub.conId
      ((s.shared.subDict sub.conId).map fun list => list.erase sub),
      Function.update s.place c (.containsTopic sub after)⟩ := by
  have hOwn : Own c s.shared (s.place c) := h.2 c
  have hStands := hOwn.stands
  rw [hPlace] at hStands
  obtain ⟨hListed, hPrecedes, hFollows⟩ := hStands
  rw [hOwn.owner sub hListed]
  obtain ⟨list, hList, -⟩ := hListed
  have hMem : ∀ other, other ∈ list.erase sub ↔ other ≠ sub ∧ other ∈ list :=
    fun other => (hOwn.nodup hList).mem_erase_iff
  rw [hList, Option.map_some]
  refine holds_setConnection h (own_setConnection (fun other hOther => ?_) ?_
    (fun other hOther => ?_) ?_)
  · exact hOwn.owner other ⟨list, hList, ((hMem other).1 hOther).2⟩
  · exact List.Nodup.sublist (List.erase_sublist.map _) (hOwn.distinct list hList)
  · obtain ⟨hNe, hOther⟩ := (hMem other).1 hOther
    refine hOwn.reached other ⟨list, hList, hOther⟩ ?_
    rw [hPlace]
    exact fun hSame => hNe (Option.some.inj hSame).symm
  · cases after with
    | unsubscribed => trivial
    | disconnecting rest =>
        refine ⟨hFollows.1, fun other hOther => listed_setConnection.2 ((hMem other).2 ⟨?_, ?_⟩)⟩
        · rintro rfl
          exact hPrecedes hOther
        · obtain ⟨list', hList', hIn⟩ := hFollows.2 other hOther
          rw [hList] at hList'
          exact Option.some.inj hList' ▸ hIn

theorem holds_removeUser :
    outline.Holds ⟨s.shared.setConnection c none, Function.update s.place c .idle⟩ := by
  have hNone : ∀ sub, ¬Listed c (s.shared.setConnection c none) sub := by
    rintro sub ⟨list, hList, -⟩
    rw [setConnection_subDict] at hList
    cases hList
  refine holds_setConnection h ⟨fun sub hSub => absurd hSub (hNone sub), fun list hList => ?_,
    fun sub hSub => absurd hSub (hNone sub), trivial⟩
  rw [setConnection_subDict] at hList
  cases hList

/-- The steps that meet the condition keep the outline. -/
theorem step_holds {task : SubscriptionTask} {t : SubscriptionThreads}
    (hSeparate : s.Separate (c, task)) (hStep : step s (c, task) = some t) : outline.Holds t := by
  obtain ⟨m, place, hAct, rfl⟩ := step_eq_some.1 hStep
  have hOwn : Own c s.shared (s.place c) := h.2 c
  have hStands := hOwn.stands
  have hBegin : (s.place c).removing = none → (SubscriptionPlace.begin task).map
      (fun place => (s.shared, place)) = some (m, place) →
      outline.Holds ⟨m, Function.update s.place c place⟩ := by
    intro hRemoving hBegin
    obtain ⟨first, hFirst, hSame⟩ := Option.map_eq_some_iff.1 hBegin
    obtain ⟨rfl, rfl⟩ := Prod.mk.inj hSame
    cases task with
    | next => cases hFirst
    | _ =>
        obtain rfl := Option.some.inj hFirst
        exact holds_look h hRemoving.symm trivial
  cases hPlace : s.place c with
  | idle =>
      rw [hPlace] at hAct
      exact hBegin (by rw [hPlace]; rfl) hAct
  | failed =>
      rw [hPlace] at hStands
      exact hStands.elim
  | checkChannel subId channel =>
      rw [hPlace] at hAct
      simp only [SubscriptionPlace.act] at hAct
      split at hAct
      · obtain ⟨rfl, rfl⟩ := Prod.mk.inj (Option.some.inj hAct)
        exact holds_look h (by rw [hPlace]; rfl) trivial
      · rename_i hNew
        obtain ⟨rfl, rfl⟩ := Prod.mk.inj (Option.some.inj hAct)
        exact holds_checkChannel h hPlace (Bool.eq_false_of_not_eq_true hNew)
  | containsChannel toAdd =>
      rw [hPlace] at hAct hStands
      obtain ⟨rfl, rfl⟩ := Prod.mk.inj (Option.some.inj hAct)
      split
      · rename_i hSome
        exact holds_look h (by rw [hPlace]; rfl) ⟨hStands, Option.isSome_iff_ne_none.1 hSome⟩
      · exact holds_look h (by rw [hPlace]; rfl) hStands
  | putChannel toAdd =>
      unfold Separate at hSeparate
      rw [hPlace] at hAct hSeparate
      obtain ⟨rfl, rfl⟩ := Prod.mk.inj (Option.some.inj hAct)
      exact holds_putChannel h hPlace hSeparate
  | getChannel toAdd =>
      rw [hPlace] at hAct hStands
      obtain ⟨rfl, rfl⟩ := Prod.mk.inj (Option.some.inj hAct)
      obtain ⟨list, hList⟩ := Option.ne_none_iff_exists'.1 hStands.2
      rw [hList]
      exact holds_look h (by rw [hPlace]; rfl) ⟨hStands.1, hList⟩
  | addToChannel toAdd list =>
      rw [hPlace] at hAct
      obtain ⟨rfl, rfl⟩ := Prod.mk.inj (Option.some.inj hAct)
      exact holds_addToChannel h hPlace
  | containsConnection toAdd =>
      rw [hPlace] at hAct hStands
      obtain ⟨rfl, rfl⟩ := Prod.mk.inj (Option.some.inj hAct)
      split
      · rename_i hSome
        exact holds_look h (by rw [hPlace]; rfl)
          ⟨hStands.1, hStands.2, Option.isSome_iff_ne_none.1 hSome⟩
      · exact holds_look h (by rw [hPlace]; rfl) hStands
  | putConnection toAdd =>
      rw [hPlace] at hAct
      obtain ⟨rfl, rfl⟩ := Prod.mk.inj (Option.some.inj hAct)
      exact holds_putConnection h hPlace
  | getConnection toAdd =>
      rw [hPlace] at hAct hStands
      obtain ⟨rfl, rfl⟩ := Prod.mk.inj (Option.some.inj hAct)
      obtain ⟨list, hList⟩ := Option.ne_none_iff_exists'.1 hStands.2.2
      rw [hList]
      exact holds_look h (by rw [hPlace]; rfl) hStands
  | addToConnection toAdd =>
      rw [hPlace] at hAct
      obtain ⟨rfl, rfl⟩ := Prod.mk.inj (Option.some.inj hAct)
      exact holds_addToConnection h hPlace
  | containsSubscriber subscriptionId =>
      rw [hPlace] at hAct
      obtain ⟨rfl, rfl⟩ := Prod.mk.inj (Option.some.inj hAct)
      split
      · rename_i hSome
        exact holds_look h (by rw [hPlace]; rfl) (Option.isSome_iff_ne_none.1 hSome)
      · exact holds_look h (by rw [hPlace]; rfl) trivial
  | findSubscription subscriptionId =>
      rw [hPlace] at hAct hStands
      obtain ⟨rfl, rfl⟩ := Prod.mk.inj (Option.some.inj hAct)
      obtain ⟨list, hList⟩ := Option.ne_none_iff_exists'.1 hStands
      rw [hList]
      dsimp only
      split
      · exact holds_look h (by rw [hPlace]; rfl) trivial
      · rename_i sub hFind
        exact holds_look h (by rw [hPlace]; rfl)
          ⟨⟨list, hList, List.mem_of_find?_eq_some hFind⟩, trivial, trivial⟩
  | getChannelOf sub after =>
      rw [hPlace] at hAct hStands
      obtain ⟨rfl, rfl⟩ := Prod.mk.inj (Option.some.inj hAct)
      obtain ⟨list, hList, -⟩ := hOwn.inChannel (by rw [hPlace]; rfl) hStands.1
      rw [hList]
      exact holds_look h (by rw [hPlace]; rfl) hStands
  | removeFromChannel sub list after =>
      rw [hPlace] at hAct
      obtain ⟨rfl, rfl⟩ := Prod.mk.inj (Option.some.inj hAct)
      exact holds_removeFromChannel h hPlace
  | getConnectionOf sub after =>
      rw [hPlace] at hAct hStands
      obtain ⟨rfl, rfl⟩ := Prod.mk.inj (Option.some.inj hAct)
      obtain ⟨list, hList, -⟩ := hStands.1
      rw [hOwn.owner sub hStands.1, hList]
      exact holds_look h (by rw [hPlace]; rfl) hStands
  | removeFromConnection sub after =>
      rw [hPlace] at hAct
      obtain ⟨rfl, rfl⟩ := Prod.mk.inj (Option.some.inj hAct)
      exact holds_removeFromConnection h hPlace
  | containsTopic sub after =>
      rw [hPlace] at hAct hStands
      obtain ⟨rfl, rfl⟩ := Prod.mk.inj (Option.some.inj hAct)
      split
      · rename_i hSome
        exact holds_look h (by rw [hPlace]; rfl) ⟨Option.isSome_iff_ne_none.1 hSome, hStands⟩
      · exact holds_look h (by rw [hPlace, removing_after]; rfl) (stands_after hStands)
  | getTopic sub after =>
      rw [hPlace] at hAct hStands
      obtain ⟨rfl, rfl⟩ := Prod.mk.inj (Option.some.inj hAct)
      obtain ⟨list, hList⟩ := Option.ne_none_iff_exists'.1 hStands.1
      rw [hList]
      exact holds_look h (by rw [hPlace]; rfl) hStands.2
  | sizeOfTopic sub list after =>
      rw [hPlace] at hAct hStands
      obtain ⟨rfl, rfl⟩ := Prod.mk.inj (Option.some.inj hAct)
      split
      · exact holds_look h (by rw [hPlace]; rfl) hStands
      · exact holds_look h (by rw [hPlace, removing_after]; rfl) (stands_after hStands)
  | removeTopic sub after =>
      rw [hPlace] at hAct
      obtain ⟨rfl, rfl⟩ := Prod.mk.inj (Option.some.inj hAct)
      apply holds_removeTopic h hPlace
      unfold Separate at hSeparate ⊢
      exact hSeparate
  | containsUser =>
      rw [hPlace] at hAct
      obtain ⟨rfl, rfl⟩ := Prod.mk.inj (Option.some.inj hAct)
      split
      · rename_i hSome
        exact holds_look h (by rw [hPlace]; rfl) (Option.isSome_iff_ne_none.1 hSome)
      · exact holds_look h (by rw [hPlace]; rfl) trivial
  | getUserList =>
      rw [hPlace] at hAct hStands
      obtain ⟨rfl, rfl⟩ := Prod.mk.inj (Option.some.inj hAct)
      obtain ⟨list, hList⟩ := Option.ne_none_iff_exists'.1 hStands
      rw [hList]
      exact holds_look h (by rw [hPlace, removing_after]; rfl)
        (stands_after ⟨hOwn.nodup hList, fun sub hSub => ⟨list, hList, hSub⟩⟩)
  | removeUser =>
      rw [hPlace] at hAct
      obtain ⟨rfl, rfl⟩ := Prod.mk.inj (Option.some.inj hAct)
      exact holds_removeUser h

theorem sound : s.Sound := by
  refine ⟨fun c hFailed => ?_, fun c sub ⟨hListed, hNot⟩ => ?_⟩
  · have hStands := (show Own c s.shared (s.place c) from h.2 c).stands
    rw [hFailed] at hStands
    exact hStands
  · exact (show Own c s.shared (s.place c) from h.2 c).reached sub hListed hNot

end

theorem initial_holds {s : SubscriptionThreads} (h : s.Initial) : outline.Holds s := by
  obtain ⟨lists, rfl⟩ := h
  have hNone : ∀ c (sub : Subscription), ¬Listed c ⟨fun _ => none, lists, 0, fun _ => none, 0⟩ sub := by
    rintro c sub ⟨list, hList, -⟩
    cases hList
  exact ⟨(), nofun, fun c => ⟨fun sub hSub => absurd hSub (hNone c sub), nofun,
    fun sub hSub => absurd hSub (hNone c sub), trivial⟩⟩

/-- Where lists of channels are put and removed only while no connection relies on the
old one, no call fails and no subscription is lost. -/
theorem subscriptions_kept {s : SubscriptionThreads} {labels : List (Int × SubscriptionTask)}
    (hs : s.Initial) (h : Transition.Along step Separate s labels) :
    Transition.Always step Sound s labels := by
  refine (Transition.always_of_along (I := outline.Holds) ?_ (initial_holds hs) h).mono ?_
  · rintro s ⟨c, task⟩ t ⟨⟨⟩, hHolds⟩ hSeparate hStep
    exact step_holds hHolds hSeparate hStep
  · rintro s ⟨⟨⟩, hHolds⟩
    exact sound hHolds

/-- A manager that was just made, and threads that have nothing to do. -/
def nobodySubscribed : SubscriptionThreads :=
  ⟨⟨fun _ => none, fun _ => [], 0, fun _ => none, 0⟩, fun _ => .idle⟩

/-- A thread takes up a task and goes on for so many steps. -/
def goes (c : Int) (task : SubscriptionTask) (steps : Nat) : List (Int × SubscriptionTask) :=
  (c, task) :: List.replicate steps (c, .next)

/-- A connection subscribes, and it unsubscribes up to the removal of the list. -/
def oneVisit : List (Int × SubscriptionTask) :=
  goes 1 (.subscribe 7 "/a".toList) 9 ++ goes 1 (.unsubscribe 7) 9

/-- The state after one connection has subscribed and gone. -/
def oneVisited : SubscriptionThreads :=
  (Transition.run step nobodySubscribed oneVisit).getD nobodySubscribed

/-- One connection subscribes and unsubscribes, and one more statement removes the empty list. -/
theorem subscriptions_kept_oneVisit :
    Transition.Always step Sound nobodySubscribed (oneVisit ++ [(1, .next)]) := by
  have hRun : Transition.run step nobodySubscribed oneVisit = some oneVisited := rfl
  refine subscriptions_kept ⟨_, rfl⟩ (.append ?_ hRun (.cons ?_ rfl trivial))
  · -- only the fourth statement, which puts the list, has a condition
    repeat refine .cons trivial rfl ?_
    refine .cons nofun rfl ?_
    repeat refine .cons trivial rfl ?_
    trivial
  · have hPlaces : ∀ c, oneVisited.place c = .idle ∨ ∃ sub, oneVisited.place c =
        .removeTopic sub .unsubscribed := by
      intro c
      by_cases hc : c = 1
      · subst hc
        exact Or.inr ⟨_, rfl⟩
      · refine Or.inl (Threads.place_of_run hRun fun label hLabel => ?_)
        have hOne : ∀ label ∈ oneVisit, label.1 = 1 := by decide
        rw [hOne label hLabel]
        exact Ne.symm hc
    refine ⟨fun list hList => ⟨?_, fun c toAdd hPlace => ?_⟩, fun c toAdd hPlace => ?_,
      fun c other after hPlace => ?_⟩
    · obtain rfl := Option.some.inj hList
      rfl
    all_goals
      rcases hPlaces c with hIdle | ⟨sub, hRemove⟩
      · rw [hIdle] at hPlace
        cases hPlace
      · rw [hRemove] at hPlace
        cases hPlace

/-- Both threads have found that the channel has no list. -/
def bothCreate : List (Int × SubscriptionTask) :=
  goes 1 (.subscribe 7 "/a".toList) 2 ++ goes 2 (.subscribe 8 "/a".toList) 2 ++
    List.replicate 7 (1, .next) ++ [(2, .next)]

/-- The state after two threads have each made the list of one channel. -/
def bothCreated : SubscriptionThreads :=
  (Transition.run step nobodySubscribed bothCreate).getD nobodySubscribed

/-- Two connections make the list of one channel at the same time. The later `put` throws away
the list that the first subscription was added to. -/
theorem subscription_lost : ¬∀ s labels t, Initial s → Transition.run step s labels = some t →
    t.Sound := by
  intro h
  have hSound := h nobodySubscribed bothCreate bothCreated ⟨_, rfl⟩ rfl
  obtain ⟨list, hList, hMem⟩ := hSound.reached 1 ⟨0, 7, 1, "/a".toList⟩
    ⟨⟨_, rfl, List.mem_cons_self⟩, by decide⟩
  obtain rfl := Option.some.inj hList
  exact absurd hMem List.not_mem_nil

end StompGames.SubscriptionThreads
