import StompGames.Lib.Threads
import StompGames.Server.SubscriptionManager

/-! `SubscriptionManager` as the threads of several connections run it. Each call on a
map or on a list is a step of its own. -/
namespace StompGames

/-- The identity of a list object. -/
abbrev ListRef := Nat

/-- A map holds references to the lists of the channels. The list of a connection is
only ever used by the thread of that connection, and stands in the map itself. -/
structure SubscriptionShared where
  subscriptions : Text → Option ListRef
  lists : ListRef → List Subscription
  allocatedLists : Nat
  subDict : Int → Option (List Subscription)
  allocated : Nat

namespace SubscriptionShared

/-- The entry of a channel, which is a reference to a list. -/
def setChannel (channel : Text) (list : Option ListRef) (m : SubscriptionShared) :
    SubscriptionShared :=
  { m with subscriptions := Function.update m.subscriptions channel list }

/-- What a list holds from now on. Whoever has a reference to it sees the change. -/
def setList (list : ListRef) (content : List Subscription) (m : SubscriptionShared) :
    SubscriptionShared :=
  { m with lists := Function.update m.lists list content }

/-- The entry of a connection. Only its own thread works on this list. -/
def setConnection (conId : Int) (list : Option (List Subscription)) (m : SubscriptionShared) :
    SubscriptionShared :=
  { m with subDict := Function.update m.subDict conId list }

/-- `put(channel, new CopyOnWriteArrayList<>())`. -/
def putNewList (channel : Text) (m : SubscriptionShared) : SubscriptionShared :=
  { (m.setChannel channel (some m.allocatedLists)).setList m.allocatedLists [] with
    allocatedLists := m.allocatedLists + 1 }

end SubscriptionShared

/-- What follows a `removeSub`. -/
inductive AfterRemoval where
  | unsubscribed
  | disconnecting (rest : List Subscription)
  deriving DecidableEq

/-- What the thread of a connection does next. -/
inductive SubscriptionPlace where
  | idle
  -- a call has failed on a missing list
  | failed
  -- `subscribe` and `addTopicIfNeeded`
  | checkChannel (subId : Int) (channel : Text)
  | containsChannel (toAdd : Subscription)
  | putChannel (toAdd : Subscription)
  | getChannel (toAdd : Subscription)
  | addToChannel (toAdd : Subscription) (list : ListRef)
  | containsConnection (toAdd : Subscription)
  | putConnection (toAdd : Subscription)
  | getConnection (toAdd : Subscription)
  | addToConnection (toAdd : Subscription)
  -- `unsubscribe`
  | containsSubscriber (subscriptionId : Int)
  | findSubscription (subscriptionId : Int)
  -- `removeSub` and `removeTopicIfNeeded`
  | getChannelOf (s : Subscription) (after : AfterRemoval)
  | removeFromChannel (s : Subscription) (list : ListRef) (after : AfterRemoval)
  | getConnectionOf (s : Subscription) (after : AfterRemoval)
  | removeFromConnection (s : Subscription) (after : AfterRemoval)
  | containsTopic (s : Subscription) (after : AfterRemoval)
  | getTopic (s : Subscription) (after : AfterRemoval)
  | sizeOfTopic (s : Subscription) (list : ListRef) (after : AfterRemoval)
  | removeTopic (s : Subscription) (after : AfterRemoval)
  -- `disconnectUser`
  | containsUser
  | getUserList
  | removeUser
  deriving DecidableEq

/-- What a thread takes up when it is idle. -/
inductive SubscriptionTask where
  | subscribe (subId : Int) (channel : Text)
  | unsubscribe (subscriptionId : Int)
  | disconnectUser
  | next

/-- The next subscription of the loop of `disconnectUser`, or what follows the loop. -/
def AfterRemoval.place : AfterRemoval → SubscriptionPlace
  | unsubscribed => .idle
  | disconnecting [] => .removeUser
  | disconnecting (s :: rest) => .getChannelOf s (.disconnecting rest)

namespace SubscriptionPlace

/-- A call that was given up begins as one that follows another. -/
def begin (task : SubscriptionTask) : Option SubscriptionPlace :=
  match task with
  | .subscribe subId channel => some (checkChannel subId channel)
  | .unsubscribe subscriptionId => some (containsSubscriber subscriptionId)
  | .disconnectUser => some containsUser
  | .next => none

/-- The next statement of a thread, one call of a map or of a list each, and the place after it.
A call on a missing entry is the exception that ends the method. -/
def act (conId : Int) (task : SubscriptionTask) (m : SubscriptionShared) :
    SubscriptionPlace → Option (SubscriptionShared × SubscriptionPlace)
  | idle => (begin task).map fun place => (m, place)
  | failed => (begin task).map fun place => (m, place)
  | checkChannel subId channel =>
      -- the loop runs over the list as it is now, and a subscription found is an exception
      if ((m.subDict conId).getD []).any fun s => s.channel = channel then some (m, idle)
      else some ({ m with allocated := m.allocated + 1 },
        containsChannel ⟨m.allocated, subId, conId, channel⟩)
  | containsChannel toAdd =>
      some (m, if (m.subscriptions toAdd.channel).isSome then getChannel toAdd
        else putChannel toAdd)
  | putChannel toAdd => some (m.putNewList toAdd.channel, getChannel toAdd)
  | getChannel toAdd =>
      some (m, match m.subscriptions toAdd.channel with
        | none => failed
        | some list => addToChannel toAdd list)
  | addToChannel toAdd list =>
      some (m.setList list (m.lists list ++ [toAdd]), containsConnection toAdd)
  | containsConnection toAdd =>
      some (m, if (m.subDict conId).isSome then getConnection toAdd else putConnection toAdd)
  | putConnection toAdd => some (m.setConnection conId (some []), getConnection toAdd)
  | getConnection toAdd =>
      some (m, match m.subDict conId with
        | none => failed
        | some _ => addToConnection toAdd)
  | addToConnection toAdd =>
      some (m.setConnection conId ((m.subDict conId).map fun list => list ++ [toAdd]), idle)
  | containsSubscriber subscriptionId =>
      -- where there is no entry an exception rejects the call
      some (m, if (m.subDict conId).isSome then findSubscription subscriptionId else idle)
  | findSubscription subscriptionId =>
      some (m, match m.subDict conId with
        | none => failed
        | some list => match list.find? fun s => s.subId = subscriptionId with
            | none => idle
            | some s => getChannelOf s .unsubscribed)
  | getChannelOf s after =>
      some (m, match m.subscriptions s.channel with
        | none => failed
        | some list => removeFromChannel s list after)
  | removeFromChannel s list after =>
      some (m.setList list ((m.lists list).erase s), getConnectionOf s after)
  | getConnectionOf s after =>
      some (m, match m.subDict s.conId with
        | none => failed
        | some _ => removeFromConnection s after)
  | removeFromConnection s after =>
      some (m.setConnection s.conId ((m.subDict s.conId).map fun list => list.erase s),
        containsTopic s after)
  | containsTopic s after =>
      some (m, if (m.subscriptions s.channel).isSome then getTopic s after else after.place)
  | getTopic s after =>
      some (m, match m.subscriptions s.channel with
        | none => failed
        | some list => sizeOfTopic s list after)
  | sizeOfTopic s list after =>
      some (m, if (m.lists list).length = 0 then removeTopic s after else after.place)
  | removeTopic s after => some (m.setChannel s.channel none, after.place)
  | containsUser => some (m, if (m.subDict conId).isSome then getUserList else idle)
  | getUserList =>
      some (m, match m.subDict conId with
        | none => failed
        | some list => (AfterRemoval.disconnecting list).place)
  | removeUser => some (m.setConnection conId none, idle)

/-- The subscription that `removeSub` has taken out of the channel's list and not yet
out of the connection's. -/
def removing : SubscriptionPlace → Option Subscription
  | getConnectionOf s _ | removeFromConnection s _ => some s
  | _ => none

end SubscriptionPlace

/-- All connections, each with its own thread. -/
abbrev SubscriptionThreads : Type :=
  Threads.State Int SubscriptionShared SubscriptionPlace

namespace SubscriptionThreads

/-- A step of the thread of one connection on the shared state. -/
def step : SubscriptionThreads → Int × SubscriptionTask → Option SubscriptionThreads :=
  Threads.step fun conId task m place => place.act conId task m

/-- Nobody is subscribed to anything, and nobody does anything. -/
def Initial (s : SubscriptionThreads) : Prop :=
  ∃ lists, s = ⟨⟨fun _ => none, lists, 0, fun _ => none, 0⟩, fun _ => .idle⟩

/-- A subscription is put into the list of its connection when `subscribe` returns, and
it is taken out of it by `removeSub`. -/
def Acknowledged (s : SubscriptionThreads) (c : Int) (sub : Subscription) : Prop :=
  (∃ list, s.shared.subDict c = some list ∧ sub ∈ list) ∧ (s.place c).removing ≠ some sub

/-- The list that `subscriptions.get` returns holds the subscription. -/
def InChannel (m : SubscriptionShared) (sub : Subscription) : Prop :=
  ∃ list, m.subscriptions sub.channel = some list ∧ sub ∈ m.lists list

/-- No call fails, and no acknowledged subscription is missed by a broadcast. -/
structure Sound (s : SubscriptionThreads) : Prop where
  noFailure : ∀ c, s.place c ≠ .failed
  reached : ∀ c sub, s.Acknowledged c sub → InChannel s.shared sub

end SubscriptionThreads
end StompGames
