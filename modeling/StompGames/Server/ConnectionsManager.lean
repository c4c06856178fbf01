import StompGames.Server.SubscriptionManager

/-! `ConnectionsManager.java`: the handler of each connection, and delivery. -/
namespace StompGames

open Imperative

/-- A handler object. The manager only keeps references to it, what it does with a frame is the
handler's own affair. -/
structure ConnectionHandler where
  conId : Int
  deriving DecidableEq

/-- `idGen` counts the increments of the `AtomicInteger`. `handed` lists the
frames handed to handlers so far, in order. -/
structure ConnectionsManager where
  connecetions : Int → Option ConnectionHandler
  subManager : SubscriptionManager
  idGen : Nat
  handed : List (ConnectionHandler × Text)

/-- The value of an `AtomicInteger` that started at 0, after `count` increments. -/
def atomicInteger (count : Nat) : Int := Int.bmod count (2 ^ 32)

namespace ConnectionsManager

/-- No connections, no subscriptions, and no broadcast so far. -/
def new : ConnectionsManager := ⟨fun _ => none, .new, 0, []⟩

/-- A call of a method of the subscription manager, which changes no other part of the state. -/
def onSubManager {α : Type} (m : Method JavaException SubscriptionManager α) :
    Method JavaException ConnectionsManager α :=
  m.zoom subManager fun subManager manager => { manager with subManager := subManager }

/-- `connect(newClient, conId)`, which the server calls for each connection that it accepts. -/
def connect (newClient : ConnectionHandler) (conId : Int) (m : ConnectionsManager) :
    ConnectionsManager :=
  { m with connecetions := Function.update m.connecetions conId (some newClient) }

/-- Hand a frame to a handler. -/
def hand (handler : ConnectionHandler) (msg : Text) (m : ConnectionsManager) :
    ConnectionsManager :=
  { m with handed := m.handed ++ [(handler, msg)] }

/-- `send(connectionId, msg)`. A missing handler is an exception that the method swallows, and
the caller is told with the result, which no caller looks at. -/
def send (connectionId : Int) (msg : Text) : Method JavaException ConnectionsManager Bool :=
  tryCatch
    (do
      let m ← get
      let handler ← deref (m.connecetions connectionId)
      modify (hand handler msg)
      pure true)
    fun _ => pure false

/-- `subscribe(channel, connectionId, subId)`, which only turns the arguments round. -/
def subscribe (channel : Text) (connectionId subId : Int) :
    Method JavaException ConnectionsManager Unit :=
  onSubManager (SubscriptionManager.subscribe subId connectionId (some channel))

/-- `unsubscribe(subId, connectionId)`. -/
def unsubscribe (subId connectionId : Int) : Method JavaException ConnectionsManager Unit :=
  onSubManager (SubscriptionManager.unsubscribe subId connectionId)

/-- The `MESSAGE` frame a subscription receives. The id of the subscription is the subscriber's
own, the message id is that of the broadcast, and channel and body are the sender's. -/
def messageFrame (subId : Int) (id channel msg : Text) : Text :=
  "MESSAGE\nsubscription:".toList ++ Decimal.decimal subId ++ "\nmessage-id:".toList ++ id ++
    "\ndestination:".toList ++ channel ++ "\n\n".toList ++ msg ++ ['\x00']

/-- `send(channel, msg)`: one frame for each subscription in the channel's list, all with the id
that was drawn first. A channel without a list is a `NullPointerException`, but the id is drawn
even so. -/
def sendToChannel (channel msg : Text) : Method JavaException ConnectionsManager Unit := do
  modify fun m => { m with idGen := m.idGen + 1 }
  let m ← get
  let id := Decimal.decimal (atomicInteger m.idGen)
  let subs ← deref (m.subManager.subscriptions channel)
  forM subs fun sub => do
    let _ ← send sub.conId (messageFrame sub.subId id channel msg)
    pure ()

/-- `disconnect(connectionId)`: the handler goes first, and from then on nothing is handed to the
connection. -/
def disconnect (connectionId : Int) : Method JavaException ConnectionsManager Unit := do
  modify fun m => { m with connecetions := Function.update m.connecetions connectionId none }
  onSubManager (SubscriptionManager.disconnectUser connectionId)

/-- `isSubscribed(connectionId, channel)`, the check of `solveSend`. -/
def isSubscribed (connectionId : Int) (channel : Text) (m : ConnectionsManager) : Bool :=
  m.subManager.isSubscribedToChannel channel connectionId

/-- Delivery to a connection, where it has a handler. -/
def delivered (connectionId : Int) (msg : Text) (m : ConnectionsManager) : ConnectionsManager :=
  match m.connecetions connectionId with
  | none => m
  | some handler => hand handler msg m

section delivered
variable (connectionId : Int) (msg : Text) (m : ConnectionsManager)

@[simp] theorem delivered_connecetions :
    (delivered connectionId msg m).connecetions = m.connecetions := by
  unfold delivered
  split <;> rfl

@[simp] theorem delivered_subManager :
    (delivered connectionId msg m).subManager = m.subManager := by
  unfold delivered
  split <;> rfl

@[simp] theorem delivered_idGen : (delivered connectionId msg m).idGen = m.idGen := by
  unfold delivered
  split <;> rfl

theorem delivered_handed : (delivered connectionId msg m).handed =
    m.handed ++ ((m.connecetions connectionId).map fun handler => (handler, msg)).toList := by
  unfold delivered
  cases m.connecetions connectionId <;> simp [hand]

/-- `send` never throws, and tells whether there was a handler. -/
theorem send_apply :
    send connectionId msg m =
      (.ok (m.connecetions connectionId).isSome, delivered connectionId msg m) := by
  unfold send delivered
  cases hHandler : m.connecetions connectionId <;> simp [hHandler, deref]

end delivered

/-- The frames one broadcast hands out: one for each subscription of the
channel whose connection has a handler. -/
def broadcastFrames (m : ConnectionsManager) (channel msg : Text) :
    List (ConnectionHandler × Text) :=
  (m.subManager.ofChannel channel).filterMap fun sub =>
    (m.connecetions sub.conId).map fun handler => (handler,
      messageFrame sub.subId (Decimal.decimal (atomicInteger (m.idGen + 1))) channel msg)

private theorem deliver_list (list : List Subscription) (frame : Subscription → Text)
    (m : ConnectionsManager) :
    (forM list (fun sub => do
      let _ ← send sub.conId (frame sub)
      pure ()) : Method JavaException ConnectionsManager PUnit) m =
      (.ok (), { m with handed := m.handed ++ list.filterMap fun sub =>
        (m.connecetions sub.conId).map fun handler => (handler, frame sub) }) := by
  induction list generalizing m with
  | nil =>
      rw [List.forM_nil]
      simp
  | cons sub rest ih =>
      rw [List.forM_cons]
      simp only [Method.bind_apply, send_apply, Method.pure_apply, ih, delivered_connecetions,
        delivered_handed]
      congr 1
      unfold delivered
      cases hHandler : m.connecetions sub.conId <;> simp [hHandler, hand]

/-- A broadcast to a channel somebody is subscribed to. -/
theorem sendToChannel_apply {m : ConnectionsManager} {channel : Text}
    (h : (m.subManager.subscriptions channel).isSome) (msg : Text) :
    sendToChannel channel msg m = (.ok (), { m with
      idGen := m.idGen + 1
      handed := m.handed ++ m.broadcastFrames channel msg }) := by
  obtain ⟨list, hList⟩ := Option.isSome_iff_exists.1 h
  simp only [sendToChannel, Method.bind_apply, Method.modify_apply, Method.get_apply, hList, deref,
    Method.pure_apply, deliver_list, broadcastFrames, SubscriptionManager.ofChannel,
    Option.getD_some]

/-- The manager after a connection was taken out. -/
def disconnected (m : ConnectionsManager) (conId : Int) : ConnectionsManager :=
  (disconnect conId m).2

/-- A disconnected connection has no handler and no subscription, and nothing
changes for any other connection. -/
theorem disconnect_apply {m : ConnectionsManager} (h : m.subManager.Consistent) (conId : Int) :
    disconnect conId m = (.ok (), m.disconnected conId) ∧
      (m.disconnected conId).subManager.Consistent ∧
      (m.disconnected conId).connecetions = Function.update m.connecetions conId none ∧
      (m.disconnected conId).subManager.subDict = Function.update m.subManager.subDict conId none ∧
      (m.disconnected conId).subManager.ofChannel =
        (fun channel => (m.subManager.ofChannel channel).filter fun s => s.conId ≠ conId) ∧
      (m.disconnected conId).idGen = m.idGen ∧ (m.disconnected conId).handed = m.handed := by
  obtain ⟨sm, hRun, hCons, hNone, hOthers, hChannels⟩ :=
    SubscriptionManager.disconnectUser_apply h conId
  have hApply : disconnect conId m = (.ok (), { m with
      connecetions := Function.update m.connecetions conId none
      subManager := sm }) := by
    simp only [disconnect, Method.bind_apply, Method.modify_apply, onSubManager,
      Method.zoom_apply, hRun]
  simp only [disconnected, hApply]
  refine ⟨trivial, hCons, trivial, ?_, hChannels, trivial, trivial⟩
  funext other
  by_cases hOther : other = conId
  · subst hOther
    simpa using hNone
  · simpa [hOther] using hOthers other hOther

end ConnectionsManager
end StompGames
