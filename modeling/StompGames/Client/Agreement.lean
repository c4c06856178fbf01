import StompGames.Client.Commands

/-! Client and server on the subscriptions of one connection. The client numbers
every subscription 0, so the server takes the oldest one for the one it is told
to end. -/
namespace StompGames

open Client Imperative

/-- The commands that change what a client is subscribed to. -/
inductive TopicCommand where
  | join (topic : Topic)
  | exit (topic : Topic)
  deriving DecidableEq

/-- The command as it is typed, among all that the client knows. -/
def TopicCommand.command : TopicCommand → Command
  | join topic => .join topic
  | exit topic => .exit topic

/-- A client and the server that it is logged in at. Nothing is on its way between the two. -/
structure Session where
  client : StompClient
  server : Server

namespace Session

/-- A frame of connection `c`, where the server still serves it. -/
def handle (c : Int) (server : Server) (frame : Text) : Server :=
  (server.liveStep (.process c frame)).getD server

/-- A command is typed, and the server handles the frames it made in order. -/
def step (env : Env) (c : Int) (s : Session) (command : TopicCommand) : Option Session :=
  let client := (StompClient.runLine env command.command.line s.client).2
  some ⟨client, (client.sent.drop s.client.sent.length).foldl (handle c) s.server⟩

/-- Both sides name the same topics. -/
def Agree (c : Int) (s : Session) : Prop :=
  ∀ topic, (s.client.subscriptions topic).isSome ↔
    ∃ sub ∈ s.server.cManager.subManager.ofConnection c, sub.channel = '/' :: topic

/-- Right after the login on connection `c`. -/
structure Fresh (c : Int) (s : Session) : Prop where
  client : s.client.JustLoggedIn
  reachable : Transition.Reachable Server.Started Server.step s.server
  accepted : s.server.accepted c = true
  served : (s.server.protocols c).shouldTerminate = false
  loggedIn : s.server.LoggedIn c
  unsubscribed : s.server.cManager.subManager.ofConnection c = []

/-- Every topic that is left is the one joined longest ago of those still joined. -/
def LeavesOldest : List Text → List TopicCommand → Prop
  | _, [] => True
  | joined, .join topic :: rest =>
      LeavesOldest (if topic.name ∈ joined then joined else joined ++ [topic.name]) rest
  | joined, .exit topic :: rest =>
      (topic.name ∈ joined → joined.head? = some topic.name) ∧
        LeavesOldest (joined.erase topic.name) rest

/-- The topics in the order of joining, as both sides have them. -/
structure Aligned (c : Int) (joined : List Text) (s : Session) : Prop where
  inSession : s.client.InSession
  isConnected : s.client.protocol.isConnected = true
  writable : s.client.writable = true
  nodup : joined.Nodup
  topics : ∀ topic, s.client.subscriptions topic = if topic ∈ joined then some 0 else none
  indexed : s.server.Indexed
  accepted : s.server.accepted c = true
  served : (s.server.protocols c).shouldTerminate = false
  loggedIn : s.server.LoggedIn c
  channels : (s.server.cManager.subManager.ofConnection c).map Subscription.channel =
    joined.map ('/' :: ·)
  ids : ∀ sub ∈ s.server.cManager.subManager.ofConnection c, sub.subId = 0

theorem Fresh.aligned {c : Int} {s : Session} (h : Fresh c s) : Aligned c [] s where
  inSession := h.client.inSession
  isConnected := h.client.isConnected
  writable := h.client.writable
  nodup := List.nodup_nil
  topics topic := by simp [h.client.noTopics]
  indexed := Server.reachable_indexed h.reachable
  accepted := h.accepted
  served := h.served
  loggedIn := h.loggedIn
  channels := by simp [h.unsubscribed]
  ids := by simp [h.unsubscribed]

section
variable {c : Int} {joined : List Text} {s : Session}

/-- A topic has a subscription exactly where it is joined. -/
theorem Aligned.subscribed_iff (h : Aligned c joined s) (topic : Text) :
    (∃ sub ∈ s.server.cManager.subManager.ofConnection c, sub.channel = '/' :: topic) ↔
      topic ∈ joined := by
  rw [← List.mem_map, h.channels, List.mem_map]
  simp

theorem Aligned.agree (h : Aligned c joined s) : Agree c s := by
  intro topic
  rw [h.subscribed_iff, h.topics]
  split <;> simp [*]

theorem Aligned.handle_eq (h : Aligned c joined s) (frame : Text) :
    handle c s.server frame = (Server.process c frame s.server).2 := by
  simp [handle, Server.liveStep, Server.step, h.served, h.accepted]

/-- The frame of a join that the client does not refuse. -/
theorem Aligned.handle_subscribe (h : Aligned c joined s) {topic : Topic}
    (hNew : topic.name ∉ joined) :
    handle c s.server (StompClient.subscribeFrame topic.name 0 0) =
      (s.server.subscribed c 0 ('/' :: topic.name)).sent c (Server.receiptFrame 0) := by
  have hFresh : ∀ sub ∈ s.server.cManager.subManager.ofConnection c,
      sub.channel ≠ '/' :: topic.name :=
    fun sub hSub hChannel => hNew ((h.subscribed_iff _).1 ⟨sub, hSub, hChannel⟩)
  have hNumber : Java.parseInt (Decimal.decimal 0) = some 0 :=
    Java.parseInt_decimal (by decide) (by decide)
  obtain ⟨hId, hDest, hReceipt⟩ := StompClient.subscribeHeaders_values topic 0 0
  rw [h.handle_eq, Server.process_subscribe h.loggedIn
    (StompClient.parseFrame_subscribeFrame topic 0 0) hDest hId hNumber hReceipt hNumber hFresh]

/-- The frame of an exit ends the oldest subscription. -/
theorem Aligned.handle_unsubscribe (h : Aligned c joined s) {sub : Subscription}
    {rest : List Subscription}
    (hList : s.server.cManager.subManager.ofConnection c = sub :: rest) :
    handle c s.server (StompClient.unsubscribeFrame 0 0) =
      (s.server.unsubscribed sub).sent c (Server.receiptFrame 0) := by
  have hFind : (s.server.cManager.subManager.ofConnection c).find?
      (fun sub => sub.subId = 0) = some sub := by
    rw [hList, List.find?_cons_of_pos]
    simpa using h.ids sub (hList ▸ List.mem_cons_self)
  have hNumber : Java.parseInt (Decimal.decimal 0) = some 0 :=
    Java.parseInt_decimal (by decide) (by decide)
  obtain ⟨hId, hReceipt⟩ := StompClient.unsubscribeHeaders_values 0 0
  rw [h.handle_eq, Server.process_unsubscribe h.indexed h.loggedIn
    (StompClient.parseFrame_unsubscribeFrame 0 0) hId hNumber hReceipt hNumber hFind]

/-- A command that the client refuses is not heard of by the server. -/
theorem Aligned.refused (h : Aligned c joined s) (env : Env) {command : TopicCommand}
    (hRefused : command.command.refused s.client = true) :
    ∃ t, step env c s command = some t ∧ Aligned c joined t := by
  have hClient := StompClient.runLine_apply env h.inSession h.isConnected h.writable
    command.command
  rw [if_pos hRefused] at hClient
  have hSent : (StompClient.runLine env command.command.line s.client).2.sent =
      s.client.sent := by rw [hClient]; rfl
  refine ⟨⟨(StompClient.runLine env command.command.line s.client).2, s.server⟩, ?_, ?_⟩
  · simp only [step, hSent, List.drop_length, List.foldl_nil]
  · rw [hClient]
    exact { h with
      inSession := ⟨h.inSession.receiptIdGen, h.inSession.subIdGen, h.inSession.running,
        h.inSession.connected⟩ }

/-- A command that writes a frame, which the server handles. -/
theorem Aligned.step_eq (h : Aligned c joined s) (env : Env) {command : TopicCommand}
    (hRefused : command.command.refused s.client = false) :
    step env c s command = some ⟨(s.client.noted command.command).transmitted command.command,
      handle c s.server (command.command.frame (s.client.noted command.command))⟩ := by
  have hClient := StompClient.runLine_apply env h.inSession h.isConnected h.writable
    command.command
  rw [hRefused, if_neg Bool.false_ne_true] at hClient
  have hSent : (s.client.noted command.command).sent = s.client.sent := rfl
  simp only [step, hClient, StompClient.transmitted_sent (h.inSession.noted command.command),
    hSent, List.drop_left, List.foldl_cons, List.foldl_nil]

theorem Aligned.join (h : Aligned c joined s) (env : Env) (topic : Topic) :
    ∃ t, step env c s (.join topic) = some t ∧
      Aligned c (if topic.name ∈ joined then joined else joined ++ [topic.name]) t := by
  have hTopic := h.topics topic.name
  by_cases hNew : topic.name ∈ joined
  · rw [if_pos hNew] at hTopic ⊢
    exact h.refused env (congrArg Option.isSome hTopic)
  · rw [if_neg hNew] at hTopic ⊢
    have hAccepted : (TopicCommand.join topic).command.refused s.client = false :=
      congrArg Option.isSome hTopic
    have hFrame : (Command.join topic).frame (s.client.noted (.join topic)) =
        StompClient.subscribeFrame topic.name 0 0 := by
      change StompClient.subscribeFrame topic.name s.client.subIdGen s.client.receiptIdGen = _
      rw [h.inSession.subIdGen, h.inSession.receiptIdGen]
    refine ⟨_, h.step_eq env hAccepted, ?_⟩
    simp only [TopicCommand.command, hFrame, h.handle_subscribe hNew]
    have hList : ((s.server.subscribed c 0 ('/' :: topic.name)).sent c
        (Server.receiptFrame 0)).cManager.subManager.ofConnection c =
          s.server.cManager.subManager.ofConnection c ++
            [⟨s.server.cManager.subManager.allocated, 0, c, '/' :: topic.name⟩] := by
      simp [Server.sent, Server.subscribed, SubscriptionManager.added_ofConnection]
    have hIndexed : (s.server.subscribed c 0 ('/' :: topic.name)).Indexed :=
      SubscriptionManager.Consistent.added h.indexed fun sub hSub hChannel =>
        hNew ((h.subscribed_iff _).1 ⟨sub, hSub, hChannel⟩)
    exact
      { inSession := (h.inSession.noted (.join topic)).transmitted (.join topic)
        isConnected := h.isConnected
        writable := (StompClient.transmitted_writable (.join topic) _).trans h.writable
        nodup := List.nodup_append'.2 ⟨h.nodup, List.nodup_singleton _, by simpa using hNew⟩
        topics := by
          intro other
          change Function.update s.client.subscriptions topic.name (some s.client.subIdGen) other =
            _
          rw [h.inSession.subIdGen, Function.update_apply, h.topics other]
          by_cases hOther : other = topic.name <;> simp [hOther]
        indexed := hIndexed.sent c _
        accepted := h.accepted
        served := h.served
        loggedIn := h.loggedIn
        channels := by rw [hList, List.map_append, h.channels, List.map_append]; rfl
        ids := by
          intro sub hSub
          rw [hList, List.mem_append, List.mem_singleton] at hSub
          rcases hSub with hSub | rfl
          · exact h.ids sub hSub
          · rfl }

/-- What the server does on an exit that the client does not refuse. -/
theorem Aligned.exit_eq (h : Aligned c joined s) (env : Env) {topic : Topic}
    (hJoined : topic.name ∈ joined) {sub : Subscription} {rest : List Subscription}
    (hList : s.server.cManager.subManager.ofConnection c = sub :: rest) :
    step env c s (.exit topic) = some
      ⟨(s.client.noted (.exit topic)).transmitted (.exit topic),
        (s.server.unsubscribed sub).sent c (Server.receiptFrame 0)⟩ ∧
    ((s.server.unsubscribed sub).sent c (Server.receiptFrame 0)).cManager.subManager.ofConnection
      c = rest := by
  have hTopic := h.topics topic.name
  rw [if_pos hJoined] at hTopic
  have hFrame : (Command.exit topic).frame (s.client.noted (.exit topic)) =
      StompClient.unsubscribeFrame 0 0 := by
    change StompClient.unsubscribeFrame ((s.client.subscriptions topic.name).getD 0)
      s.client.receiptIdGen = _
    rw [hTopic, h.inSession.receiptIdGen]
    rfl
  have hAccepted : (TopicCommand.exit topic).command.refused s.client = false :=
    congrArg Option.isNone hTopic
  constructor
  · rw [h.step_eq env hAccepted]
    simp only [TopicCommand.command, hFrame, h.handle_unsubscribe hList]
  · have hNodup := h.indexed.indexes.nodup_owner c
    change List.Nodup (s.server.cManager.subManager.ofConnection c) at hNodup
    rw [hList, List.nodup_cons] at hNodup
    have hFilter : ((s.server.unsubscribed sub).sent c
        (Server.receiptFrame 0)).cManager.subManager.ofConnection c =
          (s.server.cManager.subManager.ofConnection c).filter (· != sub) := by
      simp only [Server.sent, Server.unsubscribed, ConnectionsManager.delivered_subManager]
      exact congrFun (SubscriptionManager.Consistent.removed_lists h.indexed sub).2 c
    rw [hFilter, hList, List.filter_cons_of_neg (by simp)]
    exact List.filter_eq_self.2 fun other hOther => by
      simpa using ne_of_mem_of_not_mem hOther hNodup.1

theorem Aligned.exit_oldest {topic : Topic} {rest : List Text}
    (h : Aligned c (topic.name :: rest) s) (env : Env) :
    ∃ t, step env c s (.exit topic) = some t ∧ Aligned c rest t := by
  obtain ⟨sub, others, hList, hChannel, hRest⟩ := List.map_eq_cons_iff.1 h.channels
  obtain ⟨hStep, hLeft⟩ := h.exit_eq env List.mem_cons_self hList
  have hIndexed : (s.server.unsubscribed sub).Indexed :=
    SubscriptionManager.Consistent.removed h.indexed sub
  refine ⟨_, hStep, ?_⟩
  exact
    { inSession := (h.inSession.noted (.exit topic)).transmitted (.exit topic)
      isConnected := h.isConnected
      writable := (StompClient.transmitted_writable (.exit topic) _).trans h.writable
      nodup := (List.nodup_cons.1 h.nodup).2
      topics := by
        intro other
        change Function.update s.client.subscriptions topic.name none other = _
        rw [Function.update_apply, h.topics other]
        by_cases hOther : other = topic.name
        · simp [hOther, (List.nodup_cons.1 h.nodup).1]
        · simp [hOther]
      indexed := hIndexed.sent c _
      accepted := h.accepted
      served := h.served
      loggedIn := h.loggedIn
      channels := by rw [hLeft, hRest]
      ids := by
        intro other hOther
        rw [hLeft] at hOther
        exact h.ids other (hList ▸ List.mem_cons_of_mem _ hOther) }

/-- The server keeps a topic that is left before an older one. -/
theorem Aligned.exit_other (h : Aligned c joined s) (env : Env) {topic : Topic}
    (hJoined : topic.name ∈ joined) (hOldest : joined.head? ≠ some topic.name) :
    ∃ t, step env c s (.exit topic) = some t ∧ ¬Agree c t := by
  cases hShape : joined with
  | nil => simp [hShape] at hJoined
  | cons oldest rest =>
      rw [hShape] at hJoined hOldest
      have hChannels := h.channels
      rw [hShape] at hChannels
      obtain ⟨sub, others, hList, hChannel, hRest⟩ := List.map_eq_cons_iff.1 hChannels
      obtain ⟨hStep, hLeft⟩ := h.exit_eq env (hShape ▸ hJoined) hList
      have hKept : topic.name ∈ rest := by
        refine (List.mem_cons.1 hJoined).resolve_left fun hSame => hOldest ?_
        rw [hSame, List.head?_cons]
      refine ⟨_, hStep, fun hAgree => ?_⟩
      have hServer : ∃ sub ∈ others, sub.channel = '/' :: topic.name :=
        List.mem_map.1 (hRest ▸ List.mem_map_of_mem hKept)
      rw [← hLeft] at hServer
      have hClient := (hAgree topic.name).2 hServer
      change (Function.update s.client.subscriptions topic.name none topic.name).isSome = true
        at hClient
      rw [Function.update_self] at hClient
      exact Bool.false_ne_true hClient

/-- Client and server agree after every command if and only if topics are left in
the order in which they were joined. -/
theorem aligned_iff (env : Env) (h : Aligned c joined s) (commands : List TopicCommand) :
    Transition.Always (step env c) (Agree c) s commands ↔ LeavesOldest joined commands := by
  induction commands generalizing joined s with
  | nil => exact iff_of_true h.agree trivial
  | cons command rest ih =>
      have hNext : ∀ {t : Session} {joined' : List Text}, step env c s command = some t →
          Aligned c joined' t → (Transition.Always (step env c) (Agree c) s (command :: rest) ↔
            LeavesOldest joined' rest) := by
        intro t joined' hStep hAligned
        rw [← ih hAligned]
        refine ⟨fun hAll => hAll.2 t hStep, fun hRest => ⟨h.agree, fun t' hStep' => ?_⟩⟩
        rwa [Option.some.inj (hStep'.symm.trans hStep)]
      cases command with
      | join topic =>
          obtain ⟨t, hStep, hAligned⟩ := h.join env topic
          exact hNext hStep hAligned
      | exit topic =>
          rw [LeavesOldest]
          by_cases hJoined : topic.name ∈ joined
          · by_cases hOldest : joined.head? = some topic.name
            · obtain ⟨rest', rfl⟩ : ∃ rest', joined = topic.name :: rest' := by
                cases joined with
                | nil => cases hOldest
                | cons first rest' => exact ⟨rest', by rw [Option.some.inj hOldest]⟩
              obtain ⟨t, hStep, hAligned⟩ := h.exit_oldest env
              rw [hNext hStep hAligned, List.erase_cons_head]
              exact (and_iff_right fun _ => rfl).symm
            · obtain ⟨t, hStep, hBad⟩ := h.exit_other env hJoined hOldest
              exact iff_of_false (fun hAll => hBad (hAll.2 t hStep).first)
                (fun hAll => hOldest (hAll.1 hJoined))
          · have hTopic := h.topics topic.name
            rw [if_neg hJoined] at hTopic
            have hRefused : (TopicCommand.exit topic).command.refused s.client = true :=
              congrArg Option.isNone hTopic
            obtain ⟨t, hStep, hAligned⟩ := h.refused env hRefused
            rw [hNext hStep hAligned, List.erase_of_not_mem hJoined]
            exact (and_iff_right fun hIn => absurd hIn hJoined).symm

end

/-- Client and server agree after every sequence of joins and exits that begins at the login, if
and only if topics are left in the order in which they were joined. Both look for the topic in a
list, and both take the first entry that they find. -/
theorem agreement_iff (env : Env) {c : Int} {s : Session} (h : Fresh c s)
    (commands : List TopicCommand) :
    Transition.Always (step env c) (Agree c) s commands ↔ LeavesOldest [] commands :=
  aligned_iff env h.aligned commands

/-- One user that has logged in to a new server. -/
def loggedIn : Session where
  client := .loggedIn
  server := (Server.process 1 (Server.connectFrame "meni" "films")
    ((Server.new true fun _ => .reply []).accept 1)).2

theorem loggedIn_fresh : Fresh 1 loggedIn where
  client := StompClient.loggedIn_justLoggedIn
  reachable := ⟨.new true fun _ => .reply [], [.accept 1,
    .process 1 (Server.connectFrame "meni" "films")], ⟨true, _, rfl⟩, rfl⟩
  accepted := rfl
  served := by rfl
  loggedIn := by decide
  unsubscribed := by rfl

/-- Two topics are joined, and the first one is left before the second one. -/
theorem agreement_iff_loggedIn :
    Transition.Always (step StompClient.oneHost 1) (Agree 1) loggedIn
        [.join germany, .join spain, .exit germany] ↔
      LeavesOldest [] [.join germany, .join spain, .exit germany] :=
  agreement_iff StompClient.oneHost loggedIn_fresh _

/-- Two topics are joined and the second one is left. The client sends the id of the first one,
and the server ends the subscription that the client still believes in. -/
theorem agreement_lost : Fresh 1 loggedIn ∧
    ¬Transition.Always (step StompClient.oneHost 1) (Agree 1) loggedIn
      [.join germany, .join spain, .exit spain] := by
  refine ⟨loggedIn_fresh, fun hAll => ?_⟩
  have hEnd : ∃ t, Transition.run (step StompClient.oneHost 1) loggedIn
      [.join germany, .join spain, .exit spain] = some t ∧
      t.client.subscriptions spain.name = none ∧
      (t.server.cManager.subManager.ofConnection 1).map Subscription.channel =
        ['/' :: spain.name] := ⟨_, rfl, by rfl, by rfl⟩
  obtain ⟨t, hRun, hClient, hServer⟩ := hEnd
  have hHeld := List.mem_map.1 (hServer ▸ List.mem_singleton_self ('/' :: spain.name))
  have hAgree := ((hAll.last hRun) spain.name).2 hHeld
  simp [hClient] at hAgree

end Session
end StompGames
