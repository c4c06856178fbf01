import StompGames.Lib.Replication
import StompGames.Network.Network

/-! The network replicates what its clients report: an event of a client is an entry that the
client writes, the server relays and the other subscribers of the game read. -/
namespace StompGames

open Client Imperative StompClient

/-- An event that is read just as it was reported. -/
structure Faithful (username game : Text) (e : Client.Event) : Prop where
  game : OneLine game ∧ ':' ∉ game
  fields : OneLineFields username e
  colonFree : ColonFree username e
  description : ∀ c ∈ Cpp.decoded e.description, Java.isLineBreak c = false

namespace Network

/-- The name that a client has logged in with. -/
def userOf (n : Network) (c : Int) : Text := (n.clients c).protocol.username

/-- The client takes commands, and reads what comes. -/
def connected (n : Network) (c : Int) : Bool := (n.clients c).protocol.isConnected

/-- The server has the connection among the subscribers of the game. -/
def subscribed (n : Network) (c : Int) (game : Text) : Bool :=
  n.server.cManager.isSubscribed c ('/' :: Cpp.decoded game)

/-- The connected clients are logged in on their connections under their names, and nothing
is on its way. -/
structure Ready (n : Network) : Prop where
  server : Transition.Reachable Server.StartedWorking Server.liveStep n.server
  online : ∀ c, n.connected c = true → (n.clients c).Online (n.userOf c)
  named : ∀ c, n.connected c = true → ∃ user, n.server.db.connectionsIdMap c = some user ∧
    (n.server.db.users user).name = Cpp.decoded (n.userOf c)
  idle : ∀ c, n.reporting c = none
  served : ∀ c, n.served c = (n.clients c).sent.length
  read : ∀ c, n.read c = (n.server.handedTo c).length

/-- A file that is reported holds events of a game that the client is in, and what is sent of
them arrives unchanged. -/
def Admissible (envs : Int → Env) (n : Network) : NetworkEvent → Prop
  | .report c filePath => ∀ data, (envs c).parseEventsFile filePath = .ok data →
      n.subscribed c (data.teamAName ++ '_' :: data.teamBName) = true ∧ OneLine filePath ∧
      ∀ e ∈ data.events, Faithful (n.userOf c) (data.teamAName ++ '_' :: data.teamBName) e
  | _ => True

/-- What is replicated: an event, with the client that reported it and the game it belongs to. -/
abbrev Entry : Type := Replication.Entry Int Text Client.Event

/-- An entry that its sender may report. -/
structure Sendable (base : Network) (entry : Entry) : Prop where
  connected : base.connected entry.sender = true
  subscribed : base.subscribed entry.sender entry.topic = true
  faithful : Faithful (base.userOf entry.sender) entry.topic entry.item

/-- The frame in which an entry is sent. -/
def SentAs (base : Network) (entry : Entry) (frame : Text) : Prop :=
  base.Sendable entry ∧ ∃ filePath : Option Text, (∀ path ∈ filePath, OneLine path) ∧
    frame = reportFrame entry.topic filePath (base.userOf entry.sender) entry.item

/-- A frame in which an entry is handed to a subscriber. -/
def HandedAs (base : Network) (entry : Entry) (frame : Text) : Prop :=
  base.Sendable entry ∧ ∃ subId n, frame = ConnectionsManager.messageFrame subId
    (Decimal.decimal n) ('/' :: Cpp.decoded entry.topic)
    (Java.relined (Cpp.decoded (ConstructEventFrame (base.userOf entry.sender) entry.item)))

/-- The calls of `addUpdate` that entries on a game stand for. -/
def callsOn (base : Network) (game : Text) (entries : List Entry) : List (Text × Client.Event) :=
  (entries.filter fun entry => entry.topic = game).map fun entry =>
    (base.userOf entry.sender, entry.item)

/-- What a client that was started in `base` has to do with the entries it wrote and stored. -/
structure ClientRefines (base : Network) (envs : Int → Env) (c : Int) (written stored : List Entry)
    (client : StompClient) : Prop where
  online : base.connected c = true → client.Online (base.userOf c)
  offline : base.connected c = false → client.protocol.isConnected = false
  sent : ∃ frames, client.sent = (base.clients c).sent ++ frames ∧
    List.Forall₂ base.SentAs written frames
  held : ∀ entry ∈ stored, base.Sendable entry
  games : ∀ game, gameOf client.protocol game =
    (gameOf (base.clients c).protocol game).addUpdates (envs c).sort (base.callsOn game stored)

/-- The same of the whole network. -/
structure Refines (envs : Int → Env) (base n : Network)
    (s : Replication.State Int Text Client.Event) : Prop where
  server : Transition.Reachable Server.StartedWorking Server.liveStep n.server
  subManager : n.server.cManager.subManager = base.server.cManager.subManager
  client : ∀ c, base.ClientRefines envs c (s.written c) (s.stored c) (n.clients c)
  reporting : ∀ c, ∀ r ∈ n.reporting c, (∀ path ∈ r.filePath, OneLine path) ∧
    ∀ e ∈ r.events, base.Sendable ⟨c, r.game, e⟩
  served : ∀ c, n.served c = base.served c + s.relayed c
  handed : ∀ d, ∃ done frames, n.server.handedTo d = done ++ frames ∧ done.length = n.read d ∧
    List.Forall₂ base.HandedAs (s.inbox d) frames
  ordered : Replication.Ordered base.subscribed s

section
variable {envs : Int → Env} {base n : Network} {s : Replication.State Int Text Client.Event}

theorem Ready.refines (h : base.Ready) : Refines envs base base Replication.start where
  server := h.server
  subManager := rfl
  client c := ⟨h.online c, fun hNot => hNot, ⟨[], (List.append_nil _).symm, .nil⟩,
    List.forall_mem_nil _, fun _ => rfl⟩
  reporting c r hSome := by
    rw [h.idle c] at hSome
    cases hSome
  served c := rfl
  handed d := ⟨_, [], (List.append_nil _).symm, (h.read d).symm, .nil⟩
  ordered := Replication.ordered_start

/-- A frame in which an entry is handed to a client is read as the entry. -/
theorem Sendable.handleFrame {entry : Entry} (h : base.Sendable entry) (subId k : Int) (env : Env)
    (client : StompClient) : StompClient.handleFrame env (some (bytesText
      (ConnectionsManager.messageFrame subId (Decimal.decimal k) ('/' :: Cpp.decoded entry.topic)
        (Java.relined
          (Cpp.decoded (ConstructEventFrame (base.userOf entry.sender) entry.item)))))) client =
    (.ok (), if base.userOf entry.sender = client.protocol.username then client
      else client.updated env entry.topic (base.userOf entry.sender) entry.item) := by
  have hRead := readAs_report h.faithful.game.1 h.faithful.fields subId k client
  obtain ⟨hUser, hEvent⟩ := (relayed_eq_self_iff h.faithful.fields.description.1).2
    ⟨h.faithful.colonFree, h.faithful.description⟩
  rw [hUser, keyOf_eq_self_iff.2 h.faithful.game.2, hEvent] at hRead
  exact hRead.handleFrame env

/-- No two clients are logged in under one name. -/
theorem Ready.userOf_inj (h : base.Ready) {c d : Int} (hFirst : base.connected c = true)
    (hSecond : base.connected d = true) (hSame : base.userOf c = base.userOf d) : c = d := by
  have hSessions := (Server.reachable_works (Server.reachable_of_live h.server)).sessions.database
  obtain ⟨user, hUser, hName⟩ := h.named c hFirst
  obtain ⟨other, hOther, hOtherName⟩ := h.named d hSecond
  obtain ⟨hMap, -, hCon⟩ := hSessions.bound c user hUser
  obtain ⟨hOtherMap, -, hOtherCon⟩ := hSessions.bound d other hOther
  rw [hName, hSame, ← hOtherName, hOtherMap] at hMap
  obtain rfl := Option.some.inj hMap
  exact hCon.symm.trans hOtherCon

theorem Refines.subscribed_eq (h : Refines envs base n s) (c : Int) (game : Text) :
    n.server.cManager.isSubscribed c ('/' :: Cpp.decoded game) = base.subscribed c game := by
  unfold Network.subscribed ConnectionsManager.isSubscribed
  rw [h.subManager]

theorem Refines.connected_eq (h : Refines envs base n s) (c : Int) :
    n.connected c = base.connected c := by
  cases hBase : base.connected c with
  | true => exact ((h.client c).online hBase).isConnected
  | false => exact (h.client c).offline hBase

theorem ClientRefines.of_board {c : Int} {written stored : List Entry} {client next : StompClient}
    (h : base.ClientRefines envs c written stored client) (hSame : next.board = client.board) :
    base.ClientRefines envs c written stored next := by
  obtain ⟨-, hProtocol, hGames⟩ := by simpa only [board, Prod.mk.injEq] using hSame
  simp only [StompProtocol.mk.injEq] at hProtocol
  obtain ⟨hCh, -, -, hConnected, -⟩ := hProtocol
  refine ⟨fun hBase => (h.online hBase).of_board hSame,
    fun hBase => hConnected.trans (h.offline hBase), ?_, h.held, fun game => ?_⟩
  · have hSent : next.sent = client.sent := by rw [StompClient.sent, StompClient.sent, hCh]
    exact hSent.symm ▸ h.sent
  · exact (congrFun hGames game).trans (h.games game)

/-- A client writes the frame of an entry. -/
theorem ClientRefines.written {c : Int} {written stored : List Entry} {client : StompClient}
    (h : base.ClientRefines envs c written stored client) (hOpen : client.protocol.ch.isSome)
    {entry : Entry} {frame : Text} (hSent : base.SentAs entry frame) :
    base.ClientRefines envs c (written ++ [entry]) stored (client.wrote frame) := by
  obtain ⟨frames, hFrames, hMatch⟩ := h.sent
  refine ⟨fun hBase => (h.online hBase).wrote frame, h.offline, ⟨frames ++ [frame], ?_, ?_⟩, h.held,
    h.games⟩
  · rw [wrote_sent hOpen, hFrames, List.append_assoc]
  · exact List.rel_append hMatch (.cons hSent .nil)

/-- A client stores the event of an entry. -/
theorem ClientRefines.stored {c : Int} {written stored : List Entry} {client : StompClient}
    (h : base.ClientRefines envs c written stored client) {entry : Entry}
    (hSendable : base.Sendable entry) : base.ClientRefines envs c written (stored ++ [entry])
      (client.updated (envs c) entry.topic (base.userOf entry.sender) entry.item) := by
  refine ⟨fun hBase => (h.online hBase).updated _ _ _ _, h.offline, h.sent,
    List.forall_mem_append.2 ⟨h.held, List.forall_mem_singleton.2 hSendable⟩, fun game => ?_⟩
  rw [gameOf_updated, h.games, callsOn, callsOn, List.filter_append, List.map_append,
    Game.addUpdates, Game.addUpdates, List.foldl_append]
  by_cases hTopic : entry.topic = game <;> simp [hTopic]

/-- The main thread of a client has done something that touches no game and sends nothing. -/
theorem Refines.of_board (h : Refines envs base n s) {c : Int} {client : StompClient}
    {next : Option Reporting} (hSame : client.board = (n.clients c).board)
    (hNext : ∀ r ∈ next, (∀ path ∈ r.filePath, OneLine path) ∧
      ∀ e ∈ r.events, base.Sendable ⟨c, r.game, e⟩) :
    Refines envs base { n with
      clients := Function.update n.clients c client
      reporting := Function.update n.reporting c next } s :=
  { h with
    client := (Function.forall_update_iff n.clients
      (fun d client => base.ClientRefines envs d (s.written d) (s.stored d) client)).2
        ⟨(h.client c).of_board hSame, fun d _ => h.client d⟩
    reporting := (Function.forall_update_iff n.reporting fun d (next : Option Reporting) =>
      ∀ r ∈ next, (∀ path ∈ r.filePath, OneLine path) ∧
        ∀ e ∈ r.events, base.Sendable ⟨d, r.game, e⟩).2 ⟨hNext, fun d _ => h.reporting d⟩ }

/-- The same of a body that the main thread runs. -/
theorem Refines.advance (h : Refines envs base n s) {c : Int}
    {body : Imperative.Method Cpp.CppException StompClient (Option Reporting)}
    (hBody : Imperative.Method.Leaves board body)
    (hNext : ∀ next, (body (n.clients c)).1 = .ok next → ∀ r ∈ next,
      (∀ path ∈ r.filePath, OneLine path) ∧ ∀ e ∈ r.events, base.Sendable ⟨c, r.game, e⟩) :
    Refines envs base (n.advance c body) s := by
  have hSame := hBody (n.clients c)
  unfold Network.advance
  rcases hRun : body (n.clients c) with ⟨e | next, client⟩ <;> rw [hRun] at hSame hNext
  · refine h.of_board ?_ (by simp)
    cases e <;> exact hSame
  · exact h.of_board hSame (hNext next rfl)

theorem Refines.report (h : Refines envs base n s) {c : Int} {filePath : Text}
    (hConnected : n.connected c = true) (hAdmissible : Admissible envs n (.report c filePath)) :
    Refines envs base (n.advance c (do
      let r ← startReport (envs c) filePath
      pure (some r))) s := by
  have hUser : n.userOf c = base.userOf c :=
    ((h.client c).online (h.connected_eq c ▸ hConnected)).username
  cases hParse : (envs c).parseEventsFile filePath with
  | error e =>
      refine h.advance ?_ ?_ <;> simp [startReport, hParse, Imperative.Method.Leaves]
  | ok data =>
      obtain ⟨hSub, hPath, hEvents⟩ := hAdmissible data hParse
      refine h.advance ?_ ?_
      · simp [startReport, hParse, Imperative.Method.Leaves]
      · simp only [startReport, hParse]
        rintro _ ⟨⟩ r ⟨⟩
        refine ⟨by simpa using hPath, fun e hMem => ⟨h.connected_eq c ▸ hConnected, ?_, ?_⟩⟩
        · exact (h.subscribed_eq c _).symm.trans hSub
        · exact hUser ▸ hEvents e hMem

/-- One event of a report: the client writes an entry. -/
theorem Refines.turn (h : Refines envs base n s) {c : Int} {game : Text} {filePath : Option Text}
    {e : Client.Event} {rest : List Client.Event}
    (hReporting : n.reporting c = some ⟨game, filePath, e :: rest⟩) :
    Refines envs base (n.advance c (StompClient.turn (envs c) ⟨game, filePath, e :: rest⟩))
      (s.write c game e) := by
  obtain ⟨hPath, hEvents⟩ := h.reporting c _ hReporting
  have hSendable := hEvents e List.mem_cons_self
  have hOnline := (h.client c).online hSendable.connected
  let entry : Entry := ⟨c, game, e⟩
  have hSent : base.SentAs entry (reportFrame game filePath (base.userOf c) e) :=
    ⟨hSendable, filePath, hPath, rfl⟩
  have hClient := ((h.client c).written hOnline.session.connected hSent).stored hSendable
  have hStep : n.advance c (StompClient.turn (envs c) ⟨game, filePath, e :: rest⟩) = { n with
      clients := Function.update n.clients c
        (((n.clients c).wrote (reportFrame game filePath (base.userOf c) e)).updated (envs c) game
          (base.userOf c) e)
      reporting := Function.update n.reporting c (some ⟨game, none, rest⟩) } := by
    rw [Network.advance, hOnline.turn_apply]
  rw [hStep]
  exact
    { server := h.server
      subManager := h.subManager
      client := by
        refine (Function.forall_update_iff n.clients fun d client => base.ClientRefines envs d
          ((s.write c game e).written d) ((s.write c game e).stored d) client).2 ⟨?_, ?_⟩
        · simp only [Replication.State.write, Function.update_self]
          exact hClient
        · intro d hOther
          simp only [Replication.State.write, Function.update_of_ne hOther]
          exact h.client d
      reporting := by
        refine (Function.forall_update_iff n.reporting fun d (next : Option Reporting) =>
          ∀ r ∈ next, (∀ path ∈ r.filePath, OneLine path) ∧
            ∀ e ∈ r.events, base.Sendable ⟨d, r.game, e⟩).2 ⟨?_, fun d _ => h.reporting d⟩
        rintro r ⟨⟩
        exact ⟨by simp, fun e hMem => hEvents e (List.mem_cons_of_mem _ hMem)⟩
      served := h.served
      handed := h.handed
      ordered := h.ordered.write c game e }

theorem getElem?_forall₂ {α β : Type} {R : α → β → Prop} {items : List α} {others : List β}
    (h : List.Forall₂ R items others) {i : Nat} {b : β} (hSome : others[i]? = some b) :
    ∃ a, items[i]? = some a ∧ R a b := by
  obtain ⟨hLt, rfl⟩ := List.getElem?_eq_some_iff.1 hSome
  have hLength : i < items.length := h.length_eq ▸ hLt
  exact ⟨items[i], List.getElem?_eq_getElem hLength, h.get hLength hLt⟩

/-- The server handles a frame: it relays an entry. -/
theorem Refines.serve (hReady : base.Ready) (h : Refines envs base n s) {c : Int} {frame : Text}
    (hFrame : (n.clients c).sent[n.served c]? = some frame) :
    ∃ entry server, (s.written c)[s.relayed c]? = some entry ∧
      n.server.liveStep (.process c (Cpp.decoded frame)) = some server ∧
      Refines envs base { n with
        server := server
        served := Function.update n.served c (n.served c + 1) }
        (s.relay base.subscribed c entry) := by
  obtain ⟨frames, hSent, hMatch⟩ := (h.client c).sent
  rw [hSent, h.served c, hReady.served c, List.getElem?_append_right (Nat.le_add_right _ _),
    Nat.add_sub_cancel_left] at hFrame
  obtain ⟨entry, hEntry, hSendable, filePath, hPath, rfl⟩ := getElem?_forall₂ hMatch hFrame
  obtain rfl : entry.sender = c := h.ordered.sender c entry (List.mem_of_getElem? hEntry)
  have hSub := (h.subscribed_eq entry.sender entry.topic).trans hSendable.subscribed
  obtain ⟨-, hAccepted, hServed⟩ := Server.subscribed_live h.server hSub
  obtain ⟨db, hProcess⟩ := Server.process_report h.server hSub hSendable.faithful.game.1 hPath
    hSendable.faithful.fields
  have hStep : n.server.liveStep (.process entry.sender (Cpp.decoded (reportFrame entry.topic filePath
      (base.userOf entry.sender) entry.item))) =
        some (n.server.broadcasted db ('/' :: Cpp.decoded entry.topic) (Java.relined
          (Cpp.decoded (ConstructEventFrame (base.userOf entry.sender) entry.item)))) := by
    simp [Server.liveStep, Server.step, hServed, hAccepted, hProcess]
  refine ⟨entry, _, hEntry, hStep, ?_⟩
  exact
    { server := h.server.next hStep
      subManager := h.subManager
      client := h.client
      reporting := h.reporting
      served := by
        refine (Function.forall_update_iff n.served fun d served =>
          served = base.served d + (s.relay base.subscribed entry.sender entry).relayed d).2 ⟨?_, ?_⟩
        · simp only [Replication.State.relay, Function.update_self, h.served, Nat.add_assoc]
        · intro d hOther
          simp only [Replication.State.relay, Function.update_of_ne hOther, h.served]
      handed := by
        intro d
        obtain ⟨done, frames, hHanded, hRead, hInbox⟩ := h.handed d
        have hMore := Server.handedTo_broadcasted_of_subscribed h.server db
          ('/' :: Cpp.decoded entry.topic) (Java.relined
            (Cpp.decoded (ConstructEventFrame (base.userOf entry.sender) entry.item))) d
        rw [h.subscribed_eq d entry.topic] at hMore
        simp only [Replication.State.relay]
        split at hMore
        · rename_i hReader
          obtain ⟨subId, hMore⟩ := hMore
          rw [if_pos hReader]
          rw [hHanded, List.append_assoc] at hMore
          exact ⟨done, frames ++ [_], hMore, hRead,
            List.rel_append hInbox (.cons ⟨hSendable, subId, _, rfl⟩ .nil)⟩
        · rename_i hReader
          rw [if_neg hReader]
          exact ⟨done, frames, hMore.trans hHanded, hRead, hInbox⟩
      ordered := h.ordered.relay hEntry }

/-- A client handles a frame: it reads an entry. -/
theorem Refines.receive (hReady : base.Ready) (h : Refines envs base n s) {d : Int}
    (hConnected : n.connected d = true) {frame : Text}
    (hFrame : (n.server.handedTo d)[n.read d]? = some frame) :
    ∃ entry rest, s.inbox d = entry :: rest ∧ Refines envs base { n with
        clients := Function.update n.clients d
          (handleFrame (envs d) (some (bytesText frame)) (n.clients d)).2
        read := Function.update n.read d (n.read d + 1) } (s.read d entry rest) := by
  obtain ⟨done, frames, hHanded, hRead, hInbox⟩ := h.handed d
  rw [hHanded, ← hRead, List.getElem?_append_right (Nat.le_refl _), Nat.sub_self] at hFrame
  cases frames with
  | nil => cases hFrame
  | cons first frames =>
      obtain rfl := Option.some.inj hFrame
      cases hBox : s.inbox d with
      | nil =>
          rw [hBox] at hInbox
          cases hInbox
      | cons entry rest =>
          rw [hBox] at hInbox
          obtain ⟨⟨hSendable, subId, n', rfl⟩, hRest⟩ := List.forall₂_cons.1 hInbox
          have hHandle := hSendable.handleFrame subId n' (envs d) (n.clients d)
          have hOnline := (h.client d).online (h.connected_eq d ▸ hConnected)
          have hOwn : base.userOf entry.sender = (n.clients d).protocol.username ↔
              entry.sender = d := by
            rw [hOnline.username]
            refine ⟨fun hSame => ?_, fun hSame => by rw [hSame]⟩
            exact hReady.userOf_inj hSendable.connected (h.connected_eq d ▸ hConnected) hSame
          simp only [hOwn] at hHandle
          refine ⟨entry, rest, rfl, ?_⟩
          rw [hHandle]
          exact
            { server := h.server
              subManager := h.subManager
              client := by
                refine (Function.forall_update_iff n.clients fun c client => base.ClientRefines envs c
                  ((s.read d entry rest).written c) ((s.read d entry rest).stored c) client).2
                    ⟨?_, ?_⟩
                · simp only [Replication.State.read, Function.update_self]
                  split
                  · exact h.client d
                  · exact (h.client d).stored hSendable
                · intro c hOther
                  simp only [Replication.State.read, Function.update_of_ne hOther]
                  exact h.client c
              reporting := h.reporting
              served := h.served
              handed := by
                intro c
                by_cases hOther : c = d
                · subst hOther
                  simp only [Replication.State.read, Function.update_self]
                  exact ⟨done ++ [_], frames, by rw [hHanded, List.append_assoc]; rfl,
                    by rw [List.length_append, hRead]; rfl, hRest⟩
                · simp only [Replication.State.read, Function.update_of_ne hOther]
                  exact h.handed c
              ordered := h.ordered.read hBox }

/-- Whatever a network that was ready does is replication. -/
theorem simulation (hReady : base.Ready) : Transition.Simulation (step envs)
    (Replication.step base.subscribed) (Admissible envs) (Refines envs base) := by
  intro n event n' s h hAdmissible hStep
  cases event with
  | report c filePath =>
      simp only [step] at hStep
      split at hStep
      · rename_i hFree
        cases hStep
        exact ⟨s, h.report (Bool.and_eq_true _ _ ▸ hFree).1 hAdmissible, Or.inl rfl⟩
      · cases hStep
  | summary c game user filePath =>
      simp only [step] at hStep
      split at hStep
      · cases hStep
        refine ⟨s, h.advance ((leaves_board_summary _ _ _ _ _ _).bind fun _ => ?_) ?_, Or.inl rfl⟩
        · exact Imperative.Method.leaves_pure _
        · intro next hOk r hMem
          rw [Imperative.Method.bind_apply] at hOk
          split at hOk
          · cases hOk
            cases hMem
          · cases hOk
      · cases hStep
  | turn c =>
      simp only [step] at hStep
      split at hStep
      · rename_i r hReporting
        cases hStep
        obtain ⟨game, filePath, events⟩ := r
        cases events with
        | nil =>
            refine ⟨s, h.advance (fun _ => rfl) ?_, Or.inl rfl⟩
            rintro _ ⟨⟩ r ⟨⟩
        | cons e rest => exact ⟨_, h.turn hReporting, Or.inr ⟨.write c game e, rfl⟩⟩
      · cases hStep
  | serve c =>
      simp only [step] at hStep
      split at hStep
      · rename_i frame hFrame
        obtain ⟨entry, server, hEntry, hServer, hNext⟩ := h.serve hReady hFrame
        rw [hServer, Option.map_some] at hStep
        cases hStep
        refine ⟨_, hNext, Or.inr ⟨.relay c, ?_⟩⟩
        simp only [Replication.step, hEntry]
      · cases hStep
  | receive d =>
      simp only [step] at hStep
      split at hStep
      · rename_i hConnected
        split at hStep
        · rename_i frame hFrame
          cases hStep
          obtain ⟨entry, rest, hBox, hNext⟩ := h.receive hReady hConnected hFrame
          refine ⟨_, hNext, Or.inr ⟨.read d, ?_⟩⟩
          simp only [Replication.step, hBox]
        · cases hStep
      · cases hStep

end

/-- What a client shows of a user on a game. -/
def view (n : Network) (d : Int) (game user : Text) : Observed :=
  (gameOf (n.clients d).protocol game).observed user

section
variable {envs : Int → Env} {base n : Network} {s : Replication.State Int Text Client.Event}

/-- The calls for one client are its entries. -/
theorem ClientRefines.calls_eq (hReady : base.Ready) {written stored : List Entry}
    {client : StompClient} {c d : Int} (h : base.ClientRefines envs d written stored client)
    (hConnected : base.connected c = true) (game : Text) :
    ((base.callsOn game stored).filter fun call => call.1 = base.userOf c) =
      (Replication.of c game stored).map fun entry => (base.userOf c, entry.item) := by
  rw [callsOn, List.filter_map, List.filter_filter, Replication.of]
  have hSender : ∀ entry ∈ stored, (base.userOf entry.sender = base.userOf c ∧ entry.topic = game) ↔
      entry.sender = c ∧ entry.topic = game := by
    intro entry hMem
    refine and_congr_left fun _ => ⟨fun hSame => ?_, fun hSame => by rw [hSame]⟩
    exact hReady.userOf_inj (h.held entry hMem).connected hConnected hSame
  have hFilter : (stored.filter fun entry =>
      decide (base.userOf entry.sender = base.userOf c) && decide (entry.topic = game)) =
        stored.filter fun entry => decide (entry.sender = c ∧ entry.topic = game) := by
    refine List.filter_congr fun entry hMem => ?_
    rw [← Bool.decide_and, decide_eq_decide]
    exact hSender entry hMem
  refine (congrArg _ hFilter).trans (List.map_congr_left fun entry hMem => ?_)
  have hOwn : entry.sender = c := (of_decide_eq_true (List.mem_filter.1 hMem).2).1
  rw [hOwn]

/-- What a client shows of another comes from the entries of that one. -/
theorem Refines.view_eq (hReady : base.Ready) (h : Refines envs base n s)
    (hSort : ∀ c d, (envs c).sort = (envs d).sort) {c d : Int} (hConnected : base.connected c = true)
    {game : Text} (hSame : base.view d game (base.userOf c) = base.view c game (base.userOf c)) :
    n.view d game (base.userOf c) = ((gameOf (base.clients c).protocol game).addUpdates (envs c).sort
      ((Replication.of c game (s.stored d)).map fun entry => (base.userOf c, entry.item))).observed
        (base.userOf c) := by
  rw [view, (h.client d).games game, hSort d c, observed_addUpdates _ hSame,
    (h.client d).calls_eq hReady hConnected game]

/-- The server can handle everything a client has sent. -/
theorem Refines.serve_all (hReady : base.Ready) (h : Refines envs base n s) (c : Int) :
    ∃ k n' s', Transition.run (step envs) n (List.replicate k (.serve c)) = some n' ∧
      Refines envs base n' s' ∧ s'.relayed c = (s'.written c).length ∧ s'.written = s.written := by
  induction hLeft : (s.written c).length - s.relayed c generalizing n s with
  | zero =>
      exact ⟨0, n, s, rfl, h, Nat.le_antisymm (h.ordered.relayed c) (Nat.sub_eq_zero_iff_le.1 hLeft),
        rfl⟩
  | succ left ih =>
      obtain ⟨frames, hSent, hMatch⟩ := (h.client c).sent
      have hLt : s.relayed c < frames.length := hMatch.length_eq ▸ by omega
      have hFrame : (n.clients c).sent[n.served c]? = some frames[s.relayed c] := by
        rw [hSent, h.served c, hReady.served c, List.getElem?_append_right (Nat.le_add_right _ _),
          Nat.add_sub_cancel_left, List.getElem?_eq_getElem hLt]
      obtain ⟨entry, server, hEntry, hServer, hNext⟩ := h.serve hReady hFrame
      have hStep : step envs n (.serve c) = some { n with
          server := server
          served := Function.update n.served c (n.served c + 1) } := by
        simp only [step, hFrame, hServer, Option.map_some]
      have hRelayed : (s.relay base.subscribed c entry).relayed c = s.relayed c + 1 :=
        Function.update_self ..
      obtain ⟨k, n', s', hRun, hRefines, hAll, hWritten⟩ := ih hNext (by
        rw [hRelayed]
        exact Nat.sub_eq_of_eq_add (by simp only [Replication.State.relay]; omega))
      exact ⟨k + 1, n', s', Transition.run_cons_eq_some.2 ⟨_, hStep, hRun⟩, hRefines, hAll, hWritten⟩

/-- A connected client can read everything it was handed. -/
theorem Refines.receive_all (hReady : base.Ready) (h : Refines envs base n s) {d : Int}
    (hConnected : base.connected d = true) :
    ∃ k n' s', Transition.run (step envs) n (List.replicate k (.receive d)) = some n' ∧
      Refines envs base n' s' ∧ s'.inbox d = [] ∧ s'.written = s.written ∧ s'.relayed = s.relayed := by
  induction hBox : s.inbox d generalizing n s with
  | nil => exact ⟨0, n, s, rfl, h, hBox, rfl, rfl⟩
  | cons entry rest ih =>
      obtain ⟨done, frames, hHanded, hRead, hInbox⟩ := h.handed d
      rw [hBox] at hInbox
      obtain ⟨frame, frames', -, -, rfl⟩ := List.forall₂_cons_left_iff.1 hInbox
      have hFrame : (n.server.handedTo d)[n.read d]? = some frame := by
        rw [hHanded, ← hRead, List.getElem?_append_right (Nat.le_refl _), Nat.sub_self]
        rfl
      have hOnline : n.connected d = true := (h.connected_eq d).trans hConnected
      obtain ⟨entry', rest', hBox', hNext⟩ := h.receive hReady hOnline hFrame
      obtain ⟨rfl, rfl⟩ := List.cons.inj (hBox.symm.trans hBox')
      have hStep : step envs n (.receive d) = some { n with
          clients := Function.update n.clients d
            (handleFrame (envs d) (some (bytesText frame)) (n.clients d)).2
          read := Function.update n.read d (n.read d + 1) } := by
        simp only [step, hFrame]
        exact if_pos hOnline
      obtain ⟨k, n', s', hRun, hRefines, hAll, hWritten, hRelayed⟩ :=
        ih hNext (Function.update_self ..)
      exact ⟨k + 1, n', s', Transition.run_cons_eq_some.2 ⟨_, hStep, hRun⟩, hRefines, hAll, hWritten,
        hRelayed⟩

theorem Refines.served_iff (hReady : base.Ready) (h : Refines envs base n s) (c : Int) :
    n.served c = (n.clients c).sent.length ↔ s.relayed c = (s.written c).length := by
  obtain ⟨frames, hSent, hMatch⟩ := (h.client c).sent
  rw [h.served c, hReady.served c, hSent, List.length_append, hMatch.length_eq]
  exact Nat.add_left_cancel_iff

theorem Refines.read_iff (h : Refines envs base n s) (d : Int) :
    n.read d = (n.server.handedTo d).length ↔ s.inbox d = [] := by
  obtain ⟨done, frames, hHanded, hRead, hInbox⟩ := h.handed d
  rw [hHanded, List.length_append, hRead, ← List.length_eq_zero_iff, hInbox.length_eq]
  omega

/-- All that one client sent can be handled, and read by another. -/
theorem Refines.settle (hReady : base.Ready) (h : Refines envs base n s) (c : Int) {d : Int}
    (hReader : base.connected d = true) : ∃ serves receives later t,
      Transition.run (step envs) n
        (List.replicate serves (.serve c) ++ List.replicate receives (.receive d)) = some later ∧
      Refines envs base later t ∧ t.relayed c = (t.written c).length ∧ t.inbox d = [] ∧
      t.written = s.written := by
  obtain ⟨serves, served, t, hServes, hServed, hAll, hWritten⟩ := h.serve_all hReady c
  obtain ⟨receives, later, u, hReceives, hLater, hInbox, hWritten', hRelayed⟩ :=
    hServed.receive_all hReady hReader
  exact ⟨serves, receives, later, u, Transition.run_append_eq_some.2 ⟨served, hServes, hReceives⟩,
    hLater, by rw [hRelayed, hWritten', hAll], hInbox, hWritten'.trans hWritten⟩

end

end Network
end StompGames
