import StompGames.Network.EventRelay

/-! A report that is sent to the channel of its game: what the server does with it, what it
hands to each subscriber, and what a subscriber reads. -/
namespace StompGames

open Client Imperative StompClient
open Cpp (CppException)

namespace Server
variable {s : Server} {c d : Int} {channel body : Text}

/-- What one broadcast hands to one connection. -/
theorem handedTo_broadcasted (h : Transition.Reachable StartedWorking liveStep s) (db : Database)
    (channel body : Text) (d : Int) :
    (s.broadcasted db channel body).handedTo d = s.handedTo d ++
      ((s.cManager.subManager.ofChannel channel).filter fun sub => sub.conId = d).map fun sub =>
        ConnectionsManager.messageFrame sub.subId
          (Decimal.decimal (atomicInteger (s.cManager.idGen + 1))) channel body := by
  have hReach := reachable_of_live h
  have hIndexed := reachable_indexed (reachable_started hReach)
  have hFrames : s.cManager.broadcastFrames channel body =
      (s.cManager.subManager.ofChannel channel).map fun sub => (⟨sub.conId⟩,
        ConnectionsManager.messageFrame sub.subId
          (Decimal.decimal (atomicInteger (s.cManager.idGen + 1))) channel body) := by
    rw [ConnectionsManager.broadcastFrames, ← List.filterMap_eq_map]
    apply List.filterMap_congr
    intro sub hMem
    have hOwner := ((hIndexed.indexes.mem_key_iff channel sub).1 hMem).2
    rw [(subscriber_live (reachable_works hReach) (reachable_live h)
      (List.ne_nil_of_mem hOwner)).1]
    rfl
  unfold handedTo broadcasted
  rw [hFrames, List.filter_append, List.map_append, List.filter_map, List.map_map]
  rfl

/-- A subscriber is handed one frame, and nobody else any. -/
theorem handedTo_broadcasted_of_subscribed (h : Transition.Reachable StartedWorking liveStep s)
    (db : Database) (channel body : Text) (d : Int) :
    if s.cManager.isSubscribed d channel = true then ∃ subId,
      (s.broadcasted db channel body).handedTo d = s.handedTo d ++
        [ConnectionsManager.messageFrame subId
          (Decimal.decimal (atomicInteger (s.cManager.idGen + 1))) channel body]
    else (s.broadcasted db channel body).handedTo d = s.handedTo d := by
  have hIndexed := reachable_indexed (reachable_started (reachable_of_live h))
  have hHanded := handedTo_broadcasted h db channel body d
  split
  · rename_i hSub
    obtain ⟨sub, hListed, hChannel⟩ := (isSubscribed_iff hIndexed d channel).1 hSub
    rw [(ofChannel_filter hIndexed).1 sub hListed hChannel] at hHanded
    exact ⟨sub.subId, hHanded⟩
  · rename_i hSub
    have hNone : ∀ sub ∈ s.cManager.subManager.ofConnection d, sub.channel ≠ channel :=
      fun sub hListed hChannel => hSub ((isSubscribed_iff hIndexed d channel).2 ⟨sub, hListed, hChannel⟩)
    rwa [(ofChannel_filter hIndexed).2 hNone, List.map_nil, List.append_nil] at hHanded

theorem subscribed_live (h : Transition.Reachable StartedWorking liveStep s)
    (hSub : s.cManager.isSubscribed c channel = true) :
    s.LoggedIn c ∧ s.accepted c = true ∧ (s.protocols c).shouldTerminate = false := by
  have hReach := reachable_of_live h
  obtain ⟨sub, hListed, -⟩ :=
    (isSubscribed_iff (reachable_indexed (reachable_started hReach)) c channel).1 hSub
  obtain ⟨hHandler, hLogged⟩ := subscriber_live (reachable_works hReach) (reachable_live h)
    (List.ne_nil_of_mem hListed)
  rw [(reachable_live h).handlers.handler c] at hHandler
  refine ⟨hLogged, ?_⟩
  by_contra hNot
  rw [if_neg hNot] at hHandler
  cases hHandler

end Server

section
variable {s : Server} {c : Int} {username game : Text} {e : Client.Event} {filePath : Option Text}

/-- The server carries out a report of a subscriber: nothing but the broadcast happens. -/
theorem Server.process_report (h : Transition.Reachable Server.StartedWorking Server.liveStep s)
    (hSub : s.cManager.isSubscribed c ('/' :: Cpp.decoded game) = true) (hGame : OneLine game)
    (hFile : ∀ path ∈ filePath, OneLine path) (hFields : OneLineFields username e) :
    ∃ db, Server.process c (Cpp.decoded (reportFrame game filePath username e)) s =
      (.ok (), s.broadcasted db ('/' :: Cpp.decoded game)
        (Java.relined (Cpp.decoded (ConstructEventFrame username e)))) := by
  generalize hBody : Java.relined (Cpp.decoded (ConstructEventFrame username e)) = body
  have hParse := parseFrame_reportFrame hGame hFile hFields
  rw [hBody] at hParse
  obtain ⟨hDest, hReceipt⟩ :=
    reportHeaders_values (Cpp.decoded game) (filePath.map Cpp.decoded)
  have hWorks := Server.reachable_works (Server.reachable_of_live h)
  obtain ⟨db, hSend⟩ := Server.solveSend_apply hDest hSub (Or.inr (hWorks.sqlWorks 0)) body
  refine ⟨db, ?_⟩
  generalize Server.headersOf (reportHeaders (Cpp.decoded game) (filePath.map Cpp.decoded)) =
    headers at hParse hReceipt hSend
  have hDispatch : Server.dispatch c "SEND".toList headers body s = (do
        Server.conCheck c
        Server.solveSend c headers body
        Server.answerReceipt c headers : Method JavaException Server Unit) s := rfl
  rw [Server.process_eq hParse, hDispatch]
  simp only [Method.bind_apply, Server.conCheck_apply, if_pos (Server.subscribed_live h hSub).1,
    hSend, Server.answerReceipt_apply, hReceipt]

end

namespace StompClient

/-- What a client takes out of the text of a `MESSAGE` frame that it has read. -/
structure ReadAs (text sender game : Text) (e : Client.Event) (s : StompClient) : Prop where
  kind : (Cpp.substr text 0 (Cpp.findFrom '\n' 0 text) : Method CppException StompClient Text) s =
    (.ok "MESSAGE".toList, s)
  sender : (do fieldOf (← Cpp.index (Cpp.getLines text) 5) :
    Method CppException StompClient Text) s = (.ok sender, s)
  game : (do fieldOf (← Cpp.index (Cpp.getLines text) 3) :
    Method CppException StompClient Text) s = (.ok game, s)
  event : parseToEvent (Cpp.getLines text) s = (.ok e, s)

section
variable {username game : Text} {e : Client.Event}

theorem zero_not_mem_relined (hFields : OneLineFields username e) :
    '\x00' ∉ Java.relined (Cpp.decoded (ConstructEventFrame username e)) := by
  intro hZero
  obtain hBreak | ⟨line, hLine, hChar⟩ := mem_intercalate hZero
  · exact absurd hBreak (by decide)
  · have hPiece := (List.rdropWhile_prefix _ _).subset hLine
    have hMem := (Java.mem_lineBreakPieces hPiece (List.forall_mem_nil _) _ hChar).2
    exact hFields.zero_not_mem_body (hMem.resolve_left List.not_mem_nil)

/-- The frame that a report becomes, read by any client from its bytes. -/
theorem readAs_report (hGame : OneLine game) (hFields : OneLineFields username e)
    (subId n : Int) (s : StompClient) :
    ReadAs (bytesText (ConnectionsManager.messageFrame subId (Decimal.decimal n)
      ('/' :: Cpp.decoded game) (Java.relined (Cpp.decoded (ConstructEventFrame username e)))))
        (keyOf username) (keyOf game) (relayed e) s := by
  have hSlash : SingleLine ['/'] := .of_all (by decide)
  have hChannel : SingleLine ('/' :: Cpp.decoded game) := hSlash.append hGame.2
  have hBytes : Cpp.utf8 ('/' :: Cpp.decoded game) = '/' :: game := by
    rw [Cpp.utf8_cons, Cpp.utf8_singleton (by decide), hGame.1]
    rfl
  have hTopic : '\n' ∉ '/' :: game :=
    List.not_mem_cons_of_ne_of_not_mem (by decide) hGame.newline_not_mem
  have hText := bytesText_messageFrame hChannel.zero_not_mem (zero_not_mem_relined hFields) subId n
  rw [hBytes] at hText
  have hId : '\n' ∉ Decimal.decimal n := (SingleLine.of_decimal n).newline_not_mem
  have hLines := getLines_messageText hId hTopic subId
    (Cpp.utf8 (Java.relined (Cpp.decoded (ConstructEventFrame username e))))
  rw [getLines_relined hFields] at hLines
  constructor
  · rw [hText]
    rfl
  all_goals rw [hText, hLines]
  · exact fieldOf_eq_ok_iff.2 ⟨rfl, hasField_line (by decide : ':' ∉ "user".toList) username,
      (valueOf_line (by decide : ':' ∉ "user".toList) username).symm⟩
  · exact fieldOf_eq_ok_iff.2 ⟨rfl, destination_field game,
      (valueOf_field (by decide : ':' ∉ "destination".toList) '/' game).symm⟩
  · exact parseToEvent_eq_ok_iff.2 ⟨rfl, reports_relayedLines hFields⟩

theorem ReadAs.unique {text sender sender' game game' : Text} {e e' : Client.Event} {s : StompClient}
    (h : ReadAs text sender game e s) (h' : ReadAs text sender' game' e' s) :
    sender = sender' ∧ game = game' ∧ e = e' :=
  ⟨Except.ok.inj (congrArg Prod.fst (h.sender.symm.trans h'.sender)),
    Except.ok.inj (congrArg Prod.fst (h.game.symm.trans h'.game)),
    Except.ok.inj (congrArg Prod.fst (h.event.symm.trans h'.event))⟩

/-- What the listening thread does with such a frame. -/
theorem ReadAs.handleFrame {text sender : Text} {s : StompClient} (h : ReadAs text sender game e s)
    (env : Env) : handleFrame env (some text) s =
      (.ok (), if sender = s.protocol.username then s
        else (addUpdate env game sender e s).2) := by
  have hOther : "MESSAGE".toList ≠ "ERROR".toList ∧ "MESSAGE".toList ≠ "CONNECTED".toList ∧
      "MESSAGE".toList ≠ "RECEIPT".toList := by decide
  obtain ⟨line, t, hLine, hSender⟩ := Method.bind_eq_ok_iff.1 h.sender
  obtain rfl : t = s := (Cpp.index_eq_ok_iff.1 hLine).1
  obtain ⟨gameLine, t', hGameLine, hGame⟩ := Method.bind_eq_ok_iff.1 h.game
  obtain rfl : t' = t := (Cpp.index_eq_ok_iff.1 hGameLine).1
  have hParse : parseResponse env (some text) t' =
      (.ok (), if sender = t'.protocol.username then t'
        else (addUpdate env game sender e t').2) := by
    simp only [parseResponse, Method.bind_apply, h.kind, if_neg hOther.1, if_neg hOther.2.1,
      if_neg hOther.2.2, if_true, hLine, hSender, Method.get_apply, Method.ite_apply, hGameLine,
      hGame, h.event]
    by_cases hOwn : sender = t'.protocol.username
    · rw [if_pos hOwn, if_neg (not_not_intro hOwn), Method.pure_apply]
    · rw [if_neg hOwn, if_pos hOwn]
      rfl
  simp only [StompClient.handleFrame, catching, Method.tryCatch_apply, hParse]

end

theorem goal_oneLine {description : Text} (h : Cpp.IsUtf8 description ∧ '\x00' ∉ description) :
    OneLineFields "meni".toList (goal description) := by
  have hNames : ∀ name ∈ [scored.teamAName, scored.teamBName, scored.name],
      name.all (·.toNat < 0x80) ∧
        name.all (fun c => !Java.isLineBreak c && c != '\x00') = true := by decide
  have hName : ∀ name ∈ [scored.teamAName, scored.teamBName, scored.name], OneLine name :=
    fun name hMem => .literal (hNames name hMem).1 (hNames name hMem).2
  have hUpdates : ∀ updates ∈ [scored.gameUpdates, scored.teamAUpdates, scored.teamBUpdates],
      ∀ entry ∈ updates.entries,
        (∀ text ∈ [entry.1, entry.2], text.all (·.toNat < 0x80) ∧
          text.all (fun c => !Java.isLineBreak c && c != '\x00') = true) ∧ ':' ∉ entry.1 := by
    decide +kernel
  refine ⟨.literal (by decide) (by decide), hName scored.teamAName (by simp),
    hName scored.teamBName (by simp), hName scored.name (by simp),
    (goal_singleLine description).time, ?_, h⟩
  intro updates hMem entry hEntry
  obtain ⟨hTexts, hColon⟩ := hUpdates updates hMem entry hEntry
  have hText : ∀ text ∈ [entry.1, entry.2], OneLine text :=
    fun text hText => .literal (hTexts text hText).1 (hTexts text hText).2
  exact ⟨hText _ (by simp), hText _ (by simp), hColon⟩

end StompClient
end StompGames
