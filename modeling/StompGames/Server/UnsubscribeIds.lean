import StompGames.Server.Isolation
import StompGames.Server.RejectedFrames
import StompGames.Server.Requests

/-! What an `UNSUBSCRIBE` decides. It takes out the first subscription of its
connection with the id it names, and nothing keeps a connection from using an id twice. -/
namespace StompGames.Server

open Imperative Relation

/-- How many subscriptions were made so far. -/
def made (s : Server) : Nat := s.cManager.subManager.allocated

theorem sent_made (s : Server) (c : Int) (msg : Text) : (s.sent c msg).made = s.made := by
  unfold made Server.sent
  rw [ConnectionsManager.delivered_subManager]

/-- The count of subscriptions never goes down. -/
theorem Effect.made_le {c : Int} {s t : Server} (effect : Effect c s t) : s.made ≤ t.made := by
  cases effect with
  | send reply => exact (sent_made s c _).ge
  | subscribe loggedIn subId unsubscribed => exact Nat.le_succ _
  | _ => exact Nat.le_refl _

/-- Only a new subscription makes one. -/
theorem Effect.ofConnection_sublist {c : Int} {s t : Server} (hIndexed : s.Indexed)
    (effect : Effect c s t) (hMade : t.made = s.made) :
    (t.cManager.subManager.ofConnection c).Sublist (s.cManager.subManager.ofConnection c) := by
  cases effect with
  | send reply =>
      unfold Server.sent
      rw [ConnectionsManager.delivered_subManager]
  | subscribe loggedIn subId unsubscribed => exact absurd hMade (Nat.succ_ne_self _)
  | unsubscribe listed =>
      dsimp only
      rw [(SubscriptionManager.Consistent.removed_lists hIndexed _).2]
      exact List.filter_sublist
  | _ => exact .refl _

section
variable {c : Int} {s : Server}

theorem made_answerReceipt (headers : Headers) : (answerReceipt c headers s).2.made = s.made := by
  rw [answerReceipt_apply]
  split
  · rfl
  · split
    · rfl
    · exact sent_made s c _

theorem made_solveConnect (headers : Headers) : (solveConnect c headers s).2.made = s.made := by
  rcases hConnect : solveConnect c headers s with ⟨e | done, t⟩
  · obtain ⟨-, rfl⟩ | ⟨user, pass, -, -, rfl⟩ := solveConnect_error hConnect
    · rfl
    · rfl
  · obtain ⟨user, pass, hUser, hPass⟩ := solveConnect_headers (by rw [hConnect])
    obtain ⟨status, db, -, -, hRun⟩ := solveConnect_ok hUser hPass (by rw [hConnect])
    obtain ⟨-, rfl⟩ := Prod.mk.inj (hConnect.symm.trans hRun)
    exact sent_made _ c connectedFrame

theorem made_solveSend (headers : Headers) (body : Text) :
    (solveSend c headers body s).2.made = s.made := by
  obtain ⟨channel, db, -, -, -, hSend⟩ | ⟨e, db, hSend, -⟩ := solveSend_cases c headers body s
  · rw [hSend]
    rfl
  · rw [hSend]
    rfl

/-- A subscription that is removed is not made again. -/
theorem made_solveUnsubscribe (hIndexed : s.Indexed) (headers : Headers) :
    (solveUnsubscribe c headers s).2.made = s.made := by
  obtain ⟨e, hRun⟩ | ⟨id, subId, -, -, ⟨hRun, -⟩ | ⟨sub, -, -, hRun⟩⟩ :=
    solveUnsubscribe_cases hIndexed c headers
  · rw [hRun]
  · rw [hRun]
  · rw [hRun]
    rfl

end

/-- Reached from `start` by effects of connection `c` that make no subscription. -/
def Quietly (c : Int) (start s : Server) : Prop := Touched c start s ∧ s.made = start.made

section
variable {c : Int} {start : Server}

theorem quietly_answerReceipt (headers : Headers) :
    Method.Preserves (Quietly c start) (answerReceipt c headers) :=
  fun s hs => ⟨preserves_answerReceipt headers s hs.1, (made_answerReceipt headers).trans hs.2⟩

/-- A command behind `conCheck` makes nothing new if it does not by itself. -/
theorem quietly_checked {m : Method JavaException Server Unit}
    (h : Method.Preserves (Quietly c start) m) :
    Method.Preserves (Quietly c start) (do conCheck c; m) := by
  intro s hs
  rw [Method.bind_apply, conCheck_apply]
  by_cases hLogged : s.LoggedIn c
  · rw [if_pos hLogged]
    exact h s hs
  · rw [if_neg hLogged]
    exact hs

/-- Every command but two works without making a subscription. -/
theorem quietly_command {command : Text} (hSubscribe : command ≠ "SUBSCRIBE".toList)
    (hDisconnect : command ≠ "DISCONNECT".toList) (headers : Headers) (body : Text) :
    Method.Preserves (Quietly c start) (dispatch c command headers body) := by
  have hReceipt : ∀ _ : Unit, Method.Preserves (Quietly c start) (answerReceipt c headers) :=
    fun _ => quietly_answerReceipt headers
  unfold dispatch
  rw [if_neg hSubscribe, if_neg hDisconnect]
  split
  · apply Method.preserves_bind _ hReceipt
    exact fun s hs => ⟨preserves_solveConnect headers s hs.1, (made_solveConnect headers).trans hs.2⟩
  · split
    · apply quietly_checked
      apply Method.preserves_bind _ hReceipt
      exact fun s hs =>
        ⟨preserves_solveSend headers body s hs.1, (made_solveSend headers body).trans hs.2⟩
    · split
      · apply quietly_checked
        apply Method.preserves_bind _ hReceipt
        exact fun s hs => ⟨preserves_solveUnsubscribe headers s hs.1,
          (made_solveUnsubscribe hs.1.1 headers).trans hs.2⟩
      · exact Method.preserves_throw _

end

theorem Touched.made_le {c : Int} {s t : Server} (h : Touched c s t) : s.made ≤ t.made := by
  obtain ⟨-, hChain⟩ := h
  induction hChain with
  | refl => exact Nat.le_refl _
  | tail _ effect ih => exact ih.trans effect.made_le

/-- The proof rule for such work. -/
theorem Quietly.invariant {P : Server → Prop} {c : Int} {s t : Server}
    (hEffect : ∀ s t, s.Indexed → P s → Effect c s t → t.made = s.made → P t)
    (hIndexed : s.Indexed) (h : P s) (hQuiet : Quietly c s t) : P t := by
  obtain ⟨⟨-, hChain⟩, hMade⟩ := hQuiet
  have hAll : Touched c s t ∧ (t.made = s.made → P t) := by
    clear hMade
    induction hChain with
    | refl => exact ⟨⟨hIndexed, .refl⟩, fun _ => h⟩
    | @tail mid last _ effect ih =>
        obtain ⟨hMid, hKept⟩ := ih
        refine ⟨hMid.next effect, fun hMade => ?_⟩
        have hSame : mid.made = s.made :=
          Nat.le_antisymm (effect.made_le.trans hMade.le) hMid.made_le
        exact hEffect mid last hMid.1 (hKept hSame) effect (hMade.trans hSame.symm)
  exact hAll.2 hMade

/-- The same for whole frames, and for the teardown that may follow. -/
theorem process_quietly {P : Server → Prop} {c : Int} {s : Server} {message : Text}
    (hEffect : ∀ s t, s.Indexed → P s → Effect c s t → t.made = s.made → P t)
    (hDisconnect : ∀ s, s.Indexed → P s → P (handleDisconnect c s).2)
    (hIndexed : s.Indexed) (h : P s)
    (hOther : ∀ headers body, parseFrame message ≠ (headers, .ok ("SUBSCRIBE".toList, body))) :
    P (process c message s).2 := by
  have hStart : Quietly c s s := ⟨⟨hIndexed, .refl⟩, rfl⟩
  obtain ⟨mid, hMid, hClose⟩ : ∃ mid, Quietly c s mid ∧
      ReflTransGen (Closing c) mid (process c message s).2 := by
    apply process_work
    · intro headers command body hParse hCommand
      apply quietly_command _ hCommand headers body s hStart
      rintro rfl
      exact hOther headers body hParse
    · exact fun _ => ⟨hStart, fun headers => quietly_answerReceipt headers s hStart⟩
  have hEnd : ∀ last, ReflTransGen (Closing c) mid last → last.Indexed ∧ P last := by
    intro last hChain
    induction hChain with
    | refl => exact ⟨hMid.1.1, hMid.invariant hEffect hIndexed h⟩
    | @tail u v _ closing ih =>
        refine ⟨closing.indexed ih.1, ?_⟩
        cases closing with
        | send reply => exact hEffect u _ ih.1 ih.2 (.send reply) (sent_made u c _)
        | disconnect => exact hDisconnect u ih.1 ih.2
  exact (hEnd _ hClose).2

/-- The frame is the connection's, its id header is the number `k`, and it is
carried out without an `ERROR`. -/
def Accepts (s : Server) (c : Int) (command : Text) (k : Int) (message : Text) : Prop :=
  (attempt c message s).1 = .ok () ∧ ∃ headers body id,
    parseFrame message = (headers, .ok (command, body)) ∧ headers "id".toList = some id ∧
      Java.parseInt id = some k

/-- A frame that is carried out leaves what its work leaves. -/
theorem process_accepted {s : Server} {c : Int} {message : Text}
    (h : (attempt c message s).1 = .ok ()) : process c message s = attempt c message s := by
  rw [process, Method.tryCatch_apply]
  rcases hRun : attempt c message s with ⟨e | done, t⟩
  · rw [hRun] at h
    cases h
  · rfl

/-- Nothing that matters later but the frames handed out. -/
structure Answered (s t : Server) : Prop where
  db : t.db = s.db
  protocols : t.protocols = s.protocols
  subManager : t.cManager.subManager = s.cManager.subManager

/-- The receipt is all that is handed out. -/
theorem answerReceipt_answered (c : Int) (headers : Headers) (s : Server) :
    Answered s (answerReceipt c headers s).2 := by
  rw [answerReceipt_apply]
  split
  · exact ⟨rfl, rfl, rfl⟩
  · split
    · exact ⟨rfl, rfl, rfl⟩
    · exact ⟨rfl, rfl, ConnectionsManager.delivered_subManager ..⟩

section
variable {s : Server} {c k : Int} {message : Text}

/-- A command that begins with `conCheck` and ends with its receipt. -/
theorem accepted_cases (solve : Headers → Method JavaException Server Unit)
    {command body : Text} {headers : Headers} (hDispatch : dispatch c command headers body = (do
      conCheck c
      solve headers
      answerReceipt c headers)) (hOk : (attempt c message s).1 = .ok ())
    (hParse : parseFrame message = (headers, .ok (command, body))) :
    ∃ mid, s.LoggedIn c ∧ solve headers s = (.ok (), mid) ∧
      process c message s = answerReceipt c headers mid := by
  have hRun := process_accepted hOk
  rw [attempt, hParse] at hOk hRun
  dsimp only at hOk hRun
  rw [hDispatch, Method.bind_apply, conCheck_apply] at hOk hRun
  by_cases hLogged : s.LoggedIn c
  · rw [if_pos hLogged] at hOk hRun
    dsimp only at hOk hRun
    rw [Method.bind_apply] at hOk hRun
    rcases hSolve : solve headers s with ⟨e | done, mid⟩ <;> rw [hSolve] at hOk hRun
    · cases hOk
    · exact ⟨mid, hLogged, rfl, hRun⟩
  · rw [if_neg hLogged] at hOk
    cases hOk

/-- An accepted `SUBSCRIBE`. -/
theorem accepts_subscribe (h : s.Accepts c "SUBSCRIBE".toList k message) :
    ∃ headers channel, s.LoggedIn c ∧
      (∀ sub ∈ s.cManager.subManager.ofConnection c, sub.channel ≠ channel) ∧
      process c message s = answerReceipt c headers (s.subscribed c k channel) := by
  obtain ⟨hOk, headers, body, id, hParse, hId, hNumber⟩ := h
  obtain ⟨mid, hLogged, hSolve, hRun⟩ :=
    accepted_cases (solveSubscribe c) rfl hOk hParse
  obtain ⟨e, hThrown⟩ | ⟨channel, id', k', hId', hNumber', hNew, hMade⟩ :=
    solveSubscribe_cases c headers s
  · rw [hThrown] at hSolve
    cases hSolve
  · obtain rfl := Option.some.inj (hId.symm.trans hId')
    obtain rfl := Option.some.inj (hNumber.symm.trans hNumber')
    obtain ⟨-, rfl⟩ := Prod.mk.inj (hSolve.symm.trans hMade)
    exact ⟨headers, channel, hLogged, hNew, hRun⟩

/-- An accepted `UNSUBSCRIBE`. -/
theorem accepts_unsubscribe (hIndexed : s.Indexed)
    (h : s.Accepts c "UNSUBSCRIBE".toList k message) :
    ∃ headers,
      ((∀ sub ∈ s.cManager.subManager.ofConnection c, sub.subId ≠ k) ∧
        process c message s = answerReceipt c headers s) ∨
      ∃ sub ∈ s.cManager.subManager.ofConnection c, sub.subId = k ∧
        process c message s = answerReceipt c headers (s.unsubscribed sub) := by
  obtain ⟨hOk, headers, body, id, hParse, hId, hNumber⟩ := h
  obtain ⟨mid, -, hSolve, hRun⟩ := accepted_cases (solveUnsubscribe c) rfl hOk hParse
  refine ⟨headers, ?_⟩
  obtain ⟨e, hThrown⟩ | ⟨id', k', hId', hNumber', hCases⟩ :=
    solveUnsubscribe_cases hIndexed c headers
  · rw [hThrown] at hSolve
    cases hSolve
  · obtain rfl := Option.some.inj (hId.symm.trans hId')
    obtain rfl := Option.some.inj (hNumber.symm.trans hNumber')
    rcases hCases with ⟨hSame, hNone⟩ | ⟨sub, hListed, hSub, hGone⟩
    · obtain ⟨-, rfl⟩ := Prod.mk.inj (hSolve.symm.trans hSame)
      exact Or.inl ⟨hNone, hRun⟩
    · obtain ⟨-, rfl⟩ := Prod.mk.inj (hSolve.symm.trans hGone)
      exact Or.inr ⟨sub, hListed, hSub, hRun⟩

/-- A `SUBSCRIBE` is accepted with some id, or it ends the connection. -/
theorem subscribe_frame_cases (hIndexed : s.Indexed) (c : Int) (message : Text) :
    (∀ headers body, parseFrame message ≠ (headers, .ok ("SUBSCRIBE".toList, body))) ∨
    (∃ k, s.Accepts c "SUBSCRIBE".toList k message) ∨
    ∃ u msg, Unnoticed c s u ∧ u.Indexed ∧ Reply msg ∧
      process c message s = handleDisconnect c (u.sent c msg) := by
  by_cases hParse : ∃ headers body, parseFrame message = (headers, .ok ("SUBSCRIBE".toList, body))
  · obtain ⟨headers, body, hParse⟩ := hParse
    apply Or.inr
    rcases hRun : attempt c message s with ⟨e | done, u⟩
    · have hDispatch : (do conCheck c; solveSubscribe c headers; answerReceipt c headers) s =
          (.error e, u) := by
        rw [attempt, hParse] at hRun
        exact hRun
      have hOther : "SUBSCRIBE".toList ≠ "DISCONNECT".toList := by decide
      have hTouched := preserves_command hOther headers body s
        (show Touched c s s from ⟨hIndexed, .refl⟩)
      have hWork : dispatch c "SUBSCRIBE".toList headers body s = (.error e, u) := hDispatch
      rw [hWork] at hTouched
      refine Or.inr ⟨u, _, ?_, hTouched.1, .error _ _, process_error hRun⟩
      obtain ⟨rfl, -⟩ | ⟨hLogged, hRest⟩ := checked_error hDispatch
      · exact .refl c u
      · exact unnoticed_before_receipt (subscribe_unnoticed hIndexed hLogged headers) hRest
    · have hOk : (attempt c message s).1 = .ok () := by rw [hRun]
      obtain ⟨mid, -, hSolve, -⟩ := accepted_cases (solveSubscribe c) rfl hOk hParse
      obtain ⟨e, hThrown⟩ | ⟨channel, id, k, hId, hNumber, -, -⟩ :=
        solveSubscribe_cases c headers s
      · rw [hThrown] at hSolve
        cases hSolve
      · exact Or.inl ⟨k, hOk, headers, body, id, hParse, hId, hNumber⟩
  · exact Or.inl fun headers body hEq => hParse ⟨headers, body, hEq⟩

end

/-- A `MESSAGE` frame for the subscription id. -/
def Carries (k : Int) (frame : Text) : Prop :=
  ∃ id channel body, frame = ConnectionsManager.messageFrame k id channel body

/-- Nothing that the connection was handed in between carries the id. -/
def Silent (c k : Int) (start s : Server) : Prop :=
  ∃ frames, s.handedTo c = start.handedTo c ++ frames ∧ ∀ frame ∈ frames, ¬Carries k frame

section
variable {c k : Int} {start s t : Server}

/-- Frames that do not carry the id may be handed over. -/
theorem Silent.append (h : Silent c k start s) {frames : List Text}
    (hHanded : t.handedTo c = s.handedTo c ++ frames) (hFrames : ∀ frame ∈ frames, ¬Carries k frame) :
    Silent c k start t := by
  obtain ⟨before, hBefore, hSilent⟩ := h
  refine ⟨before ++ frames, by rw [hHanded, hBefore, List.append_assoc], ?_⟩
  intro frame hMem
  rcases List.mem_append.1 hMem with hMem | hMem
  · exact hSilent frame hMem
  · exact hFrames frame hMem

theorem Silent.same (h : Silent c k start s) (hHanded : t.cManager.handed = s.cManager.handed) :
    Silent c k start t := by
  apply h.append _ (List.forall_mem_nil _)
  rw [List.append_nil, handedTo, hHanded]
  rfl

theorem Silent.refl (c k : Int) (s : Server) : Silent c k s s :=
  ⟨[], (List.append_nil _).symm, List.forall_mem_nil _⟩

/-- No reply of the server carries the id of a subscription. -/
theorem Silent.reply (h : Silent c k start s) {msg : Text} (reply : Reply msg) (d : Int) :
    Silent c k start (s.sent d msg) := by
  have hHanded : (s.sent d msg).handedTo c = s.handedTo c ++
      ((((s.cManager.connecetions d).map fun handler => (handler, msg)).toList.filter
        fun handed => handed.1.conId = c).map Prod.snd) := by
    unfold handedTo Server.sent
    rw [ConnectionsManager.delivered_handed, List.filter_append, List.map_append]
  apply h.append hHanded
  intro frame hMem
  obtain ⟨⟨handler, frame'⟩, hFrame, rfl⟩ := List.mem_map.1 hMem
  obtain ⟨handler', -, hPair⟩ :=
    Option.map_eq_some_iff.1 (Option.mem_toList.1 (List.mem_of_mem_filter hFrame))
  obtain ⟨-, rfl⟩ := Prod.mk.inj hPair
  rintro ⟨id, channel, body, hCarries⟩
  exact reply.ne_messageFrame k id channel body hCarries

/-- The connection has no subscription with the id, and none spoke up since `start`. -/
structure Mute (c k : Int) (start s : Server) : Prop where
  indexed : s.Indexed
  handlers : s.OwnHandlers
  unused : ∀ sub ∈ s.cManager.subManager.ofConnection c, sub.subId ≠ k
  silent : Silent c k start s

/-- Without a new subscription of the connection, no effect brings the id back. -/
theorem Mute.effect (h : Mute c k start s) {d : Int} (effect : Effect d s t)
    (hMade : d = c → t.made = s.made) : Mute c k start t where
  indexed := effect.indexed h.indexed
  handlers := effect.ownHandlers h.handlers
  unused := by
    intro sub hSub
    by_cases hOwn : d = c
    · subst hOwn
      exact h.unused sub ((effect.ofConnection_sublist h.indexed (hMade rfl)).subset hSub)
    · rw [(effect.othersKept h.indexed).ofConnection (Ne.symm hOwn)] at hSub
      exact h.unused sub hSub
  silent := by
    cases effect with
    | send reply => exact h.silent.reply reply d
    | @broadcast channel subscribed body =>
        have hHanded : ({ s with cManager := { s.cManager with
            idGen := s.cManager.idGen + 1
            handed := s.cManager.handed ++ s.cManager.broadcastFrames channel body } } :
              Server).handedTo c = s.handedTo c ++
                ((s.cManager.broadcastFrames channel body).filter
                  fun handed => handed.1.conId = c).map Prod.snd := by
          unfold handedTo
          rw [List.filter_append, List.map_append]
        apply h.silent.append hHanded
        intro frame hMem
        obtain ⟨sub, hSub, id, text, rfl⟩ :=
          broadcastFrames_to h.handlers h.indexed c channel body frame hMem
        rintro ⟨id', channel', body', hCarries⟩
        exact h.unused sub hSub (messageFrame_subId hCarries).1
    | _ => exact h.silent.same rfl

/-- A teardown takes subscriptions away and hands out nothing. -/
theorem Silent.handleDisconnect (h : Silent c k start s) (hIndexed : s.Indexed) (d : Int) :
    Silent c k start (handleDisconnect d s).2 := by
  obtain ⟨-, -, -, -, -, -, hHanded⟩ := ConnectionsManager.disconnect_apply hIndexed d
  apply h.same
  rw [(handleDisconnect_freed hIndexed d).1, hHanded]

/-- After its own teardown a connection has no subscription left. -/
theorem Mute.of_torn (hIndexed : s.Indexed) (hHandlers : s.OwnHandlers)
    (hSilent : Silent c k start s) : Mute c k start (handleDisconnect c s).2 where
  indexed := handleDisconnect_indexed hIndexed c
  handlers := handleDisconnect_ownHandlers hHandlers hIndexed
  unused := by
    rw [(handleDisconnect_freed hIndexed c).2.2.1]
    exact List.forall_mem_nil _
  silent := hSilent.handleDisconnect hIndexed c

theorem Mute.handleDisconnect (h : Mute c k start s) (d : Int) :
    Mute c k start (handleDisconnect d s).2 := by
  by_cases hOwn : d = c
  · subst hOwn
    exact .of_torn h.indexed h.handlers h.silent
  · refine ⟨handleDisconnect_indexed h.indexed d,
      handleDisconnect_ownHandlers h.handlers h.indexed, ?_, h.silent.handleDisconnect h.indexed d⟩
    rw [(handleDisconnect_othersKept h.indexed d).ofConnection (Ne.symm hOwn)]
    exact h.unused

/-- A receipt does not bring the id back. -/
theorem Mute.answerReceipt (h : Mute c k start s) (headers : Headers) :
    Mute c k start (answerReceipt c headers s).2 :=
  (quietly_answerReceipt headers s ⟨⟨h.indexed, .refl⟩, rfl⟩).invariant
    (fun _ _ _ hP effect hMade => hP.effect effect fun _ => hMade) h.indexed h

/-- A subscription with another id. -/
theorem Mute.subscribed (h : Mute c k start s) {other : Int} (hOther : other ≠ k) {channel : Text}
    (hNew : ∀ sub ∈ s.cManager.subManager.ofConnection c, sub.channel ≠ channel) :
    Mute c k start (s.subscribed c other channel) where
  indexed := SubscriptionManager.Consistent.added h.indexed hNew
  handlers := h.handlers
  unused := by
    intro sub hSub
    unfold Server.subscribed at hSub
    dsimp only at hSub
    rw [SubscriptionManager.added_ofConnection, Function.update_self] at hSub
    rcases List.mem_append.1 hSub with hSub | hSub
    · exact h.unused sub hSub
    · rw [List.mem_singleton.1 hSub]
      exact hOther
  silent := h.silent.same rfl

/-- A subscription with the id is asked for and granted. -/
def Renews (c k : Int) (s : Server) (event : Event) : Prop :=
  ∃ message, event = .process c message ∧ s.Accepts c "SUBSCRIBE".toList k message

/-- Whatever else happens, the connection stays mute. -/
theorem Mute.step (h : Mute c k start s) {event : Event} (hNot : ¬Renews c k s event)
    (hStep : s.step event = some t) : Mute c k start t := by
  obtain ⟨d, -, -, rfl⟩ | ⟨d, message, rfl, -, rfl⟩ | ⟨d, -, -, rfl⟩ := step_cases hStep
  · exact ⟨step_indexed h.indexed hStep, step_ownHandlers h.indexed h.handlers hStep, h.unused,
      h.silent.same rfl⟩
  · by_cases hOwn : d = c
    · subst hOwn
      obtain hOther | ⟨other, hAccepts⟩ | ⟨u, msg, hUnnoticed, hIndexed, reply, hRun⟩ :=
        subscribe_frame_cases h.indexed d message
      · exact process_quietly (fun _ _ _ hP effect hMade => hP.effect effect fun _ => hMade)
          (fun _ _ hP => hP.handleDisconnect d) h.indexed h hOther
      · have hId : other ≠ k := by
          rintro rfl
          exact hNot ⟨message, rfl, hAccepts⟩
        obtain ⟨headers, channel, -, hNew, hRun⟩ := accepts_subscribe hAccepts
        rw [hRun]
        exact (h.subscribed hId hNew).answerReceipt headers
      · rw [hRun]
        apply Mute.of_torn (hIndexed.sent d msg)
        · apply (Effect.send (c := d) reply).ownHandlers
          intro e handler hHandler
          rw [hUnnoticed.handlers] at hHandler
          exact h.handlers e handler hHandler
        · exact (h.silent.same hUnnoticed.handed).reply reply d
    · exact (process_preserves (fun _ _ _ hP effect => hP.effect effect fun hSame => absurd hSame hOwn)
        (fun _ _ hP => hP.handleDisconnect d) h.indexed h message).2
  · exact h.handleDisconnect d

end

/-- One subscription of the connection has the id. It leaves both indexes and nothing else
does, and until the id is subscribed to again no frame carries it to the connection. -/
structure Decisive (c k : Int) (s t : Server) : Prop where
  one : ∃ sub, (s.cManager.subManager.ofConnection c).filter (fun sub => sub.subId = k) = [sub] ∧
    (∀ d, t.cManager.subManager.ofConnection d =
      (s.cManager.subManager.ofConnection d).filter (· != sub)) ∧
    ∀ channel, t.cManager.subManager.ofChannel channel =
      (s.cManager.subManager.ofChannel channel).filter (· != sub)
  silent : ∀ events u, Transition.run step t events = some u →
    Transition.Along step (fun v event => ¬Renews c k v event) t events → Silent c k t u

/-- The connection has no id twice. -/
def UniqueIds (c : Int) (s : Server) : Prop :=
  ((s.cManager.subManager.ofConnection c).map Subscription.subId).Nodup

/-- What the connection subscribes to gets an id that it does not have already. -/
def FreshIds (c : Int) (s : Server) (event : Event) : Prop :=
  ∀ k, Renews c k s event → ∀ sub ∈ s.cManager.subManager.ofConnection c, sub.subId ≠ k

section
variable {c : Int} {s t : Server}

/-- The subscriptions with the id of a given one are that one. -/
theorem UniqueIds.filter (h : s.UniqueIds c) {sub : Subscription}
    (hSub : sub ∈ s.cManager.subManager.ofConnection c) :
    (s.cManager.subManager.ofConnection c).filter (fun other => other.subId = sub.subId) =
      [sub] := by
  have hNodup := List.Nodup.of_map _ h
  have hSame : ∀ other ∈ s.cManager.subManager.ofConnection c,
      decide (other.subId = sub.subId) = decide (other = sub) := by
    intro other hOther
    apply decide_eq_decide.2
    constructor
    · exact List.inj_on_of_nodup_map h hOther hSub
    · rintro rfl
      rfl
  rw [List.filter_congr hSame, List.filter_eq, List.count_eq_one_of_mem hNodup hSub]
  rfl

/-- The id that is taken out is not used any more. -/
theorem UniqueIds.decisive (h : s.UniqueIds c) (hIndexed : s.Indexed) (hHandlers : s.OwnHandlers)
    {sub : Subscription} (hSub : sub ∈ s.cManager.subManager.ofConnection c) (headers : Headers) :
    Decisive c sub.subId s (answerReceipt c headers (s.unsubscribed sub)).2 := by
  obtain ⟨hChannels, hConnections⟩ := SubscriptionManager.Consistent.removed_lists hIndexed sub
  have hManager := (answerReceipt_answered c headers (s.unsubscribed sub)).subManager
  have hGone : Mute c sub.subId (s.unsubscribed sub) (s.unsubscribed sub) := by
    refine ⟨SubscriptionManager.Consistent.removed hIndexed sub, hHandlers, ?_, .refl ..⟩
    intro other hOther
    change other ∈ (s.cManager.subManager.removed sub).ofConnection c at hOther
    rw [hConnections] at hOther
    obtain ⟨hListed, hNe⟩ := List.mem_filter.1 hOther
    intro hId
    have hEq := List.inj_on_of_nodup_map h hListed hSub hId
    simp [hEq] at hNe
  have hMute := hGone.answerReceipt headers
  constructor
  · refine ⟨sub, h.filter hSub, fun d => ?_, fun channel => ?_⟩
    · rw [hManager]
      exact congrFun hConnections d
    · rw [hManager]
      exact congrFun hChannels channel
  · intro events u hRun hNot
    have hStart : Mute c sub.subId (answerReceipt c headers (s.unsubscribed sub)).2
        (answerReceipt c headers (s.unsubscribed sub)).2 := { hMute with silent := .refl .. }
    exact ((Transition.always_of_along (fun _ _ _ hKept hNow hStep => hKept.step hNow hStep)
      hStart hNot).last hRun).silent

/-- An accepted `UNSUBSCRIBE` of an id that is in use once. -/
theorem decisive_iff (h : s.UniqueIds c) (hIndexed : s.Indexed) (hHandlers : s.OwnHandlers) {k : Int}
    {message : Text} (hAccepts : s.Accepts c "UNSUBSCRIBE".toList k message) :
    Decisive c k s (process c message s).2 ↔
      ∃ sub ∈ s.cManager.subManager.ofConnection c, sub.subId = k := by
  obtain ⟨headers, ⟨hNone, -⟩ | ⟨sub, hSub, rfl, hRun⟩⟩ := accepts_unsubscribe hIndexed hAccepts
  · apply iff_of_false
    · intro hDecisive
      obtain ⟨sub, hFilter, -⟩ := hDecisive.one
      have hMem : sub ∈ (s.cManager.subManager.ofConnection c).filter fun sub => sub.subId = k := by
        rw [hFilter]
        exact List.mem_singleton_self sub
      obtain ⟨hListed, hId⟩ := List.mem_filter.1 hMem
      exact hNone sub hListed (of_decide_eq_true hId)
    · rintro ⟨sub, hListed, hId⟩
      exact hNone sub hListed hId
  · apply iff_of_true
    · rw [hRun]
      exact h.decisive hIndexed hHandlers hSub headers
    · exact ⟨sub, hSub, rfl⟩

/-- A new subscription goes to the end of its connection's list. -/
theorem subscribed_ofConnection (s : Server) (c k : Int) (channel : Text) (headers : Headers) :
    (answerReceipt c headers (s.subscribed c k channel)).2.cManager.subManager.ofConnection c =
      s.cManager.subManager.ofConnection c ++ [⟨s.cManager.subManager.allocated, k, c, channel⟩] := by
  rw [(answerReceipt_answered c headers _).subManager]
  change (s.cManager.subManager.added _).ofConnection c = _
  rw [SubscriptionManager.added_ofConnection, Function.update_self]

/-- Each step keeps the ids of the connection apart, if its `SUBSCRIBE` frames bring new ones. -/
theorem step_uniqueIds (h : s.UniqueIds c) (hIndexed : s.Indexed) {event : Event}
    (hFresh : s.FreshIds c event) (hStep : s.step event = some t) : t.UniqueIds c := by
  -- What another connection does leaves the list alone, and a teardown empties it.
  have hOthers : ∀ d, OthersKept d s t → (d = c → t.UniqueIds c) → t.UniqueIds c := by
    intro d hKept hOwn
    by_cases hOther : d = c
    · exact hOwn hOther
    · unfold UniqueIds
      rw [hKept.ofConnection (Ne.symm hOther)]
      exact h
  have hTorn : ∀ u, u.Indexed → (handleDisconnect c u).2.UniqueIds c := by
    intro u hU
    unfold UniqueIds
    rw [(handleDisconnect_freed hU c).2.2.1]
    exact List.nodup_nil
  obtain ⟨d, -, -, rfl⟩ | ⟨d, message, rfl, -, rfl⟩ | ⟨d, -, -, rfl⟩ := step_cases hStep
  · exact h
  · apply hOthers d (process_othersKept hIndexed d message)
    rintro rfl
    obtain hOther | ⟨k, hAccepts⟩ | ⟨u, msg, -, hU, -, hRun⟩ :=
      subscribe_frame_cases hIndexed d message
    · have hKept : ((process d message s).2.cManager.subManager.ofConnection d).Sublist
          (s.cManager.subManager.ofConnection d) := by
        refine process_quietly (P := fun u => (u.cManager.subManager.ofConnection d).Sublist
          (s.cManager.subManager.ofConnection d)) ?_ ?_ hIndexed (.refl _) hOther
        · exact fun u v hU hP effect hMade => (effect.ofConnection_sublist hU hMade).trans hP
        · intro u hU _
          rw [(handleDisconnect_freed hU d).2.2.1]
          exact List.nil_sublist _
      exact List.Nodup.sublist (hKept.map _) h
    · obtain ⟨headers, channel, -, -, hRun⟩ := accepts_subscribe hAccepts
      unfold UniqueIds
      rw [hRun, subscribed_ofConnection, List.map_append, List.nodup_append]
      refine ⟨h, List.nodup_singleton _, ?_⟩
      intro id hId id' hNew
      obtain ⟨sub, hSub, rfl⟩ := List.mem_map.1 hId
      rw [List.mem_singleton.1 hNew]
      exact hFresh k ⟨message, rfl, hAccepts⟩ sub hSub
    · rw [hRun]
      exact hTorn _ (hU.sent d msg)
  · apply hOthers d (handleDisconnect_othersKept hIndexed d)
    rintro rfl
    exact hTorn s hIndexed

/-- The text of an `UNSUBSCRIBE` of an id. -/
def unsubscribeText (k : Int) : Text :=
  requestText "UNSUBSCRIBE".toList [("id".toList, Decimal.decimal k)]

/-- A connection that is logged in and has the id can always name it. -/
theorem accepts_unsubscribeText (hIndexed : s.Indexed) (hLogged : s.LoggedIn c) {k : Int}
    (hRange : -2 ^ 31 ≤ k ∧ k < 2 ^ 31)
    (hSub : ∃ sub ∈ s.cManager.subManager.ofConnection c, sub.subId = k) :
    s.Accepts c "UNSUBSCRIBE".toList k (unsubscribeText k) := by
  have hHeader : HeaderOk ("id".toList, Decimal.decimal k) :=
    HeaderOk.withValue ⟨by decide, by decide, by decide, Java.noBreak_of_any (by decide),
      List.forall_mem_nil _⟩ fun _ => Java.isLineBreak_of_mem_decimal
  have hParse : parseFrame (unsubscribeText k) =
      (headersOf [("id".toList, Decimal.decimal k)], .ok ("UNSUBSCRIBE".toList, [])) := by
    apply parseFrame_requestText (by decide) (Java.noBreak_of_any (by decide))
    intro header hMem
    rw [List.mem_singleton.1 hMem]
    exact hHeader
  have hId : headersOf [("id".toList, Decimal.decimal k)] "id".toList =
      some (Decimal.decimal k) := rfl
  have hNumber := Java.parseInt_decimal hRange.1 hRange.2
  have hReceipt : headersOf [("id".toList, Decimal.decimal k)] "receipt".toList = none := rfl
  obtain ⟨sub, hFind⟩ : ∃ sub, (s.cManager.subManager.ofConnection c).find?
      (fun sub => sub.subId = k) = some sub := by
    obtain ⟨sub, hListed, hSubId⟩ := hSub
    apply Option.isSome_iff_exists.1
    rw [List.find?_isSome]
    exact ⟨sub, hListed, decide_eq_true hSubId⟩
  refine ⟨?_, _, _, _, hParse, hId, hNumber⟩
  rw [attempt, hParse]
  change ((do
    conCheck c
    solveUnsubscribe c (headersOf [("id".toList, Decimal.decimal k)])
    answerReceipt c (headersOf [("id".toList, Decimal.decimal k)]) :
      Method JavaException Server Unit) s).1 = _
  simp only [Method.bind_apply, conCheck_apply, if_pos hLogged,
    solveUnsubscribe_found hIndexed hId hNumber hFind, answerReceipt_apply, hReceipt]

end

/-- Along a run of the server every accepted `UNSUBSCRIBE` of a connection is decisive exactly
where its id is in use, if and only if this connection never subscribes with an id that it has
already. -/
theorem unsubscribe_decisive_iff {s t : Server} (h : Started s) {events : List Event}
    (hRun : Transition.run step s events = some t) (c : Int) :
    Transition.Always step (fun u => ∀ k message, u.Accepts c "UNSUBSCRIBE".toList k message →
        (Decisive c k u (process c message u).2 ↔
          ∃ sub ∈ u.cManager.subManager.ofConnection c, sub.subId = k)) s events ↔
      Transition.Along step (FreshIds c) s events := by
  apply Transition.always_iff_along_of_run
    (I := fun u => u.Indexed ∧ u.OwnHandlers ∧ u.UniqueIds c) _ _ _ hRun
  · obtain ⟨emptyInterned, sqlService, rfl⟩ := h
    refine ⟨indexed_new emptyInterned sqlService, ?_, List.nodup_nil⟩
    intro d handler hHandler
    cases hHandler
  · rintro u ⟨hIndexed, hHandlers, hIds⟩ k message hAccepts
    exact decisive_iff hIds hIndexed hHandlers hAccepts
  · rintro u event v ⟨hIndexed, hHandlers, hIds⟩ hFresh hStep
    exact ⟨step_indexed hIndexed hStep, step_ownHandlers hIndexed hHandlers hStep,
      step_uniqueIds hIds hIndexed hFresh hStep⟩
  · rintro u event v ⟨hIndexed, -, -⟩ hFresh hStep hAlways
    -- The id is subscribed to a second time, and then its owner takes it out.
    obtain ⟨k, ⟨message, rfl, hAccepts⟩, sub, hSub, hId⟩ : ∃ k, Renews c k u event ∧
        ∃ sub ∈ u.cManager.subManager.ofConnection c, sub.subId = k := by
      by_contra hNone
      exact hFresh fun k hRenews sub hSub hId => hNone ⟨k, hRenews, sub, hSub, hId⟩
    obtain ⟨-, -, -, id, -, -, hNumber⟩ := id hAccepts
    obtain ⟨headers, channel, hLogged, hNew, hRun⟩ := accepts_subscribe hAccepts
    have hNext : v = (answerReceipt c headers (u.subscribed c k channel)).2 := by
      obtain ⟨d, hEvent, -⟩ | ⟨d, message', hEvent, -, rfl⟩ | ⟨d, hEvent, -⟩ := step_cases hStep
      · cases hEvent
      · cases hEvent
        rw [hRun]
      · cases hEvent
    have hAnswered := answerReceipt_answered c headers (u.subscribed c k channel)
    rw [← hNext] at hAnswered
    have hLists := subscribed_ofConnection u c k channel headers
    rw [← hNext] at hLists
    have hStill : v.LoggedIn c := by
      unfold LoggedIn
      rw [hAnswered.db, hAnswered.protocols]
      exact hLogged
    have hHeld : ∃ sub ∈ v.cManager.subManager.ofConnection c, sub.subId = k := by
      rw [hLists]
      exact ⟨sub, List.mem_append_left _ hSub, hId⟩
    have hNamed := accepts_unsubscribeText (step_indexed hIndexed hStep) hStill
      (Java.parseInt_range hNumber) hHeld
    obtain ⟨only, hOnly, -⟩ := ((hAlways k _ hNamed).2 hHeld).one
    rw [hLists, List.filter_append] at hOnly
    have hFirst : sub ∈ (u.cManager.subManager.ofConnection c).filter fun sub => sub.subId = k :=
      List.mem_filter.2 ⟨hSub, decide_eq_true hId⟩
    have hLength := congrArg List.length hOnly
    rw [List.length_append, List.length_singleton] at hLength
    have hPos := List.length_pos_of_mem hFirst
    have hLast : ([⟨u.cManager.subManager.allocated, k, c, channel⟩] : List Subscription).filter
        (fun sub => sub.subId = k) = [⟨u.cManager.subManager.allocated, k, c, channel⟩] := by
      simp
    rw [hLast, List.length_singleton] at hLength
    omega

/-- The first subscriber has two ids and gives one of them up, and the second one keeps the
same id. -/
def leaving : List Event := joining ++
  [.process 1 "SUBSCRIBE\nid:5\ndestination:/b\n\n".toList,
    .process 1 "UNSUBSCRIBE\nid:5\n\n".toList]

/-- The server after `leaving`, where the subscriptions of both connections were withdrawn. -/
def stayed : Server := (Transition.run step (.new true fun _ => .reply []) leaving).getD
  (.new true fun _ => .reply [])

/-- Two subscribers, one of which gives up one of its two ids while the other one keeps the same
id. -/
theorem unsubscribe_decisive_leaving :
    Transition.Always step (fun u => ∀ k message, u.Accepts 1 "UNSUBSCRIBE".toList k message →
        (Decisive 1 k u (process 1 message u).2 ↔
          ∃ sub ∈ u.cManager.subManager.ofConnection 1, sub.subId = k))
        (.new true fun _ => .reply []) leaving ↔
      Transition.Along step (FreshIds 1) (.new true fun _ => .reply []) leaving :=
  unsubscribe_decisive_iff (t := stayed) ⟨true, _, rfl⟩ rfl 1

/-- Nothing keeps a connection from using one id for two channels. -/
def sharedId : Server :=
  (process 1 "SUBSCRIBE\nid:7\ndestination:/b\n\n".toList oneSubscriber).2

/-- Two subscriptions of one connection share an id, and the one that is withdrawn leaves the
other behind: frames with that id go on coming. -/
theorem unsubscribe_shared_id : ¬∀ s, Transition.Reachable Started step s → ∀ c k message,
    s.Accepts c "UNSUBSCRIBE".toList k message → Decisive c k s (process c message s).2 := by
  intro h
  have hReachable : Transition.Reachable Started step sharedId :=
    ⟨.new true fun _ => .reply [], [.accept 1, .process 1 (connectFrame "meni" "films"),
      .process 1 "SUBSCRIBE\nid:7\ndestination:/a\n\n".toList,
      .process 1 "SUBSCRIBE\nid:7\ndestination:/b\n\n".toList], ⟨true, _, rfl⟩, rfl⟩
  have hOk : (attempt 1 "UNSUBSCRIBE\nid:7\n\n".toList sharedId).1.isOk = true := by
    decide +kernel
  have hAccepts : sharedId.Accepts 1 "UNSUBSCRIBE".toList 7 "UNSUBSCRIBE\nid:7\n\n".toList :=
    ⟨Method.eq_ok_of_isOk hOk, _, [], "7".toList, rfl, rfl, rfl⟩
  obtain ⟨sub, hOne, -⟩ := (h _ hReachable 1 7 _ hAccepts).one
  have hTwo : ((sharedId.cManager.subManager.ofConnection 1).filter
      fun sub => sub.subId = 7).length = 2 := by decide +kernel
  rw [hOne] at hTwo
  cases hTwo

end StompGames.Server
