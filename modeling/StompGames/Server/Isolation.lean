import StompGames.Server.Broadcast

/-! Isolation between connections. A frame or a teardown of one connection
leaves everything of the others alone, and hands them broadcasts only. -/
namespace StompGames.Server

/-- What connection `d` has is the same in both states, and all that its handler
was handed in between is broadcasts to its own subscriptions. -/
structure Undisturbed (d : Int) (s t : Server) : Prop where
  handler : t.cManager.connecetions d = s.cManager.connecetions d
  subDict : t.cManager.subManager.subDict d = s.cManager.subManager.subDict d
  subscriptions : ∀ channel,
    (t.cManager.subManager.ofChannel channel).filter (fun sub => sub.conId = d) =
      (s.cManager.subManager.ofChannel channel).filter fun sub => sub.conId = d
  session : t.db.connectionsIdMap d = s.db.connectionsIdMap d
  user : ∀ ref, s.db.connectionsIdMap d = some ref → t.db.users ref = s.db.users ref
  protocol : t.protocols d = s.protocols d
  messages : ∃ frames, t.handedTo d = s.handedTo d ++ frames ∧ ∀ frame ∈ frames,
    ∃ sub ∈ s.cManager.subManager.ofConnection d, ∃ id body,
      frame = ConnectionsManager.messageFrame sub.subId id sub.channel body

theorem Undisturbed.refl (d : Int) (s : Server) : Undisturbed d s s :=
  ⟨rfl, rfl, fun _ => rfl, rfl, fun _ _ => rfl, rfl, [], (List.append_nil _).symm, nofun⟩

theorem Undisturbed.trans {d : Int} {s t u : Server} (h : Undisturbed d s t)
    (h' : Undisturbed d t u) : Undisturbed d s u where
  handler := h'.handler.trans h.handler
  subDict := h'.subDict.trans h.subDict
  subscriptions channel := (h'.subscriptions channel).trans (h.subscriptions channel)
  session := h'.session.trans h.session
  user ref hBound := (h'.user ref (h.session.trans hBound)).trans (h.user ref hBound)
  protocol := h'.protocol.trans h.protocol
  messages := by
    obtain ⟨frames, hHanded, hFrames⟩ := h.messages
    obtain ⟨frames', hHanded', hFrames'⟩ := h'.messages
    refine ⟨frames ++ frames', by rw [hHanded', hHanded, List.append_assoc], fun frame hMem => ?_⟩
    rcases List.mem_append.1 hMem with hMem | hMem
    · exact hFrames frame hMem
    · obtain ⟨sub, hSub, hFrame⟩ := hFrames' frame hMem
      refine ⟨sub, ?_, hFrame⟩
      rwa [SubscriptionManager.ofConnection, h.subDict] at hSub

/-- The same, from what is already known of other connections. -/
theorem OthersKept.undisturbed {c d : Int} {s t : Server} (h : OthersKept c s t) (hOther : d ≠ c)
    (hSubscriptions : ∀ channel,
      (t.cManager.subManager.ofChannel channel).filter (fun sub => sub.conId = d) =
        (s.cManager.subManager.ofChannel channel).filter fun sub => sub.conId = d)
    (hUser : ∀ ref, s.db.connectionsIdMap d = some ref → t.db.users ref = s.db.users ref)
    (hHanded : t.handedTo d = s.handedTo d) : Undisturbed d s t :=
  ⟨h.handler d hOther, h.subDict d hOther, hSubscriptions, h.session d hOther, hUser,
    h.protocols d hOther, [], by simp [hHanded], nofun⟩

/-- Every connection is served by the handler that was made for it. -/
def OwnHandlers (s : Server) : Prop :=
  ∀ c handler, s.cManager.connecetions c = some handler → handler = ⟨c⟩

theorem OwnHandlers.sent {s : Server} (h : s.OwnHandlers) {c d : Int} (hOther : d ≠ c)
    (msg : Text) : (s.sent c msg).handedTo d = s.handedTo d := by
  unfold handedTo Server.sent
  rw [ConnectionsManager.delivered_handed]
  cases hHandler : s.cManager.connecetions c with
  | none => simp
  | some handler =>
      obtain rfl := h c handler hHandler
      simp [Ne.symm hOther]

/-- The session of another connection belongs to a user that is logged in, so no
login opens it again and none takes its reference. -/
theorem login_user {db db' : Database} {c d : Int} {user pass : Text}
    {result : Except JavaException LoginStatus} (h : db.Sessions)
    (hLogin : Database.login c user pass db = (result, db'))
    (hEnd : (∃ e, result = .error e) ∨ result = .ok .addedNewUser ∨
      result = .ok .loggedInSuccessfully) {ref : UserRef}
    (hBound : db.connectionsIdMap d = some ref) : db'.users ref = db.users ref := by
  have hOld : ref ≠ db.allocated := Nat.ne_of_lt (h.lt_of_bound hBound)
  have hLogged := (h.bound d ref hBound).2.1
  have hKnown : ∀ other, (db.users other).isLoggedIn = false → ref ≠ other := by
    rintro other hOut rfl
    simp [hLogged] at hOut
  rcases hEnd with ⟨e, rfl⟩ | hSuccess
  · obtain ⟨-, ⟨-, -, -, -, hUsers, -⟩ | ⟨other, -, hOut, -, -, rfl⟩⟩ := Database.login_throw hLogin
    · rw [hUsers, Function.update_of_ne hOld]
    · exact Function.update_of_ne (hKnown other hOut) _ _
  · obtain ⟨status, rfl, hStatus⟩ : ∃ status, result = .ok status ∧
        (status = .addedNewUser ∨ status = .loggedInSuccessfully) := by
      rcases hSuccess with rfl | rfl
      · exact ⟨_, rfl, Or.inl rfl⟩
      · exact ⟨_, rfl, Or.inr rfl⟩
    obtain ⟨-, ⟨-, rfl⟩ | ⟨other, -, hOut, -, rfl⟩⟩ := Database.login_success hLogin hStatus
    · exact Function.update_of_ne hOld _ _
    · exact Function.update_of_ne (hKnown other hOut) _ _

/-- What a broadcast hands to one connection is for its own subscriptions. -/
theorem broadcastFrames_to {s : Server} (h : s.OwnHandlers) (hIndexed : s.Indexed) (d : Int)
    (channel body : Text) :
    ∀ frame ∈ ((s.cManager.broadcastFrames channel body).filter
        fun handed => handed.1.conId = d).map Prod.snd,
      ∃ sub ∈ s.cManager.subManager.ofConnection d, ∃ id body,
        frame = ConnectionsManager.messageFrame sub.subId id sub.channel body := by
  intro frame hMem
  obtain ⟨⟨handler, frame'⟩, hHanded, rfl⟩ := List.mem_map.1 hMem
  obtain ⟨hBroadcast, hTo⟩ := List.mem_filter.1 hHanded
  obtain ⟨sub, hListed, hSome⟩ := List.mem_filterMap.1 hBroadcast
  obtain ⟨handler', hHandler, hFrame⟩ := Option.map_eq_some_iff.1 hSome
  obtain ⟨rfl, rfl⟩ := Prod.mk.inj hFrame
  obtain ⟨rfl, hOwner⟩ := (hIndexed.indexes.mem_key_iff channel sub).1 hListed
  obtain rfl := h sub.conId handler' hHandler
  obtain rfl : sub.conId = d := by simpa using hTo
  exact ⟨sub, hOwner, _, _, rfl⟩

/-- A broadcast hands at most one frame to a connection, for a subscription of it and through
its handler. -/
theorem broadcastFrames_filter {s : Server} (h : s.OwnHandlers) (hIndexed : s.Indexed) (d : Int)
    (channel body : Text) :
    ∃ sub : Option Subscription, (∀ other ∈ sub, other ∈ s.cManager.subManager.ofConnection d ∧
        (s.cManager.connecetions d).isSome) ∧
      ((s.cManager.broadcastFrames channel body).filter
        fun handed => handed.1.conId = d).map Prod.snd = sub.toList.map fun sub =>
          ConnectionsManager.messageFrame sub.subId
            (Decimal.decimal (atomicInteger (s.cManager.idGen + 1))) channel body := by
  have hFrames : ((s.cManager.broadcastFrames channel body).filter
      fun handed => handed.1.conId = d).map Prod.snd =
        (((s.cManager.subManager.ofChannel channel).filter fun sub => sub.conId = d).filter
          fun sub => (s.cManager.connecetions sub.conId).isSome).map fun sub =>
            ConnectionsManager.messageFrame sub.subId
              (Decimal.decimal (atomicInteger (s.cManager.idGen + 1))) channel body := by
    unfold ConnectionsManager.broadcastFrames
    induction s.cManager.subManager.ofChannel channel with
    | nil => rfl
    | cons sub rest ih =>
        cases hHandler : s.cManager.connecetions sub.conId with
        | none => by_cases hTo : sub.conId = d <;> simp_all
        | some handler =>
            obtain rfl := h _ _ hHandler
            by_cases hTo : sub.conId = d <;> simp_all
  rw [hFrames]
  obtain ⟨hOne, hNone⟩ := @ofChannel_filter s hIndexed d channel
  by_cases hSub : ∃ sub ∈ s.cManager.subManager.ofConnection d, sub.channel = channel
  · obtain ⟨sub, hMem, hChannel⟩ := hSub
    rw [hOne sub hMem hChannel]
    cases hHandler : s.cManager.connecetions sub.conId with
    | none => exact ⟨none, nofun, by simp [hHandler]⟩
    | some handler =>
        refine ⟨some sub, fun other hOther => ?_, by simp [hHandler]⟩
        have hOwner := hIndexed.indexes.owner_of_mem d sub hMem
        rw [← Option.mem_some_iff.1 hOther, ← hOwner, hHandler]
        exact ⟨hOwner ▸ hMem, rfl⟩
  · rw [hNone fun sub hMem hChannel => hSub ⟨sub, hMem, hChannel⟩]
    exact ⟨none, nofun, rfl⟩

theorem Effect.undisturbed {c d : Int} {s t : Server} (hOther : d ≠ c) (h : s.db.Sessions)
    (hHandlers : s.OwnHandlers) (hIndexed : s.Indexed) (effect : Effect c s t) :
    Undisturbed d s t := by
  have hKept := effect.othersKept hIndexed
  cases effect with
  | send reply =>
      exact hKept.undisturbed hOther (by simp [sent]) (fun _ _ => rfl)
        (hHandlers.sent hOther _)
  | connect login success =>
      refine hKept.undisturbed hOther (fun _ => rfl) (fun ref hBound => ?_) rfl
      apply login_user h login (Or.inr ?_) hBound
      rcases success with rfl | rfl
      · exact Or.inl rfl
      · exact Or.inr rfl
  | connectFailed login =>
      exact hKept.undisturbed hOther (fun _ => rfl)
        (fun ref hBound => login_user h login (Or.inl ⟨_, rfl⟩) hBound) rfl
  | upload sql => exact hKept.undisturbed hOther (fun _ => rfl) (fun _ _ => rfl) rfl
  | @broadcast channel subscribed body =>
      refine ⟨rfl, rfl, fun _ => rfl, rfl, fun _ _ => rfl, rfl, _, ?_,
        broadcastFrames_to hHandlers hIndexed d channel body⟩
      simp [handedTo]
  | @subscribe loggedIn subId channel unsubscribed =>
      refine hKept.undisturbed hOther (fun channel' => ?_) (fun _ _ => rfl) rfl
      dsimp only
      rw [SubscriptionManager.added_ofChannel]
      by_cases hChannel : channel' = channel
      · subst hChannel
        simp [Ne.symm hOther]
      · rw [Function.update_of_ne hChannel]
  | @unsubscribe sub listed =>
      have hOwner := hIndexed.indexes.owner_of_mem c sub listed
      refine hKept.undisturbed hOther (fun channel => ?_) (fun _ _ => rfl) rfl
      dsimp only
      rw [(SubscriptionManager.Consistent.removed_lists hIndexed sub).1, List.filter_filter]
      apply List.filter_congr
      intro other _
      by_cases hSame : other = sub
      · subst hSame
        simp [hOwner, Ne.symm hOther]
      · simp [hSame]

theorem handleDisconnect_undisturbed {c d : Int} {s : Server} (hOther : d ≠ c)
    (h : s.db.Sessions) (hIndexed : s.Indexed) : Undisturbed d s (handleDisconnect c s).2 := by
  have hManager := (handleDisconnect_freed hIndexed c).1
  obtain ⟨-, -, -, -, hChannels, -, hHanded⟩ := ConnectionsManager.disconnect_apply hIndexed c
  apply (handleDisconnect_othersKept hIndexed c).undisturbed hOther
  · intro channel
    rw [hManager, hChannels, List.filter_filter]
    apply List.filter_congr
    intro sub _
    by_cases hSub : sub.conId = d <;> simp [hSub, hOther]
  · intro ref hBound
    obtain ⟨-, hDb, -⟩ | ⟨user, -, -, -, hDb, -⟩ | ⟨user, -, hUser, -, hDb, -⟩ :=
      handleDisconnect_cases hIndexed c <;> rw [hDb]
    · rfl
    · refine Function.update_of_ne ?_ _ _
      rintro rfl
      exact hOther ((h.bound d ref hBound).2.2.symm.trans (h.bound c ref hUser).2.2)
  · unfold handedTo
    rw [hManager, hHanded]

theorem Effect.ownHandlers {c : Int} {s t : Server} (h : s.OwnHandlers) (effect : Effect c s t) :
    t.OwnHandlers := by
  intro d handler hHandler
  rw [effect.handlers_kept.1] at hHandler
  exact h d handler hHandler

theorem handleDisconnect_ownHandlers {c : Int} {s : Server} (h : s.OwnHandlers)
    (hIndexed : s.Indexed) : (handleDisconnect c s).2.OwnHandlers := by
  intro d handler hHandler
  by_cases hOther : d = c
  · subst hOther
    rw [(handleDisconnect_freed hIndexed d).2.1] at hHandler
    cases hHandler
  · rw [(handleDisconnect_othersKept hIndexed c).handler d hOther] at hHandler
    exact h d handler hHandler

theorem step_ownHandlers {s t : Server} {event : Event} (hIndexed : s.Indexed)
    (h : s.OwnHandlers) (hStep : s.step event = some t) : t.OwnHandlers := by
  obtain ⟨c, -, -, rfl⟩ | ⟨c, message, -, -, rfl⟩ | ⟨c, -, -, rfl⟩ := step_cases hStep
  · intro d handler hHandler
    by_cases hOther : d = c
    · subst hOther
      simpa [accept, ConnectionsManager.connect, eq_comm] using hHandler
    · exact h d handler (by simpa [accept, ConnectionsManager.connect, hOther] using hHandler)
  · exact (process_preserves (fun _ _ _ hP effect => effect.ownHandlers hP)
      (fun _ hT hP => handleDisconnect_ownHandlers hP hT) hIndexed h message).2
  · exact handleDisconnect_ownHandlers h hIndexed

theorem reachable_ownHandlers {s : Server} (h : Transition.Reachable Started step s) :
    s.OwnHandlers := by
  refine Transition.Reachable.invariant_of (J := Indexed) (fun _ => reachable_indexed) ?_
    (fun _ _ _ => step_ownHandlers) h
  rintro s ⟨emptyInterned, sqlService, rfl⟩
  exact nofun

theorem process_undisturbed {c d : Int} {s : Server} (hOther : d ≠ c) (h : s.db.Sessions)
    (hHandlers : s.OwnHandlers) (hIndexed : s.Indexed) (message : Text) :
    Undisturbed d s (process c message s).2 := by
  refine (process_preserves
    (P := fun t => t.db.Sessions ∧ t.OwnHandlers ∧ Undisturbed d s t) ?_ ?_ hIndexed
    ⟨h, hHandlers, .refl d s⟩ message).2.2.2
  · rintro t u hT ⟨hSessions, hOwn, hSame⟩ effect
    exact ⟨effect.database_sessions hSessions, effect.ownHandlers hOwn,
      hSame.trans (effect.undisturbed hOther hSessions hOwn hT)⟩
  · rintro t hT ⟨hSessions, hOwn, hSame⟩
    exact ⟨handleDisconnect_database hSessions hT, handleDisconnect_ownHandlers hOwn hT,
      hSame.trans (handleDisconnect_undisturbed hOther hSessions hT)⟩

/-- Whatever a connection sends, and however its teardown is reached, no other
connection is disturbed. -/
theorem connections_isolated {s : Server} (h : Transition.Reachable Started step s) {c d : Int}
    (hOther : d ≠ c) : (∀ message, Undisturbed d s (process c message s).2) ∧
      Undisturbed d s (handleDisconnect c s).2 := by
  have hIndexed := reachable_indexed h
  have hDatabase := (reachable_sessions h).database
  exact ⟨process_undisturbed hOther hDatabase (reachable_ownHandlers h) hIndexed,
    handleDisconnect_undisturbed hOther hDatabase hIndexed⟩

/-- Whatever the second subscriber sends, and when it is torn down, the first one has all that it
had. -/
theorem connections_isolated_twoSubscribers :
    (∀ message, Undisturbed 1 twoSubscribers (process 2 message twoSubscribers).2) ∧
      Undisturbed 1 twoSubscribers (handleDisconnect 2 twoSubscribers).2 :=
  connections_isolated (reachable_started (reachable_of_live twoSubscribers_reachable)) (by decide)

end StompGames.Server
