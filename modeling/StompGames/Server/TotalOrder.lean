import StompGames.Lib.Publication
import StompGames.Server.Isolation

/-! The order of the broadcasts. The server publishes to the connections: whatever they
subscribe to, they get what they get in one common order. -/
namespace StompGames.Server

open Imperative

/-- A `MESSAGE` frame up to its message id, and the rest of it. -/
def stamped (subId n : Int) (rest : Text) : Text :=
  "MESSAGE".toList ++ '\n' :: (("subscription:".toList ++ Decimal.decimal subId) ++ '\n' ::
    (("message-id:".toList ++ Decimal.decimal n) ++ '\n' :: rest))

/-- What all frames of a broadcast have in common behind their id. -/
def published (channel body : Text) : Text :=
  ("destination:".toList ++ channel) ++ '\n' :: '\n' :: (body ++ ['\x00'])

theorem messageFrame_eq (subId n : Int) (channel body : Text) :
    ConnectionsManager.messageFrame subId (Decimal.decimal n) channel body =
      stamped subId n (published channel body) := messageFrame_lines _ _ _ _

theorem stamped_injective {subId subId' m n : Int} {rest rest' : Text}
    (h : stamped subId m rest = stamped subId' n rest') : m = n ∧ rest = rest' := by
  have hName : '\n' ∉ "MESSAGE".toList := by simp
  have hSub : ∀ k, '\n' ∉ "subscription:".toList ++ Decimal.decimal k :=
    numeral_noBreak (by simp)
  have hId : ∀ k, '\n' ∉ "message-id:".toList ++ Decimal.decimal k :=
    numeral_noBreak (by simp)
  unfold stamped at h
  obtain ⟨-, h⟩ := (Framing.append_cons_inj hName hName).1 h
  obtain ⟨-, h⟩ := (Framing.append_cons_inj (hSub _) (hSub _)).1 h
  obtain ⟨hNumber, hRest⟩ := (Framing.append_cons_inj (hId _) (hId _)).1 h
  exact ⟨Decimal.decimal_injective (List.append_cancel_left hNumber), hRest⟩

theorem stamped_head (subId n : Int) (rest : Text) :
    (stamped subId n rest).head? = some 'M' := by
  have hName : "MESSAGE".toList.head? = some 'M' := by rfl
  unfold stamped
  exact (List.head?_append_of_ne_nil _ (by simp)).trans hName

theorem Reply.ne_stamped {frame : Text} (reply : Reply frame) (subId n : Int) (rest : Text) :
    frame ≠ stamped subId n rest := by
  have hLetter : ∀ (word more : Text) (c : Char), word.head? = some c → c ≠ 'M' →
      word ++ more ≠ stamped subId n rest := by
    intro word more c hHead hc hSame
    have hFirst := congrArg List.head? hSame
    rw [List.head?_append, hHead, stamped_head] at hFirst
    exact hc (Option.some.inj hFirst)
  cases reply with
  | connected =>
      rw [← List.append_nil connectedFrame]
      exact hLetter _ _ 'C' (by rfl) (by decide)
  | receipt receiptId =>
      unfold receiptFrame
      rw [List.append_assoc]
      exact hLetter _ _ 'R' (by simp) (by decide)
  | error errorMsg receipt =>
      cases receipt with
      | none =>
          unfold errorFrame
          dsimp only
          rw [List.append_assoc]
          exact hLetter _ _ 'E' (by simp) (by decide)
      | some receipt =>
          unfold errorFrame
          dsimp only
          simp only [List.append_assoc]
          exact hLetter _ _ 'E' (by simp) (by decide)

/-- The frames that a connection was handed, for these entries of the log. -/
inductive Delivers (log : List Text) : List Text → List Nat → Prop where
  | nil : Delivers log [] []
  | reply {frames : List Text} {got : List Nat} {frame : Text} (reply : Reply frame)
      (before : Delivers log frames got) : Delivers log (frames ++ [frame]) got
  | message {frames : List Text} {got : List Nat} {k : Nat} {rest : Text} (subId : Int)
      (entry : log[k]? = some rest) (before : Delivers log frames got) :
      Delivers log (frames ++ [stamped subId (atomicInteger (k + 1)) rest]) (got ++ [k])

section
variable {log frames : List Text} {got : List Nat}

/-- The log may go on. -/
theorem Delivers.mono (h : Delivers log frames got) (more : List Text) :
    Delivers (log ++ more) frames got := by
  induction h with
  | nil => exact .nil
  | reply reply _ ih => exact .reply reply ih
  | @message frames got k rest subId entry _ ih =>
      have hLt : k < log.length := (List.getElem?_eq_some_iff.1 entry).1
      exact .message subId (by rw [List.getElem?_append_left hLt, entry]) ih

/-- A frame that was handed out carries an entry of the log. -/
theorem Delivers.entry (h : Delivers log frames got) {subId n : Int} {rest : Text}
    (hMem : stamped subId n rest ∈ frames) :
    ∃ k ∈ got, n = atomicInteger (k + 1) ∧ log[k]? = some rest := by
  induction h with
  | nil => cases hMem
  | reply reply _ ih =>
      rcases List.mem_append.1 hMem with hOld | hNew
      · exact ih hOld
      · exact absurd (List.mem_singleton.1 hNew).symm (reply.ne_stamped _ _ _)
  | @message frames got k rest' subId' hEntry _ ih =>
      rcases List.mem_append.1 hMem with hOld | hNew
      · obtain ⟨l, hl, hSame⟩ := ih hOld
        exact ⟨l, List.mem_append_left _ hl, hSame⟩
      · obtain ⟨hNumber, hRest⟩ := stamped_injective (List.mem_singleton.1 hNew)
        exact ⟨k, List.mem_append_right _ List.mem_cons_self, hNumber, hRest ▸ hEntry⟩

/-- Two elements of a list that has got one more. -/
theorem pair_sublist_concat {α : Type} {x y z : α} {items : List α}
    (h : [x, y].Sublist (items ++ [z])) : [x, y].Sublist items ∨ x ∈ items ∧ y = z := by
  obtain ⟨first, second, hPair, hFirst, hSecond⟩ := List.sublist_append_iff.1 h
  rcases List.sublist_singleton.1 hSecond with rfl | rfl
  · rw [List.append_nil] at hPair
    exact Or.inl (hPair ▸ hFirst)
  · have hBoth : [x] ++ [y] = first ++ [z] := hPair
    obtain ⟨hHead, hLast⟩ := List.append_inj' hBoth rfl
    exact Or.inr ⟨List.singleton_sublist.1 (hHead ▸ hFirst), List.head_eq_of_cons_eq hLast⟩

/-- Frames come in the order of their entries. -/
theorem Delivers.pair (h : Delivers log frames got) {subId subId' m n : Int} {rest rest' : Text}
    (hPair : [stamped subId m rest, stamped subId' n rest'].Sublist frames) :
    ∃ k l, [k, l].Sublist got ∧ m = atomicInteger (k + 1) ∧ n = atomicInteger (l + 1) := by
  induction h with
  | nil => cases hPair
  | reply reply _ ih =>
      rcases pair_sublist_concat hPair with hOld | ⟨-, hNew⟩
      · exact ih hOld
      · exact absurd hNew.symm (reply.ne_stamped _ _ _)
  | @message frames got k rest'' subId'' hEntry hBefore ih =>
      rcases pair_sublist_concat hPair with hOld | ⟨hFirst, hNew⟩
      · obtain ⟨i, j, hSub, hSame⟩ := ih hOld
        exact ⟨i, j, hSub.trans (List.sublist_append_left _ _), hSame⟩
      · obtain ⟨hNumber, -⟩ := stamped_injective hNew
        obtain ⟨i, hi, hSame, -⟩ := hBefore.entry hFirst
        exact ⟨i, k, (List.singleton_sublist.2 hi).append (List.Sublist.refl [k]), hSame, hNumber⟩

end

/-- The broadcasts so far, as a publication to the connections. -/
structure Publishes (s : Server) (p : Publication Int Text) : Prop where
  ordered : p.Ordered
  counted : p.log.length = s.cManager.idGen
  delivers : ∀ d, Delivers p.log (s.handedTo d) (p.got d)

section
variable {s t : Server} {p : Publication Int Text} {c : Int}

/-- A step that neither broadcasts nor hands anything out. -/
theorem Publishes.congr (h : s.Publishes p) (hCount : t.cManager.idGen = s.cManager.idGen)
    (hHanded : t.cManager.handed = s.cManager.handed) : t.Publishes p := by
  refine ⟨h.ordered, h.counted.trans hCount.symm, fun d => ?_⟩
  rw [handedTo, hHanded]
  exact h.delivers d

theorem Publishes.sent (h : s.Publishes p) {frame : Text} (reply : Reply frame) :
    (s.sent c frame).Publishes p := by
  refine ⟨h.ordered, ?_, fun d => ?_⟩
  · rw [Server.sent, ConnectionsManager.delivered_idGen]
    exact h.counted
  · have hBefore := h.delivers d
    rw [handedTo] at hBefore
    rw [handedTo, Server.sent, ConnectionsManager.delivered_handed, List.filter_append,
      List.map_append]
    cases s.cManager.connecetions c with
    | none => simpa using hBefore
    | some handler =>
        by_cases hSame : handler.conId = d
        · simpa [hSame] using Delivers.reply reply hBefore
        · simpa [hSame] using hBefore

theorem Publishes.broadcast (h : s.Publishes p) (hOwn : s.OwnHandlers) (hIndexed : s.Indexed)
    (channel body : Text) : ∃ p', Publishes { s with cManager := { s.cManager with
      idGen := s.cManager.idGen + 1
      handed := s.cManager.handed ++ s.cManager.broadcastFrames channel body } } p' := by
  choose sub _ hSub using fun d => broadcastFrames_filter hOwn hIndexed d channel body
  refine ⟨p.publish (published channel body) fun d => (sub d).isSome, h.ordered.publish _ _, ?_,
    fun d => ?_⟩
  · simp [Publication.publish, h.counted]
  · have hBefore := (h.delivers d).mono [published channel body]
    rw [handedTo] at hBefore
    rw [handedTo, List.filter_append, List.map_append, hSub d]
    cases hTo : sub d with
    | none => simpa [Publication.publish, hTo] using hBefore
    | some sub =>
        simp only [Publication.publish, hTo, Option.toList_some, List.map_cons, List.map_nil,
          Option.isSome_some, if_true, messageFrame_eq, ← h.counted]
        exact .message sub.subId (by simp) hBefore

theorem Effect.publishes (effect : Effect c s t) (hOwn : s.OwnHandlers) (hIndexed : s.Indexed)
    (h : s.Publishes p) : ∃ p', t.Publishes p' := by
  cases effect with
  | send reply => exact ⟨p, h.sent reply⟩
  | broadcast subscribed body => exact h.broadcast hOwn hIndexed _ body
  | connect login success => exact ⟨p, h.congr rfl rfl⟩
  | connectFailed login => exact ⟨p, h.congr rfl rfl⟩
  | upload sql => exact ⟨p, h.congr rfl rfl⟩
  | subscribe loggedIn subId unsubscribed => exact ⟨p, h.congr rfl rfl⟩
  | unsubscribe listed => exact ⟨p, h.congr rfl rfl⟩

theorem Publishes.disconnected (h : s.Publishes p) (hIndexed : s.Indexed) (c : Int) :
    (handleDisconnect c s).2.Publishes p := by
  obtain ⟨-, -, -, -, -, hIds, hHanded⟩ := ConnectionsManager.disconnect_apply hIndexed c
  have hSame := (handleDisconnect_freed hIndexed c).1
  exact h.congr (by rw [hSame, hIds]) (by rw [hSame, hHanded])

theorem step_publishes (hOwn : s.OwnHandlers) (hIndexed : s.Indexed) (h : ∃ p, s.Publishes p)
    {event : Event} (hStep : s.step event = some t) : ∃ p, t.Publishes p := by
  obtain ⟨c, -, -, rfl⟩ | ⟨c, message, -, -, rfl⟩ | ⟨c, -, -, rfl⟩ := step_cases hStep
  · obtain ⟨p, h⟩ := h
    exact ⟨p, h.congr rfl rfl⟩
  · refine (process_preserves (P := fun u => u.OwnHandlers ∧ ∃ p, u.Publishes p) ?_ ?_ hIndexed
      ⟨hOwn, h⟩ message).2.2
    · rintro u v hMid ⟨hu, p, hp⟩ effect
      exact ⟨effect.ownHandlers hu, effect.publishes hu hMid hp⟩
    · rintro u hMid ⟨hu, p, hp⟩
      exact ⟨handleDisconnect_ownHandlers hu hMid, p, hp.disconnected hMid c⟩
  · obtain ⟨p, h⟩ := h
    exact ⟨p, h.disconnected hIndexed c⟩

theorem reachable_publishes (h : Transition.Reachable Started step s) : ∃ p, s.Publishes p := by
  refine Transition.Reachable.invariant_of (J := fun u => u.OwnHandlers ∧ u.Indexed)
    (I := fun u => ∃ p, u.Publishes p) (fun _ hu => ⟨reachable_ownHandlers hu, reachable_indexed hu⟩)
    ?_ (fun _ _ _ hKnown hu hStep => step_publishes hKnown.1 hKnown.2 hu hStep) h
  rintro u ⟨emptyInterned, sqlService, rfl⟩
  exact ⟨.start, Publication.ordered_start, rfl, fun _ => .nil⟩

end

/-- The connections get the broadcasts in one order. -/
structure InOneOrder (s : Server) : Prop where
  /-- Frames with one message id have one destination and one body. -/
  agree : ∀ d e subId subId' n rest rest', stamped subId n rest ∈ s.handedTo d →
    stamped subId' n rest' ∈ s.handedTo e → rest = rest'
  /-- Two broadcasts that one connection gets in this order no connection gets in the other
  one. In particular none gets a broadcast twice. -/
  ordered : ∀ d e m n i i' j j' first first' second second',
    [stamped i m first, stamped j n second].Sublist (s.handedTo d) →
      ¬[stamped j' n second', stamped i' m first'].Sublist (s.handedTo e)

/-- Ids are not repeated before the counter comes round again. -/
theorem atomicInteger_inj {k l count : Nat} (hk : k < count) (hl : l < count)
    (hCount : count ≤ 2 ^ 32) (h : atomicInteger (k + 1) = atomicInteger (l + 1)) : k = l := by
  rcases Nat.lt_trichotomy k l with hLt | hEq | hGt
  · exact absurd h.symm (atomicInteger_ne (Nat.succ_pos k) hLt (by omega))
  · exact hEq
  · exact absurd h (atomicInteger_ne (Nat.succ_pos l) hGt (by omega))

/-- Whole frames being processed one after another, any two connections get the broadcasts that
reach both in one and the same order, with ids that go up. -/
theorem broadcasts_in_one_order {s : Server} (h : Transition.Reachable Started step s)
    (hCount : s.cManager.idGen ≤ 2 ^ 32) : s.InOneOrder := by
  obtain ⟨p, hPublishes⟩ := reachable_publishes h
  have hBound : ∀ d, ∀ k ∈ p.got d, k < s.cManager.idGen := by
    intro d k hk
    rw [← hPublishes.counted]
    exact hPublishes.ordered.logged d k hk
  constructor
  · intro d e subId subId' n rest rest' hMem hMem'
    obtain ⟨k, hk, hn, hEntry⟩ := (hPublishes.delivers d).entry hMem
    obtain ⟨l, hl, hn', hEntry'⟩ := (hPublishes.delivers e).entry hMem'
    obtain rfl := atomicInteger_inj (hBound d k hk) (hBound e l hl) hCount (hn.symm.trans hn')
    exact Option.some.inj (hEntry.symm.trans hEntry')
  · intro d e m n i i' j j' first first' second second' hPair hPair'
    obtain ⟨k, l, hSub, hm, hn⟩ := (hPublishes.delivers d).pair hPair
    obtain ⟨l', k', hSub', hn', hm'⟩ := (hPublishes.delivers e).pair hPair'
    obtain rfl := atomicInteger_inj (hBound d k (hSub.subset (by simp)))
      (hBound e k' (hSub'.subset (by simp))) hCount (hm.symm.trans hm')
    obtain rfl := atomicInteger_inj (hBound d l (hSub.subset (by simp)))
      (hBound e l' (hSub'.subset (by simp))) hCount (hn.symm.trans hn')
    exact hPublishes.ordered.same_order hSub hSub'

/-- Both subscribers report a goal. -/
def goalsReported : Server :=
  (process 2 "SEND\ndestination:/a\n\nother goal".toList
    (process 1 "SEND\ndestination:/a\n\ngoal".toList twoSubscribers).2).2

/-- Two goals to two subscribers of one channel. -/
theorem broadcasts_in_one_order_goals : goalsReported.InOneOrder := by
  have hAccepted : twoSubscribers.accepted 1 = true ∧
      (process 1 "SEND\ndestination:/a\n\ngoal".toList twoSubscribers).2.accepted 2 = true := by
    decide +kernel
  have hReports : Transition.run step twoSubscribers
      [.process 1 "SEND\ndestination:/a\n\ngoal".toList,
        .process 2 "SEND\ndestination:/a\n\nother goal".toList] = some goalsReported := by
    simp only [Transition.run, step, hAccepted.1, hAccepted.2, if_true, Option.bind_some,
      goalsReported]
  have hReached := reachable_started (reachable_of_live twoSubscribers_reachable)
  exact broadcasts_in_one_order (hReached.extend hReports) (by decide +kernel)

/-- Both got both goals. -/
example : (goalsReported.handedTo 1).length = 3 ∧ (goalsReported.handedTo 2).length = 3 := by
  decide +kernel

end StompGames.Server
