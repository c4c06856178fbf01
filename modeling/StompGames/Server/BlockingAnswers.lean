import StompGames.Server.BlockingConnectionHandler
import StompGames.Server.Conversation

/-! The server with a thread for each client. The frames that the thread cuts out of the bytes of
its client are answered one after the other, whatever happens on the other connections. -/
namespace StompGames

open Server
open StompMsgEncDec (fed messages feed)

/-- Nothing was asked on a connection that is not accepted yet. -/
theorem Server.Converses.fresh {s : Server} {requests : Int → List Text} (h : s.Converses requests)
    {c : Int} (hFresh : s.accepted c = false) : requests c = [] := by
  have hStage : s.stage c = .opened := by
    rw [stage, h.unopened c hFresh, (h.sessions.fresh c hFresh).1]
    rfl
  have hConversation := h.conversation c
  rw [hStage] at hConversation
  exact hConversation.of_opened.1

/-- An accepted connection stays one. -/
theorem Server.Converses.accepted {s t : Server} {requests : Int → List Text}
    (h : s.Converses requests) {c : Int} (hAccepted : s.accepted c = true) {event : Event}
    (hStep : s.step event = some t) : t.accepted c = true := by
  obtain ⟨d, rfl, -, rfl⟩ | ⟨d, message, rfl, -, rfl⟩ | ⟨d, rfl, -, rfl⟩ := step_cases hStep
  · by_cases hSame : c = d
    · subst hSame
      exact Function.update_self ..
    · exact (Function.update_of_ne hSame _ _).trans hAccepted
  · exact (congrFun (process_othersKept h.indexed d message).accepted c).trans hAccepted
  · exact (congrFun (handleDisconnect_othersKept h.indexed d).accepted c).trans hAccepted

namespace BlockingConnection

/-- The bytes that the thread reads. -/
def bytesOf (moves : List Step) : List UInt8 :=
  moves.filterMap fun
    | .read nextByte => some nextByte
    | _ => none

/-- The decoder has got these bytes, and the server the frames that it cut out of them. -/
structure Answers (c : Int) (bytes : List UInt8) (s : BlockingConnection) : Prop where
  accepted : s.server.accepted c = true
  decoder : s.encdec = fed .new bytes
  requests : ∃ requests, s.server.Converses requests ∧ requests c = messages (feed .new bytes)

section
variable {c : Int} {bytes : List UInt8} {s t : BlockingConnection}

/-- The thread goes on without a byte and without the server. -/
theorem Answers.moved (h : s.Answers c bytes) (hServer : t.server = s.server)
    (hEncdec : t.encdec = s.encdec) : t.Answers c bytes := by
  refine ⟨?_, hEncdec.trans h.decoder, ?_⟩
  · rw [hServer]
    exact h.accepted
  · rw [hServer]
    exact h.requests

/-- The server goes on, with what was cut out of the next bytes. -/
theorem Answers.called (h : s.Answers c bytes) {event : Event} {more : List UInt8}
    (hStep : s.server.step event = some t.server) (hEncdec : t.encdec = fed .new (bytes ++ more))
    (hFrames : messages (feed .new (bytes ++ more)) =
      messages (feed .new bytes) ++ framesOf c [event]) : t.Answers c (bytes ++ more) := by
  obtain ⟨requests, hConverses, hRequests⟩ := h.requests
  refine ⟨hConverses.accepted h.accepted hStep, hEncdec, _, hConverses.next hStep, ?_⟩
  rw [hFrames, hRequests]

/-- One byte either is put into the buffer, or it ends a frame that is processed at once. -/
theorem Answers.handleByte (h : s.Answers c bytes) (nextByte : UInt8) :
    (s.handleByte c nextByte).Answers c (bytes ++ [nextByte]) := by
  have hFed := StompMsgEncDec.fed_concat .new bytes nextByte
  have hMessages := StompMsgEncDec.messages_feed_concat .new bytes nextByte
  rw [← h.decoder] at hFed hMessages
  have hQuiet : ∀ place encdec, fed .new (bytes ++ [nextByte]) = encdec →
      messages (feed .new (bytes ++ [nextByte])) = messages (feed .new bytes) →
        Answers c (bytes ++ [nextByte]) { s with encdec := encdec, place := place } := by
    rintro place _ rfl hSame
    exact ⟨h.accepted, rfl, hSame ▸ h.requests⟩
  unfold BlockingConnection.handleByte
  rcases hDecoded : StompMsgEncDec.decodeNextByte nextByte s.encdec with ⟨frame | _ | _, encdec⟩ <;>
    rw [hDecoded] at hFed hMessages
  · have hStep : s.server.step (.process c frame) = some (process c frame s.server).2 := by
      rw [Server.step, if_pos h.accepted]
    have hOne : framesOf c [.process c frame] = [frame] := by simp [framesOf]
    dsimp only
    rcases hRun : process c frame s.server with ⟨e | done, server⟩ <;> rw [hRun] at hStep
    · exact h.called hStep hFed.symm (by rw [hMessages, hOne]; rfl)
    · exact h.called hStep hFed.symm (by rw [hMessages, hOne]; rfl)
  · exact hQuiet s.place encdec hFed (by rw [hMessages]; exact List.append_nil _)
  · exact hQuiet .ended encdec hFed (by rw [hMessages]; exact List.append_nil _)

theorem Answers.close (h : s.Answers c bytes) (next : BlockingPlace) :
    (s.close c next).Answers c bytes := by
  have hStep : s.server.step (.handleDisconnect c) = some (handleDisconnect c s.server).2 := by
    rw [Server.step, if_pos h.accepted]
  have hNone : framesOf c [.handleDisconnect c] = [] := rfl
  have hSame : bytes ++ [] = bytes := List.append_nil bytes
  rw [← hSame]
  unfold BlockingConnection.close
  rcases hRun : handleDisconnect c s.server with ⟨e | done, server⟩ <;> rw [hRun] at hStep
  · exact h.called hStep (by rw [hSame, h.decoder]) (by rw [hSame, hNone, List.append_nil])
  · exact h.called hStep (by rw [hSame, h.decoder]) (by rw [hSame, hNone, List.append_nil])

/-- Each step of the thread keeps it, and so does any step of another connection. -/
theorem step_answers {move : Step} (h : s.Answers c bytes) (hStep : s.step c move = some t) :
    t.Answers c (bytes ++ bytesOf [move]) := by
  have hSame : bytes ++ [] = bytes := List.append_nil bytes
  cases move with
  | openStreams works =>
      simp only [step, Option.ite_none_right_eq_some, Option.some.injEq] at hStep
      obtain ⟨-, rfl⟩ := hStep
      exact hSame.symm ▸ h.moved rfl rfl
  | leaveLoop =>
      simp only [step, Option.ite_none_right_eq_some, Option.some.injEq] at hStep
      obtain ⟨-, rfl⟩ := hStep
      exact hSame.symm ▸ h.moved rfl rfl
  | read nextByte =>
      simp only [step, Option.ite_none_right_eq_some, Option.some.injEq] at hStep
      obtain ⟨-, rfl⟩ := hStep
      exact h.handleByte nextByte
  | endOfStream =>
      simp only [step, Option.ite_none_right_eq_some, Option.some.injEq] at hStep
      obtain ⟨-, rfl⟩ := hStep
      exact hSame.symm ▸ h.moved rfl rfl
  | readFails =>
      simp only [step, Option.ite_none_right_eq_some, Option.some.injEq] at hStep
      obtain ⟨-, rfl⟩ := hStep
      exact hSame.symm ▸ h.moved rfl rfl
  | disconnect =>
      simp only [step] at hStep
      split at hStep <;> cases hStep
      · exact hSame.symm ▸ h.close _
      · exact hSame.symm ▸ h.close _
  | closeSocket works =>
      simp only [step] at hStep
      split at hStep <;> cases hStep
      · exact hSame.symm ▸ h.moved rfl rfl
      · exact hSame.symm ▸ h.moved rfl rfl
  | other event =>
      simp only [step, Option.ite_none_left_eq_some, Option.map_eq_some_iff] at hStep
      obtain ⟨hOther, server, hServer, rfl⟩ := hStep
      refine h.called hServer (hSame.symm ▸ h.decoder) ?_
      have hNone : framesOf c [event] = [] := by
        cases event with
        | process d message => simpa [framesOf, Event.conId] using hOther
        | accept d => rfl
        | handleDisconnect d => rfl
      rw [hNone, List.append_nil]
      exact congrArg (fun all => messages (feed .new all)) hSame

theorem Opened.answers (h : s.Opened c) : s.Answers c [] := by
  obtain ⟨server, ⟨start, events, hStart, hRun⟩, hFresh, rfl⟩ := h
  have hBefore := run_converses hStart.1.converses hRun
  have hStep : server.step (.accept c) = some (server.accept c) := by
    rw [Server.step, if_neg (by simp [hFresh])]
  refine ⟨Function.update_self .., rfl, _, hBefore.next hStep, ?_⟩
  rw [hBefore.fresh hFresh]
  rfl

/-- The run lemma: after any run, the frames handed to the connection are a conversation with the
frames in the bytes that were read. -/
theorem run_answers {moves : List Step} (h : s.Answers c bytes)
    (hRun : Transition.run (step c) s moves = some t) : t.Answers c (bytes ++ bytesOf moves) := by
  induction moves generalizing s bytes with
  | nil =>
      cases hRun
      simpa [bytesOf] using h
  | cons move rest ih =>
      obtain ⟨u, hStep, hRest⟩ := Transition.run_cons_eq_some.1 hRun
      have hEnd := ih (step_answers h hStep) hRest
      have hBytes : bytesOf (move :: rest) = bytesOf [move] ++ bytesOf rest :=
        List.filterMap_append (l := [move])
      rw [hBytes, ← List.append_assoc]
      exact hEnd

/-- At any moment of any run of the connection's thread, the frames among the bytes it has read
have been processed and answered, one after the other. -/
theorem thread_answers (h : s.Opened c) {moves : List Step}
    (hRun : Transition.run (step c) s moves = some t) :
    Conversation (messages (feed .new (bytesOf moves))) (t.server.handedTo c) (t.server.stage c) := by
  obtain ⟨requests, hConverses, hRequests⟩ := (run_answers h.answers hRun).requests
  have hEnd := hConverses.conversation c
  rwa [hRequests] at hEnd

/-- The client of the visit gets its greeting and the goal, and the start of its next frame is
not answered. -/
theorem thread_answers_visit : Conversation (messages (feed .new (bytesOf visit)))
    (visited.server.handedTo 2) (visited.server.stage 2) :=
  thread_answers secondOpened_opened visit_run

end

end BlockingConnection
end StompGames
