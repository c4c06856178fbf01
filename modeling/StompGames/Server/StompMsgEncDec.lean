import StompGames.Java.Utf8

/-! `StompMsgEncDec.java`: frames are cut out of the byte stream at zero bytes. -/
namespace StompGames

/-- The bytes put into `byteBuffer` since it was cleared. The buffer has a fixed
capacity of 1024 bytes. -/
structure StompMsgEncDec where
  byteBuffer : List UInt8
  fits : byteBuffer.length ≤ 1024

namespace StompMsgEncDec

/-- A decoder whose buffer is clear. -/
def new : StompMsgEncDec := ⟨[], Nat.zero_le _⟩

/-- What `decodeNextByte` does with a byte: it returns a message, it returns
`null`, or `put` finds the buffer full and throws. -/
inductive Decoded where
  | message (text : Text) | null | overflow

/-- `decodeNextByte(nextByte)`: a zero ends a message and clears the buffer, any other byte is
put into it. When `put` throws the buffer stays full. -/
def decodeNextByte (nextByte : UInt8) (d : StompMsgEncDec) : Decoded × StompMsgEncDec :=
  if nextByte = 0 then (.message (Java.decodeUtf8 d.byteBuffer), .new)
  else if h : d.byteBuffer.length < 1024 then
    (.null, ⟨d.byteBuffer ++ [nextByte], by simpa using Nat.succ_le_of_lt h⟩)
  else (.overflow, d)

/-- `encode(message)`, the bytes of the text with what zero characters it has. -/
def encode (message : Text) : List UInt8 := Java.encodeUtf8 message

/-- What the calls with these bytes return, one after another. -/
def feed (d : StompMsgEncDec) : List UInt8 → List Decoded
  | [] => []
  | b :: rest => (decodeNextByte b d).1 :: feed (decodeNextByte b d).2 rest

/-- `null` for every byte of the frame and the frame itself for the zero byte. -/
def Decoded.ofFrame (frame : Text) : List Decoded :=
  List.replicate (encode frame).length .null ++ [.message frame]

theorem encode_terminated (frame : Text) : encode (frame ++ ['\x00']) = encode frame ++ [0] :=
  List.flatMap_append

/-- Bytes that fit behind what is in the buffer, up to the zero byte that ends them. -/
theorem feed_of_fits (d : StompMsgEncDec) (bytes rest : List UInt8) (hZero : 0 ∉ bytes)
    (hFits : d.byteBuffer.length + bytes.length ≤ 1024) :
    feed d (bytes ++ 0 :: rest) = List.replicate bytes.length .null ++
      .message (Java.decodeUtf8 (d.byteBuffer ++ bytes)) :: feed .new rest := by
  induction bytes generalizing d with
  | nil => simp [feed, decodeNextByte]
  | cons b bytes ih =>
      obtain ⟨hByte, hBytes⟩ := List.ne_and_not_mem_of_not_mem_cons hZero
      have hRoom : d.byteBuffer.length < 1024 := by
        rw [List.length_cons] at hFits
        omega
      have hNext : decodeNextByte b d =
          (.null, ⟨d.byteBuffer ++ [b], by simpa using Nat.succ_le_of_lt hRoom⟩) := by
        rw [decodeNextByte, if_neg (Ne.symm hByte), dif_pos hRoom]
      rw [List.cons_append, feed, hNext, ih _ hBytes (by simp at hFits ⊢; omega),
        List.append_assoc]
      rfl

/-- Bytes that do not fit make `put` throw. -/
theorem overflow_mem_feed (d : StompMsgEncDec) (bytes rest : List UInt8) (hZero : 0 ∉ bytes)
    (hLong : 1024 < d.byteBuffer.length + bytes.length) :
    Decoded.overflow ∈ feed d (bytes ++ rest) := by
  induction bytes generalizing d with
  | nil => exact absurd d.fits (Nat.not_le.2 hLong)
  | cons b bytes ih =>
      obtain ⟨hByte, hBytes⟩ := List.ne_and_not_mem_of_not_mem_cons hZero
      rw [List.cons_append, feed, decodeNextByte, if_neg (Ne.symm hByte)]
      by_cases hRoom : d.byteBuffer.length < 1024
      · rw [dif_pos hRoom]
        apply List.mem_cons_of_mem
        apply ih _ hBytes
        simp at hLong ⊢
        omega
      · rw [dif_neg hRoom]
        exact List.mem_cons_self

theorem overflow_not_mem_ofFrame (frames : List Text) :
    Decoded.overflow ∉ frames.flatMap Decoded.ofFrame := by
  intro h
  obtain ⟨frame, -, hFrame⟩ := List.mem_flatMap.1 h
  rcases List.mem_append.1 hFrame with hNull | hMessage
  · cases List.eq_of_mem_replicate hNull
  · cases List.mem_singleton.1 hMessage

/-- Frames come out of the decoder as they were sent, one by one, if and only if the bytes of
each fit into the buffer. -/
theorem feed_encode_iff (frames : List Text) (hNul : ∀ frame ∈ frames, '\x00' ∉ frame) :
    feed .new (frames.flatMap fun frame => encode (frame ++ ['\x00'])) =
        frames.flatMap Decoded.ofFrame ↔
      ∀ frame ∈ frames, (encode frame).length ≤ 1024 := by
  induction frames with
  | nil => simp [feed]
  | cons frame frames ih =>
      have hZero : 0 ∉ encode frame :=
        fun h => hNul frame List.mem_cons_self (Java.zero_mem_encodeUtf8 h)
      have hRest := ih fun f hf => hNul f (List.mem_cons_of_mem _ hf)
      rw [List.forall_mem_cons, ← hRest, List.flatMap_cons, encode_terminated, List.append_assoc]
      constructor
      · intro hSame
        have hFits : (encode frame).length ≤ 1024 := by
          by_contra hLong
          have hOverflow := overflow_mem_feed .new (encode frame)
            ([0] ++ frames.flatMap fun f => encode (f ++ ['\x00'])) hZero
            (by simpa [new] using hLong)
          rw [hSame] at hOverflow
          exact overflow_not_mem_ofFrame (frame :: frames) hOverflow
        rw [List.singleton_append, feed_of_fits _ _ _ hZero (by simpa [new] using hFits),
          List.flatMap_cons, Decoded.ofFrame, List.append_assoc, List.append_cancel_left_eq,
          List.singleton_append, List.cons.injEq] at hSame
        exact ⟨hFits, hSame.2⟩
      · rintro ⟨hFits, hSame⟩
        rw [List.singleton_append, feed_of_fits _ _ _ hZero (by simpa [new] using hFits), hSame,
          List.flatMap_cons, Decoded.ofFrame, List.append_assoc]
        rw [encode, new, List.nil_append, Java.decodeUtf8_encodeUtf8]
        rfl

/-- A frame of two characters and an empty one. -/
theorem feed_encode_two :
    feed .new (["aé".toList, []].flatMap fun frame => encode (frame ++ ['\x00'])) =
      ["aé".toList, []].flatMap Decoded.ofFrame :=
  (feed_encode_iff ["aé".toList, []] (by decide)).2 (by decide)

/-- A frame of 1025 letters: the buffer never grows, and `put` throws on the last one. -/
theorem feed_encode_fails : ¬∀ frames : List Text, (∀ frame ∈ frames, '\x00' ∉ frame) →
    feed .new (frames.flatMap fun frame => encode (frame ++ ['\x00'])) =
      frames.flatMap Decoded.ofFrame := by
  intro h
  have hA : '\x00' ∉ List.replicate 1025 'a' := fun hMem =>
    absurd (List.eq_of_mem_replicate hMem) (by decide)
  have hSame := h [List.replicate 1025 'a'] fun frame hFrame => List.mem_singleton.1 hFrame ▸ hA
  have hLength : (encode (List.replicate 1025 'a')).length = 1025 := by decide +kernel
  have hOverflow := overflow_mem_feed .new (encode (List.replicate 1025 'a')) [0]
    (fun hZero => hA (Java.zero_mem_encodeUtf8 hZero)) (by rw [hLength]; decide)
  rw [List.flatMap_singleton, encode_terminated] at hSame
  rw [hSame] at hOverflow
  exact overflow_not_mem_ofFrame [List.replicate 1025 'a'] hOverflow

/-- The decoder after a number of bytes. -/
def fed (d : StompMsgEncDec) (bytes : List UInt8) : StompMsgEncDec :=
  bytes.foldl (fun d b => (decodeNextByte b d).2) d

/-- The messages among what the calls returned, in order. -/
def messages (results : List Decoded) : List Text :=
  results.filterMap fun
    | .message text => some text
    | _ => none

theorem feed_append (d : StompMsgEncDec) (first second : List UInt8) :
    feed d (first ++ second) = feed d first ++ feed (fed d first) second := by
  induction first generalizing d with
  | nil => rfl
  | cons b first ih => exact congrArg _ (ih _)

theorem fed_concat (d : StompMsgEncDec) (bytes : List UInt8) (b : UInt8) :
    fed d (bytes ++ [b]) = (decodeNextByte b (fed d bytes)).2 := by
  rw [fed, List.foldl_concat, fed]

theorem messages_append (first second : List Decoded) :
    messages (first ++ second) = messages first ++ messages second := List.filterMap_append

theorem messages_feed_concat (d : StompMsgEncDec) (bytes : List UInt8) (b : UInt8) :
    messages (feed d (bytes ++ [b])) =
      messages (feed d bytes) ++ messages [(decodeNextByte b (fed d bytes)).1] := by
  rw [feed_append, messages_append]
  rfl

theorem messages_ofFrame (frames : List Text) : messages (frames.flatMap Decoded.ofFrame) = frames := by
  induction frames with
  | nil => rfl
  | cons frame frames ih =>
      rw [List.flatMap_cons, messages_append, ih]
      simp [Decoded.ofFrame, messages]

end StompMsgEncDec
end StompGames
