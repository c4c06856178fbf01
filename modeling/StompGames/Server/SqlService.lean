import StompGames.Lib.Framing
import StompGames.Python.Decode

/-! `recv_null_terminated` and `handle_client` of `sql_server.py`: the messages that the
service takes off one connection. -/
namespace StompGames.SqlService

/-- What a call of `recv(1024)` returns before the end of the stream. -/
structure Chunk where
  bytes : List UInt8
  ne_nil : bytes ≠ []
  size : bytes.length ≤ 1024
  deriving DecidableEq

/-- The message, and the chunks that are still to come. What stands behind the zero byte
in `data` is dropped, and nothing is kept for the next call. -/
def recv_null_terminated (data : List UInt8) : List Chunk → Text × List Chunk
  | [] => ([], [])
  | chunk :: rest =>
      let data := data ++ chunk.bytes
      if 0 ∈ data then (Python.decode (Framing.upTo 0 data), rest)
      else recv_null_terminated data rest

theorem length_recv (data : List UInt8) (chunks : List Chunk) :
    (recv_null_terminated data chunks).1 = [] ∨
      (recv_null_terminated data chunks).2.length < chunks.length := by
  induction chunks generalizing data with
  | nil => exact Or.inl rfl
  | cons chunk rest ih =>
      rw [recv_null_terminated]
      split
      · exact Or.inr (Nat.lt_succ_self _)
      · exact (ih _).imp_right Nat.lt_succ_of_lt

/-- The database, the messages that were passed on, and the bytes sent back. -/
structure Served (σ : Type) where
  db : σ
  passed : List Text
  sent : List UInt8

section
variable {σ : Type}

/-- The turn of the loop after a message was received. -/
def serve (direct_message : Text → σ → Text × σ) (s : Served σ) (message : Text) : Served σ :=
  let (output, db) := direct_message message s.db
  ⟨db, s.passed ++ [message], s.sent ++ Java.encodeUtf8 (output ++ ['\x00'])⟩

/-- The loop of `handle_client`: a message is read and served until there is an empty one. Each
message takes up a chunk at least, and the loop ends with the chunks. -/
def handle_client (direct_message : Text → σ → Text × σ) (chunks : List Chunk) (s : Served σ) :
    Served σ :=
  if _hMessage : (recv_null_terminated [] chunks).1 = [] then s
  else handle_client direct_message (recv_null_terminated [] chunks).2
    (serve direct_message s (recv_null_terminated [] chunks).1)
termination_by chunks.length
decreasing_by exact (length_recv [] chunks).resolve_left _hMessage

/-- A message that a client writes. -/
structure Message where
  text : Text
  ne_nil : text ≠ []
  no_zero : '\x00' ∉ text

/-- A message as the server writes it, with the zero byte that ends it. -/
def Message.wire (message : Message) : List UInt8 := Java.encodeUtf8 message.text ++ [0]

/-- The replies to messages that come one after another. -/
def outputs (direct_message : Text → σ → Text × σ) : List Text → σ → List Text
  | [], _ => []
  | message :: rest, db =>
      (direct_message message db).1 :: outputs direct_message rest (direct_message message db).2

/-- The messages are passed on, each once and in order, and one reply is sent for each. -/
structure HandledOnce (direct_message : Text → σ → Text × σ) (db : σ) (messages : List Message)
    (chunks : List Chunk) : Prop where
  passed : (handle_client direct_message chunks ⟨db, [], []⟩).passed = messages.map Message.text
  sent : (handle_client direct_message chunks ⟨db, [], []⟩).sent =
    (outputs direct_message (messages.map Message.text) db).flatMap
      fun output => Java.encodeUtf8 (output ++ ['\x00'])

end

/-- Bytes that are dropped without a trace: none, or the first of a message that begins
with replacement characters and looks the same without them. -/
def Harmless (dropped later : List UInt8) : Prop :=
  dropped = [] ∨ dropped = [0xEF, 0xBF] ∧ [0xBD] <+: later ∨
    dropped = [0xEF, 0xBF, 0xBD, 0xEF] ∧ [0xBF, 0xBD] <+: later

/-- Every chunk ends with its first zero byte, or what it holds behind it is harmless. -/
def Aligned : List Chunk → Prop
  | [] => True
  | chunk :: later =>
      Harmless (Framing.after 0 chunk.bytes) (later.flatMap Chunk.bytes) ∧ Aligned later

/-- A call reads up to the first zero byte of the stream, and drops the rest of a chunk. -/
theorem recv_eq {chunks : List Chunk} {data bytes after : List UInt8} (hData : 0 ∉ data)
    (hBytes : 0 ∉ bytes) (h : chunks.flatMap Chunk.bytes = bytes ++ 0 :: after) :
    ∃ dropped later, recv_null_terminated data chunks = (Python.decode (data ++ bytes), later) ∧
      dropped ++ later.flatMap Chunk.bytes = after ∧
      (Aligned chunks ↔ Harmless dropped (later.flatMap Chunk.bytes) ∧ Aligned later) := by
  induction chunks generalizing data bytes with
  | nil =>
      have hLength := congrArg List.length h
      simp at hLength
  | cons chunk rest ih =>
      rw [List.flatMap_cons] at h
      rw [recv_null_terminated, Aligned]
      by_cases hZero : 0 ∈ chunk.bytes
      · have hShape := Framing.eq_of_mem hZero
        rw [hShape, List.append_assoc, List.cons_append] at h
        obtain ⟨hBefore, hAfter⟩ := (Framing.append_cons_inj (Framing.not_mem_upTo 0 _) hBytes).1 h
        have hAll : 0 ∉ data ++ bytes := by
          rw [List.mem_append, not_or]
          exact ⟨hData, hBytes⟩
        have hUpTo : Framing.upTo 0 (data ++ chunk.bytes) = data ++ bytes := by
          rw [hShape, hBefore, ← List.append_assoc, Framing.upTo_append hAll]
        refine ⟨Framing.after 0 chunk.bytes, rest, ?_, hAfter, Iff.rfl⟩
        rw [if_pos (List.mem_append_right _ hZero), hUpTo]
      · have hNone : 0 ∉ data ++ chunk.bytes := by
          rw [List.mem_append, not_or]
          exact ⟨hData, hZero⟩
        obtain ⟨left, rfl, hRest⟩ := Framing.exists_of_append_eq hZero h
        have hLeft : 0 ∉ left := fun hMem => hBytes (List.mem_append_right _ hMem)
        obtain ⟨dropped, later, hRecv, hLater, hAligned⟩ := ih hNone hLeft hRest
        refine ⟨dropped, later, ?_, hLater, ?_⟩
        · rw [if_neg hNone, hRecv, List.append_assoc]
        · rw [← hAligned, Framing.after_of_not_mem hZero]
          exact and_iff_right (Or.inl rfl)

/-- Without a message the call returns nothing. -/
theorem recv_of_not_mem {chunks : List Chunk} {data : List UInt8} (hData : 0 ∉ data)
    (h : 0 ∉ chunks.flatMap Chunk.bytes) : recv_null_terminated data chunks = ([], []) := by
  induction chunks generalizing data with
  | nil => rfl
  | cons chunk rest ih =>
      rw [List.flatMap_cons, List.mem_append, not_or] at h
      have hNone : 0 ∉ data ++ chunk.bytes := by
        rw [List.mem_append, not_or]
        exact ⟨hData, h.1⟩
      rw [recv_null_terminated, if_neg hNone, ih hNone h.2]

theorem eq_nil_of_flatMap_bytes {chunks : List Chunk} (h : chunks.flatMap Chunk.bytes = []) :
    chunks = [] := by
  cases chunks with
  | nil => rfl
  | cons chunk rest =>
      rw [List.flatMap_cons, List.append_eq_nil_iff] at h
      exact absurd h.1 chunk.ne_nil

theorem Message.zero_not_mem (message : Message) : 0 ∉ Java.encodeUtf8 message.text :=
  fun h => message.no_zero (Java.zero_mem_encodeUtf8 h)

/-- Bytes other than zero at the front of the stream belong to the message. -/
theorem prefix_left {first left after : List UInt8} (h : 0 ∉ first)
    (hPrefix : first <+: left ++ 0 :: after) : first <+: left := by
  obtain ⟨later, hSame⟩ := hPrefix
  obtain ⟨rest, hLeft, -⟩ := Framing.exists_of_append_eq h hSame
  exact ⟨rest, hLeft.symm⟩

/-- What is left of a message behind dropped bytes reads as the message just where the
bytes are harmless. -/
theorem decode_eq_iff {message : Message} {dropped left later after : List UInt8}
    (h : Java.encodeUtf8 message.text = dropped ++ left) (hLater : later = left ++ 0 :: after) :
    Python.decode left = message.text ↔ Harmless dropped later := by
  have hLeft : left = (Java.encodeUtf8 message.text).drop dropped.length := by
    rw [h, List.drop_left]
  by_cases hNone : dropped = []
  · subst hNone
    rw [hLeft, List.length_nil, List.drop_zero, Python.decode_encodeUtf8]
    exact iff_of_true rfl (Or.inl rfl)
  have hPos := List.length_pos_iff.2 hNone
  have hLe : dropped.length ≤ (Java.encodeUtf8 message.text).length := by
    rw [h, List.length_append]
    exact Nat.le_add_right _ _
  rw [hLeft, Python.decode_drop_eq_iff hPos hLe]
  constructor
  · rintro (⟨hTwo, rest, hText⟩ | ⟨hFour, rest, hText⟩)
    · obtain ⟨hDropped, hRest⟩ := List.append_inj
        (h.symm.trans (congrArg Java.encodeUtf8 hText.symm) : dropped ++ left =
          [0xEF, 0xBF] ++ 0xBD :: Java.encodeUtf8 rest) hTwo
      exact Or.inr (Or.inl ⟨hDropped, _, by rw [hLater, hRest]; rfl⟩)
    · obtain ⟨hDropped, hRest⟩ := List.append_inj
        (h.symm.trans (congrArg Java.encodeUtf8 hText.symm) : dropped ++ left =
          [0xEF, 0xBF, 0xBD, 0xEF] ++ 0xBF :: 0xBD :: Java.encodeUtf8 rest) hFour
      exact Or.inr (Or.inr ⟨hDropped, _, by rw [hLater, hRest]; rfl⟩)
  · rintro (hSame | ⟨rfl, hFirst⟩ | ⟨rfl, hFirst⟩)
    · exact absurd hSame hNone
    · obtain ⟨rest, rfl⟩ := prefix_left (by decide) (hLater ▸ hFirst)
      exact Or.inl ⟨rfl, Python.prefix_of_encodeUtf8 h⟩
    · obtain ⟨rest, rfl⟩ := prefix_left (by decide) (hLater ▸ hFirst)
      exact Or.inr ⟨rfl, Python.prefix_of_encodeUtf8 h⟩

/-- The messages that are passed on. -/
def received (chunks : List Chunk) : List Text :=
  if _hMessage : (recv_null_terminated [] chunks).1 = [] then []
  else (recv_null_terminated [] chunks).1 :: received (recv_null_terminated [] chunks).2
termination_by chunks.length
decreasing_by exact (length_recv [] chunks).resolve_left _hMessage

section
variable {σ : Type} (direct_message : Text → σ → Text × σ)

theorem handle_client_eq (chunks : List Chunk) (s : Served σ) :
    handle_client direct_message chunks s =
      (received chunks).foldl (serve direct_message) s := by
  induction chunks using received.induct generalizing s with
  | case1 chunks hNone =>
      rw [handle_client, received, dif_pos hNone, dif_pos hNone]
      rfl
  | case2 chunks hSome ih =>
      rw [handle_client, received, dif_neg hSome, dif_neg hSome, List.foldl_cons]
      exact ih _

theorem foldl_serve (messages : List Text) (s : Served σ) :
    (messages.foldl (serve direct_message) s).passed = s.passed ++ messages ∧
    (messages.foldl (serve direct_message) s).sent = s.sent ++
      (outputs direct_message messages s.db).flatMap
        fun output => Java.encodeUtf8 (output ++ ['\x00']) := by
  induction messages generalizing s with
  | nil => exact ⟨(List.append_nil _).symm, (List.append_nil _).symm⟩
  | cons message rest ih =>
      obtain ⟨hPassed, hSent⟩ := ih (serve direct_message s message)
      constructor
      · rw [List.foldl_cons, hPassed]
        exact List.append_assoc _ _ _
      · rw [List.foldl_cons, hSent]
        exact List.append_assoc _ _ _

/-- One reply is sent for each message that is passed on, so only the messages matter. -/
theorem handledOnce_iff_received (db : σ) (messages : List Message) (chunks : List Chunk) :
    HandledOnce direct_message db messages chunks ↔ received chunks = messages.map Message.text := by
  have hRun := handle_client_eq direct_message chunks ⟨db, [], []⟩
  obtain ⟨hPassed, hSent⟩ := foldl_serve direct_message (received chunks) ⟨db, [], []⟩
  rw [← hRun] at hPassed hSent
  constructor
  · exact fun h => hPassed.symm.trans h.passed
  · intro h
    rw [h] at hPassed hSent
    exact ⟨hPassed, hSent⟩

end

theorem received_cons {chunks later : List Chunk} {message : Text} (hSome : message ≠ [])
    (h : recv_null_terminated [] chunks = (message, later)) :
    received chunks = message :: received later := by
  rw [received, h, dif_neg hSome]

theorem received_nil {chunks later : List Chunk}
    (h : recv_null_terminated [] chunks = ([], later)) : received chunks = [] := by
  rw [received, h, dif_pos rfl]

/-- No more messages are received than there are zero bytes. -/
theorem length_received_le (chunks : List Chunk) :
    (received chunks).length ≤ (chunks.flatMap Chunk.bytes).count 0 := by
  induction chunks using received.induct with
  | case1 chunks hNone =>
      rw [received, dif_pos hNone]
      exact Nat.zero_le _
  | case2 chunks hSome ih =>
      have hZero : 0 ∈ chunks.flatMap Chunk.bytes := by
        by_contra hNot
        apply hSome
        rw [recv_of_not_mem List.not_mem_nil hNot]
      have hShape := Framing.eq_of_mem hZero
      obtain ⟨dropped, later, hRecv, hLater, -⟩ :=
        recv_eq List.not_mem_nil (Framing.not_mem_upTo 0 _) hShape
      rw [hRecv] at hSome ih
      change (received later).length ≤ (later.flatMap Chunk.bytes).count 0 at ih
      rw [received_cons hSome hRecv, hShape, ← hLater, List.length_cons, List.count_append,
        List.count_cons_self, List.count_append]
      omega

theorem count_wire (messages : List Message) :
    (messages.flatMap Message.wire).count 0 = messages.length := by
  induction messages with
  | nil => rfl
  | cons message rest ih =>
      rw [List.flatMap_cons, List.count_append, ih, Message.wire, List.count_append,
        List.count_eq_zero_of_not_mem message.zero_not_mem, List.length_cons]
      exact Nat.add_comm _ _

theorem Harmless.zero_not_mem {dropped later : List UInt8} (h : Harmless dropped later) :
    0 ∉ dropped := by
  rcases h with rfl | ⟨rfl, -⟩ | ⟨rfl, -⟩ <;> decide

/-- From within a message on: what is left of it, and the messages after it. -/
theorem received_iff {messages : List Message} {chunks : List Chunk} {left : List UInt8}
    (hLeft : 0 ∉ left) (hSome : left ≠ [])
    (h : chunks.flatMap Chunk.bytes = left ++ 0 :: messages.flatMap Message.wire) :
    received chunks = Python.decode left :: messages.map Message.text ↔ Aligned chunks := by
  induction messages generalizing chunks left with
  | nil =>
      obtain ⟨dropped, later, hRecv, hLater, hAligned⟩ := recv_eq List.not_mem_nil hLeft h
      obtain ⟨rfl, hNone⟩ := List.append_eq_nil_iff.1 hLater
      obtain rfl := eq_nil_of_flatMap_bytes hNone
      rw [hAligned, received_cons (Python.decode_ne_nil hSome) hRecv, received_nil rfl]
      exact iff_of_true rfl ⟨Or.inl rfl, trivial⟩
  | cons message rest ih =>
      obtain ⟨dropped, later, hRecv, hLater, hAligned⟩ := recv_eq List.not_mem_nil hLeft h
      have hStream : dropped ++ later.flatMap Chunk.bytes =
          Java.encodeUtf8 message.text ++ 0 :: rest.flatMap Message.wire := by
        rw [hLater, List.flatMap_cons, Message.wire, List.append_assoc]
        rfl
      rw [hAligned, received_cons (Python.decode_ne_nil hSome) hRecv, List.cons.injEq,
        and_iff_right rfl]
      by_cases hZero : 0 ∈ dropped
      · -- With its zero byte a message is lost for good.
        refine iff_of_false (fun hAll => ?_) fun hBoth => hBoth.1.zero_not_mem hZero
        have hFew := length_received_le later
        have hCount := congrArg (List.count 0) hLater
        have hLost := List.count_pos_iff.2 hZero
        rw [count_wire, List.count_append] at hCount
        rw [hAll, List.length_map] at hFew
        omega
      · obtain ⟨next, hNext, hFlat⟩ := Framing.exists_of_append_eq hZero hStream
        have hNextZero : 0 ∉ next := by
          intro hMem
          apply message.zero_not_mem
          rw [hNext]
          exact List.mem_append_right _ hMem
        rw [← decode_eq_iff hNext hFlat]
        by_cases hEmpty : next = []
        · subst hEmpty
          obtain ⟨-, last, hLast, -, -⟩ := recv_eq List.not_mem_nil List.not_mem_nil hFlat
          refine iff_of_false ?_ fun hBoth => message.ne_nil hBoth.1.symm
          rw [received_nil hLast]
          exact nofun
        · have hRest := ih hNextZero hEmpty hFlat
          obtain ⟨-, last, hLast, -, -⟩ := recv_eq List.not_mem_nil hNextZero hFlat
          rw [← hRest, received_cons (Python.decode_ne_nil hEmpty) hLast, List.map_cons,
            List.cons.injEq, List.cons.injEq, and_iff_right rfl]

/-- Every message is handled once, and in order, just where no chunk holds more than
harmless bytes behind its first zero byte. -/
theorem handled_once_iff {σ : Type} (direct_message : Text → σ → Text × σ) (db : σ)
    {messages : List Message} {chunks : List Chunk}
    (h : chunks.flatMap Chunk.bytes = messages.flatMap Message.wire) :
    HandledOnce direct_message db messages chunks ↔ Aligned chunks := by
  rw [handledOnce_iff_received]
  cases messages with
  | nil =>
      obtain rfl := eq_nil_of_flatMap_bytes h
      rw [received_nil rfl]
      exact iff_of_true rfl trivial
  | cons message rest =>
      have hStream : chunks.flatMap Chunk.bytes =
          Java.encodeUtf8 message.text ++ 0 :: rest.flatMap Message.wire := by
        rw [h, List.flatMap_cons, Message.wire, List.append_assoc]
        rfl
      have hSome : Java.encodeUtf8 message.text ≠ [] := by
        intro hNone
        have hText := Python.decode_encodeUtf8 message.text
        rw [hNone] at hText
        exact message.ne_nil hText.symm
      have hReceived := received_iff message.zero_not_mem hSome hStream
      rwa [Python.decode_encodeUtf8] at hReceived

/-- A service without tables, whose every statement succeeds. -/
def succeeds (_message : Text) (db : Unit) : Text × Unit := ("SUCCESS".toList, db)

/-- Two messages of one and two letters. -/
def short : Message := ⟨['a'], by decide, by decide⟩

/-- A message that takes more than one chunk here. -/
def long : Message := ⟨['b', 'c'], by decide, by decide⟩

/-- Two messages in chunks of their own, the second of which comes in two parts. -/
theorem handled_once_apart : HandledOnce succeeds () [short, long]
    [⟨[0x61, 0], by decide, by decide⟩, ⟨[0x62], by decide, by decide⟩,
      ⟨[0x63, 0], by decide, by decide⟩] := by
  apply (handled_once_iff succeeds () (by decide)).2
  exact ⟨Or.inl rfl, Or.inl rfl, Or.inl rfl, trivial⟩

/-- Two messages arrive together. What is behind the first zero is thrown away, and the second
one is never looked at. -/
theorem joined_message_lost :
    (handle_client succeeds [⟨[0x61, 0, 0x62, 0x63, 0], by decide, by decide⟩]
      ⟨(), [], []⟩).passed = [['a']] ∧
    ¬HandledOnce succeeds () [short, long]
      [⟨[0x61, 0, 0x62, 0x63, 0], by decide, by decide⟩] := by
  have hPassed : (handle_client succeeds [⟨[0x61, 0, 0x62, 0x63, 0], by decide, by decide⟩]
      ⟨(), [], []⟩).passed = [['a']] := by
    have hFirst : recv_null_terminated [] [⟨[0x61, 0, 0x62, 0x63, 0], by decide, by decide⟩] =
        (['a'], []) := by decide +kernel
    have hLast : received [] = [] := received_nil rfl
    rw [handle_client_eq, received_cons (by decide) hFirst, hLast]
    rfl
  refine ⟨hPassed, fun h => ?_⟩
  have hSame := hPassed.symm.trans h.passed
  exact absurd hSame (by decide)

end StompGames.SqlService
