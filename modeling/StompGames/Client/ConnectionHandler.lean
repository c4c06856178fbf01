import Mathlib.Data.List.Basic

/-! `ConnectionHandler.cpp`: how the client reads frames off its socket. The socket is
the pieces in which the bytes arrive, and where none is left the connection is
closed. -/
namespace StompGames.Client.ConnectionHandler

/-- `read_some` into a buffer of `size` bytes: what has arrived, as far as it fits. -/
def read_some (size : Nat) : List (List UInt8) → Option (List UInt8 × List (List UInt8))
  | [] => none
  | [] :: rest => read_some size rest
  | piece :: rest => some (piece.take size, piece.drop size :: rest)

theorem read_some_eq_some {size : Nat} {socket rest : List (List UInt8)} {bytes : List UInt8}
    (hSize : 0 < size) (h : read_some size socket = some (bytes, rest)) :
    0 < bytes.length ∧ bytes.length ≤ size ∧ socket.flatten = bytes ++ rest.flatten := by
  induction socket using read_some.induct with
  | case1 => simp [read_some] at h
  | case2 pieces ih => exact ih h
  | case3 piece pieces hPiece =>
      rw [read_some.eq_3 _ _ _ hPiece] at h
      obtain ⟨rfl, rfl⟩ := Prod.mk.inj (Option.some.inj h)
      have hLength := List.length_pos_iff.2 hPiece
      refine ⟨?_, List.length_take_le _ _, ?_⟩
      · rw [List.length_take]
        omega
      · rw [List.flatten_cons, List.flatten_cons, ← List.append_assoc, List.take_append_drop]

theorem read_some_eq_none {size : Nat} {socket : List (List UInt8)} :
    read_some size socket = none ↔ socket.flatten = [] := by
  induction socket using read_some.induct with
  | case1 => simp [read_some]
  | case2 pieces ih => simpa [read_some] using ih
  | case3 piece pieces hPiece =>
      have hBytes : (piece :: pieces).flatten ≠ [] := by
        rw [List.flatten_cons]
        exact List.append_ne_nil_of_left_ne_nil hPiece _
      simp only [read_some.eq_3 _ _ _ hPiece, hBytes, reduceCtorEq]

/-- The loop of `getBytes`. `none` is its `false`. -/
def getBytes (bytesToRead : Nat) (socket : List (List UInt8)) :
    Option (List UInt8 × List (List UInt8)) :=
  if _hMore : 0 < bytesToRead then
    match _hRead : read_some bytesToRead socket with
    | none => none
    | some (bytes, rest) =>
        (getBytes (bytesToRead - bytes.length) rest).map fun more => (bytes ++ more.1, more.2)
  else some ([], socket)
termination_by bytesToRead
decreasing_by
  have hPos := (read_some_eq_some _hMore _hRead).1
  omega

theorem getBytes_zero (socket : List (List UInt8)) : getBytes 0 socket = some ([], socket) := by
  rw [getBytes, dif_neg (Nat.lt_irrefl 0)]

/-- It returns as many bytes as were asked for, in whatever pieces they come. -/
theorem getBytes_of_le {n : Nat} {socket : List (List UInt8)} (h : n ≤ socket.flatten.length) :
    ∃ rest, getBytes n socket = some (socket.flatten.take n, rest) ∧
      rest.flatten = socket.flatten.drop n := by
  induction n using Nat.strongRecOn generalizing socket with
  | _ n ih =>
      rcases Nat.eq_zero_or_pos n with rfl | hMore
      · exact ⟨socket, getBytes_zero socket, rfl⟩
      · have hSome : read_some n socket ≠ none := by
          rw [Ne, read_some_eq_none]
          intro hEmpty
          rw [hEmpty, List.length_nil] at h
          omega
        obtain ⟨⟨bytes, rest⟩, hRead⟩ := Option.ne_none_iff_exists'.1 hSome
        obtain ⟨hPos, hFits, hFlatten⟩ := read_some_eq_some hMore hRead
        have hLeft : n - bytes.length ≤ rest.flatten.length := by
          rw [hFlatten, List.length_append] at h
          omega
        obtain ⟨after, hMoreBytes, hAfter⟩ := ih (n - bytes.length) (by omega) hLeft
        refine ⟨after, ?_, ?_⟩
        · rw [getBytes, dif_pos hMore]
          split
          · rename_i hNone
            exact absurd hNone hSome
          · rename_i bytes' rest' hRead'
            obtain ⟨rfl, rfl⟩ := Prod.mk.inj (Option.some.inj (hRead.symm.trans hRead'))
            rw [hMoreBytes, hFlatten, List.take_append, List.take_of_length_le hFits]
            rfl
        · rw [hAfter, hFlatten, List.drop_append, List.drop_of_length_le hFits, List.nil_append]

theorem getBytes_closed {n : Nat} (hMore : 0 < n) {socket : List (List UInt8)}
    (h : socket.flatten = []) : getBytes n socket = none := by
  rw [getBytes, dif_pos hMore]
  split
  · rfl
  · rename_i hRead
    rw [read_some_eq_none.2 h] at hRead
    cases hRead

theorem getBytes_length {n : Nat} {socket rest : List (List UInt8)} {bytes : List UInt8}
    (h : getBytes n socket = some (bytes, rest)) :
    rest.flatten.length + n = socket.flatten.length := by
  induction n using Nat.strongRecOn generalizing socket bytes with
  | _ n ih =>
      rw [getBytes] at h
      split at h
      · rename_i hMore
        split at h
        · cases h
        · rename_i first next hRead
          obtain ⟨hPos, hFits, hFlatten⟩ := read_some_eq_some hMore hRead
          obtain ⟨⟨more, after⟩, hRest, hSame⟩ := Option.map_eq_some_iff.1 h
          obtain ⟨-, rfl⟩ := Prod.mk.inj hSame
          have hLength := ih (n - first.length) (by omega) hRest
          rw [hFlatten, List.length_append]
          omega
      · obtain ⟨-, rfl⟩ := Prod.mk.inj (Option.some.inj h)
        omega

/-- The result, what `frame` holds then, and what is left on the socket. The zero
character is not appended. -/
def getFrameAscii (delimiter : UInt8) (frame : List UInt8) (socket : List (List UInt8)) :
    Bool × List UInt8 × List (List UInt8) :=
  match _hRead : getBytes 1 socket with
  | none => (false, frame, [])
  | some (bytes, rest) =>
      let ch := bytes.headD 0
      let frame := if ch ≠ 0 then frame ++ [ch] else frame
      if delimiter ≠ ch then getFrameAscii delimiter frame rest else (true, frame, rest)
termination_by socket.flatten.length
decreasing_by
  have hLength := getBytes_length _hRead
  omega

/-- One turn of the loop. -/
theorem getFrameAscii_byte {socket : List (List UInt8)} {ch : UInt8} {bytes : List UInt8}
    (h : socket.flatten = ch :: bytes) : ∃ rest, rest.flatten = bytes ∧
      ∀ delimiter frame, getFrameAscii delimiter frame socket =
        if delimiter ≠ ch then
          getFrameAscii delimiter (if ch ≠ 0 then frame ++ [ch] else frame) rest
        else (true, if ch ≠ 0 then frame ++ [ch] else frame, rest) := by
  have hLength : 1 ≤ socket.flatten.length := by simp [h]
  obtain ⟨rest, hRead, hRest⟩ := getBytes_of_le hLength
  rw [h] at hRead hRest
  refine ⟨rest, hRest, fun delimiter frame => ?_⟩
  rw [getFrameAscii]
  split
  · rename_i hNone
    rw [hRead] at hNone
    cases hNone
  · rename_i bytes' rest' hRead'
    obtain ⟨rfl, rfl⟩ := Prod.mk.inj (Option.some.inj (hRead.symm.trans hRead'))
    rfl

/-- A frame is read up to its delimiter, however its bytes arrive. -/
theorem getFrameAscii_frame {bytes : List UInt8} (hBytes : 0 ∉ bytes) (frame : List UInt8)
    {after : List UInt8} {socket : List (List UInt8)} (h : socket.flatten = bytes ++ 0 :: after) :
    ∃ rest, getFrameAscii 0 frame socket = (true, frame ++ bytes, rest) ∧
      rest.flatten = after := by
  induction bytes generalizing frame socket with
  | nil =>
      obtain ⟨rest, hRest, hTurn⟩ := getFrameAscii_byte h
      exact ⟨rest, by simp [hTurn], hRest⟩
  | cons ch bytes ih =>
      obtain ⟨hFirst, hOthers⟩ : ¬0 = ch ∧ 0 ∉ bytes := by simpa using hBytes
      obtain ⟨next, hNext, hTurn⟩ := getFrameAscii_byte h
      obtain ⟨rest, hFrame, hRest⟩ := ih hOthers (frame ++ [ch]) hNext
      refine ⟨rest, ?_, hRest⟩
      rw [hTurn, if_pos hFirst, if_pos (Ne.symm hFirst), hFrame]
      simp

/-- Calls one after the other, each with an empty string. -/
def getFrames : Nat → List (List UInt8) → Option (List (List UInt8) × List (List UInt8))
  | 0, socket => some ([], socket)
  | count + 1, socket =>
      match getFrameAscii 0 [] socket with
      | (true, frame, rest) =>
          (getFrames count rest).map fun more => (frame :: more.1, more.2)
      | (false, _) => none

/-- The frames that were sent are read, and after them the end of the stream. -/
theorem getFrames_sent {frames : List (List UInt8)} (hFrames : ∀ frame ∈ frames, 0 ∉ frame)
    {socket : List (List UInt8)} (h : socket.flatten = frames.flatMap (· ++ [0])) :
    ∃ rest, getFrames frames.length socket = some (frames, rest) ∧
      (getFrameAscii 0 [] rest).1 = false := by
  induction frames generalizing socket with
  | nil =>
      refine ⟨socket, rfl, ?_⟩
      rw [getFrameAscii]
      split
      · rfl
      · rename_i hRead
        rw [getBytes_closed Nat.one_pos h] at hRead
        cases hRead
  | cons frame frames ih =>
      obtain ⟨hFirst, hOthers⟩ := List.forall_mem_cons.1 hFrames
      rw [List.flatMap_cons, List.append_assoc] at h
      obtain ⟨next, hFrame, hNext⟩ := getFrameAscii_frame hFirst [] h
      obtain ⟨rest, hRest, hEnd⟩ := ih hOthers hNext
      refine ⟨rest, ?_, hEnd⟩
      simp only [List.length_cons, getFrames, hFrame, hRest, List.nil_append]
      rfl

end StompGames.Client.ConnectionHandler
