import StompGames.Client.ConnectionHandler
import StompGames.Cpp.Input
import StompGames.Server.Broadcast
import StompGames.Server.FrameLayout
import StompGames.Server.StompMsgEncDec

/-! The frames of the server on their way to a client: the bytes they are sent as, the
frames that are cut out of the bytes again, and the lines of those. -/
namespace StompGames

open Client.ConnectionHandler

/-- The string that the client makes of the bytes of a frame, up to the zero byte. -/
def bytesText (frame : Text) : Text := Cpp.ofBytes (Framing.upTo 0 (StompMsgEncDec.encode frame))

/-- However the bytes of a frame arrive, and whatever follows them, this is what is read. -/
theorem getFrameAscii_bytesText {frame : Text} (hZero : '\x00' ∈ frame) {more : List UInt8}
    {socket : List (List UInt8)} (hSocket : socket.flatten = StompMsgEncDec.encode frame ++ more) :
    ∃ bytes rest, getFrameAscii 0 [] socket = (true, bytes, rest) ∧
      Cpp.ofBytes bytes = bytesText frame := by
  have hByte : 0 ∈ StompMsgEncDec.encode frame :=
    List.mem_flatMap.2 ⟨'\x00', hZero, by decide⟩
  rw [Framing.eq_of_mem hByte, List.append_assoc, List.cons_append] at hSocket
  obtain ⟨rest, hRead, -⟩ := getFrameAscii_frame (Framing.not_mem_upTo 0 _) [] hSocket
  exact ⟨_, rest, hRead, rfl⟩

/-- Without a zero character in its text, all of a frame is read but the zero at its end. -/
theorem bytesText_eq {text : Text} (h : '\x00' ∉ text) : bytesText (text ++ ['\x00']) =
    Cpp.utf8 text := by
  have hBytes : 0 ∉ StompMsgEncDec.encode text := fun hMem => h (Java.zero_mem_encodeUtf8 hMem)
  rw [bytesText, StompMsgEncDec.encode_terminated, Framing.upTo_append hBytes]
  rfl

/-- A frame with a single zero character, its last, whose lines up to the first empty
one are the lines it was composed of. -/
structure Unambiguous (frame : Text) (lines : List Text) (body : Text) : Prop where
  composed : Composed frame lines body
  oneZero : frame.count '\x00' = 1
  ends : frame.getLast? = some '\x00'
  head : (Cpp.getLines frame.dropLast).takeWhile (· ≠ []) = lines
  getLines : Cpp.getLines frame.dropLast = lines ++ [] :: Cpp.getLines body

/-- The destination and the first line of the body, where the client looks for them. -/
def MessageLines (frame : Text) : Prop :=
  ∃ subId id channel body,
    frame = ConnectionsManager.messageFrame subId (Decimal.decimal id) channel body ∧
    (Cpp.getLines frame.dropLast)[3]? = some ("destination:".toList ++ channel) ∧
    (Cpp.getLines frame.dropLast)[5]? = (Cpp.getLines body)[0]?

theorem dropLast_frameText (lines : List Text) (body : Text) : (frameText lines body).dropLast =
    lines.flatMap (· ++ ['\n']) ++ '\n' :: body := by
  have hShape : frameText lines body =
      (lines.flatMap (· ++ ['\n']) ++ '\n' :: body) ++ ['\x00'] := by simp [frameText]
  rw [hShape, List.dropLast_concat]

namespace Composed
variable {frame body : Text} {lines : List Text}

theorem dropLast_eq (h : Composed frame lines body) :
    frame.dropLast = lines.flatMap (· ++ ['\n']) ++ '\n' :: body := by
  rw [h.eq_frameText, dropLast_frameText]

theorem eq_dropLast (h : Composed frame lines body) : frame = frame.dropLast ++ ['\x00'] := by
  rw [h.dropLast_eq, h.eq_frameText, frameText]
  simp

/-- Neither the header lines nor the body have a zero character. -/
theorem zero_not_mem_dropLast (h : Composed frame lines body) : '\x00' ∉ frame.dropLast := by
  rw [h.dropLast_eq]
  intro hMem
  rcases List.mem_append.1 hMem with hLines | hBody
  · obtain ⟨line, hLine, hChar⟩ := List.mem_flatMap.1 hLines
    rcases List.mem_append.1 hChar with hChar | hChar
    · exact (h.singleLine line hLine).2.zero_not_mem hChar
    · exact absurd (List.mem_singleton.1 hChar) (by decide)
  · rcases List.mem_cons.1 hBody with hBreak | hBody
    · exact absurd hBreak (by decide)
    · exact h.zero_not_mem hBody

theorem getLines_eq (h : Composed frame lines body) :
    Cpp.getLines frame.dropLast = lines ++ [] :: Cpp.getLines body := by
  have hLines : ∀ line ∈ lines, '\n' ∉ line :=
    fun line hLine => (h.singleLine line hLine).2.newline_not_mem
  rw [h.dropLast_eq, Cpp.getLines_flatMap hLines, ← List.nil_append ('\n' :: body),
    Cpp.getLines_line List.not_mem_nil]

theorem unambiguous (h : Composed frame lines body) : Unambiguous frame lines body where
  composed := h
  oneZero := by
    rw [h.eq_dropLast, List.count_append, List.count_eq_zero.2 h.zero_not_mem_dropLast]
    rfl
  ends := by rw [h.eq_dropLast, List.getLast?_concat]
  head := by
    have hLines : ∀ line ∈ lines, decide (line ≠ []) = true :=
      fun line hLine => decide_eq_true (h.singleLine line hLine).1
    rw [h.getLines_eq, List.takeWhile_append_of_pos hLines]
    simp
  getLines := h.getLines_eq

/-- The only frames of the server that say `MESSAGE` are those of a broadcast. -/
theorem messageLines (h : Composed frame lines body) (hMessage : lines.head? = some "MESSAGE".toList) :
    MessageLines frame := by
  have hLines := h.getLines_eq
  cases h with
  | message subId id destination content =>
      refine ⟨subId, id, _, _, rfl, ?_, ?_⟩ <;> rw [hLines] <;> rfl
  | connected => exact absurd (Option.some.inj hMessage) (by decide)
  | receipt => exact absurd (Option.some.inj hMessage) (by decide)
  | error => exact absurd (Option.some.inj hMessage) (by decide)
  | errorReceipt => exact absurd (Option.some.inj hMessage) (by decide)

/-- The bytes of a frame: those of its text, none of them zero, and a zero byte. -/
theorem encode_eq (h : Composed frame lines body) :
    StompMsgEncDec.encode frame = StompMsgEncDec.encode frame.dropLast ++ [0] ∧
      0 ∉ StompMsgEncDec.encode frame.dropLast := by
  constructor
  · calc StompMsgEncDec.encode frame
        = StompMsgEncDec.encode (frame.dropLast ++ ['\x00']) := by rw [← h.eq_dropLast]
      _ = StompMsgEncDec.encode frame.dropLast ++ [0] := List.flatMap_append
  · exact fun hZero => h.zero_not_mem_dropLast (Java.zero_mem_encodeUtf8 hZero)

end Composed

/-- However the bytes of composed frames arrive, the client reads these frames. -/
theorem getFrames_composed {frames : List Text}
    (hFrames : ∀ frame ∈ frames, ∃ lines body, Composed frame lines body)
    {socket : List (List UInt8)} (hSocket : socket.flatten = frames.flatMap StompMsgEncDec.encode) :
    ∃ rest, getFrames frames.length socket =
        some (frames.map fun frame => StompMsgEncDec.encode frame.dropLast, rest) ∧
      (getFrameAscii 0 [] rest).1 = false := by
  have hSent : socket.flatten =
      (frames.map fun frame => StompMsgEncDec.encode frame.dropLast).flatMap (· ++ [0]) := by
    rw [hSocket, List.flatMap_map]
    refine List.flatMap_congr fun frame hFrame => ?_
    obtain ⟨lines, body, hComposed⟩ := hFrames frame hFrame
    exact hComposed.encode_eq.1
  have hRead := getFrames_sent (fun bytes hBytes => ?_) hSent
  · rwa [List.length_map] at hRead
  · obtain ⟨frame, hFrame, rfl⟩ := List.mem_map.1 hBytes
    obtain ⟨lines, body, hComposed⟩ := hFrames frame hFrame
    exact hComposed.encode_eq.2

namespace Server

/-- In whatever state the server is, each frame handed out is unambiguous, and those
of any list of them are read off a connection just as they were sent. -/
theorem frames_unambiguous {s : Server} (h : Transition.Reachable StartedSpeaking textStep s) :
    (∀ entry ∈ s.cManager.handed, ∃ lines body, Unambiguous entry.2 lines body ∧
      (lines.head? = some "MESSAGE".toList → MessageLines entry.2)) ∧
    ∀ frames : List Text, (∀ frame ∈ frames, ∃ handler, (handler, frame) ∈ s.cManager.handed) →
      ∀ socket : List (List UInt8), socket.flatten = frames.flatMap StompMsgEncDec.encode →
        ∃ rest, getFrames frames.length socket =
            some (frames.map fun frame => StompMsgEncDec.encode frame.dropLast, rest) ∧
          (getFrameAscii 0 [] rest).1 = false := by
  have hComposes := reachable_composes h
  constructor
  · intro entry hEntry
    obtain ⟨lines, body, hComposed⟩ := hComposes.frames entry hEntry
    exact ⟨lines, body, hComposed.unambiguous, hComposed.messageLines⟩
  · intro frames hFrames socket hSocket
    refine getFrames_composed (fun frame hFrame => ?_) hSocket
    obtain ⟨handler, hHanded⟩ := hFrames frame hFrame
    exact hComposes.frames _ hHanded

/-- A subscriber has been told of a goal. -/
def goalSent : Server := (process 1 "SEND\ndestination:/a\n\ngoal".toList oneSubscriber).2

/-- The server has broadcast a goal. -/
theorem frames_unambiguous_goalSent :
    (∀ entry ∈ goalSent.cManager.handed, ∃ lines body, Unambiguous entry.2 lines body ∧
      (lines.head? = some "MESSAGE".toList → MessageLines entry.2)) ∧
    ∀ frames : List Text,
      (∀ frame ∈ frames, ∃ handler, (handler, frame) ∈ goalSent.cManager.handed) →
      ∀ socket : List (List UInt8), socket.flatten = frames.flatMap StompMsgEncDec.encode →
        ∃ rest, getFrames frames.length socket =
            some (frames.map fun frame => StompMsgEncDec.encode frame.dropLast, rest) ∧
          (getFrameAscii 0 [] rest).1 = false :=
  frames_unambiguous ⟨.new true fun _ => .reply [], [.accept 1,
    .process 1 (connectFrame "meni" "films"),
    .process 1 "SUBSCRIBE\nid:7\ndestination:/a\n\n".toList,
    .process 1 "SEND\ndestination:/a\n\ngoal".toList], ⟨⟨true, _, rfl⟩, nofun⟩, rfl⟩

end Server
end StompGames
