import StompGames.Client.StompProtocol
import StompGames.Server.ConnectionsManager

/-! What the client makes of the body of a `MESSAGE` frame: when each part of its
parser returns, and with what. -/
namespace StompGames.StompClient

open Client Imperative
open Cpp (CppException)

/-- A line with a colon and, after it, a character other than a colon. -/
def HasField (line : Text) : Prop :=
  ∃ name c rest, ':' ∉ name ∧ c ≠ ':' ∧ line = name ++ ':' :: c :: rest

/-- What stands before the first colon. -/
def keyOf (line : Text) : Text := line.takeWhile (· != ':')

/-- What stands between the character after the first colon and the next colon. -/
def valueOf (line : Text) : Text :=
  ((line.dropWhile (· != ':')).drop 2).takeWhile (· != ':')

section
variable {name : Text} (hName : ':' ∉ name)
include hName

theorem keyOf_field (rest : Text) : keyOf (name ++ ':' :: rest) = name :=
  Framing.upTo_append hName rest

theorem valueOf_field (c : Char) (rest : Text) :
    valueOf (name ++ ':' :: c :: rest) = rest.takeWhile (· != ':') := by
  rw [valueOf, List.dropWhile_append_of_pos (Framing.bne_of_not_mem hName)]
  simp

end

theorem split_head (line : Text) : (Cpp.split line ':')[0]? = some (keyOf line) := by
  rw [Cpp.split, Cpp.splitLoop_eq]
  rfl

/-- The second piece of a line, where there is one. -/
theorem split_second (line : Text) : (Cpp.split line ':')[1]? =
    match line.dropWhile (· != ':') with
    | [] => none
    | _ :: rest => some (rest.takeWhile (· != ':')) := by
  rw [Cpp.split, Cpp.splitLoop_eq]
  cases line.dropWhile (· != ':') with
  | nil => rfl
  | cons c rest =>
      dsimp only
      rw [Cpp.splitLoop_eq]
      rfl

/-- The piece that a value is cut out of. -/
theorem split_field {name : Text} (hName : ':' ∉ name) {c : Char} (hc : c ≠ ':') (rest : Text) :
    (Cpp.split (name ++ ':' :: c :: rest) ':')[1]? = some (c :: rest.takeWhile (· != ':')) := by
  rw [split_second, List.dropWhile_append_of_pos (Framing.bne_of_not_mem hName)]
  simp [hc]

theorem hasField_of_second {line piece : Text} (hPiece : (Cpp.split line ':')[1]? = some piece)
    (hLength : 1 ≤ piece.length) : HasField line := by
  rw [split_second] at hPiece
  have hWhole := List.takeWhile_append_dropWhile (p := (· != ':')) (l := line)
  cases hRest : line.dropWhile (· != ':') with
  | nil => simp [hRest] at hPiece
  | cons colon rest =>
      obtain rfl : colon = ':' := by
        have hHead := List.head?_dropWhile_not (· != ':') line
        simpa [hRest] using hHead
      rw [hRest] at hPiece hWhole
      cases rest with
      | nil =>
          obtain rfl : [] = piece := by simpa using hPiece
          simp at hLength
      | cons c rest =>
          refine ⟨line.takeWhile (· != ':'), c, rest, ?_, ?_, hWhole.symm⟩
          · intro hMem
            simpa using List.mem_takeWhile_imp hMem
          · rintro rfl
            obtain rfl : [] = piece := by simpa using hPiece
            simp at hLength

theorem fieldOf_eq_ok_iff {line value : Text} {s t : StompClient} :
    fieldOf line s = (.ok value, t) ↔ t = s ∧ HasField line ∧ value = valueOf line := by
  simp only [fieldOf, Method.bind_eq_ok_iff, Cpp.index_eq_ok_iff, Cpp.substr_eq_ok_iff]
  constructor
  · rintro ⟨piece, u, ⟨rfl, hPiece⟩, rfl, hLength, rfl⟩
    have hField := hasField_of_second hPiece hLength
    obtain ⟨name, c, rest, hName, hc, rfl⟩ := hField
    rw [split_field hName hc] at hPiece
    obtain rfl := Option.some.inj hPiece
    exact ⟨rfl, ⟨name, c, rest, hName, hc, rfl⟩, (valueOf_field hName c rest).symm⟩
  · rintro ⟨rfl, ⟨name, c, rest, hName, hc, rfl⟩, rfl⟩
    exact ⟨_, t, ⟨rfl, split_field hName hc rest⟩, rfl, Nat.succ_le_succ (Nat.zero_le _),
      valueOf_field hName c rest⟩

/-- An indented line of a section that is read as an update. -/
def Update (line : Text) : Prop :=
  line.head? = some ' ' ∧ 4 ≤ line.length ∧ HasField (line.drop 4)

/-- What the updates of a section amount to, read from the first to the last. -/
def updatesOf (lines : List Text) : SortedMap Text Text :=
  lines.foldl (fun updates line => updates.insert (keyOf (line.drop 4)) (valueOf (line.drop 4)))
    .empty

/-- A section ends at the first line that is not indented. -/
theorem readSection_eq_ok_iff {lines entries after : List Text} {s t : StompClient} :
    readSection lines s = (.ok (entries, after), t) ↔ t = s ∧ ∃ indented next rest,
      lines = indented ++ next :: rest ∧ after = next :: rest ∧ next.head? ≠ some ' ' ∧
      (∀ line ∈ indented, line.head? = some ' ' ∧ 4 ≤ line.length) ∧
      entries = indented.map (·.drop 4) := by
  induction lines generalizing entries with
  | nil => simp [readSection]
  | cons line lines ih =>
      by_cases hIndented : line.head? = some ' '
      · simp only [readSection, if_pos hIndented, Method.bind_eq_ok_iff, Cpp.substr_eq_ok_iff,
          Method.pure_eq_ok_iff]
        constructor
        · rintro ⟨entry, u, ⟨rfl, hLength, rfl⟩, ⟨entries', after'⟩, v, hRest, rfl, hSame⟩
          obtain ⟨rfl, rfl⟩ := Prod.mk.inj hSame
          obtain ⟨rfl, indented, next, rest, rfl, rfl, hNext, hAll, rfl⟩ := ih.1 hRest
          refine ⟨rfl, line :: indented, next, rest, rfl, rfl, hNext, ?_, rfl⟩
          exact List.forall_mem_cons.2 ⟨⟨hIndented, hLength⟩, hAll⟩
        · rintro ⟨rfl, indented, next, rest, hLines, rfl, hNext, hAll, rfl⟩
          cases indented with
          | nil =>
              obtain ⟨rfl, -⟩ := List.cons.inj hLines
              exact absurd hIndented hNext
          | cons first indented =>
              obtain ⟨rfl, rfl⟩ := List.cons.inj hLines
              obtain ⟨hFirst, hOthers⟩ := List.forall_mem_cons.1 hAll
              refine ⟨_, t, ⟨rfl, hFirst.2, rfl⟩, (indented.map (·.drop 4), next :: rest), t, ?_,
                rfl, rfl⟩
              exact ih.2 ⟨rfl, indented, next, rest, rfl, rfl, hNext, hOthers, rfl⟩
      · simp only [readSection, if_neg hIndented, Method.pure_eq_ok_iff, Prod.mk.injEq]
        constructor
        · rintro ⟨rfl, rfl, rfl⟩
          exact ⟨rfl, [], line, lines, rfl, rfl, hIndented, nofun, rfl⟩
        · rintro ⟨rfl, indented, next, rest, hLines, rfl, hNext, hAll, rfl⟩
          cases indented with
          | nil =>
              obtain ⟨rfl, rfl⟩ := List.cons.inj hLines
              exact ⟨rfl, rfl, rfl⟩
          | cons first indented =>
              obtain ⟨rfl, -⟩ := List.cons.inj hLines
              exact absurd (hAll _ List.mem_cons_self).1 hIndented

theorem readUpdates_eq_ok_iff {entries : List Text} {updates result : SortedMap Text Text}
    {s t : StompClient} : readUpdates entries updates s = (.ok result, t) ↔ t = s ∧
      (∀ entry ∈ entries, HasField entry) ∧ result = entries.foldl (fun updates entry =>
        updates.insert (keyOf entry) (valueOf entry)) updates := by
  induction entries generalizing updates s with
  | nil =>
      simp only [readUpdates, Method.pure_eq_ok_iff, List.foldl_nil]
      constructor
      · exact fun h => ⟨h.1, nofun, h.2.symm⟩
      · exact fun h => ⟨h.1, h.2.2.symm⟩
  | cons entry rest ih =>
      simp only [readUpdates, Method.bind_eq_ok_iff, Cpp.index_eq_ok_iff, fieldOf_eq_ok_iff, ih,
        split_head, Option.some.injEq, List.forall_mem_cons, List.foldl_cons]
      constructor
      · rintro ⟨key, u, ⟨rfl, rfl⟩, value, v, ⟨rfl, hField, rfl⟩, rfl, hRest, rfl⟩
        exact ⟨rfl, ⟨hField, hRest⟩, rfl⟩
      · rintro ⟨rfl, ⟨hField, hRest⟩, rfl⟩
        exact ⟨_, t, ⟨rfl, rfl⟩, _, t, ⟨rfl, hField, rfl⟩, rfl, hRest, rfl⟩

theorem parseSection_eq_ok_iff {lines after : List Text} {updates : SortedMap Text Text}
    {s t : StompClient} : parseSection lines s = (.ok (updates, after), t) ↔ t = s ∧
      ∃ indented next, lines = indented ++ next :: after ∧ next.head? ≠ some ' ' ∧
        (∀ line ∈ indented, Update line) ∧ updates = updatesOf indented := by
  simp only [parseSection, Method.bind_eq_ok_iff, Method.pure_eq_ok_iff, readUpdates_eq_ok_iff]
  constructor
  · rintro ⟨⟨entries, rest⟩, u, hSection, updates', v, ⟨rfl, hFields, rfl⟩, rfl, hSame⟩
    obtain ⟨rfl, rfl⟩ := Prod.mk.inj hSame
    obtain ⟨rfl, indented, next, rest, rfl, rfl, hNext, hAll, rfl⟩ :=
      readSection_eq_ok_iff.1 hSection
    refine ⟨rfl, indented, next, rfl, hNext, fun line hLine => ?_, ?_⟩
    · obtain ⟨hHead, hLength⟩ := hAll line hLine
      exact ⟨hHead, hLength, hFields _ (List.mem_map_of_mem hLine)⟩
    · rw [List.foldl_map]
      rfl
  · rintro ⟨rfl, indented, next, rfl, hNext, hAll, rfl⟩
    refine ⟨(indented.map (·.drop 4), next :: after), t, ?_, updatesOf indented, t,
      ⟨rfl, ?_, ?_⟩, rfl, rfl⟩
    · exact readSection_eq_ok_iff.2 ⟨rfl, indented, next, after, rfl, rfl, hNext,
        fun line hLine => ⟨(hAll line hLine).1, (hAll line hLine).2.1⟩, rfl⟩
    · intro entry hEntry
      obtain ⟨line, hLine, rfl⟩ := List.mem_map.1 hEntry
      exact (hAll line hLine).2.2
    · rw [List.foldl_map]
      rfl

/-- The lines after the sender's, and the event they are read as. -/
inductive Reports : List Text → Client.Event → Prop where
  | intro {teamA teamB name time heading nextA nextB nextC : Text} {n : Int}
      {general updatesA updatesB rest : List Text}
      (fields : HasField teamA ∧ HasField teamB ∧ HasField name ∧ HasField time)
      (number : Cpp.leadingInt ((valueOf time).dropWhile Cpp.isSpace) = some n ∧
        -2 ^ 31 ≤ n ∧ n < 2 ^ 31)
      (headings : nextA.head? ≠ some ' ' ∧ nextB.head? ≠ some ' ' ∧ nextC.head? ≠ some ' ')
      (updates : (∀ line ∈ general, Update line) ∧ (∀ line ∈ updatesA, Update line) ∧
        ∀ line ∈ updatesB, Update line) :
      Reports (teamA :: teamB :: name :: time :: heading ::
          (general ++ nextA :: (updatesA ++ nextB :: (updatesB ++ nextC :: rest))))
        ⟨valueOf teamA, valueOf teamB, valueOf name, n, updatesOf general, updatesOf updatesA,
          updatesOf updatesB, rest.flatten⟩

theorem parseToEvent_eq_ok_iff {lines : List Text} {e : Client.Event} {s t : StompClient} :
    parseToEvent lines s = (.ok e, t) ↔ t = s ∧ Reports (lines.drop 6) e := by
  simp only [parseToEvent, Method.bind_eq_ok_iff, Method.pure_eq_ok_iff, Cpp.index_eq_ok_iff,
    fieldOf_eq_ok_iff, Cpp.stoi_eq_ok_iff, parseSection_eq_ok_iff, Prod.exists, and_assoc,
    exists_and_left, exists_eq_left]
  constructor
  · rintro ⟨teamA, hTeamA, hA, teamB, hTeamB, hB, name, hNameLine, hName, time, hTimeLine, hTime,
      n, hNumber, hLow, hHigh, _, _, ⟨general, nextA, hGeneral, hNextA, hUpdates, rfl⟩,
      _, _, ⟨updatesA, nextB, rfl, hNextB, hUpdatesA, rfl⟩,
      _, rest, ⟨updatesB, nextC, rfl, hNextC, hUpdatesB, rfl⟩, hSame, rfl⟩
    refine ⟨hSame, ?_⟩
    have hLength : 10 < lines.length := by
      by_contra hShort
      rw [List.drop_eq_nil_of_le (by omega)] at hGeneral
      simp at hGeneral
    have hNext : ∀ {i : Nat} {line : Text}, lines[i]? = some line →
        lines.drop i = line :: lines.drop (i + 1) := by
      intro i line hLine
      rw [List.drop_eq_getElem?_toList_append, hLine]
      rfl
    have hDrop : lines.drop 6 = teamA :: teamB :: name :: time :: lines[10] :: lines.drop 11 := by
      rw [hNext hTeamA, hNext hTeamB, hNext hNameLine, hNext hTimeLine,
        hNext (List.getElem?_eq_getElem hLength)]
    rw [hDrop, hGeneral]
    exact .intro ⟨hA, hB, hName, hTime⟩ ⟨hNumber, hLow, hHigh⟩ ⟨hNextA, hNextB, hNextC⟩
      ⟨hUpdates, hUpdatesA, hUpdatesB⟩
  · rintro ⟨rfl, hReports⟩
    generalize hBody : lines.drop 6 = body at hReports
    have hLine : ∀ j, lines[6 + j]? = body[j]? := fun j => by rw [← hBody, List.getElem?_drop]
    have hRest : lines.drop 11 = body.drop 5 := by rw [← hBody, List.drop_drop]
    cases hReports with
    | @intro teamA teamB name time heading nextA nextB nextC n general updatesA updatesB rest
        fields number headings updates =>
        obtain ⟨hA, hB, hName, hTime⟩ := fields
        obtain ⟨hNextA, hNextB, hNextC⟩ := headings
        obtain ⟨hGeneral, hUpdatesA, hUpdatesB⟩ := updates
        exact ⟨teamA, hLine 0, hA, teamB, hLine 1, hB, name, hLine 2, hName, time, hLine 3, hTime,
          n, number.1, number.2.1, number.2.2, _, _, ⟨general, nextA, hRest, hNextA, hGeneral, rfl⟩,
          _, _, ⟨updatesA, nextB, rfl, hNextB, hUpdatesA, rfl⟩,
          _, rest, ⟨updatesB, nextC, rfl, hNextC, hUpdatesB, rfl⟩, rfl, rfl⟩

/-- A `MESSAGE` frame as the client reads it, without the zero character. -/
def messageText (subId : Int) (id channel body : Text) : Text :=
  "MESSAGE\nsubscription:".toList ++ Decimal.decimal subId ++ "\nmessage-id:".toList ++ id ++
    "\ndestination:".toList ++ channel ++ "\n\n".toList ++ body

theorem messageFrame_eq (subId : Int) (id channel body : Text) :
    ConnectionsManager.messageFrame subId id channel body =
      messageText subId id channel body ++ ['\x00'] := rfl

theorem newline_not_mem_line {name value : Text} (hName : '\n' ∉ name) (hValue : '\n' ∉ value) :
    '\n' ∉ name ++ value := by
  intro hMem
  rcases List.mem_append.1 hMem with hMem | hMem
  · exact hName hMem
  · exact hValue hMem

section
variable {id channel : Text} (hId : '\n' ∉ id) (hChannel : '\n' ∉ channel) (subId : Int)
  (body : Text)
include hId hChannel

/-- The header lines, the empty line, and the lines of the body. -/
theorem getLines_messageText : Cpp.getLines (messageText subId id channel body) =
    "MESSAGE".toList :: ("subscription:".toList ++ Decimal.decimal subId) ::
      ("message-id:".toList ++ id) :: ("destination:".toList ++ channel) :: [] ::
      Cpp.getLines body := by
  have hShape : ∀ p p' q r : Text, p = "MESSAGE".toList ++ '\n' :: "subscription:".toList →
      p' = '\n' :: "message-id:".toList → q = '\n' :: "destination:".toList → r = ['\n', '\n'] →
      p ++ Decimal.decimal subId ++ p' ++ id ++ q ++ channel ++ r ++ body =
        "MESSAGE".toList ++ '\n' :: (("subscription:".toList ++ Decimal.decimal subId) ++ '\n' ::
          (("message-id:".toList ++ id) ++ '\n' ::
            (("destination:".toList ++ channel) ++ '\n' :: ([] ++ '\n' :: body)))) := by
    rintro _ _ _ _ rfl rfl rfl rfl
    simp only [List.append_assoc, List.cons_append, List.nil_append]
  unfold messageText
  rw [hShape _ _ _ _ (by simp) (by simp) (by simp) (by simp), Cpp.getLines_line (by simp),
    Cpp.getLines_line, Cpp.getLines_line, Cpp.getLines_line, Cpp.getLines_line List.not_mem_nil]
  · exact newline_not_mem_line (by simp) hChannel
  · exact newline_not_mem_line (by simp) hId
  · exact newline_not_mem_line (by simp) (Decimal.not_mem_decimal (by decide) (by decide))

/-- What the listening thread does with a `MESSAGE` frame. -/
theorem parseResponse_message (env : Env) (s : StompClient) :
    parseResponse env (some (messageText subId id channel body)) s =
      (do
        let username ← fieldOf (← Cpp.index (Cpp.getLines body) 0)
        let s ← get
        if username ≠ s.protocol.username then do
          let game ← fieldOf ("destination:".toList ++ channel)
          let e ← parseToEvent (Cpp.getLines (messageText subId id channel body))
          addUpdate env game username e
        else pure () : Method CppException StompClient Unit) s := by
  have hType : Cpp.substr (messageText subId id channel body) 0
      (Cpp.findFrom '\n' 0 (messageText subId id channel body)) s = (.ok "MESSAGE".toList, s) := by
    rfl
  have hLines := getLines_messageText hId hChannel subId body
  have hSender : Cpp.index (Cpp.getLines (messageText subId id channel body)) 5 s =
      Cpp.index (Cpp.getLines body) 0 s := by
    rw [hLines]
    rfl
  have hDest : ∀ t : StompClient, Cpp.index (Cpp.getLines (messageText subId id channel body)) 3 t =
      (.ok ("destination:".toList ++ channel), t) := by
    intro t
    rw [hLines]
    rfl
  have hOther : "MESSAGE".toList ≠ "ERROR".toList ∧ "MESSAGE".toList ≠ "CONNECTED".toList ∧
      "MESSAGE".toList ≠ "RECEIPT".toList := by decide
  simp only [parseResponse, Method.bind_apply, hType, if_neg hOther.1, if_neg hOther.2.1,
    if_neg hOther.2.2, if_true, hSender, Method.get_apply, Method.ite_apply, hDest]

end

end StompGames.StompClient
