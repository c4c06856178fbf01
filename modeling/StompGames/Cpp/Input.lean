import StompGames.Cpp.Strings
import StompGames.Java.Utf8

/-! What the client reads: the lines that are typed, and the bytes of its socket. Both
arrive in a `std::string`, which holds bytes. It is a `Text` with one character below 256
for each byte. -/
namespace StompGames.Cpp

/-- `std::cin`: what is still to come of it, and whether `good()` holds. Nothing in the
client clears a stream that has failed or has come to its end. -/
structure IStream where
  rest : Text
  good : Bool
  deriving DecidableEq

/-- The loop of `getline`, with room for so many characters. The line break is looked for
before the room is. -/
def getlineLoop : Nat → Text → Text × Text
  | _, [] => ([], [])
  | 0, rest => ([], rest)
  | room + 1, c :: rest =>
      if c = '\n' then ([], c :: rest)
      else (c :: (getlineLoop room rest).1, (getlineLoop room rest).2)

/-- `cin.getline(buf, n)`: what it stores before the zero that ends it. A line that does
not fit is cut, and the stream fails. -/
def IStream.getline (n : Nat) (cin : IStream) : Text × IStream :=
  if !cin.good then ([], cin)
  else
    match getlineLoop (n - 1) cin.rest with
    | (stored, []) => (stored, ⟨[], false⟩)
    | (stored, c :: rest) =>
        if c = '\n' then (stored, ⟨rest, true⟩) else (stored, ⟨c :: rest, false⟩)

/-- `std::string line(buf)`, which ends at the first zero. -/
def cString (buf : Text) : Text := Framing.upTo '\x00' buf

theorem cString_eq {buf : Text} (h : '\x00' ∉ buf) : cString buf = buf :=
  List.takeWhile_eq_self_iff.2 (Framing.bne_of_not_mem h)

theorem getlineLoop_append {line : Text} (hLine : '\n' ∉ line) {room : Nat}
    (hRoom : line.length ≤ room) (rest : Text) :
    getlineLoop room (line ++ '\n' :: rest) = (line, '\n' :: rest) := by
  induction line generalizing room with
  | nil => cases room <;> rfl
  | cons c line ih =>
      obtain ⟨hFirst, hOthers⟩ := List.ne_and_not_mem_of_not_mem_cons hLine
      cases room with
      | zero => exact absurd hRoom (Nat.not_succ_le_zero _)
      | succ room =>
          have hLoop := ih hOthers (Nat.le_of_succ_le_succ hRoom)
          rw [List.cons_append, getlineLoop, if_neg (Ne.symm hFirst), hLoop]

/-- A line that fits is read as it was typed, and the next one is next. -/
theorem getline_line {line : Text} (hLine : '\n' ∉ line) {n : Nat} (hFits : line.length < n)
    (rest : Text) :
    IStream.getline n ⟨line ++ '\n' :: rest, true⟩ = (line, ⟨rest, true⟩) := by
  have hLoop := getlineLoop_append hLine (Nat.le_sub_one_of_lt hFits) rest
  simp only [IStream.getline, Bool.not_true, Bool.false_eq_true, if_false, hLoop, if_true]

theorem getlineLoop_cut {line : Text} (hLine : '\n' ∉ line) {room : Nat}
    (hRoom : room ≤ line.length) (rest : Text) :
    getlineLoop room (line ++ rest) = (line.take room, line.drop room ++ rest) := by
  induction line generalizing room with
  | nil =>
      obtain rfl : room = 0 := Nat.le_zero.1 hRoom
      cases rest <;> rfl
  | cons c line ih =>
      obtain ⟨hFirst, hOthers⟩ := List.ne_and_not_mem_of_not_mem_cons hLine
      cases room with
      | zero => rfl
      | succ room =>
          have hLoop := ih hOthers (Nat.le_of_succ_le_succ hRoom)
          rw [List.cons_append, getlineLoop, if_neg (Ne.symm hFirst), hLoop]
          rfl

/-- A line that does not fit is cut, and the stream fails: all that is read after it are
empty lines. -/
theorem getline_cut {line : Text} (hLine : '\n' ∉ line) {n : Nat} (hLong : n ≤ line.length)
    (hSome : 0 < n) (rest : Text) : ∃ cin, cin.good = false ∧
      IStream.getline n ⟨line ++ '\n' :: rest, true⟩ = (line.take (n - 1), cin) ∧
      ∀ m, cin.getline m = ([], cin) := by
  have hLess : n - 1 < line.length := by omega
  have hLoop := getlineLoop_cut hLine hLess.le ('\n' :: rest)
  obtain ⟨c, others, hDrop⟩ := List.exists_cons_of_ne_nil
    (fun hNone => hLess.not_ge (List.drop_eq_nil_iff.1 hNone))
  have hKept : c ≠ '\n' := fun hSame =>
    hLine (List.mem_of_mem_drop (hSame ▸ hDrop ▸ List.mem_cons_self))
  rw [hDrop, List.cons_append] at hLoop
  refine ⟨⟨c :: (others ++ '\n' :: rest), false⟩, rfl, ?_, fun m => rfl⟩
  simp only [IStream.getline, Bool.not_true, Bool.false_eq_true, if_false, hLoop, if_neg hKept]

/-- The string of these bytes. -/
def ofBytes (bytes : List UInt8) : Text := bytes.map fun b => Char.ofNat b.toNat

theorem toNat_ofByte (b : UInt8) : (Char.ofNat b.toNat).toNat = b.toNat := by
  have hByte := b.toNat_lt
  have hValid : b.toNat.isValidChar := Or.inl (by omega)
  rw [Char.ofNat, dif_pos hValid]
  rfl

/-- The string that holds a text in UTF-8. -/
def utf8 (text : Text) : Text := ofBytes (Java.encodeUtf8 text)

theorem utf8_append (text rest : Text) : utf8 (text ++ rest) = utf8 text ++ utf8 rest := by
  rw [utf8, utf8, utf8, Java.encodeUtf8, List.flatMap_append, ofBytes, List.map_append]
  rfl

theorem utf8_cons (c : Char) (rest : Text) : utf8 (c :: rest) = utf8 [c] ++ utf8 rest :=
  utf8_append [c] rest

/-- ASCII characters are their own bytes. -/
theorem utf8_singleton {c : Char} (h : c.toNat < 0x80) : utf8 [c] = [c] := by
  have hByte := Java.utf8EncodeChar_ascii h
  have hValue : (UInt8.ofNat c.toNat).toNat = c.toNat := Java.toNat_byte (by omega)
  rw [utf8, Java.encodeUtf8, List.flatMap_singleton, hByte, ofBytes, List.map_singleton, hValue,
    Char.ofNat_toNat]

theorem utf8_of_ascii {text : Text} (h : ∀ c ∈ text, c.toNat < 0x80) : utf8 text = text := by
  induction text with
  | nil => rfl
  | cons c rest ih =>
      obtain ⟨hFirst, hRest⟩ := List.forall_mem_cons.1 h
      rw [utf8_cons, utf8_singleton hFirst, ih hRest, List.singleton_append]

/-- The same of a text that is spelled out, whose characters are looked through. -/
theorem utf8_literal {text : Text} (h : text.all (·.toNat < 0x80)) : utf8 text = text :=
  utf8_of_ascii fun c hc => by simpa using List.all_eq_true.1 h c hc

/-- The other characters have no ASCII bytes. -/
theorem mem_utf8_iff {c : Char} (h : c.toNat < 0x80) {text : Text} : c ∈ utf8 text ↔ c ∈ text := by
  constructor
  · intro hMem
    obtain ⟨b, hByte, rfl⟩ := List.mem_map.1 hMem
    obtain ⟨d, hd, hb⟩ := List.mem_flatMap.1 hByte
    rw [toNat_ofByte] at h
    have hSame := Java.eq_of_mem_utf8EncodeChar h hb
    rw [hSame, Char.ofNat_toNat]
    exact hd
  · intro hMem
    obtain ⟨before, after, rfl⟩ := List.append_of_mem hMem
    rw [utf8_append, utf8_cons, utf8_singleton h]
    simp

/-- The bytes of a string. -/
def toBytes (text : Text) : List UInt8 := text.map fun c => UInt8.ofNat c.toNat

theorem toBytes_ofBytes (bytes : List UInt8) : toBytes (ofBytes bytes) = bytes := by
  rw [toBytes, ofBytes, List.map_map]
  apply List.map_id''
  intro b
  simp only [Function.comp_apply, toNat_ofByte, UInt8.ofNat_toNat]

/-- The text that a reader of UTF-8 makes of the bytes of a string. -/
def decoded (text : Text) : Text := Java.decodeUtf8 (toBytes text)

theorem decoded_utf8 (text : Text) : decoded (utf8 text) = text := by
  rw [decoded, utf8, toBytes_ofBytes, Java.decodeUtf8_encodeUtf8]

/-- The string holds some text in UTF-8, the one that is read out of it. -/
def IsUtf8 (text : Text) : Prop := utf8 (decoded text) = text

instance (text : Text) : Decidable (IsUtf8 text) := inferInstanceAs (Decidable (_ = _))

namespace IsUtf8
variable {text rest : Text}

theorem of_utf8 (text : Text) : IsUtf8 (utf8 text) := by rw [IsUtf8, decoded_utf8]

theorem literal (h : text.all (·.toNat < 0x80)) : IsUtf8 text := utf8_literal h ▸ of_utf8 text

theorem append (h : IsUtf8 text) (h' : IsUtf8 rest) : IsUtf8 (text ++ rest) := by
  rw [← h, ← h', ← utf8_append]
  exact of_utf8 _

theorem flatMap {α : Type} {items : List α} {f : α → Text} (h : ∀ a ∈ items, IsUtf8 (f a)) :
    IsUtf8 (items.flatMap f) := by
  induction items with
  | nil => exact of_utf8 []
  | cons a items ih =>
      obtain ⟨hFirst, hOthers⟩ := List.forall_mem_cons.1 h
      exact hFirst.append (ih hOthers)

/-- ASCII characters are in a string just where they are in the text that it holds. -/
theorem mem_decoded_iff (h : IsUtf8 text) {c : Char} (hc : c.toNat < 0x80) :
    c ∈ decoded text ↔ c ∈ text := by
  rw [← mem_utf8_iff hc, h]

theorem decoded_append (h : IsUtf8 text) (h' : IsUtf8 rest) :
    decoded (text ++ rest) = decoded text ++ decoded rest := by
  have hWhole : utf8 (decoded text ++ decoded rest) = text ++ rest := by rw [utf8_append, h, h']
  rw [← hWhole, decoded_utf8]

theorem decoded_flatMap {α : Type} {items : List α} {f : α → Text}
    (h : ∀ a ∈ items, IsUtf8 (f a)) :
    decoded (items.flatMap f) = items.flatMap fun a => decoded (f a) := by
  induction items with
  | nil => exact decoded_utf8 []
  | cons a items ih =>
      obtain ⟨hFirst, hOthers⟩ := List.forall_mem_cons.1 h
      rw [List.flatMap_cons, List.flatMap_cons, hFirst.decoded_append (flatMap hOthers), ih hOthers]

theorem map_utf8_decoded {lines : List Text} (h : ∀ line ∈ lines, IsUtf8 line) :
    (lines.map decoded).map utf8 = lines := by
  rw [List.map_map]
  exact (List.map_congr_left h).trans (List.map_id lines)

end IsUtf8

theorem decoded_literal {text : Text} (h : text.all (·.toNat < 0x80)) : decoded text = text := by
  rw [← utf8_literal h, decoded_utf8, utf8_literal h]

theorem utf8_flatten (lines : List Text) : utf8 lines.flatten = (lines.map utf8).flatten := by
  induction lines with
  | nil => rfl
  | cons line lines ih =>
      rw [List.flatten_cons, utf8_append, ih, List.map_cons, List.flatten_cons]

theorem utf8_intercalate {separator : Char} (h : separator.toNat < 0x80) (lines : List Text) :
    utf8 ([separator].intercalate lines) = [separator].intercalate (lines.map utf8) := by
  induction lines with
  | nil => rfl
  | cons line lines ih =>
      cases lines with
      | nil => simp
      | cons next lines =>
          rw [List.intercalate_cons_cons, utf8_append, utf8_append, ih, utf8_singleton h]
          simp only [List.map_cons, List.intercalate_cons_cons]

end StompGames.Cpp
