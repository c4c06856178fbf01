import StompGames.Java.Utf8

/-! `bytes.decode("utf-8", errors="replace")`, and what it makes of an encoded text
whose first bytes are missing. -/
namespace StompGames.Python

/-- A second byte that may follow the first of three or four. -/
def continues (b1 b2 : UInt8) : Bool :=
  0xE0 ≤ b1 && b1 ≤ 0xF4 && Java.isContinuation b2 && !(b1 == 0xE0 && b2 < 0xA0) &&
    !(b1 == 0xED && 0x9F < b2) && !(b1 == 0xF0 && b2 < 0x90) && !(b1 == 0xF4 && 0x8F < b2)

/-- How many bytes are replaced together: those that could have begun a character. -/
def malformed : List UInt8 → Nat
  | b1 :: b2 :: rest =>
      if continues b1 b2 then
        match rest with
        | b3 :: _ => if 0xF0 ≤ b1 && Java.isContinuation b3 then 3 else 2
        | [] => 2
      else 1
  | _ => 1

/-- The character that the bytes begin with. -/
def charAt (bytes : List UInt8) : Option Char := bytes.toByteArray.utf8DecodeChar? 0

/-- The bytes after the first `skip`. -/
def decodeFrom : Nat → List UInt8 → Text
  | _, [] => []
  | skip + 1, _ :: rest => decodeFrom skip rest
  | 0, b :: rest =>
      match charAt (b :: rest) with
      | some c => c :: decodeFrom (c.utf8Size - 1) rest
      | none => Java.replacement :: decodeFrom (malformed (b :: rest) - 1) rest

/-- `bytes.decode("utf-8")`, when nothing was cut off before. -/
def decode (bytes : List UInt8) : Text := decodeFrom 0 bytes

example : decode [0x61, 0xED, 0xA0, 0x80, 0xE2, 0x82, 0xF0, 0x9F, 0x98, 0x80, 0xF0, 0x9F] =
    "a\uFFFD\uFFFD\uFFFD\uFFFD😀\uFFFD".toList := by decide +kernel

theorem decodeFrom_eq (skip : Nat) (bytes : List UInt8) :
    decodeFrom skip bytes = decode (bytes.drop skip) := by
  induction skip generalizing bytes with
  | zero => rfl
  | succ skip ih =>
      cases bytes with
      | nil => rfl
      | cons b rest => exact ih rest

theorem decode_ne_nil {bytes : List UInt8} (h : bytes ≠ []) : decode bytes ≠ [] := by
  obtain ⟨b, rest, rfl⟩ := List.exists_cons_of_ne_nil h
  rw [decode, decodeFrom]
  split <;> exact List.cons_ne_nil _ _

theorem charAt_utf8EncodeChar (c : Char) (rest : List UInt8) :
    charAt (String.utf8EncodeChar c ++ rest) = some c := by
  rw [charAt, List.toByteArray_append]
  exact ByteArray.utf8DecodeChar?_utf8EncodeChar_append

/-- A character is read back whatever follows it. -/
theorem decode_utf8EncodeChar (c : Char) (rest : List UInt8) :
    decode (String.utf8EncodeChar c ++ rest) = c :: decode rest := by
  have hSize : 0 < (String.utf8EncodeChar c).length := by
    rw [String.length_utf8EncodeChar]
    exact c.utf8Size_pos
  obtain ⟨b, tail, hBytes⟩ := List.exists_cons_of_length_pos hSize
  have hTail : tail.length = c.utf8Size - 1 := by
    have hLength := congrArg List.length hBytes
    rw [String.length_utf8EncodeChar, List.length_cons] at hLength
    omega
  have hChar := charAt_utf8EncodeChar c rest
  rw [hBytes, List.cons_append] at hChar ⊢
  rw [decode, decodeFrom, hChar]
  dsimp only
  rw [decodeFrom_eq, ← hTail, List.drop_left]

theorem decode_encodeUtf8_append (message : Text) (rest : List UInt8) :
    decode (Java.encodeUtf8 message ++ rest) = message ++ decode rest := by
  induction message with
  | nil => rfl
  | cons c message ih =>
      rw [Java.encodeUtf8, List.flatMap_cons, List.append_assoc, decode_utf8EncodeChar,
        List.cons_append]
      exact congrArg (c :: ·) ih

theorem decode_encodeUtf8 (message : Text) : decode (Java.encodeUtf8 message) = message := by
  have hAll := decode_encodeUtf8_append message []
  rwa [List.append_nil, show decode [] = [] from rfl, List.append_nil] at hAll

theorem continues_range {b : UInt8} (h : ¬b.IsUTF8FirstByte) :
    ¬(decide (0xE0 ≤ b) && decide (b ≤ 0xF4)) = true := by
  have hAll : ∀ n : Fin 256, ¬(UInt8.ofNat n).IsUTF8FirstByte →
      ¬(decide (0xE0 ≤ UInt8.ofNat n) && decide (UInt8.ofNat n ≤ 0xF4)) = true := by
    decide +kernel
  have hByte := hAll ⟨b.toNat, b.toNat_lt⟩
  rw [UInt8.ofNat_toNat] at hByte
  exact hByte h

theorem prefix_of_encodeUtf8 {part message : Text} {rest : List UInt8}
    (h : Java.encodeUtf8 message = Java.encodeUtf8 part ++ rest) : part <+: message := by
  refine ⟨decode rest, ?_⟩
  rw [← decode_encodeUtf8_append, ← h, decode_encodeUtf8]

/-- A byte that begins no character is replaced alone. -/
theorem decode_cons_of_not_first {b : UInt8} (h : ¬b.IsUTF8FirstByte) (rest : List UInt8) :
    decode (b :: rest) = Java.replacement :: decode rest := by
  have hChar : charAt (b :: rest) = none := by
    rw [← Option.not_isSome_iff_eq_none]
    intro hSome
    apply h
    have hFirst := ByteArray.isUTF8FirstByte_of_isSome_utf8DecodeChar? hSome
    rwa [List.getElem_toByteArray] at hFirst
  have hRange := continues_range h
  have hOne : malformed (b :: rest) = 1 := by
    cases rest with
    | nil => rfl
    | cons b2 rest =>
        have hNot : continues b b2 = false := by simp [continues, Bool.eq_false_iff.2 hRange]
        simp [malformed, hNot]
  rw [decode, decodeFrom, hChar]
  dsimp only
  rw [decodeFrom_eq, hOne]
  rfl

/-- What is left of a character is replaced byte by byte. -/
theorem decode_drop_utf8EncodeChar (c : Char) (rest : List UInt8) {left : Nat}
    (h : left < c.utf8Size) :
    decode ((String.utf8EncodeChar c).drop (c.utf8Size - left) ++ rest) =
      List.replicate left Java.replacement ++ decode rest := by
  have hLength : (String.utf8EncodeChar c).length = c.utf8Size := String.length_utf8EncodeChar c
  induction left with
  | zero =>
      rw [Nat.sub_zero, ← hLength, List.drop_length]
      rfl
  | succ left ih =>
      have hMore : c.utf8Size - (left + 1) < (String.utf8EncodeChar c).length := by omega
      have hNext : c.utf8Size - (left + 1) + 1 = c.utf8Size - left := by omega
      have hNotFirst : ¬(String.utf8EncodeChar c)[c.utf8Size - (left + 1)].IsUTF8FirstByte := by
        rw [UInt8.isUTF8FirstByte_getElem_utf8EncodeChar]
        omega
      rw [List.drop_eq_getElem_cons hMore, hNext, List.cons_append,
        decode_cons_of_not_first hNotFirst, ih (by omega), List.replicate_succ]
      rfl

/-- Behind a cut stands the rest of a character, and after it whole ones: of the `i`
characters that the cut reached, `left` bytes are still there. -/
structure Behind (message : Text) (cut i left : Nat) : Prop where
  reached : i ≤ message.length
  bytes : cut + left = (Java.encodeUtf8 (message.take i)).length
  decoded : decode ((Java.encodeUtf8 message).drop cut) =
    List.replicate left Java.replacement ++ message.drop i
  inside : 0 < left → ∃ c ∈ (message.take i).getLast?, left < c.utf8Size

theorem behind_zero (message : Text) : Behind message 0 0 0 where
  reached := Nat.zero_le _
  bytes := rfl
  decoded := decode_encodeUtf8 message
  inside h := absurd h (lt_irrefl 0)

theorem encodeUtf8_cons (c : Char) (message : Text) :
    Java.encodeUtf8 (c :: message) = String.utf8EncodeChar c ++ Java.encodeUtf8 message := rfl

/-- The cut is within the first character. -/
theorem behind_first (c : Char) (message : Text) {cut : Nat} (hPos : 0 < cut)
    (h : cut < c.utf8Size) : Behind (c :: message) cut 1 (c.utf8Size - cut) where
  reached := Nat.succ_le_succ (Nat.zero_le _)
  bytes := by
    change _ = (Java.encodeUtf8 [c]).length
    rw [encodeUtf8_cons, List.length_append, String.length_utf8EncodeChar]
    change _ = c.utf8Size + 0
    omega
  decoded := by
    have hCut : c.utf8Size - (c.utf8Size - cut) = cut := by omega
    have hInside : cut ≤ (String.utf8EncodeChar c).length := by
      rw [String.length_utf8EncodeChar]
      exact h.le
    have hLeft := decode_drop_utf8EncodeChar c (Java.encodeUtf8 message)
      (show c.utf8Size - cut < c.utf8Size by omega)
    rw [hCut, decode_encodeUtf8] at hLeft
    rw [encodeUtf8_cons, List.drop_append_of_le_length hInside, hLeft]
    rfl
  inside _ := ⟨c, rfl, by omega⟩

/-- The cut is behind the first character. -/
theorem Behind.cons {message : Text} {cut i left : Nat} (h : Behind message cut i left)
    (c : Char) : Behind (c :: message) (c.utf8Size + cut) (i + 1) left where
  reached := Nat.succ_le_succ h.reached
  bytes := by
    rw [List.take_succ_cons, encodeUtf8_cons, List.length_append, String.length_utf8EncodeChar,
      ← h.bytes, Nat.add_assoc]
  decoded := by
    rw [encodeUtf8_cons, ← String.length_utf8EncodeChar, List.drop_length_add_append, h.decoded]
    rfl
  inside hLess := by
    obtain ⟨d, hd, hSmall⟩ := h.inside hLess
    refine ⟨d, ?_, hSmall⟩
    rw [List.take_succ_cons, List.getLast?_cons, Option.mem_def.1 hd]
    rfl

theorem exists_behind (message : Text) {cut : Nat} (h : cut ≤ (Java.encodeUtf8 message).length) :
    ∃ i left, Behind message cut i left := by
  induction message generalizing cut with
  | nil =>
      obtain rfl := Nat.le_zero.1 h
      exact ⟨0, 0, behind_zero []⟩
  | cons c message ih =>
      rw [encodeUtf8_cons, List.length_append, String.length_utf8EncodeChar] at h
      by_cases hNone : cut = 0
      · subst hNone
        exact ⟨0, 0, behind_zero _⟩
      by_cases hFirst : cut < c.utf8Size
      · exact ⟨1, _, behind_first c message (Nat.pos_of_ne_zero hNone) hFirst⟩
      · have hCut : c.utf8Size + (cut - c.utf8Size) = cut := by omega
        obtain ⟨i, left, hBehind⟩ := @ih (cut - c.utf8Size) (by omega)
        exact ⟨i + 1, left, hCut ▸ hBehind.cons c⟩

theorem length_encodeUtf8_replicate (n : Nat) :
    (Java.encodeUtf8 (List.replicate n Java.replacement)).length = 3 * n := by
  induction n with
  | zero => rfl
  | succ n ih =>
      rw [List.replicate_succ, Java.encodeUtf8, List.flatMap_cons, List.length_append]
      change 3 + (Java.encodeUtf8 (List.replicate n Java.replacement)).length = _
      rw [ih]
      omega

/-- Only the text's own replacement characters can stand in for what is missing: the
first one without its first two bytes, or the first two without their first four. -/
theorem decode_drop_eq_iff {message : Text} {cut : Nat} (hCut : 0 < cut)
    (h : cut ≤ (Java.encodeUtf8 message).length) :
    decode ((Java.encodeUtf8 message).drop cut) = message ↔
      cut = 2 ∧ [Java.replacement] <+: message ∨
      cut = 4 ∧ [Java.replacement, Java.replacement] <+: message := by
  constructor
  · intro hSame
    obtain ⟨i, left, hLe, hLength, hDecode, hLast⟩ := exists_behind message h
    rw [hDecode] at hSame
    have hCount := congrArg List.length hSame
    rw [List.length_append, List.length_replicate, List.length_drop] at hCount
    obtain rfl : left = i := by omega
    have hTake : message.take left = List.replicate left Java.replacement := by
      rw [← hSame, List.take_left' (List.length_replicate)]
    have hPrefix : List.replicate left Java.replacement <+: message := ⟨_, hSame⟩
    rw [hTake, length_encodeUtf8_replicate] at hLength
    have hPos : 0 < left := by omega
    obtain ⟨c, hc, hSmall⟩ := hLast hPos
    have hReplacement : c = Java.replacement := by
      rw [hTake] at hc
      exact List.eq_of_mem_replicate (List.mem_of_getLast? hc)
    have hThree : Java.replacement.utf8Size = 3 := by decide
    rw [hReplacement, hThree] at hSmall
    rcases (by omega : left = 1 ∨ left = 2) with rfl | rfl
    · exact Or.inl ⟨by omega, hPrefix⟩
    · exact Or.inr ⟨by omega, hPrefix⟩
  · have hNotFirst (b : UInt8) (hb : b = 0xBD ∨ b = 0xBF) : ¬b.IsUTF8FirstByte := by
      rcases hb with rfl | rfl <;> decide
    rintro (⟨rfl, rest, rfl⟩ | ⟨rfl, rest, rfl⟩)
    · change decode (0xBD :: Java.encodeUtf8 rest) = _
      rw [decode_cons_of_not_first (hNotFirst _ (Or.inl rfl)), decode_encodeUtf8]
      rfl
    · change decode (0xBF :: 0xBD :: Java.encodeUtf8 rest) = _
      rw [decode_cons_of_not_first (hNotFirst _ (Or.inr rfl)),
        decode_cons_of_not_first (hNotFirst _ (Or.inl rfl)), decode_encodeUtf8]
      rfl

end StompGames.Python
