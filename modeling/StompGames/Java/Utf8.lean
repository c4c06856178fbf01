import StompGames.Java.Strings

/-! `new String(bytes, StandardCharsets.UTF_8)`. What is not well-formed is
replaced, in pieces that depend on how far it could have been well-formed. -/
namespace StompGames.Java

/-- The character that stands for bytes that are not UTF-8. -/
def replacement : Char := '\uFFFD'

/-- A byte that can only follow another one. -/
def isContinuation (b : UInt8) : Bool := 0x80 ≤ b && b ≤ 0xBF

/-- The last six bits of each continuation byte, after the first byte's own bits. -/
def codePoint (bits : Nat) (continuation : List UInt8) : Nat :=
  continuation.foldl (fun value b => value * 64 + b.toNat % 64) bits

/-- A second byte that cannot follow this first byte of three. -/
def malformed3 (b1 b2 : UInt8) : Bool := (b1 == 0xE0 && b2 < 0xA0) || !isContinuation b2

/-- A second byte that cannot follow this first byte of four. -/
def malformed4 (b1 b2 : UInt8) : Bool :=
  0xF4 < b1 || (b1 == 0xF0 && b2 < 0x90) || (b1 == 0xF4 && 0x8F < b2) || !isContinuation b2

/-- An encoded surrogate is replaced as a whole. -/
def char3 (b1 b2 b3 : UInt8) : Char :=
  let value := codePoint (b1.toNat % 16) [b2, b3]
  if 0xD800 ≤ value && value ≤ 0xDFFF then replacement else Char.ofNat value

/-- `new String(bytes, UTF_8)`. Each longest part that starts like a character and is none
becomes one `replacement`, and the byte that broke it is looked at again. -/
def decodeUtf8 : List UInt8 → Text
  | [] => []
  | b1 :: rest =>
      if b1 < 0x80 then Char.ofNat b1.toNat :: decodeUtf8 rest
      else if 0xC2 ≤ b1 && b1 ≤ 0xDF then
        match rest with
        | [] => [replacement]
        | b2 :: tail =>
            if isContinuation b2 then
              Char.ofNat (codePoint (b1.toNat % 32) [b2]) :: decodeUtf8 tail
            else replacement :: decodeUtf8 (b2 :: tail)
      else if 0xE0 ≤ b1 && b1 ≤ 0xEF then
        match rest with
        | [] => [replacement]
        | [b2] => if malformed3 b1 b2 then replacement :: decodeUtf8 [b2] else [replacement]
        | b2 :: b3 :: tail =>
            if malformed3 b1 b2 then replacement :: decodeUtf8 (b2 :: b3 :: tail)
            else if !isContinuation b3 then replacement :: decodeUtf8 (b3 :: tail)
            else char3 b1 b2 b3 :: decodeUtf8 tail
      else if 0xF0 ≤ b1 && b1 ≤ 0xF7 then
        match rest with
        | [] => [replacement]
        | [b2] => if malformed4 b1 b2 then replacement :: decodeUtf8 [b2] else [replacement]
        | [b2, b3] =>
            if malformed4 b1 b2 then replacement :: decodeUtf8 [b2, b3]
            else if !isContinuation b3 then replacement :: decodeUtf8 [b3]
            else [replacement]
        | b2 :: b3 :: b4 :: tail =>
            if malformed4 b1 b2 then replacement :: decodeUtf8 (b2 :: b3 :: b4 :: tail)
            else if !isContinuation b3 then replacement :: decodeUtf8 (b3 :: b4 :: tail)
            else if !isContinuation b4 then replacement :: decodeUtf8 (b4 :: tail)
            else Char.ofNat (codePoint (b1.toNat % 8) [b2, b3, b4]) :: decodeUtf8 tail
      else replacement :: decodeUtf8 rest

example : decodeUtf8 [0x61, 0xC3, 0xA9, 0xE2, 0x82, 0xAC, 0xED, 0xA0, 0x80, 0xC0] =
    "aé€\uFFFD\uFFFD".toList := by decide +kernel

/-- `message.getBytes(StandardCharsets.UTF_8)`. -/
def encodeUtf8 (message : Text) : List UInt8 := message.flatMap String.utf8EncodeChar

theorem toNat_byte {n : Nat} (h : n < 256) : (UInt8.ofNat n).toNat = n := by
  rw [UInt8.toNat_ofNat']
  exact Nat.mod_eq_of_lt h

/-- A character of ASCII is encoded as itself. -/
theorem utf8EncodeChar_ascii {c : Char} (h : c.toNat < 0x80) :
    String.utf8EncodeChar c = [UInt8.ofNat c.toNat] := by
  have hValue : c.val.toNat ≤ 0x7F := Nat.le_of_lt_succ h
  rw [String.utf8EncodeChar]
  exact if_pos hValue

/-- A byte of ASCII encodes its own character, and is no part of another. -/
theorem eq_of_mem_utf8EncodeChar {c : Char} {b : UInt8} (hb : b.toNat < 0x80)
    (h : b ∈ String.utf8EncodeChar c) : b.toNat = c.toNat := by
  have hHigh : ∀ n, 0x80 ≤ n → n < 256 → b ≠ UInt8.ofNat n := by
    rintro n hLow hByte rfl
    rw [toNat_byte hByte] at hb
    omega
  unfold String.utf8EncodeChar at h
  dsimp only at h
  split at h
  · rw [List.mem_singleton.1 h, toNat_byte (by omega)]
    rfl
  · exfalso
    split at h
    · simp only [List.mem_cons, List.not_mem_nil, or_false] at h
      rcases h with h | h <;> exact hHigh _ (by omega) (by omega) h
    · split at h
      · simp only [List.mem_cons, List.not_mem_nil, or_false] at h
        rcases h with h | h | h <;> exact hHigh _ (by omega) (by omega) h
      · simp only [List.mem_cons, List.not_mem_nil, or_false] at h
        rcases h with h | h | h | h <;> exact hHigh _ (by omega) (by omega) h

/-- Only the zero character is encoded with a zero byte. -/
theorem zero_mem_encodeUtf8 {message : Text} (h : 0 ∈ encodeUtf8 message) : '\x00' ∈ message := by
  obtain ⟨c, hc, hZero⟩ := List.mem_flatMap.1 h
  have hValue : 0 = c.toNat := eq_of_mem_utf8EncodeChar (by decide) hZero
  obtain rfl : c = '\x00' := Char.ext (UInt32.toNat_inj.1 hValue.symm)
  exact hc

theorem between_iff (low high b : UInt8) :
    (decide (low ≤ b) && decide (b ≤ high)) = true ↔
      low.toNat ≤ b.toNat ∧ b.toNat ≤ high.toNat := by
  simp [UInt8.le_iff_toNat_le]

theorem not_ascii {b : UInt8} (h : 0x80 ≤ b.toNat) : ¬b < 0x80 :=
  fun hLess => absurd (UInt8.lt_iff_toNat_lt.1 hLess) (Nat.not_lt.2 h)

theorem decodeUtf8_one {b1 : UInt8} (rest : List UInt8) (h1 : b1.toNat < 0x80) :
    decodeUtf8 (b1 :: rest) = Char.ofNat b1.toNat :: decodeUtf8 rest := by
  rw [decodeUtf8.eq_def]
  exact if_pos (UInt8.lt_iff_toNat_lt.2 h1)

theorem decodeUtf8_two {b1 b2 : UInt8} (rest : List UInt8)
    (h1 : 0xC2 ≤ b1.toNat ∧ b1.toNat ≤ 0xDF) (h2 : isContinuation b2 = true) :
    decodeUtf8 (b1 :: b2 :: rest) =
      Char.ofNat (codePoint (b1.toNat % 32) [b2]) :: decodeUtf8 rest := by
  rw [decodeUtf8.eq_def]
  dsimp only
  rw [if_neg (not_ascii (by omega)), if_pos ((between_iff 0xC2 0xDF b1).2 h1), if_pos h2]

theorem decodeUtf8_three {b1 b2 b3 : UInt8} (rest : List UInt8)
    (h1 : 0xE0 ≤ b1.toNat ∧ b1.toNat ≤ 0xEF) (h2 : malformed3 b1 b2 = false)
    (h3 : isContinuation b3 = true) :
    decodeUtf8 (b1 :: b2 :: b3 :: rest) = char3 b1 b2 b3 :: decodeUtf8 rest := by
  have hTwo : ¬((0xC2 : UInt8).toNat ≤ b1.toNat ∧ b1.toNat ≤ (0xDF : UInt8).toNat) := by
    intro h
    exact absurd (le_trans h1.1 h.2) (by decide)
  rw [decodeUtf8.eq_def]
  dsimp only
  rw [if_neg (not_ascii (by omega)), if_neg (mt (between_iff 0xC2 0xDF b1).1 hTwo),
    if_pos ((between_iff 0xE0 0xEF b1).2 h1)]
  simp [h2, h3]

theorem decodeUtf8_four {b1 b2 b3 b4 : UInt8} (rest : List UInt8)
    (h1 : 0xF0 ≤ b1.toNat ∧ b1.toNat ≤ 0xF7) (h2 : malformed4 b1 b2 = false)
    (h3 : isContinuation b3 = true) (h4 : isContinuation b4 = true) :
    decodeUtf8 (b1 :: b2 :: b3 :: b4 :: rest) =
      Char.ofNat (codePoint (b1.toNat % 8) [b2, b3, b4]) :: decodeUtf8 rest := by
  have hTwo : ¬((0xC2 : UInt8).toNat ≤ b1.toNat ∧ b1.toNat ≤ (0xDF : UInt8).toNat) := by
    intro h
    exact absurd (le_trans h1.1 h.2) (by decide)
  have hThree : ¬((0xE0 : UInt8).toNat ≤ b1.toNat ∧ b1.toNat ≤ (0xEF : UInt8).toNat) := by
    intro h
    exact absurd (le_trans h1.1 h.2) (by decide)
  rw [decodeUtf8.eq_def]
  dsimp only
  rw [if_neg (not_ascii (by omega)), if_neg (mt (between_iff 0xC2 0xDF b1).1 hTwo),
    if_neg (mt (between_iff 0xE0 0xEF b1).1 hThree), if_pos ((between_iff 0xF0 0xF7 b1).2 h1)]
  simp [h2, h3, h4]

/-- The byte that carries six bits of a character. -/
theorem isContinuation_ofNat (n : Nat) : isContinuation (UInt8.ofNat (n % 64 + 0x80)) = true := by
  rw [isContinuation, between_iff, toNat_byte (by omega)]
  have hSix := Nat.mod_lt n (show 0 < 64 by decide)
  constructor
  · exact Nat.le_add_left 128 _
  · exact Nat.add_le_add_right (Nat.le_of_lt_succ hSix) 128

theorem codePoint_cons (bits n : Nat) (continuation : List UInt8) :
    codePoint bits (UInt8.ofNat (n % 64 + 0x80) :: continuation) =
      codePoint (bits * 64 + n % 64) continuation := by
  have hSix : (UInt8.ofNat (n % 64 + 0x80)).toNat % 64 = n % 64 := by
    rw [toNat_byte (by omega)]
    omega
  rw [codePoint, List.foldl_cons, hSix]
  rfl

@[simp] theorem codePoint_nil (bits : Nat) : codePoint bits [] = bits := rfl

theorem decodeUtf8_width1 {v : Nat} (rest : List UInt8) (h : v ≤ 0x7F) :
    decodeUtf8 (UInt8.ofNat v :: rest) = Char.ofNat v :: decodeUtf8 rest := by
  have hFirst : (UInt8.ofNat v).toNat = v := toNat_byte (by omega)
  rw [decodeUtf8_one rest (by omega), hFirst]

theorem decodeUtf8_width2 {v : Nat} (rest : List UInt8) (hLow : 0x7F < v) (hHigh : v ≤ 0x7FF) :
    decodeUtf8 (UInt8.ofNat (v / 64 % 32 + 0xC0) :: UInt8.ofNat (v % 64 + 0x80) :: rest) =
      Char.ofNat v :: decodeUtf8 rest := by
  have hFirst : (UInt8.ofNat (v / 64 % 32 + 0xC0)).toNat = v / 64 + 0xC0 := by
    rw [toNat_byte (by omega)]
    omega
  have hValue : (v / 64 + 0xC0) % 32 * 64 + v % 64 = v := by omega
  rw [decodeUtf8_two rest (by omega) (isContinuation_ofNat v), codePoint_cons, hFirst, hValue,
    codePoint_nil]

theorem decodeUtf8_width3 {v : Nat} (rest : List UInt8) (hLow : 0x7FF < v) (hHigh : v ≤ 0xFFFF)
    (hScalar : v < 0xD800 ∨ 0xDFFF < v) :
    decodeUtf8 (UInt8.ofNat (v / 4096 % 16 + 0xE0) :: UInt8.ofNat (v / 64 % 64 + 0x80) ::
        UInt8.ofNat (v % 64 + 0x80) :: rest) =
      Char.ofNat v :: decodeUtf8 rest := by
  have hFirst : (UInt8.ofNat (v / 4096 % 16 + 0xE0)).toNat = v / 4096 + 0xE0 := by
    rw [toNat_byte (by omega)]
    omega
  have hSecond : (UInt8.ofNat (v / 64 % 64 + 0x80)).toNat = v / 64 % 64 + 0x80 := toNat_byte (by omega)
  have hFormed : malformed3 (UInt8.ofNat (v / 4096 % 16 + 0xE0))
      (UInt8.ofNat (v / 64 % 64 + 0x80)) = false := by
    rw [malformed3, isContinuation_ofNat, Bool.not_true, Bool.or_false, Bool.and_eq_false_imp]
    intro hE0
    have hSame := congrArg UInt8.toNat (eq_of_beq hE0)
    rw [hFirst] at hSame
    change v / 4096 + 0xE0 = 0xE0 at hSame
    rw [decide_eq_false_iff_not, UInt8.lt_iff_toNat_lt, hSecond]
    change ¬v / 64 % 64 + 0x80 < 0xA0
    omega
  have hValue : ((v / 4096 + 0xE0) % 16 * 64 + v / 64 % 64) * 64 + v % 64 = v := by omega
  rw [decodeUtf8_three rest (by omega) hFormed (isContinuation_ofNat v), char3, codePoint_cons,
    codePoint_cons, hFirst, hValue, codePoint_nil]
  have hNoSurrogate : ¬(decide (0xD800 ≤ v) && decide (v ≤ 0xDFFF)) = true := by
    rw [Bool.and_eq_true, decide_eq_true_eq, decide_eq_true_eq]
    omega
  rw [if_neg hNoSurrogate]

theorem decodeUtf8_width4 {v : Nat} (rest : List UInt8) (hLow : 0xFFFF < v) (hHigh : v < 0x110000) :
    decodeUtf8 (UInt8.ofNat (v / 262144 % 8 + 0xF0) :: UInt8.ofNat (v / 4096 % 64 + 0x80) ::
        UInt8.ofNat (v / 64 % 64 + 0x80) :: UInt8.ofNat (v % 64 + 0x80) :: rest) =
      Char.ofNat v :: decodeUtf8 rest := by
  have hFirst : (UInt8.ofNat (v / 262144 % 8 + 0xF0)).toNat = v / 262144 + 0xF0 := by
    rw [toNat_byte (by omega)]
    omega
  have hSecond : (UInt8.ofNat (v / 4096 % 64 + 0x80)).toNat = v / 4096 % 64 + 0x80 := toNat_byte (by omega)
  have hFormed : malformed4 (UInt8.ofNat (v / 262144 % 8 + 0xF0))
      (UInt8.ofNat (v / 4096 % 64 + 0x80)) = false := by
    rw [malformed4, isContinuation_ofNat, Bool.not_true, Bool.or_false, Bool.or_eq_false_iff,
      Bool.or_eq_false_iff, Bool.and_eq_false_imp, Bool.and_eq_false_imp, decide_eq_false_iff_not,
      decide_eq_false_iff_not, decide_eq_false_iff_not, UInt8.lt_iff_toNat_lt,
      UInt8.lt_iff_toNat_lt, UInt8.lt_iff_toNat_lt, hFirst, hSecond]
    refine ⟨⟨?_, fun hF0 => ?_⟩, fun hF4 => ?_⟩
    · change ¬0xF4 < v / 262144 + 0xF0
      omega
    · have hSame := congrArg UInt8.toNat (eq_of_beq hF0)
      rw [hFirst] at hSame
      change v / 262144 + 0xF0 = 0xF0 at hSame
      change ¬v / 4096 % 64 + 0x80 < 0x90
      omega
    · have hSame := congrArg UInt8.toNat (eq_of_beq hF4)
      rw [hFirst] at hSame
      change v / 262144 + 0xF0 = 0xF4 at hSame
      change ¬0x8F < v / 4096 % 64 + 0x80
      omega
  have hValue : (((v / 262144 + 0xF0) % 8 * 64 + v / 4096 % 64) * 64 + v / 64 % 64) * 64 + v % 64 =
      v := by omega
  rw [decodeUtf8_four rest (by omega) hFormed (isContinuation_ofNat _) (isContinuation_ofNat v),
    codePoint_cons, codePoint_cons, codePoint_cons, hFirst, hValue, codePoint_nil]

/-- A character is read back whatever follows it. -/
theorem decodeUtf8_utf8EncodeChar (c : Char) (rest : List UInt8) :
    decodeUtf8 (String.utf8EncodeChar c ++ rest) = c :: decodeUtf8 rest := by
  have hScalar : c.val.toNat < 0xD800 ∨ 0xDFFF < c.val.toNat ∧ c.val.toNat < 0x110000 := c.valid
  have hSame : Char.ofNat c.val.toNat = c := Char.ofNat_toNat c
  rw [String.utf8EncodeChar]
  generalize c.val.toNat = v at hScalar hSame ⊢
  split
  · rw [List.singleton_append, decodeUtf8_width1 rest (by assumption), hSame]
  · split
    · simp only [List.cons_append, List.nil_append]
      rw [decodeUtf8_width2 rest (by omega) (by assumption), hSame]
    · split
      · simp only [List.cons_append, List.nil_append]
        rw [decodeUtf8_width3 rest (by omega) (by assumption) (by omega), hSame]
      · simp only [List.cons_append, List.nil_append]
        rw [decodeUtf8_width4 rest (by omega) (by omega), hSame]

/-- Every text survives its encoding. -/
theorem decodeUtf8_encodeUtf8 (message : Text) : decodeUtf8 (encodeUtf8 message) = message := by
  induction message with
  | nil => rfl
  | cons c rest ih =>
      rw [encodeUtf8, List.flatMap_cons, decodeUtf8_utf8EncodeChar]
      exact congrArg (c :: ·) ih

end StompGames.Java
