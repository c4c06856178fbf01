import StompGames.Lib.Decimal
import StompGames.Lib.Framing
import Mathlib.Algebra.Group.Nat.Defs
import Mathlib.Data.List.DropRight

/-! The Java string methods the server calls. A string is its list of
characters. -/
namespace StompGames

/-- Text as the server and the client exchange it, after decoding. -/
abbrev Text := List Char

namespace Java

/-- The line breaks that `\R` matches, `\r\n` apart. -/
def isLineBreak (c : Char) : Bool :=
  c == '\n' || c == '\x0b' || c == '\x0c' || c == '\r' || c == '\x85' ||
    c == '\u2028' || c == '\u2029'

/-- The pieces between line breaks. `piece` is what the current one has so far. -/
def lineBreakPieces (piece : Text) : Text → List Text
  | [] => [piece]
  | '\r' :: '\n' :: rest => piece :: lineBreakPieces [] rest
  | c :: rest =>
      if isLineBreak c then piece :: lineBreakPieces [] rest
      else lineBreakPieces (piece ++ [c]) rest

/-- `message.split("\\R")`. Trailing empty strings are dropped, but a message
without any line break is returned as it is. -/
def splitLines (message : Text) : List Text :=
  match lineBreakPieces [] message with
  | [whole] => [whole]
  | pieces => pieces.rdropWhile List.isEmpty

/-- `line.split(":", 2)`. -/
def splitColon (line : Text) : List Text :=
  match line.dropWhile (· != ':') with
  | [] => [line]
  | _ :: value => [line.takeWhile (· != ':'), value]

/-- Code points of the zeros of the decimal digit blocks that
`Character.digit` knows. -/
def decimalZeros : List Nat :=
  [0x0030, 0x0660, 0x06F0, 0x07C0, 0x0966, 0x09E6, 0x0A66, 0x0AE6, 0x0B66, 0x0BE6, 0x0C66,
    0x0CE6, 0x0D66, 0x0E50, 0x0ED0, 0x0F20, 0x1040, 0x1090, 0x17E0, 0x1810, 0x1946, 0x19D0,
    0x1A80, 0x1A90, 0x1B50, 0x1BB0, 0x1C40, 0x1C50, 0xA620, 0xA8D0, 0xA900, 0xA9D0, 0xAA50,
    0xABF0, 0xFF10]

/-- `Character.digit(c, 10)`. -/
def digit (c : Char) : Option Nat :=
  (decimalZeros.find? fun base => base ≤ c.toNat && c.toNat ≤ base + 9).map fun base =>
    c.toNat - base

/-- The value of a run of digits read on from `value`. -/
def digitsValue (value : Nat) : Text → Option Nat
  | [] => some value
  | c :: rest => (digit c).bind fun d => digitsValue (10 * value + d) rest

/-- A non-empty run of digits. -/
def parseDigits : Text → Option Nat
  | [] => none
  | digits => digitsValue 0 digits

/-- `Integer.parseInt`; `none` is its `NumberFormatException`. -/
def parseInt : Text → Option Int
  | '-' :: rest => (parseDigits rest).bind fun n => if n ≤ 2 ^ 31 then some (-n) else none
  | '+' :: rest => (parseDigits rest).bind fun n => if n < 2 ^ 31 then some n else none
  | digits => (parseDigits digits).bind fun n => if n < 2 ^ 31 then some n else none

/-- A reference to a string object. Only the object of the literal `""` is
`interned` here, which `==` on references can tell apart. -/
structure JString where
  chars : Text
  interned : Bool
  deriving DecidableEq

/-- The literal `""`. -/
def JString.empty : JString := ⟨[], true⟩

/-- `s == ""`, a comparison of references. -/
def JString.isEmptyLiteral (s : JString) : Bool := s.chars.isEmpty && s.interned

/-- A text without line breaks, as it can be evaluated. -/
theorem noBreak_of_any {text : Text} (h : text.any isLineBreak = false) :
    ∀ c ∈ text, isLineBreak c = false :=
  fun c hc => Bool.eq_false_of_not_eq_true (List.any_eq_false.1 h c hc)

/-- A text without line breaks goes on with the current piece. -/
theorem lineBreakPieces_append {line : Text} (hLine : ∀ c ∈ line, isLineBreak c = false)
    (piece rest : Text) :
    lineBreakPieces piece (line ++ rest) = lineBreakPieces (piece ++ line) rest := by
  induction line generalizing piece with
  | nil => rw [List.nil_append, List.append_nil]
  | cons c tail ih =>
      obtain ⟨hBreak, hTail⟩ := List.forall_mem_cons.1 hLine
      have hc : c ≠ '\r' := by
        rintro rfl
        exact absurd hBreak (by decide)
      rw [List.cons_append, lineBreakPieces.eq_3 _ _ _ (fun _ h _ => hc h),
        if_neg (Bool.eq_false_iff.1 hBreak), ih hTail, List.append_assoc, List.singleton_append]

/-- A line without breaks and the newline that ends it give one piece. -/
theorem lineBreakPieces_line {line : Text} (hLine : ∀ c ∈ line, isLineBreak c = false)
    (piece rest : Text) :
    lineBreakPieces piece (line ++ '\n' :: rest) = (piece ++ line) :: lineBreakPieces [] rest := by
  rw [lineBreakPieces_append hLine, lineBreakPieces.eq_3 _ _ _ (fun _ h _ => absurd h (by decide)),
    if_pos (by decide)]

/-- Terminated lines without breaks, the last of them not empty, followed by an
empty line are what `split` returns. -/
theorem splitLines_lines {lines : List Text} {last : Text}
    (hLines : ∀ line ∈ lines ++ [last], ∀ c ∈ line, isLineBreak c = false) (hLast : last ≠ []) :
    splitLines ((lines ++ [last]).flatMap (· ++ ['\n']) ++ ['\n']) = lines ++ [last] := by
  have hPieces : ∀ ls : List Text, (∀ line ∈ ls, ∀ c ∈ line, isLineBreak c = false) →
      lineBreakPieces [] (ls.flatMap (· ++ ['\n']) ++ ['\n']) = ls ++ [[], []] := by
    intro ls hBreaks
    induction ls with
    | nil => rfl
    | cons line rest ih =>
        have hRest := ih (fun l hl => hBreaks l (List.mem_cons_of_mem _ hl))
        have hFirst := lineBreakPieces_line (hBreaks line (List.mem_cons_self ..)) []
          (rest.flatMap (· ++ ['\n']) ++ ['\n'])
        simpa [hRest] using hFirst
  have hNotOne : ∀ whole : Text, lines ++ [last] ++ [[], []] ≠ [whole] := by
    intro whole h
    have := congrArg List.length h
    simp at this
  unfold splitLines
  rw [hPieces _ hLines]
  split
  · next whole hOne => exact absurd hOne (hNotOne whole)
  · rw [show lines ++ [last] ++ [[], ([] : Text)] = (lines ++ [last] ++ [[]]) ++ [[]] by simp,
      List.rdropWhile_concat_pos _ _ _ rfl, List.rdropWhile_concat_pos _ _ _ rfl,
      List.rdropWhile_concat_neg _ _ _ (by simpa using hLast)]

/-- `split(":", 2)` cuts at the first colon. -/
theorem splitColon_append {name : Text} (hName : ':' ∉ name) (value : Text) :
    splitColon (name ++ ':' :: value) = [name, value] := by
  have hAll : ∀ c ∈ name, (c != ':') = true := Framing.bne_of_not_mem hName
  unfold splitColon
  rw [List.dropWhile_append_of_pos hAll, List.takeWhile_append_of_pos hAll]
  simp

theorem digit_of_isDigit {c : Char} (h : c.isDigit) : digit c = some (c.toNat - '0'.toNat) := by
  have hRange : 48 ≤ c.toNat ∧ c.toNat ≤ 57 := by
    simpa [Char.isDigit, Char.le_def, UInt32.le_iff_toNat_le] using h
  unfold digit decimalZeros
  rw [List.find?_cons_of_pos (by simp; omega)]
  rfl

theorem digitsValue_of_isDigit {digits : Text} (h : ∀ c ∈ digits, c.isDigit) (value : Nat) :
    digitsValue value digits = some (Nat.ofDigitChars 10 digits value) := by
  induction digits generalizing value with
  | nil => simp [digitsValue]
  | cons c rest ih =>
      rw [digitsValue, digit_of_isDigit (h c (List.mem_cons_self ..)), Option.bind_some,
        ih (fun d hd => h d (List.mem_cons_of_mem _ hd)), Nat.ofDigitChars_cons]

theorem parseDigits_toDigits (n : Nat) : parseDigits (Nat.toDigits 10 n) = some n := by
  have hDigits : ∀ c ∈ Nat.toDigits 10 n, c.isDigit := fun c hc =>
    Decimal.isDigit_of_mem_toDigits hc
  rw [parseDigits.eq_2 _ (by simp), digitsValue_of_isDigit hDigits]
  simp

/-- Every `int` is read back from its numeral. -/
theorem parseInt_decimal {n : Int} (hLow : -2 ^ 31 ≤ n) (hHigh : n < 2 ^ 31) :
    parseInt (Decimal.decimal n) = some n := by
  unfold Decimal.decimal
  split
  · rw [parseInt, parseDigits_toDigits, Option.bind_some, if_pos (by omega)]
    congr 1
    omega
  · rw [parseInt.eq_3, parseDigits_toDigits, Option.bind_some, if_pos (by omega)]
    · congr 1
      omega
    · intro rest h
      exact absurd (h ▸ List.mem_cons_self : '-' ∈ _) (Decimal.minus_not_mem_toDigits _)
    · intro rest h
      have hPlus : '+' ∈ Nat.toDigits 10 n.natAbs := h ▸ List.mem_cons_self
      exact absurd (Decimal.isDigit_of_mem_toDigits hPlus) (by decide)

/-- `parseInt` returns an `int`. -/
theorem parseInt_range {text : Text} {n : Int} (h : parseInt text = some n) :
    -2 ^ 31 ≤ n ∧ n < 2 ^ 31 := by
  unfold parseInt at h
  split at h <;> obtain ⟨m, -, hValue⟩ := Option.bind_eq_some_iff.1 h <;> split at hValue <;>
    cases hValue <;> omega

/-- Numerals stay on their line. -/
theorem isLineBreak_of_mem_decimal {n : Int} {c : Char} (h : c ∈ Decimal.decimal n) :
    isLineBreak c = false := by
  cases hBreak : isLineBreak c with
  | false => rfl
  | true =>
      have hCases : c = '\n' ∨ c = '\x0b' ∨ c = '\x0c' ∨ c = '\r' ∨ c = '\x85' ∨
          c = '\u2028' ∨ c = '\u2029' := by
        simpa [isLineBreak, or_assoc] using hBreak
      rcases hCases with rfl | rfl | rfl | rfl | rfl | rfl | rfl <;>
        exact absurd h (Decimal.not_mem_decimal (by decide) (by decide))

end Java
end StompGames
