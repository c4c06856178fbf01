import StompGames.Java.Strings
import StompGames.Lib.Method

/-! The C++ strings of the client: what it uses of `std::string`, and its own
functions that take text apart. -/
namespace StompGames.Cpp

open Imperative

/-- What the client's code throws, and the accesses past the end of a vector or
string that C++ does not check. -/
inductive CppException where
  | runtime_error (what : Text)
  | invalid_argument (what : Text)
  | out_of_range (what : Text)
  | unchecked
  deriving DecidableEq

/-- `v[i]` of a vector. -/
def index {σ α : Type} (v : List α) (i : Nat) : Method CppException σ α :=
  match v[i]? with
  | none => throw .unchecked
  | some x => pure x

/-- `s.find(word)`, where `none` is `npos`. -/
def find (word : Text) : Text → Option Nat
  | [] => if word.isEmpty then some 0 else none
  | c :: rest => if word.isPrefixOf (c :: rest) then some 0 else (find word rest).map (· + 1)

/-- `s.find(c, pos)`. -/
def findFrom (c : Char) (pos : Nat) (s : Text) : Option Nat :=
  ((s.drop pos).findIdx? (· == c)).map (· + pos)

/-- `s.substr(pos, count)`, where `none` is `npos`. -/
def substr {σ : Type} (s : Text) (pos : Nat) (count : Option Nat) : Method CppException σ Text :=
  if s.length < pos then
    throw (.out_of_range ("basic_string::substr: __pos (which is ".toList ++
      Decimal.decimal pos ++ ") > this->size() (which is ".toList ++
      Decimal.decimal s.length ++ [')']))
  else match count with
    | none => pure (s.drop pos)
    | some count => pure ((s.drop pos).take count)

/-- `std::isspace` in the locale that a program starts in. -/
def isSpace (c : Char) : Bool :=
  c == ' ' || c == '\t' || c == '\n' || c == '\x0b' || c == '\x0c' || c == '\r'

/-- The sign and the digits at the beginning of a text. -/
def leadingInt (s : Text) : Option Int :=
  match s with
  | '-' :: rest =>
      if (rest.takeWhile Char.isDigit).isEmpty then none
      else some (-(Nat.ofDigitChars 10 (rest.takeWhile Char.isDigit) 0 : Int))
  | '+' :: rest =>
      if (rest.takeWhile Char.isDigit).isEmpty then none
      else some (Nat.ofDigitChars 10 (rest.takeWhile Char.isDigit) 0 : Int)
  | _ =>
      if (s.takeWhile Char.isDigit).isEmpty then none
      else some (Nat.ofDigitChars 10 (s.takeWhile Char.isDigit) 0 : Int)

/-- `std::stoi`. What follows the digits is ignored. -/
def stoi {σ : Type} (s : Text) : Method CppException σ Int :=
  match leadingInt (s.dropWhile isSpace) with
  | none => throw (.invalid_argument "stoi".toList)
  | some n =>
      if -2 ^ 31 ≤ n ∧ n < 2 ^ 31 then pure n else throw (.out_of_range "stoi".toList)

/-- The number that a text begins with, where it is an `int`. -/
def intOf (s : Text) : Option Int :=
  (leadingInt (s.dropWhile isSpace)).filter fun n => -2 ^ 31 ≤ n ∧ n < 2 ^ 31

/-- The loop of `split`: `cur` is the piece read so far. -/
def splitLoop (splitBy : Char) (cur : Text) : Text → List Text
  | [] => [cur]
  | c :: rest =>
      if c = splitBy then cur :: splitLoop splitBy [] rest
      else splitLoop splitBy (cur ++ [c]) rest

/-- `split(input, splitBy)`. A separator at the end has no piece behind it. -/
def split (input : Text) (splitBy : Char) : List Text := splitLoop splitBy [] input

/-- `getLines(str)`, the same with the line break as separator. -/
def getLines (str : Text) : List Text := splitLoop '\n' [] str

/-- `parseCommand(input)`, the same with the blank as separator: two blanks have an empty word
between them. -/
def parseCommand (input : Text) : List Text := splitLoop ' ' [] input

theorem splitLoop_of_not_mem {splitBy : Char} {piece : Text} (h : splitBy ∉ piece) (cur : Text) :
    splitLoop splitBy cur piece = [cur ++ piece] := by
  induction piece generalizing cur with
  | nil => simp [splitLoop]
  | cons c rest ih =>
      rw [splitLoop, if_neg (by rintro rfl; exact h List.mem_cons_self),
        ih (fun hMem => h (List.mem_cons_of_mem _ hMem))]
      simp

/-- The first piece ends at the first separator. -/
theorem splitLoop_append {splitBy : Char} {piece : Text} (h : splitBy ∉ piece) (cur rest : Text) :
    splitLoop splitBy cur (piece ++ splitBy :: rest) =
      (cur ++ piece) :: splitLoop splitBy [] rest := by
  induction piece generalizing cur with
  | nil => simp [splitLoop]
  | cons c tail ih =>
      rw [List.cons_append, splitLoop, if_neg (by rintro rfl; exact h List.mem_cons_self),
        ih (fun hMem => h (List.mem_cons_of_mem _ hMem))]
      simp

/-- The first piece, and the pieces of what follows its separator. -/
theorem splitLoop_eq (splitBy : Char) (cur text : Text) :
    splitLoop splitBy cur text = (cur ++ text.takeWhile (· != splitBy)) ::
      match text.dropWhile (· != splitBy) with
      | [] => []
      | _ :: rest => splitLoop splitBy [] rest := by
  induction text generalizing cur with
  | nil => simp [splitLoop]
  | cons c rest ih =>
      by_cases hc : c = splitBy
      · simp [splitLoop, hc]
      · rw [splitLoop, if_neg hc, ih]
        simp [hc]

/-- Splitting only drops the separators. -/
theorem splitLoop_flatten (splitBy : Char) (cur text : Text) :
    (splitLoop splitBy cur text).flatten = cur ++ text.filter (· != splitBy) := by
  induction text generalizing cur with
  | nil => simp [splitLoop]
  | cons c rest ih =>
      by_cases hc : c = splitBy
      · simp [splitLoop, hc, ih]
      · simp [splitLoop, hc, ih]

theorem getLines_line {line : Text} (h : '\n' ∉ line) (rest : Text) :
    getLines (line ++ '\n' :: rest) = line :: getLines rest := splitLoop_append h [] rest

theorem getLines_flatMap {lines : List Text} (h : ∀ line ∈ lines, '\n' ∉ line) (rest : Text) :
    getLines (lines.flatMap (· ++ ['\n']) ++ rest) = lines ++ getLines rest := by
  induction lines with
  | nil => rfl
  | cons line lines ih =>
      obtain ⟨hLine, hLines⟩ := List.forall_mem_cons.1 h
      have hShape : (line :: lines).flatMap (· ++ ['\n']) ++ rest =
          line ++ '\n' :: (lines.flatMap (· ++ ['\n']) ++ rest) := by simp
      rw [hShape, getLines_line hLine, ih hLines]
      rfl

theorem split_ne_nil (input : Text) (splitBy : Char) : split input splitBy ≠ [] := by
  have hLoop : ∀ cur, splitLoop splitBy cur input ≠ [] := by
    induction input with
    | nil => exact fun cur => List.cons_ne_nil _ _
    | cons c rest ih =>
        intro cur
        rw [splitLoop]
        split
        · exact List.cons_ne_nil _ _
        · exact ih _
  exact hLoop []

theorem split_of_not_mem {splitBy : Char} {input : Text} (h : splitBy ∉ input) :
    split input splitBy = [input] := splitLoop_of_not_mem h []

/-- A separator makes two pieces. -/
theorem one_lt_length_split {splitBy : Char} {input : Text} (h : splitBy ∈ input) :
    1 < (split input splitBy).length := by
  obtain ⟨before, after, rfl, hFirst⟩ := List.eq_append_cons_of_mem h
  have hRest := List.length_pos_iff.2 (split_ne_nil after splitBy)
  rw [split, splitLoop_append hFirst, List.length_cons]
  exact Nat.succ_lt_succ hRest

/-- A command word and a word after it, as typed. -/
theorem parseCommand_two {word arg : Text} (hWord : ' ' ∉ word) (hArg : ' ' ∉ arg) :
    parseCommand (word ++ ' ' :: arg) = [word, arg] := by
  rw [parseCommand, splitLoop_append hWord, splitLoop_of_not_mem hArg]
  rfl

section
variable {σ α : Type}

theorem index_eq_ok_iff {v : List α} {i : Nat} {x : α} {s t : σ} :
    index v i s = (.ok x, t) ↔ t = s ∧ v[i]? = some x := by
  unfold index
  cases v[i]? with
  | none => simp
  | some y => simp [eq_comm, and_comm]

theorem substr_eq_ok_iff {text part : Text} {pos : Nat} {s t : σ} :
    substr text pos none s = (.ok part, t) ↔ t = s ∧ pos ≤ text.length ∧ part = text.drop pos := by
  unfold substr
  by_cases hLength : text.length < pos
  · simp [hLength]
  · simp [hLength, Nat.not_lt.1 hLength, eq_comm, and_comm]

theorem stoi_eq_ok_iff {text : Text} {n : Int} {s t : σ} :
    stoi text s = (.ok n, t) ↔ t = s ∧ leadingInt (text.dropWhile isSpace) = some n ∧
      -2 ^ 31 ≤ n ∧ n < 2 ^ 31 := by
  unfold stoi
  cases leadingInt (text.dropWhile isSpace) with
  | none => simp
  | some m =>
      by_cases hRange : -2 ^ 31 ≤ m ∧ m < 2 ^ 31
      · simp only [if_pos hRange, Method.pure_eq_ok_iff, Option.some.injEq]
        constructor
        · rintro ⟨rfl, rfl⟩
          exact ⟨rfl, rfl, hRange⟩
        · rintro ⟨rfl, rfl, -⟩
          exact ⟨rfl, rfl⟩
      · simp only [if_neg hRange, Method.throw_apply, Option.some.injEq]
        constructor
        · intro h
          cases h
        · rintro ⟨-, rfl, hIn⟩
          exact absurd hIn hRange

theorem stoi_of_intOf {text : Text} {n : Int} (h : intOf text = some n) (s : σ) :
    stoi text s = (.ok n, s) := by
  obtain ⟨hRead, hRange⟩ := Option.filter_eq_some_iff.1 h
  exact stoi_eq_ok_iff.2 ⟨rfl, hRead, of_decide_eq_true hRange⟩

theorem stoi_of_intOf_none {text : Text} (h : intOf text = none) (s : σ) :
    ∃ e, stoi text s = (.error e, s) ∧ e ≠ .unchecked := by
  unfold stoi
  cases hRead : leadingInt (text.dropWhile isSpace) with
  | none => exact ⟨_, rfl, nofun⟩
  | some n =>
      have hRange : ¬(-2 ^ 31 ≤ n ∧ n < 2 ^ 31) := by
        intro hIn
        rw [intOf, hRead, Option.filter_some, if_pos (decide_eq_true hIn)] at h
        cases h
      simp only [if_neg hRange]
      exact ⟨_, rfl, nofun⟩

/-- What reads from a vector or a string leaves the state as it was. -/
theorem leaves_index {τ : Type} (view : σ → τ) (v : List α) (i : Nat) :
    Method.Leaves view (index v i : Method CppException σ α) := by
  unfold index
  split
  · exact Method.leaves_throw _
  · exact Method.leaves_pure _

theorem leaves_substr {τ : Type} (view : σ → τ) (text : Text) (pos : Nat) (count : Option Nat) :
    Method.Leaves view (substr text pos count) := by
  apply Method.leaves_ite (Method.leaves_throw _)
  cases count with
  | none => exact Method.leaves_pure _
  | some count => exact Method.leaves_pure _

theorem leaves_stoi {τ : Type} (view : σ → τ) (text : Text) : Method.Leaves view (stoi text) := by
  unfold stoi
  split
  · exact Method.leaves_throw _
  · exact Method.leaves_ite (Method.leaves_pure _) (Method.leaves_throw _)

end

theorem leadingInt_decimal (n : Int) : leadingInt (Decimal.decimal n) = some n := by
  have hDigits : ∀ m : Nat, (Nat.toDigits 10 m).takeWhile Char.isDigit = Nat.toDigits 10 m :=
    fun m => List.takeWhile_eq_self_iff.2 fun c hc => Decimal.isDigit_of_mem_toDigits hc
  have hSome : ∀ m : Nat, (Nat.toDigits 10 m).isEmpty = false := fun m => by simp
  have hValue : ∀ m : Nat, Nat.ofDigitChars 10 (Nat.toDigits 10 m) 0 = m :=
    fun m => Nat.ofDigitChars_toDigits (by decide) (by decide)
  unfold Decimal.decimal
  split
  · rw [leadingInt, hDigits, hSome, if_neg Bool.false_ne_true, hValue]
    congr 1
    omega
  · rw [leadingInt.eq_3, hDigits, hSome, if_neg Bool.false_ne_true, hValue]
    · congr 1
      omega
    · intro rest h
      exact absurd (h ▸ List.mem_cons_self : '-' ∈ _) (Decimal.minus_not_mem_toDigits _)
    · intro rest h
      have hPlus : '+' ∈ Nat.toDigits 10 n.natAbs := h ▸ List.mem_cons_self
      exact absurd (Decimal.isDigit_of_mem_toDigits hPlus) (by decide)

/-- Every `int` is read back from its numeral. -/
theorem stoi_decimal {σ : Type} {n : Int} (hLow : -2 ^ 31 ≤ n) (hHigh : n < 2 ^ 31) (s : σ) :
    stoi (Decimal.decimal n) s = (.ok n, s) := by
  have hNoSpace : (Decimal.decimal n).dropWhile isSpace = Decimal.decimal n := by
    rw [List.dropWhile_eq_self_iff]
    intro hPos hSpace
    rcases Decimal.mem_decimal (List.getElem_mem hPos) with hSign | hDigit
    · rw [hSign] at hSpace
      exact absurd hSpace (by decide)
    · revert hSpace hDigit
      generalize (Decimal.decimal n)[0] = c
      intro hSpace hDigit
      have hCases : c = ' ' ∨ c = '\t' ∨ c = '\n' ∨ c = '\x0b' ∨ c = '\x0c' ∨ c = '\r' := by
        simpa [isSpace, or_assoc] using hSpace
      rcases hCases with rfl | rfl | rfl | rfl | rfl | rfl <;> exact absurd hDigit (by decide)
  exact stoi_eq_ok_iff.2 ⟨rfl, by rw [hNoSpace, leadingInt_decimal], hLow, hHigh⟩

end StompGames.Cpp
