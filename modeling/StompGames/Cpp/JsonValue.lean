import StompGames.Cpp.JsonReader

/-! What the client uses of a value of `json.hpp`: `operator[]` with a key, the conversions to a
string and to an `int`, the two kinds of loops over it, and `dump`. -/
namespace StompGames.Cpp

open Json (SpellsChar SpellsString SpellsToken Spells Digits IsNumeral Delimited)

variable {F : Type}

/-- `type_name()`, which does not tell an integer from a float. -/
def typeName : Json F → Text
  | .null => "null".toList
  | .object _ => "object".toList
  | .array _ => "array".toList
  | .string _ => "string".toList
  | .boolean _ => "boolean".toList
  | .integer _ | .float _ => "number".toList

/-- A `type_error`. Who catches it asks for no more than its text. -/
def typeError (id : Nat) (what : Text) : CppException :=
  .runtime_error ("[json.exception.type_error.".toList ++ Decimal.decimal id ++ "] ".toList ++ what)

/-- `j[key]`. A key that is not there is added with `null`. -/
def operatorBrackets (key : Text) : Json F → Except CppException (Json F)
  | .null => .ok .null
  | .object members => .ok (((members.find? fun member => member.1 = key).map Prod.snd).getD .null)
  | j => .error (typeError 305
      ("cannot use operator[] with a string argument with ".toList ++ typeName j))

/-- `get<std::string>()`: any value that is no string is a `type_error`. -/
def getString : Json F → Except CppException Text
  | .string s => .ok s
  | j => .error (typeError 302 ("type must be string, but is ".toList ++ typeName j))

/-- An integer is cut to 32 bits. -/
def getInt (floats : Floats F) : Json F → Except CppException Int
  | .integer n => .ok (Int.bmod n (2 ^ 32))
  | .float x => match floats.toInt x with
      | some n => .ok n.1
      | none => .error .unchecked
  | .boolean b => .ok (if b then 1 else 0)
  | j => .error (typeError 302 ("type must be number, but is ".toList ++ typeName j))

/-- `for (auto &x : j)`. -/
def elements : Json F → List (Json F)
  | .null => []
  | .array items => items
  | .object members => members.map Prod.snd
  | j => [j]

/-- `j.items()`. The keys of an array are its indexes, and that of a single value is empty. -/
def items : Json F → List (Text × Json F)
  | .null => []
  | .array items => items.zipIdx.map fun item => (Decimal.decimal item.2, item.1)
  | .object members => members
  | j => [([], j)]

/-- `dump_escaped` of one character. -/
def dumpChar (c : Char) : Text :=
  if c = '\x08' then "\\b".toList
  else if c = '\t' then "\\t".toList
  else if c = '\n' then "\\n".toList
  else if c = '\x0c' then "\\f".toList
  else if c = '\r' then "\\r".toList
  else if c = '"' then "\\\"".toList
  else if c = '\\' then "\\\\".toList
  else if c.toNat ≤ 0x1F then
    "\\u00".toList ++ [Nat.digitChar (c.toNat / 16), Nat.digitChar (c.toNat % 16)]
  else [c]

/-- `dump_escaped`, where `ensure_ascii` is not set. -/
def dumpEscaped (s : Text) : Text := s.flatMap dumpChar

mutual

/-- `dump()` without indentation: no blanks, and the members in the order in which they stand. -/
def dump (floats : Floats F) : Json F → Text
  | .null => "null".toList
  | .boolean b => if b then "true".toList else "false".toList
  | .integer n => Decimal.decimal n
  | .float x => floats.dump x
  | .string s => '"' :: (dumpEscaped s ++ ['"'])
  | .array [] => "[]".toList
  | .array (item :: items) => '[' :: (dump floats item ++ dumpItems floats items)
  | .object [] => "{}".toList
  | .object ((key, v) :: members) =>
      '{' :: ('"' :: (dumpEscaped key ++ ['"']) ++ (':' :: (dump floats v ++ dumpMembers floats members)))

/-- What follows the first element of an array. -/
def dumpItems (floats : Floats F) : List (Json F) → Text
  | [] => [']']
  | item :: items => ',' :: (dump floats item ++ dumpItems floats items)

/-- What follows the first member of an object. -/
def dumpMembers (floats : Floats F) : List (Text × Json F) → Text
  | [] => ['}']
  | (key, v) :: members =>
      ',' :: ('"' :: (dumpEscaped key ++ ['"']) ++ (':' :: (dump floats v ++ dumpMembers floats members)))

end

mutual

/-- The integers have 64 bits, and the text of a floating point number is read as that number. -/
def Fits (floats : Floats F) : Json F → Prop
  | .integer n => -2 ^ 63 ≤ n ∧ n < 2 ^ 64
  | .float x => IsNumeral (floats.dump x) ∧
      convertNumber floats (floats.dump x) = some (.valueFloat x)
  | .array items => FitsItems floats items
  | .object members => FitsMembers floats members
  | .null | .boolean _ | .string _ => True

/-- The integers of all elements fit. -/
def FitsItems (floats : Floats F) : List (Json F) → Prop
  | [] => True
  | item :: items => Fits floats item ∧ FitsItems floats items

/-- The integers of all members fit. -/
def FitsMembers (floats : Floats F) : List (Text × Json F) → Prop
  | [] => True
  | (_, v) :: members => Fits floats v ∧ FitsMembers floats members

end

theorem hexValue_control : ∀ n < 0x20,
    Json.hexValue '0' '0' (Nat.digitChar (n / 16)) (Nat.digitChar (n % 16)) = some n := by
  decide

theorem dumpChar_spells (c : Char) : SpellsChar c (dumpChar c) := by
  unfold dumpChar
  split
  · rename_i h
    exact .short (h ▸ rfl)
  split
  · rename_i h
    exact .short (h ▸ rfl)
  split
  · rename_i h
    exact .short (h ▸ rfl)
  split
  · rename_i h
    exact .short (h ▸ rfl)
  split
  · rename_i h
    exact .short (h ▸ rfl)
  split
  · rename_i h
    exact .short (h ▸ rfl)
  rename_i hQuote
  split
  · rename_i h
    exact .short (h ▸ rfl)
  rename_i hBackslash
  split
  · rename_i hControl
    exact .unicode (hexValue_control c.toNat (Nat.lt_succ_of_le hControl))
  · rename_i hControl
    exact .plain hQuote hBackslash (not_le.1 hControl)

theorem dumpEscaped_spells (s : Text) : SpellsString s (dumpEscaped s) := by
  induction s with
  | nil => exact .nil
  | cons c s ih => exact .cons (dumpChar_spells c) ih

theorem isNumeral_decimal (n : Int) : IsNumeral (Decimal.decimal n) := by
  have hWhole : ∀ m : Nat, Nat.toDigits 10 m = ['0'] ∨
      (Digits (Nat.toDigits 10 m) ∧ (Nat.toDigits 10 m).head? ≠ some '0') := by
    intro m
    by_cases hZero : m = 0
    · exact Or.inl (hZero ▸ Nat.toDigits_zero 10)
    · exact Or.inr ⟨⟨Nat.toDigits_ne_nil, fun c hc => Decimal.isDigit_of_mem_toDigits hc⟩,
        Decimal.head_toDigits hZero⟩
  unfold Decimal.decimal
  split
  · exact ⟨['-'], Nat.toDigits 10 n.natAbs, [], [], by simp,
      ⟨Or.inr rfl, hWhole _, Or.inl rfl, Or.inl rfl⟩⟩
  · exact ⟨[], Nat.toDigits 10 n.natAbs, [], [], by simp,
      ⟨Or.inl rfl, hWhole _, Or.inl rfl, Or.inl rfl⟩⟩

theorem convertNumber_decimal {floats : Floats F} {n : Int} (hLow : -2 ^ 63 ≤ n)
    (hHigh : n < 2 ^ 64) : convertNumber floats (Decimal.decimal n) = some (.valueInteger n) := by
  have hInteger : (Decimal.decimal n).all (fun c => c != '.' && c != 'e' && c != 'E') = true := by
    rw [List.all_eq_true]
    intro c hc
    rcases Decimal.mem_decimal hc with rfl | hDigit
    · rfl
    · have hPoint := isDigit_ne (d := '.') hDigit rfl
      have hSmall := isDigit_ne (d := 'e') hDigit rfl
      have hLarge := isDigit_ne (d := 'E') hDigit rfl
      simp [hPoint, hSmall, hLarge]
  simp only [convertNumber, leadingInt_decimal]
  rw [if_pos ⟨hInteger, hLow, hHigh⟩]

section
variable {floats : Floats F} {more : List (Json.Token F)} {rest : Text}

theorem spells_token {token : Json.Token F} {text : Text} (hToken : SpellsToken token text)
    (h : Spells (convertNumber floats) more rest) :
    Spells (convertNumber floats) (token :: more) (text ++ rest) := by
  change Spells _ _ ([] ++ (text ++ rest))
  exact Spells.token nofun hToken h

theorem spells_number {token : Json.Token F} {text : Text} (hNumeral : IsNumeral text)
    (hConvert : convertNumber floats text = some token) (h : Spells (convertNumber floats) more rest)
    (hDelimited : Delimited rest) : Spells (convertNumber floats) (token :: more) (text ++ rest) := by
  change Spells _ _ ([] ++ (text ++ rest))
  exact Spells.number nofun hNumeral hConvert h hDelimited

theorem spells_string (s : Text) (h : Spells (convertNumber floats) more rest) :
    Spells (convertNumber floats) (.valueString s :: more)
      ('"' :: (dumpEscaped s ++ ['"']) ++ rest) :=
  spells_token (.valueString (dumpEscaped_spells s)) h

/-- The key of a member and its value. -/
theorem spells_member (key : Text) (h : Spells (convertNumber floats) more rest) :
    Spells (convertNumber floats) (.valueString key :: .nameSeparator :: more)
      ('"' :: (dumpEscaped key ++ ['"']) ++ (':' :: rest)) :=
  spells_string key (spells_token .nameSeparator h)

theorem delimited_cons {c : Char} (h : c.isDigit = false ∧ c ≠ '.' ∧ c ≠ 'e' ∧ c ≠ 'E') :
    Delimited (c :: rest) := by
  rintro d ⟨⟩
  exact h

theorem delimited_dumpItems (items : List (Json F)) (rest : Text) :
    Delimited (dumpItems floats items ++ rest) := by
  cases items <;> exact delimited_cons (by decide)

theorem delimited_dumpMembers (members : List (Text × Json F)) (rest : Text) :
    Delimited (dumpMembers floats members ++ rest) := by
  rcases members with _ | ⟨⟨key, v⟩, members⟩ <;> exact delimited_cons (by decide)

end

mutual

theorem dump_spells {floats : Floats F} (v : Json F) (hFits : Fits floats v)
    {more : List (Json.Token F)} {rest : Text} (h : Spells (convertNumber floats) more rest)
    (hDelimited : Delimited rest) :
    Spells (convertNumber floats) (v.tokens ++ more) (dump floats v ++ rest) := by
  match v with
  | .null => exact spells_token .literalNull h
  | .boolean true => exact spells_token .literalTrue h
  | .boolean false => exact spells_token .literalFalse h
  | .integer n =>
      exact spells_number (isNumeral_decimal n) (convertNumber_decimal hFits.1 hFits.2) h hDelimited
  | .float x => exact spells_number hFits.1 hFits.2 h hDelimited
  | .string s => exact spells_string s h
  | .array [] =>
      have hAll := spells_token .beginArray (spells_token .endArray h)
      exact hAll
  | .array (item :: items) =>
      have hItems := dumpItems_spells items hFits.2 h
      have hItem := dump_spells item hFits.1 hItems (delimited_dumpItems items rest)
      rw [Json.tokens, dump, List.cons_append, List.cons_append, List.append_assoc,
        List.append_assoc]
      exact spells_token .beginArray hItem
  | .object [] =>
      have hAll := spells_token .beginObject (spells_token .endObject h)
      exact hAll
  | .object ((key, v) :: members) =>
      have hMembers := dumpMembers_spells members hFits.2 h
      have hValue := dump_spells v hFits.1 hMembers (delimited_dumpMembers members rest)
      have hAll := spells_token .beginObject (spells_member key hValue)
      rw [Json.tokens, dump]
      simpa only [List.cons_append, List.append_assoc, List.nil_append] using hAll

theorem dumpItems_spells {floats : Floats F} (items : List (Json F))
    (hFits : FitsItems floats items) {more : List (Json.Token F)} {rest : Text}
    (h : Spells (convertNumber floats) more rest) :
    Spells (convertNumber floats) (Json.moreItems items ++ more)
      (dumpItems floats items ++ rest) := by
  match items with
  | [] => exact spells_token .endArray h
  | item :: items =>
      have hItems := dumpItems_spells items hFits.2 h
      have hItem := dump_spells item hFits.1 hItems (delimited_dumpItems items rest)
      rw [Json.moreItems, dumpItems, List.cons_append, List.cons_append, List.append_assoc,
        List.append_assoc]
      exact spells_token .valueSeparator hItem

theorem dumpMembers_spells {floats : Floats F}
    (members : List (Text × Json F)) (hFits : FitsMembers floats members) {more : List (Json.Token F)}
    {rest : Text} (h : Spells (convertNumber floats) more rest) :
    Spells (convertNumber floats) (Json.moreMembers members ++ more)
      (dumpMembers floats members ++ rest) := by
  match members with
  | [] => exact spells_token .endObject h
  | (key, v) :: members =>
      have hMembers := dumpMembers_spells members hFits.2 h
      have hValue := dump_spells v hFits.1 hMembers (delimited_dumpMembers members rest)
      have hAll := spells_token .valueSeparator (spells_member key hValue)
      rw [Json.moreMembers, dumpMembers]
      simpa only [List.cons_append, List.append_assoc, List.nil_append] using hAll

end

/-- What was dumped is read again. -/
theorem parse_dump {floats : Floats F} {v : Json F} (hFits : Fits floats v) :
    parse floats (dump floats v) = some v.sorted := by
  have hEnd : Spells (convertNumber floats) [] [] := .nil nofun
  have hText := dump_spells v hFits hEnd nofun
  rw [List.append_nil, List.append_nil] at hText
  exact parse_spelled hText

end StompGames.Cpp
