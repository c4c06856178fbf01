import StompGames.Lib.Decimal
import StompGames.Lib.SortedMap
import Mathlib.Data.Char
import Mathlib.Data.List.Lex

/-! JSON values, the tokens of a value, and the texts in which tokens are written: with white
space between them, with any of the ways to write a character of a string, and with any numeral
for a number. -/

/-- `F` has the numbers that are no integers. The members of an object stand in the order of the
text, and a key may come again. -/
inductive Json (F : Type) where
  | null
  | boolean (b : Bool)
  | integer (n : Int)
  | float (x : F)
  | string (s : List Char)
  | array (items : List (Json F))
  | object (members : List (List Char × Json F))

namespace Json

/-- The tokens of a JSON text. The value of a string or a number is part of its token. -/
inductive Token (F : Type) where
  | beginArray
  | endArray
  | beginObject
  | endObject
  | nameSeparator
  | valueSeparator
  | literalNull
  | literalTrue
  | literalFalse
  | valueString (s : List Char)
  | valueInteger (n : Int)
  | valueFloat (x : F)
  | endOfInput
  | parseError

variable {F : Type}

mutual

/-- The tokens of a value in the order of any text of it. -/
def tokens : Json F → List (Token F)
  | .null => [.literalNull]
  | .boolean b => [if b then .literalTrue else .literalFalse]
  | .integer n => [.valueInteger n]
  | .float x => [.valueFloat x]
  | .string s => [.valueString s]
  | .array [] => [.beginArray, .endArray]
  | .array (item :: items) => .beginArray :: (item.tokens ++ moreItems items)
  | .object [] => [.beginObject, .endObject]
  | .object ((key, v) :: members) =>
      .beginObject :: .valueString key :: .nameSeparator :: (v.tokens ++ moreMembers members)

/-- What follows the first element of an array. -/
def moreItems : List (Json F) → List (Token F)
  | [] => [.endArray]
  | item :: items => .valueSeparator :: (item.tokens ++ moreItems items)

/-- What follows the first member of an object. -/
def moreMembers : List (List Char × Json F) → List (Token F)
  | [] => [.endObject]
  | (key, v) :: members =>
      .valueSeparator :: .valueString key :: .nameSeparator :: (v.tokens ++ moreMembers members)

end

mutual

/-- Every object with its members in the order of their keys. Of the members with one key the
last one stays. -/
def sorted : Json F → Json F
  | .null => .null
  | .boolean b => .boolean b
  | .integer n => .integer n
  | .float x => .float x
  | .string s => .string s
  | .array items => .array (sortedItems items)
  | .object members => .object (sortedMembers [] members)

/-- The elements of an array, each with the members of its objects in the order of their names.
-/
def sortedItems : List (Json F) → List (Json F)
  | [] => []
  | item :: items => item.sorted :: sortedItems items

/-- The members one after the other, put to those that are there. -/
def sortedMembers (before : List (List Char × Json F)) :
    List (List Char × Json F) → List (List Char × Json F)
  | [] => before
  | (key, v) :: members => sortedMembers (SortedMap.insertEntry key v.sorted before) members

end

theorem sortedItems_eq_map (items : List (Json F)) : sortedItems items = items.map sorted := by
  induction items with
  | nil => rfl
  | cons item items ih => rw [sortedItems, ih, List.map_cons]

/-- Members that come in the order of their keys stay in this order. -/
theorem sortedMembers_of_sorted {before members : List (List Char × Json F)}
    (h : (before ++ members).Pairwise fun a b => a.1 < b.1) :
    sortedMembers before members = before ++ members.map fun member => (member.1, member.2.sorted) := by
  induction members generalizing before with
  | nil => simp [sortedMembers]
  | cons member members ih =>
      have hInsert : SortedMap.insertEntry member.1 member.2.sorted before =
          before ++ [(member.1, member.2.sorted)] :=
        SortedMap.insertEntry_last _ fun entry hEntry =>
          (List.pairwise_append.1 h).2.2 entry hEntry _ List.mem_cons_self
      have hNext : ((before ++ [(member.1, member.2.sorted)]) ++ members).Pairwise
          fun a b => a.1 < b.1 := by
        have hKeys : ((before ++ member :: members).map Prod.fst).Pairwise (· < ·) :=
          List.pairwise_map.2 h
        have hSame : ((before ++ [(member.1, member.2.sorted)]) ++ members).map Prod.fst =
            (before ++ member :: members).map Prod.fst := by simp
        rw [← hSame] at hKeys
        exact List.pairwise_map.1 hKeys
      rw [sortedMembers, hInsert, ih hNext]
      simp

/-- What may stand between two tokens. -/
def isWhitespace (c : Char) : Bool := c == ' ' || c == '\t' || c == '\n' || c == '\r'

/-- The value of a hexadecimal digit, in either case. -/
def hexDigit (c : Char) : Option Nat :=
  if '0' ≤ c ∧ c ≤ '9' then some (c.toNat - 0x30)
  else if 'A' ≤ c ∧ c ≤ 'F' then some (c.toNat - 0x37)
  else if 'a' ≤ c ∧ c ≤ 'f' then some (c.toNat - 0x57)
  else none

/-- The number that four digits give. -/
def hexValue (a b c d : Char) : Option Nat := do
  let a ← hexDigit a
  let b ← hexDigit b
  let c ← hexDigit c
  let d ← hexDigit d
  pure (a * 0x1000 + b * 0x100 + c * 0x10 + d)

/-- What a character stands for behind a backslash, if it is no `u`. -/
def escaped (c : Char) : Option Char :=
  if c = '"' ∨ c = '\\' ∨ c = '/' then some c
  else if c = 'b' then some '\x08'
  else if c = 'f' then some '\x0c'
  else if c = 'n' then some '\n'
  else if c = 'r' then some '\r'
  else if c = 't' then some '\t'
  else none

/-- The ways to write a character of a string. -/
inductive SpellsChar : Char → List Char → Prop where
  | plain {c : Char} (hQuote : c ≠ '"') (hBackslash : c ≠ '\\') (hControl : 0x20 ≤ c.toNat) :
      SpellsChar c [c]
  | short {c e : Char} (h : escaped e = some c) : SpellsChar c ['\\', e]
  | unicode {ch a b c d : Char} (h : hexValue a b c d = some ch.toNat) :
      SpellsChar ch ['\\', 'u', a, b, c, d]
  | surrogates {ch a b c d a' b' c' d' : Char} {high low : Nat}
      (hHigh : hexValue a b c d = some (0xD800 + high)) (hHighLess : high < 0x400)
      (hLow : hexValue a' b' c' d' = some (0xDC00 + low)) (hLowLess : low < 0x400)
      (h : ch.toNat = 0x10000 + high * 0x400 + low) :
      SpellsChar ch ['\\', 'u', a, b, c, d, '\\', 'u', a', b', c', d']

/-- A text between quotes that stands for this string, character by character. -/
inductive SpellsString : List Char → List Char → Prop where
  | nil : SpellsString [] []
  | cons {c : Char} {s text rest : List Char} (h : SpellsChar c text) (hRest : SpellsString s rest) :
      SpellsString (c :: s) (text ++ rest)

/-- Digits, and at least one. -/
def Digits (text : List Char) : Prop := text ≠ [] ∧ ∀ c ∈ text, c.isDigit

/-- A numeral has no leading zeros. -/
structure Numeral (sign whole fraction exponent : List Char) : Prop where
  sign : sign = [] ∨ sign = ['-']
  whole : whole = ['0'] ∨ (Digits whole ∧ whole.head? ≠ some '0')
  fraction : fraction = [] ∨ ∃ digits, fraction = '.' :: digits ∧ Digits digits
  exponent : exponent = [] ∨ ∃ e plus digits, exponent = e :: (plus ++ digits) ∧
    (e = 'e' ∨ e = 'E') ∧ (plus = [] ∨ plus = ['+'] ∨ plus = ['-']) ∧ Digits digits

/-- A numeral as the grammar has it: a sign, digits, a fraction and an exponent. -/
def IsNumeral (text : List Char) : Prop := ∃ sign whole fraction exponent,
  text = sign ++ whole ++ fraction ++ exponent ∧ Numeral sign whole fraction exponent

/-- A text that stands for this token. A float is any numeral that is taken for it. -/
inductive SpellsToken : Token F → List Char → Prop where
  | beginArray : SpellsToken .beginArray ['[']
  | endArray : SpellsToken .endArray [']']
  | beginObject : SpellsToken .beginObject ['{']
  | endObject : SpellsToken .endObject ['}']
  | nameSeparator : SpellsToken .nameSeparator [':']
  | valueSeparator : SpellsToken .valueSeparator [',']
  | literalNull : SpellsToken .literalNull "null".toList
  | literalTrue : SpellsToken .literalTrue "true".toList
  | literalFalse : SpellsToken .literalFalse "false".toList
  | valueString {s text : List Char} (h : SpellsString s text) :
      SpellsToken (.valueString s) ('"' :: (text ++ ['"']))

/-- No numeral goes on here. -/
def Delimited (text : List Char) : Prop :=
  ∀ c ∈ text.head?, c.isDigit = false ∧ c ≠ '.' ∧ c ≠ 'e' ∧ c ≠ 'E'

/-- The tokens of a text. `number` gives the token of a numeral. -/
inductive Spells (number : List Char → Option (Token F)) : List (Token F) → List Char → Prop where
  | nil {space : List Char} (hSpace : ∀ c ∈ space, isWhitespace c) : Spells number [] space
  | token {space text rest : List Char} {token : Token F} {more : List (Token F)}
      (hSpace : ∀ c ∈ space, isWhitespace c) (h : SpellsToken token text)
      (hRest : Spells number more rest) : Spells number (token :: more) (space ++ (text ++ rest))
  | number {space text rest : List Char} {token : Token F} {more : List (Token F)}
      (hSpace : ∀ c ∈ space, isWhitespace c) (hNumeral : IsNumeral text)
      (h : number text = some token) (hRest : Spells number more rest)
      (hDelimited : Delimited rest) : Spells number (token :: more) (space ++ (text ++ rest))

end Json
