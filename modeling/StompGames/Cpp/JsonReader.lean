import StompGames.Cpp.Strings
import StompGames.Lib.Json

/-! The parser of `json.hpp` on the characters of a file: the lexer, which cuts out tokens, and
the automaton that puts a value together. The text of a `parse_error` is left out. -/
namespace StompGames.Cpp

open Json (Token isWhitespace hexValue escaped)

/-- What `json.hpp` takes from the floating point numbers: `strtod`, with none for what is not
finite, the shortest text that reads as a number, and its conversion to `int`, which is undefined
outside the range. -/
structure Floats (F : Type) where
  strtod : Text → Option F
  dump : F → Text
  toInt : F → Option { n : Int // -2 ^ 31 ≤ n ∧ n < 2 ^ 31 }

/-- What one turn of the loop of `scan_string` does: the closing quote, a character that is
added, or a text that is no string. -/
inductive StringTurn where
  | close (rest : Text)
  | add (c : Char) (rest : Text)
  | error

/-- Behind `\u`: `get_codepoint`, and the second half of a pair of surrogates. -/
def unicodeTurn : Text → StringTurn
  | a :: b :: c :: d :: rest => match hexValue a b c d with
      | none => .error
      | some codepoint1 =>
          if 0xD800 ≤ codepoint1 ∧ codepoint1 ≤ 0xDBFF then match rest with
            | '\\' :: 'u' :: a :: b :: c :: d :: rest => match hexValue a b c d with
                | none => .error
                | some codepoint2 =>
                    if 0xDC00 ≤ codepoint2 ∧ codepoint2 ≤ 0xDFFF then
                      .add (Char.ofNat (codepoint1 * 2 ^ 10 + codepoint2 - 0x35FDC00)) rest
                    else .error
            | _ => .error
          else if 0xDC00 ≤ codepoint1 ∧ codepoint1 ≤ 0xDFFF then .error
          else .add (Char.ofNat codepoint1) rest
  | _ => .error

/-- One turn of the loop. Control characters have to be escaped. -/
def stringTurn : Text → StringTurn
  | [] => .error
  | c :: rest =>
      if c = '"' then .close rest
      else if c = '\\' then match rest with
        | [] => .error
        | e :: rest =>
            if e = 'u' then unicodeTurn rest
            else match escaped e with
              | some c => .add c rest
              | none => .error
      else if c.toNat < 0x20 then .error
      else .add c rest

/-- Every turn reads something, so that the length of the text is fuel enough. -/
def scanStringLoop : Nat → Text → Option (Text × Text)
  | 0, _ => none
  | fuel + 1, text => match stringTurn text with
      | .close rest => some ([], rest)
      | .add c rest => (scanStringLoop fuel rest).map fun read => (c :: read.1, read.2)
      | .error => none

/-- The labels of `scan_number`. -/
inductive NumberLabel where
  | init
  | minus
  | zero
  | any1
  | decimal1
  | decimal2
  | exponent
  | sign
  | any2

/-- Where the next character leads. -/
def NumberLabel.goto (label : NumberLabel) (c : Char) : Option NumberLabel :=
  match label with
  | .init =>
      if c = '-' then some .minus else if c = '0' then some .zero
      else if c.isDigit then some .any1 else none
  | .minus => if c = '0' then some .zero else if c.isDigit then some .any1 else none
  | .zero =>
      if c = '.' then some .decimal1 else if c = 'e' ∨ c = 'E' then some .exponent else none
  | .any1 =>
      if c.isDigit then some .any1 else if c = '.' then some .decimal1
      else if c = 'e' ∨ c = 'E' then some .exponent else none
  | .decimal1 => if c.isDigit then some .decimal2 else none
  | .decimal2 =>
      if c.isDigit then some .decimal2 else if c = 'e' ∨ c = 'E' then some .exponent else none
  | .exponent =>
      if c = '+' ∨ c = '-' then some .sign else if c.isDigit then some .any2 else none
  | .sign => if c.isDigit then some .any2 else none
  | .any2 => if c.isDigit then some .any2 else none

/-- Whether another character leads to `scan_number_done`. -/
def NumberLabel.done : NumberLabel → Bool
  | .zero | .any1 | .decimal2 | .any2 => true
  | .init | .minus | .decimal1 | .exponent | .sign => false

/-- The numeral and what follows it. -/
def scanNumber (label : NumberLabel) : Text → Option (Text × Text)
  | [] => if label.done then some ([], []) else none
  | c :: rest => match label.goto c with
      | some next => (scanNumber next rest).map fun read => (c :: read.1, read.2)
      | none => if label.done then some ([], c :: rest) else none

variable {F : Type}

/-- The end of `scan_number`. What is no integer of 64 bits is read as a floating point number. -/
def convertNumber (floats : Floats F) (numeral : Text) : Option (Token F) :=
  match leadingInt numeral with
  | some n =>
      if numeral.all (fun c => c != '.' && c != 'e' && c != 'E') ∧ -2 ^ 63 ≤ n ∧ n < 2 ^ 64 then
        some (.valueInteger n)
      else (floats.strtod numeral).map .valueFloat
  | none => (floats.strtod numeral).map .valueFloat

/-- `scan_literal`: the text goes on with all characters of the literal, or it is an error. -/
def scanLiteral (literal : Text) (token : Token F) (rest : Text) : Token F × Text :=
  if literal.isPrefixOf rest then (token, rest.drop literal.length) else (.parseError, rest)

/-- The `switch` on the first character that is no white space. -/
def scanToken (floats : Floats F) (c : Char) (rest : Text) : Token F × Text :=
  match c with
  | '[' => (.beginArray, rest)
  | ']' => (.endArray, rest)
  | '{' => (.beginObject, rest)
  | '}' => (.endObject, rest)
  | ':' => (.nameSeparator, rest)
  | ',' => (.valueSeparator, rest)
  | 't' => scanLiteral "rue".toList .literalTrue rest
  | 'f' => scanLiteral "alse".toList .literalFalse rest
  | 'n' => scanLiteral "ull".toList .literalNull rest
  | '"' => match scanStringLoop rest.length rest with
      | some (s, rest) => (.valueString s, rest)
      | none => (.parseError, [])
  | '\x00' => (.endOfInput, rest)
  | _ =>
      if c = '-' ∨ c.isDigit then
        match scanNumber .init (c :: rest) with
        | some (numeral, rest) => ((convertNumber floats numeral).getD .parseError, rest)
        | none => (.parseError, [])
      else (.parseError, rest)

/-- The next token, and what follows it. -/
def scan (floats : Floats F) (text : Text) : Token F × Text :=
  match text.dropWhile isWhitespace with
  | [] => (.endOfInput, [])
  | c :: rest => scanToken floats c rest

/-- The tokens up to the first that ends the reading. Every token takes something of the text. -/
def scanTokens (floats : Floats F) : Nat → Text → List (Token F)
  | 0, _ => []
  | fuel + 1, text => match scan floats text with
      | (.endOfInput, _) => [.endOfInput]
      | (.parseError, _) => [.parseError]
      | (token, rest) => token :: scanTokens floats fuel rest

/-- `skip_bom`. The mark is one character here, and three bytes in the file. -/
def skipBom : Text → Text
  | c :: rest => if c = '\uFEFF' then rest else c :: rest
  | [] => []

/-- The entries of `states`, with the value on `ref_stack` that each is about. The key is that of
`object_element`. -/
inductive Open (F : Type) where
  | array (items : List (Json F))
  | object (members : List (Text × Json F)) (key : Text)

/-- What the automaton is about to read. -/
inductive Place (F : Type) where
  | value
  | firstItem
  | firstKey
  | key
  | separator
  | next
  | done (v : Json F)
  | accepted (v : Json F)

/-- `handle_value`, and the end of the loop where nothing is open. -/
def handleValue (v : Json F) : List (Open F) → Place F × List (Open F)
  | [] => (.done v, [])
  | .array items :: states => (.next, .array (items ++ [v]) :: states)
  | .object members key :: states =>
      (.next, .object (SortedMap.insertEntry key v members) key :: states)

/-- A token where a value has to come. -/
def readValue (token : Token F) (states : List (Open F)) : Option (Place F × List (Open F)) :=
  match token with
  | .beginObject => some (.firstKey, .object [] [] :: states)
  | .beginArray => some (.firstItem, .array [] :: states)
  | .literalNull => some (handleValue .null states)
  | .literalTrue => some (handleValue (.boolean true) states)
  | .literalFalse => some (handleValue (.boolean false) states)
  | .valueString s => some (handleValue (.string s) states)
  | .valueInteger n => some (handleValue (.integer n) states)
  | .valueFloat x => some (handleValue (.float x) states)
  | _ => none

/-- One token. `none` stands for a `parse_error`. -/
def readToken (token : Token F) : Place F × List (Open F) → Option (Place F × List (Open F))
  | (.value, states) => readValue token states
  | (.firstItem, states) => match token, states with
      | .endArray, .array items :: states => some (handleValue (.array items) states)
      | token, states => readValue token states
  | (.firstKey, states) => match token, states with
      | .endObject, .object members _ :: states => some (handleValue (.object members) states)
      | .valueString key, .object members _ :: states =>
          some (.separator, .object members key :: states)
      | _, _ => none
  | (.key, states) => match token, states with
      | .valueString key, .object members _ :: states =>
          some (.separator, .object members key :: states)
      | _, _ => none
  | (.separator, states) => match token with
      | .nameSeparator => some (.value, states)
      | _ => none
  | (.next, states) => match token, states with
      | .valueSeparator, .array items :: states => some (.value, .array items :: states)
      | .endArray, .array items :: states => some (handleValue (.array items) states)
      | .valueSeparator, .object members key :: states =>
          some (.key, .object members key :: states)
      | .endObject, .object members _ :: states => some (handleValue (.object members) states)
      | _, _ => none
  | (.done v, states) => match token with
      | .endOfInput => some (.accepted v, states)
      | _ => none
  | (.accepted _, _) => none

/-- The automaton on one token after another, until one of them does not fit. -/
def readTokens (place : Place F × List (Open F)) : List (Token F) → Option (Place F × List (Open F))
  | [] => some place
  | token :: rest => (readToken token place).bind fun next => readTokens next rest

/-- `json::parse`. -/
def parse (floats : Floats F) (text : Text) : Option (Json F) :=
  let text := skipBom text
  match readTokens (.value, []) (scanTokens floats (text.length + 1) text) with
  | some (.accepted v, _) => some v
  | _ => none

-- From here on a text is spelled in some way, and each part of the lexer cuts out what it is to.

open Json (SpellsChar SpellsString SpellsToken Spells Digits Numeral IsNumeral Delimited)

theorem stringTurn_spelled {c : Char} {text : Text} (h : SpellsChar c text) (rest : Text) :
    stringTurn (text ++ rest) = .add c rest := by
  cases h with
  | plain hQuote hBackslash hControl =>
      simp [stringTurn, hQuote, hBackslash, hControl]
  | @short e hEscaped =>
      have hU : e ≠ 'u' := by
        rintro rfl
        cases hEscaped
      simp [stringTurn, hU, hEscaped]
  | unicode hValue =>
      have hValid := c.valid
      have hSurrogate : ¬(0xD800 ≤ c.toNat ∧ c.toNat ≤ 0xDFFF) := by
        rcases hValid with h | h
        · exact fun hRange => absurd h (not_lt.2 hRange.1)
        · exact fun hRange => absurd h.1 (not_lt.2 hRange.2)
      have hHigh : ¬(0xD800 ≤ c.toNat ∧ c.toNat ≤ 0xDBFF) := by omega
      have hLow : ¬(0xDC00 ≤ c.toNat ∧ c.toNat ≤ 0xDFFF) := by omega
      simp [stringTurn, unicodeTurn, hValue, hHigh, hLow, Char.ofNat_toNat]
  | @surrogates _ _ _ _ _ _ _ _ high low hHigh hHighLess hLow hLowLess hChar =>
      have hFirst : 0xD800 ≤ 0xD800 + high ∧ 0xD800 + high ≤ 0xDBFF := by omega
      have hSecond : 0xDC00 ≤ 0xDC00 + low ∧ 0xDC00 + low ≤ 0xDFFF := by omega
      have hValue : (0xD800 + high) * 2 ^ 10 + (0xDC00 + low) - 0x35FDC00 = c.toNat := by omega
      simp only [List.cons_append, List.nil_append, stringTurn, unicodeTurn, hHigh, hLow,
        if_pos hFirst, if_pos hSecond, hValue, Char.ofNat_toNat]
      rfl

theorem scanStringLoop_spelled {s text : Text} (h : SpellsString s text) (rest : Text) :
    ∀ fuel, text.length < fuel → scanStringLoop fuel (text ++ '"' :: rest) = some (s, rest) := by
  induction h with
  | nil =>
      intro fuel hFuel
      obtain ⟨fuel, rfl⟩ := Nat.exists_eq_succ_of_ne_zero (Nat.ne_of_gt hFuel)
      rfl
  | @cons c s text more h hRest ih =>
      intro fuel hFuel
      obtain ⟨fuel, rfl⟩ := Nat.exists_eq_succ_of_ne_zero (Nat.ne_of_gt (Nat.zero_lt_of_lt hFuel))
      have hLess : more.length < fuel := by
        have hText : 0 < text.length := by cases h <;> exact Nat.succ_pos _
        rw [List.length_append] at hFuel
        omega
      rw [List.append_assoc, scanStringLoop, stringTurn_spelled h]
      dsimp only
      rw [ih fuel hLess]
      rfl

theorem isDigit_ne {c d : Char} (h : c.isDigit) (hNot : d.isDigit = false) : c ≠ d := by
  rintro rfl
  rw [hNot] at h
  cases h

theorem scanNumber_cons {label next : NumberLabel} {c : Char} {rest read after : Text}
    (hGoto : label.goto c = some next) (h : scanNumber next rest = some (read, after)) :
    scanNumber label (c :: rest) = some (c :: read, after) := by
  rw [scanNumber, hGoto]
  dsimp only
  rw [h]
  rfl

theorem scanNumber_digits {label : NumberLabel} (hLoop : ∀ c : Char, c.isDigit → label.goto c = some label)
    {digits rest read after : Text} (hDigits : ∀ c ∈ digits, c.isDigit)
    (h : scanNumber label rest = some (read, after)) :
    scanNumber label (digits ++ rest) = some (digits ++ read, after) := by
  induction digits with
  | nil => exact h
  | cons c digits ih =>
      obtain ⟨hFirst, hMore⟩ := List.forall_mem_cons.1 hDigits
      exact scanNumber_cons (hLoop c hFirst) (ih hMore)

theorem scanNumber_done {label : NumberLabel} (hDone : label.done = true) {rest : Text}
    (h : Delimited rest) : scanNumber label rest = some ([], rest) := by
  cases rest with
  | nil => simp [scanNumber, hDone]
  | cons c rest =>
      obtain ⟨hDigit, hPoint, hSmall, hLarge⟩ := h c rfl
      have hGoto : label.goto c = none := by
        cases label with
        | zero | any1 | decimal2 | any2 =>
            simp [NumberLabel.goto, hDigit, hPoint, hSmall, hLarge]
        | init | minus | decimal1 | exponent | sign => cases hDone
      simp [scanNumber, hGoto, hDone]

/-- The digits that a label is followed by. -/
theorem scanNumber_someDigits {label next : NumberLabel}
    (hFirst : ∀ c : Char, c.isDigit → label.goto c = some next)
    (hLoop : ∀ c : Char, c.isDigit → next.goto c = some next) {digits rest read after : Text}
    (hDigits : Digits digits) (h : scanNumber next rest = some (read, after)) :
    scanNumber label (digits ++ rest) = some (digits ++ read, after) := by
  obtain ⟨hSome, hAll⟩ := hDigits
  cases digits with
  | nil => exact absurd rfl hSome
  | cons c digits =>
      obtain ⟨hDigit, hMore⟩ := List.forall_mem_cons.1 hAll
      exact scanNumber_cons (hFirst c hDigit) (scanNumber_digits hLoop hMore h)

theorem goto_any2 (c : Char) (h : c.isDigit) : NumberLabel.any2.goto c = some .any2 := by
  simp [NumberLabel.goto, h]

theorem goto_decimal2 (c : Char) (h : c.isDigit) : NumberLabel.decimal2.goto c = some .decimal2 := by
  simp [NumberLabel.goto, h]

theorem goto_any1 (c : Char) (h : c.isDigit) : NumberLabel.any1.goto c = some .any1 := by
  simp [NumberLabel.goto, h]

section
variable {sign whole fraction exponent rest : Text} {label : NumberLabel}

theorem scanNumber_exponent (h : Numeral sign whole fraction exponent) (hRest : Delimited rest)
    (hDone : label.done = true) (hGoto : ∀ e, e = 'e' ∨ e = 'E' → label.goto e = some .exponent) :
    scanNumber label (exponent ++ rest) = some (exponent, rest) := by
  rcases h.exponent with rfl | ⟨e, plus, digits, rfl, hE, hPlus, hDigits⟩
  · exact scanNumber_done hDone hRest
  · have hEnd : scanNumber .any2 rest = some ([], rest) := scanNumber_done rfl hRest
    have hSigned : scanNumber .exponent (plus ++ (digits ++ rest)) = some (plus ++ digits, rest) := by
      have hAfter : ∀ from' : NumberLabel, (∀ c : Char, c.isDigit → from'.goto c = some .any2) →
          scanNumber from' (digits ++ rest) = some (digits, rest) := by
        intro from' hFirst
        rw [scanNumber_someDigits hFirst goto_any2 hDigits hEnd, List.append_nil]
      rcases hPlus with rfl | rfl | rfl
      · refine hAfter .exponent fun c hDigit => ?_
        have hPlus := isDigit_ne (d := '+') hDigit rfl
        have hMinus := isDigit_ne (d := '-') hDigit rfl
        simp [NumberLabel.goto, hDigit, hPlus, hMinus]
      · exact scanNumber_cons rfl (hAfter .sign fun c hDigit => by
          simp [NumberLabel.goto, hDigit])
      · exact scanNumber_cons rfl (hAfter .sign fun c hDigit => by
          simp [NumberLabel.goto, hDigit])
    rw [List.cons_append, List.append_assoc]
    exact scanNumber_cons (hGoto e hE) hSigned

theorem scanNumber_fraction (h : Numeral sign whole fraction exponent) (hRest : Delimited rest)
    (hDone : label.done = true) (hPoint : label.goto '.' = some .decimal1)
    (hGoto : ∀ e, e = 'e' ∨ e = 'E' → label.goto e = some .exponent) :
    scanNumber label (fraction ++ (exponent ++ rest)) = some (fraction ++ exponent, rest) := by
  rcases h.fraction with rfl | ⟨digits, rfl, hDigits⟩
  · exact scanNumber_exponent h hRest hDone hGoto
  · refine scanNumber_cons hPoint (scanNumber_someDigits (fun c hDigit => ?_) goto_decimal2 hDigits
      (scanNumber_exponent h hRest rfl fun e hE => ?_))
    · simp [NumberLabel.goto, hDigit]
    · rcases hE with rfl | rfl <;> rfl

theorem scanNumber_whole (h : Numeral sign whole fraction exponent) (hRest : Delimited rest)
    (hZero : label.goto '0' = some .zero)
    (hFirst : ∀ c : Char, c.isDigit → c ≠ '0' → label.goto c = some .any1) :
    scanNumber label (whole ++ (fraction ++ (exponent ++ rest))) =
      some (whole ++ (fraction ++ exponent), rest) := by
  rcases h.whole with rfl | ⟨⟨hSome, hDigits⟩, hLeading⟩
  · refine scanNumber_cons hZero (scanNumber_fraction h hRest rfl rfl fun e hE => ?_)
    rcases hE with rfl | rfl <;> rfl
  · cases whole with
    | nil => exact absurd rfl hSome
    | cons c digits =>
        obtain ⟨hDigit, hMore⟩ := List.forall_mem_cons.1 hDigits
        have hNext : label.goto c = some .any1 := hFirst c hDigit fun hEq => hLeading (hEq ▸ rfl)
        refine scanNumber_cons hNext (scanNumber_digits goto_any1 hMore
          (scanNumber_fraction h hRest rfl rfl fun e hE => ?_))
        rcases hE with rfl | rfl <;> rfl

end

theorem scanNumber_numeral {text rest : Text} (h : IsNumeral text) (hRest : Delimited rest) :
    scanNumber .init (text ++ rest) = some (text, rest) := by
  obtain ⟨sign, whole, fraction, exponent, rfl, h⟩ := h
  simp only [List.append_assoc]
  rcases h.sign with rfl | rfl
  · refine scanNumber_whole h hRest rfl fun c hDigit hZero => ?_
    have hMinus := isDigit_ne (d := '-') hDigit rfl
    simp [NumberLabel.goto, hDigit, hZero, hMinus]
  · refine scanNumber_cons rfl (scanNumber_whole h hRest rfl fun c hDigit hZero => ?_)
    simp [NumberLabel.goto, hDigit, hZero]

/-- A numeral begins with a sign or a digit. -/
theorem numeral_cons {text : Text} (h : IsNumeral text) :
    ∃ c rest, text = c :: rest ∧ (c = '-' ∨ c.isDigit) := by
  obtain ⟨sign, whole, fraction, exponent, rfl, h⟩ := h
  rcases h.sign with rfl | rfl
  · rcases h.whole with rfl | ⟨⟨hSome, hDigits⟩, -⟩
    · exact ⟨'0', _, rfl, Or.inr rfl⟩
    · obtain ⟨c, digits, rfl⟩ := List.exists_cons_of_ne_nil hSome
      exact ⟨c, _, rfl, Or.inr (hDigits c List.mem_cons_self)⟩
  · exact ⟨'-', _, rfl, Or.inl rfl⟩

theorem digit_cases {c : Char} (h : c.isDigit) : c = '0' ∨ c = '1' ∨ c = '2' ∨ c = '3' ∨ c = '4' ∨
    c = '5' ∨ c = '6' ∨ c = '7' ∨ c = '8' ∨ c = '9' := by
  have hRange : 48 ≤ c.toNat ∧ c.toNat ≤ 57 := by
    simp only [Char.isDigit, Bool.and_eq_true, decide_eq_true_eq] at h
    exact h
  have hCases : c.toNat = 48 ∨ c.toNat = 49 ∨ c.toNat = 50 ∨ c.toNat = 51 ∨ c.toNat = 52 ∨
      c.toNat = 53 ∨ c.toNat = 54 ∨ c.toNat = 55 ∨ c.toNat = 56 ∨ c.toNat = 57 := by omega
  simp only [← Char.toNat_inj]
  exact hCases

section
variable {floats : Floats F} {token : Token F} {space text rest : Text}

/-- White space before a token is skipped. -/
theorem scan_space (floats : Floats F) (hSpace : ∀ c ∈ space, isWhitespace c) (text : Text) :
    scan floats (space ++ text) = scan floats text := by
  rw [scan, scan, List.dropWhile_append_of_pos hSpace]

theorem scan_cons {c : Char} (h : isWhitespace c = false) (rest : Text) :
    scan floats (c :: rest) = scanToken floats c rest := by
  rw [scan, List.dropWhile_cons, h, if_neg Bool.false_ne_true]

theorem scan_numeral (h : IsNumeral text) (hRest : Delimited rest) :
    scan floats (text ++ rest) = ((convertNumber floats text).getD .parseError, rest) := by
  have hRead := scanNumber_numeral h hRest
  obtain ⟨c, more, rfl, hFirst⟩ := numeral_cons h
  rw [List.cons_append] at hRead ⊢
  have hToken : scan floats (c :: (more ++ rest)) =
      match scanNumber .init (c :: (more ++ rest)) with
      | some (numeral, rest) => ((convertNumber floats numeral).getD .parseError, rest)
      | none => (.parseError, []) := by
    rcases hFirst with rfl | hDigit
    · exact scan_cons rfl _
    · rcases digit_cases hDigit with rfl | rfl | rfl | rfl | rfl | rfl | rfl | rfl | rfl | rfl <;>
        exact scan_cons rfl _
  rw [hToken, hRead]

theorem scan_spelled (h : SpellsToken token text) (rest : Text) :
    scan floats (text ++ rest) = (token, rest) := by
  cases h with
  | beginArray | endArray | beginObject | endObject | nameSeparator | valueSeparator => rfl
  | literalNull | literalTrue | literalFalse => rfl
  | @valueString s text h =>
      have hRead := scanStringLoop_spelled h rest (text ++ '"' :: rest).length (by simp)
      rw [List.cons_append, List.append_assoc, List.singleton_append, scan_cons rfl, scanToken,
        hRead]

end

/-- A numeral is no end. -/
theorem convertNumber_cases {floats : Floats F} {numeral : Text} {token : Token F}
    (h : convertNumber floats numeral = some token) :
    (∃ n, token = .valueInteger n) ∨ ∃ x, token = .valueFloat x := by
  unfold convertNumber at h
  split at h
  · split at h
    · exact Or.inl ⟨_, (Option.some.inj h).symm⟩
    · obtain ⟨x, -, rfl⟩ := Option.map_eq_some_iff.1 h
      exact Or.inr ⟨x, rfl⟩
  · obtain ⟨x, -, rfl⟩ := Option.map_eq_some_iff.1 h
    exact Or.inr ⟨x, rfl⟩

theorem scanTokens_token {floats : Floats F} {text rest : Text} {token : Token F}
    (h : scan floats text = (token, rest)) (hEnd : token ≠ .endOfInput)
    (hError : token ≠ .parseError) (fuel : Nat) :
    scanTokens floats (fuel + 1) text = token :: scanTokens floats fuel rest := by
  rw [scanTokens, h]
  cases token with
  | endOfInput => exact absurd rfl hEnd
  | parseError => exact absurd rfl hError
  | _ => rfl

/-- The lexer cuts a text into its tokens. -/
theorem scanTokens_spelled {floats : Floats F} {tokens : List (Token F)} {text : Text}
    (h : Spells (convertNumber floats) tokens text) :
    ∀ fuel, text.length < fuel → scanTokens floats fuel text = tokens ++ [.endOfInput] := by
  induction h with
  | @nil space hSpace =>
      intro fuel hFuel
      obtain ⟨fuel, rfl⟩ := Nat.exists_eq_succ_of_ne_zero (Nat.ne_of_gt (Nat.zero_lt_of_lt hFuel))
      have hEnd : scan floats space = (.endOfInput, []) := by
        have hSkip := scan_space floats hSpace []
        rwa [List.append_nil] at hSkip
      rw [Nat.succ_eq_add_one, scanTokens, hEnd]
      rfl
  | @token space text rest token more hSpace hToken hRest ih =>
      intro fuel hFuel
      obtain ⟨fuel, rfl⟩ := Nat.exists_eq_succ_of_ne_zero (Nat.ne_of_gt (Nat.zero_lt_of_lt hFuel))
      have hText : 0 < text.length := by cases hToken <;> exact Nat.succ_pos _
      have hLess : rest.length < fuel := by
        simp only [List.length_append] at hFuel
        omega
      have hScan := (scan_space floats hSpace _).trans (scan_spelled hToken rest)
      rw [Nat.succ_eq_add_one, scanTokens_token hScan (by cases hToken <;> exact nofun)
        (by cases hToken <;> exact nofun), ih fuel hLess]
      rfl
  | @number space text rest token more hSpace hNumeral hNumber hRest hDelimited ih =>
      intro fuel hFuel
      obtain ⟨fuel, rfl⟩ := Nat.exists_eq_succ_of_ne_zero (Nat.ne_of_gt (Nat.zero_lt_of_lt hFuel))
      have hText : 0 < text.length := by
        obtain ⟨c, digits, rfl, -⟩ := numeral_cons hNumeral
        exact Nat.succ_pos _
      have hLess : rest.length < fuel := by
        simp only [List.length_append] at hFuel
        omega
      have hScan := (scan_space floats hSpace _).trans (scan_numeral hNumeral hDelimited)
      rw [hNumber, Option.getD_some] at hScan
      have hKind := convertNumber_cases hNumber
      have hEnd : token ≠ .endOfInput := by
        rintro rfl
        rcases hKind with ⟨n, h⟩ | ⟨x, h⟩ <;> cases h
      have hError : token ≠ .parseError := by
        rintro rfl
        rcases hKind with ⟨n, h⟩ | ⟨x, h⟩ <;> cases h
      rw [Nat.succ_eq_add_one, scanTokens_token hScan hEnd hError, ih fuel hLess]
      rfl

theorem readTokens_cons {place next : Place F × List (Open F)} {token : Token F}
    (h : readToken token place = some next) (rest : List (Token F)) :
    readTokens place (token :: rest) = readTokens next rest := by
  rw [readTokens, h]
  rfl

/-- The first item of an array is read like any other value. -/
theorem readTokens_firstItem (v : Json F) (states : List (Open F)) (rest : List (Token F)) :
    readTokens (.firstItem, states) (v.tokens ++ rest) =
      readTokens (.value, states) (v.tokens ++ rest) := by
  have hFirst : ∀ (token : Token F) more, token ≠ .endArray →
      readTokens (.firstItem, states) (token :: more) = readTokens (.value, states) (token :: more) := by
    intro token more hNot
    have hSame : readToken token (.firstItem, states) = readToken token (.value, states) := by
      cases token with
      | endArray => exact absurd rfl hNot
      | _ => rfl
    rw [readTokens, readTokens, hSame]
  cases v with
  | boolean b => cases b <;> exact hFirst _ _ nofun
  | array items => cases items <;> exact hFirst _ _ nofun
  | object members => rcases members with _ | ⟨⟨key, v⟩, members⟩ <;> exact hFirst _ _ nofun
  | null | integer n | float x | string s => exact hFirst _ _ nofun

mutual

theorem readTokens_value (v : Json F) (states : List (Open F)) (rest : List (Token F)) :
    readTokens (.value, states) (v.tokens ++ rest) =
      readTokens (handleValue v.sorted states) rest := by
  match v with
  | .null | .integer _ | .float _ | .string _ => exact readTokens_cons rfl rest
  | .boolean true | .boolean false => exact readTokens_cons rfl rest
  | .array [] => exact (readTokens_cons rfl _).trans (readTokens_cons rfl rest)
  | .array (item :: items) =>
      rw [Json.tokens, List.cons_append, List.append_assoc, readTokens_cons rfl,
        readTokens_firstItem, readTokens_value item]
      exact readTokens_moreItems items [item.sorted] states rest
  | .object [] => exact (readTokens_cons rfl _).trans (readTokens_cons rfl rest)
  | .object ((key, v) :: members) =>
      rw [Json.tokens]
      simp only [List.cons_append, List.append_assoc]
      rw [readTokens_cons rfl, readTokens_cons rfl, readTokens_cons rfl, readTokens_value v]
      exact readTokens_moreMembers members _ key states rest

theorem readTokens_moreItems (items before : List (Json F)) (states : List (Open F))
    (rest : List (Token F)) :
    readTokens (.next, .array before :: states) (Json.moreItems items ++ rest) =
      readTokens (handleValue (.array (before ++ Json.sortedItems items)) states) rest := by
  match items with
  | [] =>
      rw [Json.sortedItems, List.append_nil]
      exact readTokens_cons rfl rest
  | item :: items =>
      rw [Json.moreItems, List.cons_append, List.append_assoc, readTokens_cons rfl,
        readTokens_value item, Json.sortedItems, List.append_cons]
      exact readTokens_moreItems items (before ++ [item.sorted]) states rest

theorem readTokens_moreMembers (members before : List (Text × Json F)) (last : Text)
    (states : List (Open F)) (rest : List (Token F)) :
    readTokens (.next, .object before last :: states) (Json.moreMembers members ++ rest) =
      readTokens (handleValue (.object (Json.sortedMembers before members)) states) rest := by
  match members with
  | [] => exact readTokens_cons rfl rest
  | (key, v) :: members =>
      rw [Json.moreMembers]
      simp only [List.cons_append, List.append_assoc]
      rw [readTokens_cons rfl, readTokens_cons rfl, readTokens_cons rfl, readTokens_value v,
        Json.sortedMembers]
      exact readTokens_moreMembers members _ key states rest

end

theorem isWhitespace_ascii {c : Char} (h : isWhitespace c) : c.toNat < 0x80 := by
  simp only [isWhitespace, Bool.or_eq_true, beq_iff_eq] at h
  rcases h with ((rfl | rfl) | rfl) | rfl <;> decide

theorem numeral_ascii {c : Char} (h : c = '-' ∨ c.isDigit) : c.toNat < 0x80 := by
  rcases h with rfl | hDigit
  · decide
  · rcases digit_cases hDigit with rfl | rfl | rfl | rfl | rfl | rfl | rfl | rfl | rfl | rfl <;>
      decide

/-- Outside its strings a text of JSON is ASCII, and so no byte order mark. -/
theorem skipBom_spelled {floats : Floats F} {tokens : List (Token F)} {text : Text}
    (h : Spells (convertNumber floats) tokens text) : skipBom text = text := by
  have hSpaced : ∀ {space rest : Text}, (∀ c ∈ space, isWhitespace c) →
      (∀ c ∈ rest.head?, c.toNat < 0x80) → ∀ c ∈ (space ++ rest).head?, c.toNat < 0x80 := by
    intro space rest hSpace hRest
    cases space with
    | nil => exact hRest
    | cons d space =>
        rintro c ⟨⟩
        exact isWhitespace_ascii (hSpace d List.mem_cons_self)
  have hFirst : ∀ c ∈ text.head?, c.toNat < 0x80 := by
    cases h with
    | nil hSpace =>
        have hOnly := hSpaced hSpace (show ∀ c ∈ ([] : Text).head?, c.toNat < 0x80 from nofun)
        rwa [List.append_nil] at hOnly
    | token hSpace hToken hRest =>
        refine hSpaced hSpace ?_
        cases hToken <;> rintro c ⟨⟩ <;> decide
    | number hSpace hNumeral hNumber hRest hDelimited =>
        refine hSpaced hSpace ?_
        obtain ⟨d, digits, rfl, hDigit⟩ := numeral_cons hNumeral
        rintro c ⟨⟩
        exact numeral_ascii hDigit
  cases text with
  | nil => rfl
  | cons c rest =>
      have hNot : c ≠ '\uFEFF' := by
        rintro rfl
        exact absurd (hFirst _ rfl) (by decide)
      rw [skipBom, if_neg hNot]

/-- Every text of a value is read as that value, with the members of its objects sorted. -/
theorem parse_spelled {floats : Floats F} {v : Json F} {text : Text}
    (h : Spells (convertNumber floats) v.tokens text) : parse floats text = some v.sorted := by
  have hTokens := scanTokens_spelled h (text.length + 1) (Nat.lt_succ_self _)
  have hRead := readTokens_value v [] [.endOfInput]
  rw [parse, skipBom_spelled h, hTokens, hRead]
  rfl

end StompGames.Cpp
