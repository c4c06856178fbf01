import Mathlib.Data.List.Basic

/-! Tokens of an SQL text. A string literal runs from a quote to the next quote that is
not doubled, and a doubled quote in it stands for one. A template is a text with holes for
such literals. -/
namespace SqlLexer

/-- The tokens of a statement, as far as texts of users can change them. Any other character than
those of words and literals is a token by itself. -/
inductive Token where
  | word (text : List Char)
  | symbol (c : Char)
  | literal (value : List Char)
  deriving DecidableEq

/-- Where the lexer is. After a quote inside a literal it does not know yet whether the
literal is over. -/
inductive Mode where
  | outside
  | word (text : List Char)
  | literal (value : List Char)
  | quote (value : List Char)
  deriving DecidableEq

/-- The characters of names, key words and numbers. -/
def isWordChar (c : Char) : Bool := c.isAlphanum || c == '_' || c == '$' || 127 < c.toNat

/-- What separates tokens and is none. -/
def isSpace (c : Char) : Bool :=
  c == ' ' || c == '\t' || c == '\n' || c == '\x0c' || c == '\r'

/-- The first character of a token. -/
def begin (c : Char) : List Token × Mode :=
  if c = '\x27' then ([], .literal [])
  else if isWordChar c then ([], .word [c])
  else if isSpace c then ([], .outside)
  else ([.symbol c], .outside)

/-- One character. A quote in a literal ends it, unless another quote follows. -/
def step : Mode → Char → List Token × Mode
  | .outside, c => begin c
  | .word text, c =>
      if isWordChar c then ([], .word (text ++ [c]))
      else (.word text :: (begin c).1, (begin c).2)
  | .literal value, c => if c = '\x27' then ([], .quote value) else ([], .literal (value ++ [c]))
  | .quote value, c =>
      if c = '\x27' then ([], .literal (value ++ [c]))
      else (.literal value :: (begin c).1, (begin c).2)

/-- The tokens that are complete after a text, and where the lexer then stands. -/
def run : Mode → List Char → List Token × Mode
  | mode, [] => ([], mode)
  | mode, c :: rest =>
      ((step mode c).1 ++ (run (step mode c).2 rest).1, (run (step mode c).2 rest).2)

/-- The token that the end of the text completes. A literal may not be left open. -/
def finish : Mode → Option (List Token)
  | .outside => some []
  | .word text => some [.word text]
  | .literal _ => none
  | .quote value => some [.literal value]

/-- All tokens of a text, where it does not end in the middle of a literal. -/
def lex (mode : Mode) (text : List Char) : Option (List Token) :=
  (finish (run mode text).2).map ((run mode text).1 ++ ·)

/-- All tokens of a statement. -/
def tokenise (text : List Char) : Option (List Token) := lex .outside text

/-- A text as it is written in a literal. -/
def escape (text : List Char) : List Char :=
  text.flatMap fun c => if c = '\x27' then ['\x27', '\x27'] else [c]

theorem run_append (mode : Mode) (first second : List Char) :
    run mode (first ++ second) =
      ((run mode first).1 ++ (run (run mode first).2 second).1,
        (run (run mode first).2 second).2) := by
  induction first generalizing mode with
  | nil => rfl
  | cons c rest ih =>
      rw [List.cons_append, run, ih]
      simp [run]

theorem lex_append (mode : Mode) (first second : List Char) :
    lex mode (first ++ second) =
      (lex (run mode first).2 second).map ((run mode first).1 ++ ·) := by
  simp only [lex, run_append, Option.map_map, List.append_assoc]
  rfl

/-- The lexer reads an escaped text as the text, and is still in the literal. -/
theorem run_escape (value text : List Char) :
    run (.literal value) (escape text) = ([], .literal (value ++ text)) := by
  induction text generalizing value with
  | nil => simp [escape, run]
  | cons c rest ih =>
      have hEscape : escape (c :: rest) =
          (if c = '\x27' then ['\x27', '\x27'] else [c]) ++ escape rest := rfl
      rw [hEscape]
      by_cases hQuote : c = '\x27'
      · subst hQuote
        simp [run, step, ih]
      · simp [hQuote, run, step, ih]

/-- A quote ends the literal where no quote follows. -/
theorem lex_quote (value : List Char) {text : List Char} (h : text.head? ≠ some '\x27') :
    lex (.quote value) text = (lex .outside text).map (.literal value :: ·) := by
  cases text with
  | nil => rfl
  | cons c rest =>
      have hStep : step (.quote value) c =
          (.literal value :: (step .outside c).1, (step .outside c).2) := by
        have hNe : c ≠ '\x27' := fun hQuote => h (congrArg some hQuote)
        simp [step, hNe]
      simp only [lex, run, hStep, Option.map_map]
      rfl

/-- Plain text, then for each argument the argument and more plain text. -/
def assemble : List Char → List (List Char) → List (List Char) → List Char
  | plain, tail :: tails, arg :: args => plain ++ arg ++ assemble tail tails args
  | plain, _, _ => plain

theorem assemble_two (plain arg tail arg' tail' : List Char) :
    assemble plain [tail, tail'] [arg, arg'] = plain ++ arg ++ tail ++ arg' ++ tail' := by
  simp [assemble]

theorem assemble_three (plain arg tail arg' tail' arg'' tail'' : List Char) :
    assemble plain [tail, tail', tail''] [arg, arg', arg''] =
      plain ++ arg ++ tail ++ arg' ++ tail' ++ arg'' ++ tail'' := by
  simp [assemble]

/-- The tokens with these literals in the holes. -/
def tokens : List Char → List (List Char) → List (List Char) → List Token
  | plain, tail :: tails, value :: values =>
      (run .outside plain).1 ++ .literal value :: tokens (tail.drop 1) tails values
  | plain, _, _ => (run .outside plain).1 ++ (finish (run .outside plain).2).getD []

/-- A text that begins with one quote. -/
def closes : List Char → Bool
  | c :: rest => c = '\x27' && rest.head? != some '\x27'
  | [] => false

/-- What stands in a hole of a template. -/
def hole : List Char := ['%', 's']

/-- Each hole stands alone between two quotes, and the plain text has no such literal. -/
def holesQuoted : List Char → List (List Char) → Bool
  | plain, [] => (finish (run .outside plain).2).isSome &&
      !((run .outside plain).1 ++ (finish (run .outside plain).2).getD []).contains (.literal hole)
  | plain, tail :: tails =>
      (run .outside plain).2 = .literal [] && !(run .outside plain).1.contains (.literal hole) &&
        closes tail && holesQuoted (tail.drop 1) tails

/-- The tokens of a template with values for its holes. -/
def fill : List Token → List (List Char) → List Token
  | [], _ => []
  | token :: rest, [] => token :: fill rest []
  | token :: rest, value :: values =>
      if token = .literal hole then .literal value :: fill rest values
      else token :: fill rest (value :: values)

/-- A statement with holes: the text before the first and after each. -/
structure Template where
  head : List Char
  tails : List (List Char)
  quoted : holesQuoted head tails = true

namespace Template

/-- The statement with these texts in its holes. -/
def text (t : Template) (args : List (List Char)) : List Char := assemble t.head t.tails args

/-- The tokens of the statement, with these values in the places of its literals. -/
def tokens (t : Template) (values : List (List Char)) : List Token :=
  SqlLexer.tokens t.head t.tails values

end Template

theorem closes_eq {tail : List Char} (h : closes tail = true) :
    ∃ rest, tail = '\x27' :: rest ∧ rest.head? ≠ some '\x27' := by
  cases tail with
  | nil => cases h
  | cons c rest =>
      simp only [closes, Bool.and_eq_true, decide_eq_true_eq, bne_iff_ne] at h
      exact ⟨rest, by rw [h.1], h.2⟩

/-- What follows a hole begins with its own text. -/
theorem assemble_head {rest : List Char} (hHead : rest.head? ≠ some '\x27')
    {tails : List (List Char)} (h : holesQuoted rest tails = true) (args : List (List Char)) :
    (assemble rest tails args).head? ≠ some '\x27' := by
  cases tails with
  | nil => simpa [assemble] using hHead
  | cons tail tails =>
      cases args with
      | nil => simpa [assemble] using hHead
      | cons arg args =>
          cases rest with
          | nil => simp [holesQuoted, run] at h
          | cons c rest => simpa [assemble] using hHead

/-- The tail after a hole without its quote, in an assembled text. -/
theorem assemble_quote (rest : List Char) (tails args : List (List Char)) :
    assemble ('\x27' :: rest) tails args = '\x27' :: assemble rest tails args := by
  cases tails <;> cases args <;> simp [assemble]

theorem tokenise_assemble {plain : List Char} {tails values : List (List Char)}
    (h : holesQuoted plain tails = true) (hLength : values.length = tails.length) :
    tokenise (assemble plain tails (values.map escape)) = some (tokens plain tails values) := by
  induction tails generalizing plain values with
  | nil =>
      simp only [holesQuoted, Bool.and_eq_true] at h
      obtain ⟨last, hLast⟩ := Option.isSome_iff_exists.1 h.1
      simp [tokenise, assemble, tokens, lex, hLast]
  | cons tail tails ih =>
      cases values with
      | nil => cases hLength
      | cons value values =>
          simp only [holesQuoted, Bool.and_eq_true, decide_eq_true_eq] at h
          obtain ⟨⟨⟨hOpen, -⟩, hCloses⟩, hRest⟩ := h
          obtain ⟨rest, rfl, hHead⟩ := closes_eq hCloses
          have hTail := ih hRest (Nat.succ.inj hLength)
          have hNext := assemble_head hHead hRest (values.map escape)
          have hClose : lex (.literal value) ('\x27' :: assemble rest tails (values.map escape)) =
              lex (.quote value) (assemble rest tails (values.map escape)) := rfl
          rw [List.map_cons, assemble, List.append_assoc, tokenise, lex_append, hOpen, lex_append,
            run_escape, List.nil_append, assemble_quote, hClose, lex_quote value hNext]
          change Option.map _ (Option.map _ (Option.map _ (tokenise _))) = _
          rw [show assemble rest tails (values.map escape) =
            assemble (('\x27' :: rest).drop 1) tails (values.map escape) from rfl, hTail]
          rfl

theorem fill_append {first : List Token} (h : .literal hole ∉ first) (rest : List Token)
    (values : List (List Char)) : fill (first ++ rest) values = first ++ fill rest values := by
  induction first with
  | nil => rfl
  | cons token first ih =>
      obtain ⟨hToken, hFirst⟩ := List.ne_and_not_mem_of_not_mem_cons h
      cases values with
      | nil => simp [fill, ih hFirst]
      | cons value values => simp [fill, Ne.symm hToken, ih hFirst]

theorem fill_tokens {plain : List Char} {tails values : List (List Char)}
    (h : holesQuoted plain tails = true) (hLength : values.length = tails.length) :
    fill (tokens plain tails (values.map fun _ => hole)) values = tokens plain tails values := by
  induction tails generalizing plain values with
  | nil =>
      simp only [holesQuoted, Bool.and_eq_true, Bool.not_eq_true', List.contains_eq_mem,
        decide_eq_false_iff_not] at h
      have hFill := fill_append h.2 [] values
      rwa [List.append_nil, fill, List.append_nil] at hFill
  | cons tail tails ih =>
      cases values with
      | nil => cases hLength
      | cons value values =>
          simp only [holesQuoted, Bool.and_eq_true, decide_eq_true_eq, Bool.not_eq_true',
            List.contains_eq_mem, decide_eq_false_iff_not] at h
          obtain ⟨⟨⟨-, hPlain⟩, -⟩, hRest⟩ := h
          rw [List.map_cons, tokens, fill_append hPlain, fill, if_pos rfl,
            ih hRest (Nat.succ.inj hLength)]
          rfl

namespace Template
variable (t : Template)

/-- An assembled statement has the tokens of its template, whatever the arguments are:
they are the values of the literals in its holes. -/
theorem tokenise_text {values : List (List Char)} (h : values.length = t.tails.length) :
    ∃ tokens, tokenise (t.text (values.map fun _ => hole)) = some tokens ∧
      tokenise (t.text (values.map escape)) = some (fill tokens values) := by
  refine ⟨t.tokens (values.map fun _ => hole), ?_, ?_⟩
  · have hHoles : (values.map fun _ => hole).length = t.tails.length := by rwa [List.length_map]
    have hTokens := tokenise_assemble t.quoted hHoles
    rwa [List.map_map] at hTokens
  · rw [Template.tokens, fill_tokens t.quoted h]
    exact tokenise_assemble t.quoted h

end Template
end SqlLexer
