import StompGames.Java.Strings

/-! How Python shows a tuple of strings: `str` of the tuple is made of the `repr` of its
fields. -/
namespace StompGames.Python

/-- The digits after `\x`, `\u` or `\U`. -/
def hex (width n : Nat) : Text := (Nat.toDigits 16 n).leftpad width '0'

/-- One character in the `repr` of a string. `isPrintable` is asked about characters that
are not ASCII. -/
def reprChar (isPrintable : Char → Bool) (quote c : Char) : Text :=
  if c = quote ∨ c = '\\' then ['\\', c]
  else if c = '\t' then ['\\', 't']
  else if c = '\n' then ['\\', 'n']
  else if c = '\r' then ['\\', 'r']
  else if c.toNat < 0x20 ∨ c.toNat = 0x7F then '\\' :: 'x' :: hex 2 c.toNat
  else if c.toNat < 0x7F ∨ isPrintable c = true then [c]
  else if c.toNat ≤ 0xFF then '\\' :: 'x' :: hex 2 c.toNat
  else if c.toNat ≤ 0xFFFF then '\\' :: 'u' :: hex 4 c.toNat
  else '\\' :: 'U' :: hex 8 c.toNat

/-- Double quotes are used where they save an escape. -/
def quoteOf (text : Text) : Char := if '\x27' ∈ text ∧ '"' ∉ text then '"' else '\x27'

/-- `repr` of a string: single quotes, unless the text has some and no double ones. -/
def reprStr (isPrintable : Char → Bool) (text : Text) : Text :=
  quoteOf text :: text.flatMap (reprChar isPrintable (quoteOf text)) ++ [quoteOf text]

/-- `repr` of a field of a row; `none` is `None`. -/
def reprField (isPrintable : Char → Bool) : Option Text → Text
  | none => "None".toList
  | some text => reprStr isPrintable text

/-- A tuple of one field ends with a comma. -/
def strTuple (isPrintable : Char → Bool) : List (Option Text) → Text
  | [] => "()".toList
  | [field] => '(' :: reprField isPrintable field ++ ",)".toList
  | fields => '(' :: ", ".toList.intercalate (fields.map (reprField isPrintable)) ++ [')']

example : strTuple (fun _ => false) [some "O'Hara".toList, some "a\\\n\u00e9\"".toList, none] =
    "(\"O'Hara\", 'a\\\\\\n\\xe9\"', None)".toList := by decide +kernel

/-- The characters that `repr` leaves as they are. -/
def isShown (isPrintable : Char → Bool) (c : Char) : Bool :=
  c != '\\' && 0x20 ≤ c.toNat && c.toNat != 0x7F && (c.toNat < 0x7F || isPrintable c)

section
variable {isPrintable : Char → Bool} {quote c : Char} {text : Text}

theorem reprChar_of_isShown (h : isShown isPrintable c = true) (hQuote : c ≠ quote) :
    reprChar isPrintable quote c = [c] := by
  simp only [isShown, Bool.and_eq_true, bne_iff_ne, decide_eq_true_eq, Bool.or_eq_true] at h
  obtain ⟨⟨⟨hBackslash, hLow⟩, hDelete⟩, hPrintable⟩ := h
  have hTab : c ≠ '\t' := by
    rintro rfl
    exact absurd hLow (by decide)
  have hLine : c ≠ '\n' := by
    rintro rfl
    exact absurd hLow (by decide)
  have hReturn : c ≠ '\r' := by
    rintro rfl
    exact absurd hLow (by decide)
  have hControl : ¬(c.toNat < 0x20 ∨ c.toNat = 0x7F) := by omega
  rw [reprChar, if_neg (by simp [hQuote, hBackslash]), if_neg hTab, if_neg hLine, if_neg hReturn,
    if_neg hControl, if_pos hPrintable]

theorem isAlphanum_of_mem_toDigits {n : Nat} (h : c ∈ Nat.toDigits 16 n) :
    c.isAlphanum = true := by
  have hDigits : ∀ d < 16, (Nat.digitChar d).isAlphanum = true := by decide
  induction n using Nat.strongRecOn with
  | _ n ih =>
      rw [Nat.toDigits_eq_if (by decide)] at h
      split at h
      · rename_i hSmall
        rw [List.mem_singleton.1 h]
        exact hDigits n hSmall
      · rcases List.mem_append.1 h with h | h
        · exact ih (n / 16) (by omega) h
        · rw [List.mem_singleton.1 h]
          exact hDigits _ (Nat.mod_lt n (by decide))

theorem isAlphanum_of_mem_hex {width n : Nat} (h : c ∈ hex width n) : c.isAlphanum = true := by
  rcases List.mem_append.1 h with h | h
  · rw [List.eq_of_mem_replicate h]
    decide
  · exact isAlphanum_of_mem_toDigits h

/-- All other characters become a backslash and a name: a letter, digits or the character. -/
theorem reprChar_of_not_isShown (quote : Char) (h : isShown isPrintable c = false) :
    ∃ name, reprChar isPrintable quote c = '\\' :: name ∧ name ≠ [] ∧
      ∀ d ∈ name, d.isAlphanum = true ∨ d = c := by
  have hLetter (letter : Char) (hAlphanum : letter.isAlphanum = true) :
      ∀ d ∈ [letter], d.isAlphanum = true ∨ d = c := by
    intro d hMem
    rw [List.mem_singleton.1 hMem]
    exact Or.inl hAlphanum
  have hName (letter : Char) (hAlphanum : letter.isAlphanum = true) (width n : Nat) :
      ∀ d ∈ letter :: hex width n, d.isAlphanum = true ∨ d = c := by
    intro d hMem
    rcases List.mem_cons.1 hMem with rfl | hMem
    · exact Or.inl hAlphanum
    · exact Or.inl (isAlphanum_of_mem_hex hMem)
  unfold reprChar
  split_ifs with hSelf hTab hLine hReturn hControl hAscii hByte hPlane
  · refine ⟨[c], rfl, List.cons_ne_nil _ _, ?_⟩
    exact fun d hMem => Or.inr (List.mem_singleton.1 hMem)
  · exact ⟨['t'], rfl, List.cons_ne_nil _ _, hLetter 't' (by decide)⟩
  · exact ⟨['n'], rfl, List.cons_ne_nil _ _, hLetter 'n' (by decide)⟩
  · exact ⟨['r'], rfl, List.cons_ne_nil _ _, hLetter 'r' (by decide)⟩
  · exact ⟨_, rfl, List.cons_ne_nil _ _, hName 'x' (by decide) _ _⟩
  · exfalso
    simp only [isShown, Bool.and_eq_false_iff, bne_eq_false_iff_eq, decide_eq_false_iff_not,
      Bool.or_eq_false_iff, not_lt, not_le] at h
    simp only [not_or] at hSelf hControl
    rcases h with ((h | h) | h) | ⟨hHigh, hNot⟩
    · exact hSelf.2 h
    · omega
    · exact hControl.2 h
    · rcases hAscii with hAscii | hPrintable
      · omega
      · rw [hNot] at hPrintable
        cases hPrintable
  · exact ⟨_, rfl, List.cons_ne_nil _ _, hName 'x' (by decide) _ _⟩
  · exact ⟨_, rfl, List.cons_ne_nil _ _, hName 'u' (by decide) _ _⟩
  · exact ⟨_, rfl, List.cons_ne_nil _ _, hName 'U' (by decide) _ _⟩

/-- A string without its quotes, where these are single ones. -/
def escaped (isPrintable : Char → Bool) (text : Text) : Text :=
  text.flatMap (reprChar isPrintable '\x27')

theorem reprStr_eq (h : '\x27' ∉ text) :
    reprStr isPrintable text = '\x27' :: escaped isPrintable text ++ ['\x27'] := by
  have hQuote : quoteOf text = '\x27' := if_neg fun hBoth => h hBoth.1
  rw [reprStr, hQuote]
  rfl

theorem mem_escaped {d : Char} (h : d ∈ escaped isPrintable text) :
    d ∈ text ∨ d.isAlphanum = true ∨ d = '\\' := by
  obtain ⟨c, hc, hd⟩ := List.mem_flatMap.1 h
  cases hShown : isShown isPrintable c with
  | true =>
      by_cases hQuote : c = '\x27'
      · subst hQuote
        rw [reprChar, if_pos (Or.inl rfl)] at hd
        rcases List.mem_cons.1 hd with rfl | hd
        · exact Or.inr (Or.inr rfl)
        · exact Or.inl (List.mem_singleton.1 hd ▸ hc)
      · rw [reprChar_of_isShown hShown hQuote] at hd
        exact Or.inl (List.mem_singleton.1 hd ▸ hc)
  | false =>
      obtain ⟨name, hName, -, hChars⟩ :=
        reprChar_of_not_isShown '\x27' hShown
      rw [hName] at hd
      rcases List.mem_cons.1 hd with rfl | hd
      · exact Or.inr (Or.inr rfl)
      · rcases hChars d hd with hAlphanum | rfl
        · exact Or.inr (Or.inl hAlphanum)
        · exact Or.inl hc

theorem reprChar_ne_nil (isPrintable : Char → Bool) (quote c : Char) : reprChar isPrintable quote c ≠ [] := by
  unfold reprChar
  split_ifs <;> exact List.cons_ne_nil _ _

theorem length_le_escaped (isPrintable : Char → Bool) (text : Text) : text.length ≤ (escaped isPrintable text).length := by
  induction text with
  | nil => rfl
  | cons c rest ih =>
      have hChar := List.length_pos_iff.2 (reprChar_ne_nil isPrintable '\x27' c)
      rw [escaped, List.flatMap_cons, List.length_append, List.length_cons]
      rw [escaped] at ih
      omega

/-- A string is shown as it is if each of its characters is. -/
theorem escaped_eq_iff (h : '\x27' ∉ text) :
    escaped isPrintable text = text ↔ ∀ c ∈ text, isShown isPrintable c = true := by
  induction text with
  | nil => simp [escaped]
  | cons c rest ih =>
      obtain ⟨hQuote, hRest⟩ := List.ne_and_not_mem_of_not_mem_cons h
      rw [List.forall_mem_cons, ← ih hRest, escaped, List.flatMap_cons]
      cases hShown : isShown isPrintable c with
      | true =>
          rw [reprChar_of_isShown hShown (Ne.symm hQuote)]
          simp [escaped]
      | false =>
          obtain ⟨name, hName, hNe, -⟩ := reprChar_of_not_isShown '\x27' hShown
          have hLonger := length_le_escaped isPrintable rest
          have hPos := List.length_pos_iff.2 hNe
          rw [hName]
          constructor
          · intro hSame
            have hLength := congrArg List.length hSame
            simp only [List.cons_append, List.length_cons, List.length_append, escaped] at hLength hLonger
            omega
          · intro hNever
            cases hNever.1

end
end StompGames.Python
