import DownloadSite.Toml.StringLiteral

/-!
# Strings as they are written

The texts that stand for a string: its characters between double quotes with escapes, or between single
quotes as they are, on one line or on several. Each of them is read back as the string, whatever follows
it (`string_written`).
-/

namespace DownloadSite.Toml

/-- The characters that an escaped string has to write by their code points. -/
def IsControl (c : Char) : Prop := c.toNat < 0x20 ∨ c.toNat = 0x7f

instance (c : Char) : Decidable (IsControl c) :=
  inferInstanceAs (Decidable (c.toNat < 0x20 ∨ c.toNat = 0x7f))

/-- Characters, and how they are written between double quotes: backslashes and quotes behind a
backslash, control characters by their code points, and line feeds as they are if there may be several
lines. -/
inductive Escaped (extent : Extent) : List Char → List Char → Prop where
  | nil : Escaped extent [] []
  | plain (c : Char) (hcontrol : ¬ IsControl c) (hquote : c ≠ '"') (hbackslash : c ≠ '\\')
      {cs text : List Char} (hrest : Escaped extent cs text) : Escaped extent (c :: cs) (c :: text)
  | quote {cs text : List Char} (hrest : Escaped extent cs text) :
      Escaped extent ('"' :: cs) ('\\' :: '"' :: text)
  | backslash {cs text : List Char} (hrest : Escaped extent cs text) :
      Escaped extent ('\\' :: cs) ('\\' :: '\\' :: text)
  | control (c high low : Char) (hcontrol : IsControl c)
      (hdigits : Text.ofDigits? 16 [high, low] = some c.toNat)
      {cs text : List Char} (hrest : Escaped extent cs text) :
      Escaped extent (c :: cs) ('\\' :: 'u' :: '0' :: '0' :: high :: low :: text)
  | lineFeed (hlines : extent = .lines) {cs text : List Char} (hrest : Escaped extent cs text) :
      Escaped extent ('\n' :: cs) ('\n' :: text)

/-- A string, and a text that stands for it. -/
inductive StringText (cs : List Char) : List Char → Prop where
  | escaped {text : List Char} (htext : Escaped .line cs text) : StringText cs ('"' :: (text ++ ['"']))
  | literal (hcs : ∀ c ∈ cs, isTextChar c = true ∧ c ≠ '\'') : StringText cs ('\'' :: (cs ++ ['\'']))
  | escapedLines {text : List Char} (htext : Escaped .lines cs text) :
      StringText cs ("\"\"\"\n".toList ++ text ++ "\"\"\"".toList)
  | literalLines (hcs : ∀ c ∈ cs, (isTextChar c = true ∨ c = '\n') ∧ c ≠ '\'') :
      StringText cs ("'''\n".toList ++ cs ++ "'''".toList)

/-! ### One character -/

theorem isTextChar_of_not_isControl {c : Char} (h : ¬ IsControl c) : isTextChar c = true := by
  simp only [IsControl, not_or] at h
  simp only [isTextChar, Bool.or_eq_true, Bool.and_eq_true, decide_eq_true_eq]
  exact .inr ⟨by omega, h.2⟩

theorem escapedBody_plain {extent : Extent} {c : Char}
    (htext : isTextChar c = true ∨ (extent = .lines ∧ c = '\n')) (hquote : c ≠ '"')
    (hbackslash : c ≠ '\\') (rest : List Char) :
    escapedBody extent .none (c :: rest) = prepend c (escapedBody extent .none rest) := by
  rw [escapedBody.eq_def]
  simp only [reduceCtorEq, false_and, if_false, if_neg hquote, if_neg hbackslash, if_pos htext]

theorem escapedBody_unescape {extent : Extent} {letter c : Char} (h : unescape? letter = some c)
    (hblank : isBlank letter = false) (rest : List Char) :
    escapedBody extent .none ('\\' :: letter :: rest) =
      prepend c (escapedBody extent .none rest) := by
  have hu : letter ≠ 'u' := by
    rintro rfl
    cases h
  have hU : letter ≠ 'U' := by
    rintro rfl
    cases h
  have hn : letter ≠ '\n' := by
    rintro rfl
    cases h
  rw [escapedBody.eq_def]
  simp [hu, hU, hn, hblank, h]

theorem escapedBody_codePoint {extent : Extent} (d1 d2 d3 d4 : Char) (rest : List Char) :
    escapedBody extent .none ('\\' :: 'u' :: d1 :: d2 :: d3 :: d4 :: rest) =
      (codePoint? [d1, d2, d3, d4]).bind fun c =>
        prepend c (escapedBody extent .none rest) := by
  rw [escapedBody.eq_def]
  simp

theorem codePoint?_control {c high low : Char} (hcontrol : IsControl c)
    (hdigits : Text.ofDigits? 16 [high, low] = some c.toNat) :
    codePoint? ['0', '0', high, low] = some c := by
  have hzero : Text.ofDigits? 16 ['0', '0', high, low] = Text.ofDigits? 16 [high, low] := rfl
  have hsmall : c.toNat < 0xd800 := by
    rcases hcontrol with h | h <;> omega
  rw [codePoint?, hzero, hdigits]
  simp [hsmall]

theorem ofDigits?_pair {n : Nat} (h : n < 256) :
    Text.ofDigits? 16 [Text.digitChar (n / 16), Text.digitChar (n % 16)] = some n := by
  have hhigh : Text.digitValue? 16 (Text.digitChar (n / 16)) = some (n / 16) :=
    Text.digitValue?_digitChar (Nat.le_refl _) (by omega)
  have hlow : Text.digitValue? 16 (Text.digitChar (n % 16)) = some (n % 16) :=
    Text.digitValue?_digitChar (Nat.le_refl _) (by omega)
  simp only [Text.ofDigits?, List.isEmpty_cons, Bool.false_eq_true, if_false, Text.readDigits?, hhigh,
    hlow, Option.bind_some, Option.some.injEq]
  omega

/-- How a character may be written between double quotes. -/
def escapeSequence (c : Char) : List Char :=
  if IsControl c then
    ['\\', 'u', '0', '0', Text.digitChar (c.toNat / 16), Text.digitChar (c.toNat % 16)]
  else if c = '"' ∨ c = '\\' then ['\\', c]
  else [c]

/-- Every string can be written between double quotes. -/
theorem escaped_flatMap (extent : Extent) (cs : List Char) :
    Escaped extent cs (cs.flatMap escapeSequence) := by
  induction cs with
  | nil => exact .nil
  | cons c cs ih =>
    rw [List.flatMap_cons, escapeSequence]
    by_cases hcontrol : IsControl c
    · have hsmall : c.toNat < 256 := by
        rcases hcontrol with h | h <;> omega
      rw [if_pos hcontrol]
      exact .control c _ _ hcontrol (ofDigits?_pair hsmall) ih
    · rw [if_neg hcontrol]
      by_cases hquote : c = '"'
      · subst hquote
        exact .quote ih
      · by_cases hbackslash : c = '\\'
        · subst hbackslash
          exact .backslash ih
        · rw [if_neg (by simp [hquote, hbackslash])]
          exact .plain c hcontrol hquote hbackslash ih

/-- No digit is a carriage return, and none is written as it is. -/
theorem Escaped.return_notMem {extent : Extent} {cs text : List Char} (h : Escaped extent cs text) :
    '\r' ∉ text := by
  have hdigit : Text.digitValue? 16 '\r' = none := by decide
  induction h with
  | nil => exact List.not_mem_nil
  | plain c hcontrol hquote hbackslash hrest ih =>
    have hc : c ≠ '\r' := by
      rintro rfl
      exact hcontrol (by decide)
    simp [ih, hc.symm]
  | quote hrest ih => simp [ih]
  | backslash hrest ih => simp [ih]
  | control c high low hcontrol hdigits hrest ih =>
    have hhigh : high ≠ '\r' := by
      rintro rfl
      simp [Text.ofDigits?, Text.readDigits?, hdigit] at hdigits
    have hlow : low ≠ '\r' := by
      rintro rfl
      simp [Text.ofDigits?, Text.readDigits?, hdigit] at hdigits
    simp [ih, hhigh.symm, hlow.symm]
  | lineFeed hlines hrest ih => simp [ih]

/-! ### From the first quote to the last -/

theorem escapedBody_written {extent : Extent} {cs text : List Char} (h : Escaped extent cs text)
    {rest own after : List Char} (hclose : extent.close? '"' rest = some (own, after)) :
    escapedBody extent .none (text ++ '"' :: rest) = some (cs ++ own, after) := by
  induction h with
  | nil =>
    rw [List.nil_append, escapedBody.eq_def]
    simp [hclose]
  | plain c hcontrol hquote hbackslash hrest ih =>
    rw [List.cons_append, escapedBody_plain (.inl (isTextChar_of_not_isControl hcontrol)) hquote
      hbackslash, ih]
    rfl
  | quote hrest ih =>
    rw [List.cons_append, List.cons_append, escapedBody_unescape rfl rfl, ih]
    rfl
  | backslash hrest ih =>
    rw [List.cons_append, List.cons_append, escapedBody_unescape rfl rfl, ih]
    rfl
  | control c high low hcontrol hdigits hrest ih =>
    simp only [List.cons_append]
    rw [escapedBody_codePoint, codePoint?_control hcontrol hdigits, Option.bind_some, ih]
    rfl
  | lineFeed hlines hrest ih =>
    rw [List.cons_append, escapedBody_plain (.inr ⟨hlines, rfl⟩) (by decide) (by decide), ih]
    rfl

theorem literalBody_written {extent : Extent} {cs : List Char}
    (h : ∀ c ∈ cs, (isTextChar c = true ∨ (extent = .lines ∧ c = '\n')) ∧ c ≠ '\'')
    {rest own after : List Char} (hclose : extent.close? '\'' rest = some (own, after)) :
    literalBody extent (cs ++ '\'' :: rest) = some (cs ++ own, after) := by
  induction cs with
  | nil => simp [literalBody, hclose]
  | cons c cs ih =>
    obtain ⟨htext, hquote⟩ := h c List.mem_cons_self
    have htail := ih fun other hother => h other (List.mem_cons_of_mem _ hother)
    rw [List.cons_append, literalBody, if_neg hquote, if_pos htext, htail]
    rfl

theorem close?_line (quote : Char) (rest : List Char) :
    Extent.line.close? quote rest = some ([], rest) := rfl

/-- Two more quotes close a string of several lines unless yet another follows. -/
theorem close?_lines {quote : Char} {rest : List Char} (h : rest.head? ≠ some quote) :
    Extent.lines.close? quote (quote :: quote :: rest) = some ([], rest) := by
  have hown : (rest.take 2).takeWhile (· = quote) = [] := by
    cases rest with
    | nil => rfl
    | cons c rest =>
      have hc : c ≠ quote := by simpa using h
      simp [hc]
  simp [Extent.close?, hown]

/-! ### Whole strings -/

theorem Escaped.head?_ne {extent : Extent} {cs text : List Char} (h : Escaped extent cs text) :
    text.head? ≠ some '"' := by
  cases h with
  | plain c hcontrol hquote hbackslash hrest => simpa using hquote
  | _ => simp

theorem lineString_escaped {cs text : List Char} (h : Escaped .line cs text) (rest : List Char) :
    lineString ('"' :: (text ++ '"' :: rest)) = some (cs, rest) := by
  rw [lineString, if_pos rfl, escapedBody_written h (close?_line '"' rest), List.append_nil]

theorem lineString_literal {cs : List Char} (h : ∀ c ∈ cs, isTextChar c = true ∧ c ≠ '\'')
    (rest : List Char) : lineString ('\'' :: (cs ++ '\'' :: rest)) = some (cs, rest) := by
  have hcs : ∀ c ∈ cs, (isTextChar c = true ∨ (Extent.line = .lines ∧ c = '\n')) ∧ c ≠ '\'' :=
    fun c hc => ⟨.inl (h c hc).1, (h c hc).2⟩
  rw [lineString, if_neg (by decide), if_pos rfl, literalBody_written hcs (close?_line '\'' rest),
    List.append_nil]

/-- Three quotes in a row are not the beginning of a string of one line. -/
theorem ne_three_quotes {quote : Char} {text rest : List Char} (hhead : text.head? ≠ some quote)
    (hrest : rest.head? ≠ some quote) (other : Char) (more : List Char) :
    quote :: (text ++ quote :: rest) ≠ other :: other :: other :: more := by
  intro heq
  cases text with
  | nil =>
    simp only [List.nil_append, List.cons.injEq] at heq
    obtain ⟨rfl, -, rfl⟩ := heq
    exact hrest rfl
  | cons c text =>
    simp only [List.cons_append, List.cons.injEq] at heq
    obtain ⟨rfl, rfl, -⟩ := heq
    exact hhead rfl

theorem string_eq_lineString {quote : Char} {text rest : List Char} (hhead : text.head? ≠ some quote)
    (hrest : rest.head? ≠ some quote) :
    string (quote :: (text ++ quote :: rest)) = lineString (quote :: (text ++ quote :: rest)) := by
  rw [string.eq_def]
  split
  · next more heq => exact absurd heq (ne_three_quotes hhead hrest '"' more)
  · next more heq => exact absurd heq (ne_three_quotes hhead hrest '\'' more)
  · rfl

/-- A written string is read back, unless yet another quote follows it. -/
theorem string_written {cs text : List Char} (h : StringText cs text) {rest : List Char}
    (hdouble : rest.head? ≠ some '"') (hsingle : rest.head? ≠ some '\'') :
    string (text ++ rest) = some (cs, rest) := by
  cases h with
  | escaped htext =>
    rw [List.cons_append, List.append_assoc, List.singleton_append,
      string_eq_lineString htext.head?_ne hdouble, lineString_escaped htext]
  | literal hcs =>
    have hhead : cs.head? ≠ some '\'' := by
      intro hc
      exact (hcs _ (List.mem_of_mem_head? hc)).2 rfl
    rw [List.cons_append, List.append_assoc, List.singleton_append,
      string_eq_lineString hhead hsingle, lineString_literal hcs]
  | @escapedLines text htext =>
    have hread := escapedBody_written htext (close?_lines hdouble)
    rw [List.append_nil] at hread
    simpa [string, dropFirstLineEnd] using hread
  | literalLines hcs =>
    have hlines : ∀ c ∈ cs, (isTextChar c = true ∨ (Extent.lines = .lines ∧ c = '\n')) ∧ c ≠ '\'' :=
      fun c hc => ⟨(hcs c hc).1.imp_right fun h => ⟨rfl, h⟩, (hcs c hc).2⟩
    have hread := literalBody_written hlines (close?_lines hsingle)
    rw [List.append_nil] at hread
    simpa [string, dropFirstLineEnd] using hread

end DownloadSite.Toml
