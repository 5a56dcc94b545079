import Mathlib.Data.List.Basic
import Mathlib.Data.List.TakeWhile
import DownloadSite.Proofs.Text.Digits
import DownloadSite.Text.Alphanumeric
import DownloadSite.Text.Quoted

/-!
# Reading quoted text

A reader behind the opening quote takes one character after another and undoes the escapes, until it meets a
quote that no escape has taken. Whatever stands behind a quoted text, the reader ends at its closing quote with
the text that was quoted (`read?_flatMap_escape`). Of the characters that show nothing is used here but that
they are no controls.
-/

namespace DownloadSite.Text

theorem isControl_eq_false_of_isAlphanum {c : Char} (h : c.isAlphanum = true) : isControl c = false := by
  obtain ⟨low, high⟩ := toNat_of_isAlphanum h
  simp only [isControl, Bool.or_eq_false_iff, decide_eq_false_iff_not, Bool.and_eq_false_iff]
  omega

/-! ### The reader -/

/-- The character that a letter behind a backslash stands for. -/
def unescapeLetter? (letter : Char) : Option Char :=
  if letter = '0' then some '\x00'
  else if letter = 't' then some '\t'
  else if letter = 'n' then some '\n'
  else if letter = 'r' then some '\r'
  else if letter = '\\' ∨ letter = '"' ∨ letter = '\'' then some letter
  else none

def ofCodePoint? (n : Nat) : Option Char := if n.isValidChar then some (Char.ofNat n) else none

def readCodePoint? : List Char → Option (Char × List Char)
  | '\x7b' :: cs =>
    let digits := cs.takeWhile (isDigit 16)
    match cs.drop digits.length with
    | '\x7d' :: rest => ((ofDigits? 16 digits).bind ofCodePoint?).map fun c => (c, rest)
    | _ => none
  | _ => none

def readEscape? : List Char → Option (Char × List Char)
  | [] => none
  | letter :: cs =>
    if letter = 'u' then readCodePoint? cs else (unescapeLetter? letter).map fun c => (c, cs)

theorem length_lt_of_readCodePoint? {cs rest : List Char} {c : Char}
    (h : readCodePoint? cs = some (c, rest)) : rest.length < cs.length := by
  unfold readCodePoint? at h
  split at h
  · next cs =>
    dsimp only at h
    split at h
    · next tail htail =>
      obtain ⟨_, -, heq⟩ := Option.map_eq_some_iff.1 h
      obtain ⟨-, rfl⟩ := Prod.mk.inj heq
      have hdrop := congrArg List.length htail
      rw [List.length_drop, List.length_cons] at hdrop
      rw [List.length_cons]
      omega
    · cases h
  · cases h

theorem length_lt_of_readEscape? {cs rest : List Char} {c : Char} (h : readEscape? cs = some (c, rest)) :
    rest.length < cs.length := by
  unfold readEscape? at h
  split at h
  · cases h
  · split at h
    · exact Nat.lt_succ_of_lt (length_lt_of_readCodePoint? h)
    · obtain ⟨_, -, heq⟩ := Option.map_eq_some_iff.1 h
      obtain ⟨-, rfl⟩ := Prod.mk.inj heq
      exact Nat.lt_succ_self _

/-- Reads a text behind its opening quote; what is left stands behind the closing one. -/
def Quote.read? (quote : Quote) : List Char → Option (List Char × List Char)
  | [] => none
  | c :: cs =>
    if c = quote.char then some ([], cs)
    else if c = '\\' then
      match _h : readEscape? cs with
      | some (d, rest) => (quote.read? rest).map fun (content, behind) => (d :: content, behind)
      | none => none
    else (quote.read? cs).map fun (content, behind) => (c :: content, behind)
termination_by cs => cs.length
decreasing_by
  · exact Nat.lt_succ_of_lt (length_lt_of_readEscape? _h)
  · exact Nat.lt_succ_self _

namespace Quote

variable {quote : Quote} {c letter : Char} {cs rest : List Char}

theorem read?_quote (quote : Quote) (rest : List Char) : quote.read? (quote.char :: rest) = some ([], rest) := by
  rw [read?, if_pos rfl]

theorem read?_plain (hquote : c ≠ quote.char) (hslash : c ≠ '\\') (rest : List Char) :
    quote.read? (c :: rest) = (quote.read? rest).map fun (content, behind) => (c :: content, behind) := by
  rw [read?, if_neg hquote, if_neg hslash]

theorem char_ne_backslash (quote : Quote) : quote.char ≠ '\\' := by cases quote <;> decide

theorem read?_backslash (h : readEscape? cs = some (c, rest)) :
    quote.read? ('\\' :: cs) = (quote.read? rest).map fun (content, behind) => (c :: content, behind) := by
  rw [read?, if_neg quote.char_ne_backslash.symm, if_pos rfl]
  split
  · next d tail htail =>
    obtain ⟨rfl, rfl⟩ := Prod.mk.inj (Option.some.inj (htail.symm.trans h))
    rfl
  · next hnone => cases hnone.symm.trans h

/-! ### Reading what is quoted -/

theorem unescapeLetter?_of_shortEscape? (h : shortEscape? c = some letter) :
    letter ≠ 'u' ∧ unescapeLetter? letter = some c := by
  unfold shortEscape? at h
  split_ifs at h with hnul htab hfeed hreturn hslash
  all_goals
    obtain rfl := Option.some.inj h
    subst c
    decide

theorem unescapeLetter?_char (quote : Quote) :
    quote.char ≠ 'u' ∧ unescapeLetter? quote.char = some quote.char := by
  cases quote <;> decide

theorem readEscape?_letter (h : letter ≠ 'u' ∧ unescapeLetter? letter = some c) (rest : List Char) :
    readEscape? (letter :: rest) = some (c, rest) := by
  rw [readEscape?, if_neg h.1, h.2]
  rfl

theorem ofCodePoint?_toNat (c : Char) : ofCodePoint? c.toNat = some c := by
  have hvalid : c.toNat.isValidChar := c.valid
  rw [ofCodePoint?, if_pos hvalid, Char.ofNat_toNat]

theorem readEscape?_codePoint (c : Char) (rest : List Char) :
    readEscape? ('u' :: '\x7b' :: (toDigits 16 c.toNat ++ '\x7d' :: rest)) = some (c, rest) := by
  have hdigits : ∀ d ∈ toDigits 16 c.toNat, isDigit 16 d = true :=
    fun d => isDigit_of_mem_toDigits (by omega) (by omega)
  have hbrace : isDigit 16 '\x7d' = false := by decide
  have htake : (toDigits 16 c.toNat ++ '\x7d' :: rest).takeWhile (isDigit 16) = toDigits 16 c.toNat := by
    rw [List.takeWhile_append_of_pos hdigits, List.takeWhile_cons_of_neg (by simp [hbrace]), List.append_nil]
  have hvalue : ofDigits? 16 (toDigits 16 c.toNat) = some c.toNat := ofDigits?_toDigits (by omega) (by omega) _
  simp only [readEscape?, if_true, readCodePoint?, htake, List.drop_left, hvalue, Option.bind_some,
    ofCodePoint?_toNat, Option.map_some]

theorem read?_escape (quote : Quote) (c : Char) (rest : List Char) :
    quote.read? (quote.escape c ++ rest) =
      (quote.read? rest).map fun (content, behind) => (c :: content, behind) := by
  unfold escape
  split
  · next letter hletter =>
    exact read?_backslash (readEscape?_letter (unescapeLetter?_of_shortEscape? hletter) rest)
  · next hnone =>
    have hslash : c ≠ '\\' := by
      rintro rfl
      cases hnone
    split
    · next hquote =>
      rw [hquote]
      exact read?_backslash (readEscape?_letter quote.unescapeLetter?_char rest)
    · next hquote =>
      split
      · exact read?_plain hquote hslash rest
      · have hcode : codePointEscape c ++ rest =
            '\\' :: 'u' :: '\x7b' :: (toDigits 16 c.toNat ++ '\x7d' :: rest) := by
          simp [codePointEscape]
        rw [hcode]
        exact read?_backslash (readEscape?_codePoint c rest)

/-- The reader of a quoted text ends at its closing quote and gives back what was quoted. -/
theorem read?_flatMap_escape (quote : Quote) (cs rest : List Char) :
    quote.read? (cs.flatMap quote.escape ++ quote.char :: rest) = some (cs, rest) := by
  induction cs with
  | nil => exact read?_quote quote rest
  | cons c cs ih => rw [List.flatMap_cons, List.append_assoc, read?_escape, ih, Option.map_some]

/-- Quoted texts are told apart by their first characters, whatever stands behind them. -/
theorem enclose_append_inj {cs ds : List Char} {behind others : String}
    (h : quote.enclose cs ++ behind = quote.enclose ds ++ others) : cs = ds ∧ behind = others := by
  have hchars : cs.flatMap quote.escape ++ quote.char :: behind.toList =
      ds.flatMap quote.escape ++ quote.char :: others.toList := by
    simpa [enclose] using congrArg String.toList h
  have hread := read?_flatMap_escape quote cs behind.toList
  rw [hchars, read?_flatMap_escape] at hread
  obtain ⟨hcontent, hbehind⟩ := Prod.mk.inj (Option.some.inj hread)
  exact ⟨hcontent.symm, String.toList_inj.1 hbehind.symm⟩

/-! ### What stands between the quotes -/

theorem mem_codePointEscape {d : Char} (h : d ∈ codePointEscape c) :
    d ∈ ['\\', '\x7b', '\x7d'] ∨ d.isAlphanum = true := by
  rw [codePointEscape, List.mem_append, List.mem_append] at h
  rcases h with (hopen | hdigit) | hclose
  · have hall : ("\\u\x7b".toList.all fun d => ['\\', '\x7b', '\x7d'].contains d || d.isAlphanum) = true := by
      decide
    simpa using List.all_eq_true.1 hall d hopen
  · exact .inr (isAlphanum_of_isDigit (isDigit_of_mem_toDigits (by omega) (by omega) hdigit))
  · have hbrace : d = '\x7d' := by simpa using hclose
    exact .inl (by simp [hbrace])

theorem isControl_of_mem_escape {d : Char} (h : d ∈ quote.escape c) : isControl d = false := by
  unfold escape at h
  split at h
  · next letter hletter =>
    rcases List.mem_pair.1 h with rfl | rfl
    · decide
    · unfold shortEscape? at hletter
      split_ifs at hletter
      all_goals
        obtain rfl := Option.some.inj hletter
        decide
  · split at h
    · next hquote =>
      rw [hquote] at h
      rcases List.mem_pair.1 h with rfl | rfl
      · decide
      · cases quote <;> decide
    · split at h
      · next hshows =>
        rw [List.mem_singleton.1 h]
        exact isControl_eq_false_of_shows hshows
      · rcases mem_codePointEscape h with hmark | halphanum
        · have hplain : (['\\', '\x7b', '\x7d'].all fun d => !isControl d) = true := by decide
          simpa using List.all_eq_true.1 hplain d hmark
        · exact isControl_eq_false_of_isAlphanum halphanum

theorem char_notMem_codePointEscape (quote : Quote) (c : Char) : quote.char ∉ codePointEscape c := by
  intro h
  rcases mem_codePointEscape h with hmark | halphanum
  · exact absurd hmark (by cases quote <;> decide)
  · exact absurd halphanum (by cases quote <;> decide)

theorem escape_eq_of_char_mem (h : quote.char ∈ quote.escape c) : quote.escape c = ['\\', quote.char] := by
  unfold escape at h ⊢
  split at h
  · next letter hletter =>
    rcases List.mem_pair.1 h with hslash | heq
    · exact absurd hslash quote.char_ne_backslash
    · rw [heq]
  · split at h
    · next hquote => rw [if_pos hquote, hquote]
    · next hquote =>
      split at h
      · exact absurd (List.mem_singleton.1 h).symm hquote
      · exact absurd h (quote.char_notMem_codePointEscape c)

/-- A quote stands between the quotes only behind a backslash. -/
theorem exists_backslash_of_flatMap_eq {front behind : List Char}
    (h : cs.flatMap quote.escape = front ++ quote.char :: behind) : ∃ before, front = before ++ ['\\'] := by
  induction cs generalizing front with
  | nil => exact absurd h (by simp)
  | cons c cs ih =>
    rw [List.flatMap_cons, List.append_eq_append_iff] at h
    rcases h with ⟨middle, rfl, hrest⟩ | ⟨middle, hescape, hrest⟩
    · obtain ⟨before, rfl⟩ := ih hrest
      exact ⟨quote.escape c ++ before, (List.append_assoc _ _ _).symm⟩
    · cases middle with
      | nil =>
        have hfirst : ∃ before, [] = before ++ ['\\'] := ih hrest.symm
        obtain ⟨before, hbefore⟩ := hfirst
        exact absurd hbefore.symm (List.concat_ne_nil _ _)
      | cons d middle =>
        obtain ⟨rfl, -⟩ := List.cons.inj hrest
        have hpair := escape_eq_of_char_mem (hescape ▸ List.mem_append_right _ List.mem_cons_self)
        rw [hpair] at hescape
        cases front with
        | nil => exact absurd (List.cons.inj hescape).1.symm quote.char_ne_backslash
        | cons e front =>
          obtain ⟨rfl, htail⟩ := List.cons.inj hescape
          cases front with
          | nil => exact ⟨[], rfl⟩
          | cons f front => exact absurd (List.cons.inj htail).2 (by simp)

end Quote

end DownloadSite.Text
