import Mathlib.Algebra.Group.Int.Defs
import DownloadSite.Proofs.Text.Digits
import DownloadSite.Proofs.Toml.Lines

/-!
# Integers as they are written

The texts that stand for a decimal integer: its digits, single underscores between some of them, and a sign. Each
of them is read back as the integer (`integer?_written`), and as a word among others up to where it ends.
-/

namespace DownloadSite.Toml

/-- Digits, and how they are written: a single underscore may stand between two of them. -/
inductive Grouped : List Char → List Char → Prop where
  | single (d : Char) : Grouped [d] [d]
  | next (d : Char) {digits text : List Char} (hrest : Grouped digits text) : Grouped (d :: digits) (d :: text)
  | underscore (d : Char) {digits text : List Char} (hrest : Grouped digits text) :
      Grouped (d :: digits) (d :: '_' :: text)

/-- An integer in decimal, and a text that stands for it. -/
inductive IntegerText (n : Int) : List Char → Prop where
  | bare {text : List Char} (hsign : 0 ≤ n) (htext : Grouped (Text.toDigits 10 n.natAbs) text) :
      IntegerText n text
  | plus {text : List Char} (hsign : 0 ≤ n) (htext : Grouped (Text.toDigits 10 n.natAbs) text) :
      IntegerText n ('+' :: text)
  | minus {text : List Char} (hsign : n ≤ 0) (htext : Grouped (Text.toDigits 10 n.natAbs) text) :
      IntegerText n ('-' :: text)

/-! ### Reading back -/

theorem Grouped.exists_cons {digits text : List Char} (h : Grouped digits text) :
    ∃ d ds rest, digits = d :: ds ∧ text = d :: rest := by
  cases h with
  | single d => exact ⟨d, _, _, rfl, rfl⟩
  | next d hrest => exact ⟨d, _, _, rfl, rfl⟩
  | underscore d hrest => exact ⟨d, _, _, rfl, rfl⟩

theorem Grouped.mem_cases {digits text : List Char} (h : Grouped digits text) {c : Char} (hc : c ∈ text) :
    c ∈ digits ∨ c = '_' := by
  induction h with
  | single d => exact .inl hc
  | next d hrest ih =>
    rcases List.mem_cons.1 hc with rfl | hc
    · exact .inl List.mem_cons_self
    · exact (ih hc).imp_left (List.mem_cons_of_mem _)
  | underscore d hrest ih =>
    rcases List.mem_cons.1 hc with rfl | hc
    · exact .inl List.mem_cons_self
    · rcases List.mem_cons.1 hc with rfl | hc
      · exact .inr rfl
      · exact (ih hc).imp_left (List.mem_cons_of_mem _)

theorem ungroup?_grouped {digits text : List Char} (h : Grouped digits text)
    (hdigits : ∀ d ∈ digits, Text.isDigit 10 d = true) : ungroup? 10 text = some digits := by
  induction h with
  | single d => rw [ungroup?, if_pos (hdigits d List.mem_cons_self)]
  | @next d digits text hrest ih =>
    have htail := ih fun other hother => hdigits other (List.mem_cons_of_mem _ hother)
    obtain ⟨e, ds, rest, rfl, rfl⟩ := hrest.exists_cons
    have hne : e ≠ '_' := by
      rintro rfl
      exact absurd (hdigits '_' (by simp)) (by decide)
    rw [ungroup?, if_pos (hdigits d List.mem_cons_self)]
    simp only [if_neg hne, htail, Option.map_some]
  | underscore d hrest ih =>
    have htail := ih fun other hother => hdigits other (List.mem_cons_of_mem _ hother)
    rw [ungroup?, if_pos (hdigits d List.mem_cons_self)]
    simp only [if_true, htail, Option.map_some]

theorem wholeDigits?_grouped {n : Nat} {text : List Char} (h : Grouped (Text.toDigits 10 n) text) :
    wholeDigits? text = some (Text.toDigits 10 n) := by
  have hdigits : ∀ d ∈ Text.toDigits 10 n, Text.isDigit 10 d = true :=
    fun d => Text.isDigit_of_mem_toDigits (by omega) (by omega)
  rw [wholeDigits?, ungroup?_grouped h hdigits, Option.filter_some, if_pos]
  by_cases hzero : n = 0
  · rw [hzero]
    rfl
  · have hhead : (Text.toDigits 10 n).head? ≠ some '0' := fun hhead =>
      hzero (Text.eq_zero_of_head?_toDigits hhead)
    simp [hhead]

theorem toInteger?_of_bounds {n : Int} (low : -2 ^ 63 ≤ n) (high : n < 2 ^ 63) : toInteger? n = some n := by
  rw [toInteger?, if_pos]
  omega

theorem splitSign_digit {d : Char} (h : Text.isDigit 10 d = true) (rest : List Char) :
    splitSign (d :: rest) = (false, d :: rest) := by
  have hminus : d ≠ '-' := by
    rintro rfl
    cases h
  have hplus : d ≠ '+' := by
    rintro rfl
    cases h
  rw [splitSign, if_neg hminus, if_neg hplus]

theorem decimalInteger?_of_splitSign {n : Int} {word text : List Char} {negative : Bool}
    (hsplit : splitSign word = (negative, text)) (htext : Grouped (Text.toDigits 10 n.natAbs) text)
    (hsign : (if negative then -(n.natAbs : Int) else n.natAbs) = n) (low : -2 ^ 63 ≤ n) (high : n < 2 ^ 63) :
    decimalInteger? word = some n := by
  have hdigits : Text.ofDigits? 10 (Text.toDigits 10 n.natAbs) = some n.natAbs :=
    Text.ofDigits?_toDigits (by omega) (by omega) _
  rw [decimalInteger?, hsplit]
  simp only [wholeDigits?_grouped htext, hdigits, Option.bind_some, hsign, toInteger?_of_bounds low high]

theorem Grouped.isDigit_head {n : Nat} {d : Char} {rest : List Char}
    (h : Grouped (Text.toDigits 10 n) (d :: rest)) : Text.isDigit 10 d = true := by
  obtain ⟨e, ds, tail, hdigits, htext⟩ := h.exists_cons
  obtain ⟨rfl, -⟩ := List.cons.inj htext
  exact Text.isDigit_of_mem_toDigits (by omega) (by omega) (hdigits ▸ List.mem_cons_self)

theorem decimalInteger?_written {n : Int} {text : List Char} (h : IntegerText n text) (low : -2 ^ 63 ≤ n)
    (high : n < 2 ^ 63) : decimalInteger? text = some n := by
  cases h with
  | bare hsign htext =>
    obtain ⟨d, ds, rest, -, rfl⟩ := htext.exists_cons
    have hvalue : (if false then -(n.natAbs : Int) else n.natAbs) = n := by
      show (n.natAbs : Int) = n
      omega
    exact decimalInteger?_of_splitSign (splitSign_digit htext.isDigit_head rest) htext hvalue low high
  | plus hsign htext =>
    have hvalue : (if false then -(n.natAbs : Int) else n.natAbs) = n := by
      show (n.natAbs : Int) = n
      omega
    exact decimalInteger?_of_splitSign rfl htext hvalue low high
  | minus hsign htext =>
    have hvalue : (if true then -(n.natAbs : Int) else n.natAbs) = n := by
      show -(n.natAbs : Int) = n
      omega
    exact decimalInteger?_of_splitSign rfl htext hvalue low high

theorem Grouped.isDigit_or_underscore {n : Nat} {text : List Char} (h : Grouped (Text.toDigits 10 n) text)
    {c : Char} (hc : c ∈ text) : Text.isDigit 10 c = true ∨ c = '_' :=
  (h.mem_cases hc).imp_left (Text.isDigit_of_mem_toDigits (by omega) (by omega))

theorem radixInteger?_written {n : Int} {text : List Char} (h : IntegerText n text) :
    radixInteger? text = none := by
  cases h with
  | @bare text hsign htext =>
    rcases text with _ | ⟨zero, _ | ⟨letter, digits⟩⟩
    · rfl
    · rfl
    · have hletter : radixOf? letter = none := by
        have hcases := htext.isDigit_or_underscore (c := letter) (by simp)
        have hx : letter ≠ 'x' := by
          rintro rfl
          exact absurd hcases (by decide)
        have ho : letter ≠ 'o' := by
          rintro rfl
          exact absurd hcases (by decide)
        have hb : letter ≠ 'b' := by
          rintro rfl
          exact absurd hcases (by decide)
        rw [radixOf?, if_neg hx, if_neg ho, if_neg hb]
      rw [radixInteger?, hletter]
      split
      · rfl
      · rfl
  | @plus text hsign htext => cases text <;> rfl
  | @minus text hsign htext => cases text <;> rfl

theorem integer?_written {n : Int} {text : List Char} (h : IntegerText n text) (low : -2 ^ 63 ≤ n)
    (high : n < 2 ^ 63) : integer? text = some n := by
  rw [integer?, radixInteger?_written h]
  exact decimalInteger?_written h low high

theorem IntegerText.exists_cons {n : Int} {text : List Char} (h : IntegerText n text) :
    ∃ c rest, text = c :: rest ∧ (Text.isDigit 10 c = true ∨ c = '+' ∨ c = '-') ∧
      ∀ d ∈ rest, Text.isDigit 10 d = true ∨ d = '_' := by
  cases h with
  | bare hsign htext =>
    obtain ⟨d, ds, rest, -, rfl⟩ := htext.exists_cons
    exact ⟨d, rest, rfl, .inl htext.isDigit_head,
      fun c hc => htext.isDigit_or_underscore (List.mem_cons_of_mem _ hc)⟩
  | plus hsign htext => exact ⟨'+', _, rfl, .inr (.inl rfl), fun c => htext.isDigit_or_underscore⟩
  | minus hsign htext => exact ⟨'-', _, rfl, .inr (.inr rfl), fun c => htext.isDigit_or_underscore⟩

/-! ### Words -/

theorem isWordChar_of_isDigit {c : Char} (h : Text.isDigit 10 c = true) : isWordChar c = true := by
  simp [isWordChar, Text.isAlphanum_of_isDigit h]

theorem IntegerText.isWordChar {n : Int} {text : List Char} (h : IntegerText n text) {c : Char} (hc : c ∈ text) :
    isWordChar c = true := by
  obtain ⟨first, rest, rfl, hfirst, hrest⟩ := h.exists_cons
  rcases List.mem_cons.1 hc with rfl | hc
  · rcases hfirst with hdigit | rfl | rfl
    · exact isWordChar_of_isDigit hdigit
    · rfl
    · rfl
  · rcases hrest c hc with hdigit | rfl
    · exact isWordChar_of_isDigit hdigit
    · rfl

theorem IntegerText.date?_eq_none {n : Int} {text : List Char} (h : IntegerText n text) : date? text = none := by
  obtain ⟨first, rest, rfl, -, hrest⟩ := h.exists_cons
  rw [date?.eq_def]
  split
  · next y2 y3 y4 dash1 m1 m2 dash2 d1 d2 heq =>
    obtain ⟨-, rfl⟩ := List.cons.inj heq
    have hdash : dash1 ≠ '-' := by
      rintro rfl
      exact absurd (hrest '-' (by simp)) (by decide)
    rw [if_neg fun h => hdash h.1]
  · rfl

/-- Nothing that stands behind a value goes on with it. -/
def Delimited (rest : List Char) : Prop :=
  ∀ c, rest.head? = some c → isWordChar c = false ∧ c ≠ '"' ∧ c ≠ '\''

theorem word_of_delimited {token rest : List Char} (htoken : ∀ c ∈ token, isWordChar c = true)
    (hdate : date? token = none) (hrest : Delimited rest) :
    word (token ++ rest) = (wordValue? token).map fun node => (node, rest) := by
  obtain ⟨htake, hdrop⟩ := takeWhile_dropWhile_append htoken fun c hc => (hrest c hc).1
  rw [word, htake, hdrop, hdate]
  rfl

theorem wordValue?_integer {n : Int} {text : List Char} (h : IntegerText n text) (low : -2 ^ 63 ≤ n)
    (high : n < 2 ^ 63) : wordValue? text = some (.integer n) := by
  have hinteger := integer?_written h low high
  obtain ⟨first, rest, rfl, hfirst, -⟩ := h.exists_cons
  have htrue : first :: rest ≠ "true".toList := by
    intro heq
    obtain ⟨rfl, -⟩ := List.cons.inj heq
    exact absurd hfirst (by decide)
  have hfalse : first :: rest ≠ "false".toList := by
    intro heq
    obtain ⟨rfl, -⟩ := List.cons.inj heq
    exact absurd hfirst (by decide)
  rw [wordValue?, if_neg htrue, if_neg hfalse, hinteger]

theorem value_word {token rest : List Char} (hne : token ≠ []) (htoken : ∀ c ∈ token, isWordChar c = true)
    (hdate : date? token = none) (hrest : Delimited rest) :
    value (token ++ rest) = (wordValue? token).map fun node => (node, rest) := by
  have hword := word_of_delimited htoken hdate hrest
  obtain ⟨c, cs, rfl⟩ := List.exists_cons_of_ne_nil hne
  have hc := htoken c List.mem_cons_self
  have hnot : ∀ d : Char, isWordChar d = false → c ≠ d := by
    rintro d hd rfl
    rw [hd] at hc
    cases hc
  rw [List.cons_append] at hword ⊢
  rw [value, maxDepth, valueUpTo, simpleValue]
  simp only [hnot '[' rfl, hnot '\x7b' rfl, hnot '"' rfl, hnot '\'' rfl, or_self, if_false, hword]

end DownloadSite.Toml
