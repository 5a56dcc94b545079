import DownloadSite.Number.Binary64
import DownloadSite.Text.Digits

/-!
# Numbers

The words that are numbers. An integer has a sign and decimal digits without leading zeros, or one of
three radix marks and digits of that radix, and fits 64 bits. A number with a fraction or an exponent is
rounded to binary floating point. Digits may be grouped by single underscores.
-/

namespace DownloadSite.Toml

/-- The digits of a row without the underscores, each of which has to stand between two digits. -/
def ungroup? (radix : Nat) : List Char → Option (List Char)
  | [] => none
  | c :: rest =>
    if Text.isDigit radix c then
      match rest with
      | [] => some [c]
      | d :: rest =>
        if d = '_' then (ungroup? radix rest).map (c :: ·)
        else (ungroup? radix (d :: rest)).map (c :: ·)
    else none

/-- Splits a sign off a word; true for a minus. -/
def splitSign : List Char → Bool × List Char
  | [] => (false, [])
  | c :: rest =>
    if c = '-' then (true, rest) else if c = '+' then (false, rest) else (false, c :: rest)

/-- Decimal digits without leading zeros. -/
def wholeDigits? (cs : List Char) : Option (List Char) :=
  (ungroup? 10 cs).filter fun digits => digits.head? ≠ some '0' || digits.length = 1

def toInteger? (n : Int) : Option Int :=
  if -0x8000000000000000 ≤ n ∧ n ≤ 0x7fffffffffffffff then some n else none

def radixOf? (letter : Char) : Option Nat :=
  if letter = 'x' then some 16
  else if letter = 'o' then some 8
  else if letter = 'b' then some 2
  else none

/-- An integer of another radix: a zero, the letter of the radix, and digits. -/
def radixInteger? : List Char → Option Int
  | zero :: letter :: digits =>
    if zero = '0' then
      (radixOf? letter).bind fun radix =>
        (ungroup? radix digits).bind fun digits =>
          (Text.ofDigits? radix digits).bind fun n => toInteger? n
    else none
  | _ => none

def decimalInteger? (word : List Char) : Option Int :=
  let (negative, cs) := splitSign word
  (wholeDigits? cs).bind fun digits =>
    (Text.ofDigits? 10 digits).bind fun n => toInteger? (if negative then -n else n)

def integer? (word : List Char) : Option Int :=
  match radixInteger? word with
  | some n => some n
  | none => decimalInteger? word

/-- The exponent of a number: nothing, or a letter, an optional sign, and digits. -/
def exponent? : List Char → Option Int
  | [] => some 0
  | letter :: rest =>
    if letter = 'e' ∨ letter = 'E' then
      let (negative, cs) := splitSign rest
      (ungroup? 10 cs).bind fun digits =>
        (Text.ofDigits? 10 digits).map fun n => if negative then -(n : Int) else n
    else none

/-- The digits of a fraction, and what follows them. A point without digits is refused. -/
def fraction? : List Char → Option (List Char × List Char)
  | [] => some ([], [])
  | point :: rest =>
    if point = '.' then
      let isPart := fun c => Text.isDigit 10 c || c = '_'
      (ungroup? 10 (rest.takeWhile isPart)).map fun digits => (digits, rest.dropWhile isPart)
    else some ([], point :: rest)

/-- A decimal number with an optional sign and a fraction, an exponent, or both. A positive number
beyond the greatest finite one is refused. -/
def decimal? (word : List Char) : Option Binary64 :=
  let (negative, cs) := splitSign word
  let isPart := fun c => Text.isDigit 10 c || c = '_'
  let tail := cs.dropWhile isPart
  if tail.isEmpty then none
  else
    (wholeDigits? (cs.takeWhile isPart)).bind fun whole =>
      (fraction? tail).bind fun (places, rest) =>
        (exponent? rest).bind fun exponent =>
          (Text.ofDigits? 10 (whole ++ places)).bind fun significand =>
            let number := Binary64.ofDecimal negative significand (whole.length + places.length)
              (exponent - places.length)
            if number = .infinite false then none else some number

/-- The number that a name stands for, with an optional sign. -/
def namedFloat? (word : List Char) : Option Binary64 :=
  let (negative, name) := splitSign word
  if name = "inf".toList then some (.infinite negative)
  else if name = "nan".toList then some .notANumber
  else none

def float? (word : List Char) : Option Binary64 :=
  match namedFloat? word with
  | some x => some x
  | none => decimal? word

end DownloadSite.Toml
