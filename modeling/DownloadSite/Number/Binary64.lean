/-!
# Binary floating point

The numbers of the 64-bit binary format, kept as a sign and an exact magnitude `mantissa · 2 ^ exponent`
rather than as machine words. A decimal number becomes the nearest of them; of two equally near ones
the one with the even mantissa.
-/

namespace DownloadSite

inductive Binary64 where
  /-- A finite number with the magnitude `mantissa · 2 ^ exponent`. -/
  | finite (negative : Bool) (mantissa : Nat) (exponent : Int)
  | infinite (negative : Bool)
  | notANumber
  deriving DecidableEq, Repr

namespace Binary64

/-- The integer nearest to a quotient; of two equally near ones the even one. -/
def roundDiv (num den : Nat) : Nat :=
  let quotient := num / den
  let rest := num % den
  if 2 * rest < den then quotient
  else if den < 2 * rest then quotient + 1
  else if quotient % 2 = 0 then quotient
  else quotient + 1

def mantissaBits : Nat := 53

def minExponent : Int := -1074

def maxExponent : Int := 971

/-- The fraction `num / den` divided by a power of two, as numerator and denominator. -/
def descale (num den : Nat) (exponent : Int) : Nat × Nat :=
  (num * Nat.pow 2 (-exponent).toNat, den * Nat.pow 2 exponent.toNat)

/-- The exponent at which the mantissa of the positive fraction `num / den` has full length, or the
least one. -/
def exponentFor (num den : Nat) : Int :=
  let low := max ((Nat.log2 num : Int) - Nat.log2 den - mantissaBits) minExponent
  let (n, d) := descale num den low
  if Nat.pow 2 mantissaBits ≤ n / d then low + 1 else low

/-- The number nearest to the fraction `num / den` with the given sign. -/
def ofFraction (negative : Bool) (num den : Nat) : Binary64 :=
  if num = 0 then .finite negative 0 0
  else
    let exponent := exponentFor num den
    let (n, d) := descale num den exponent
    let rounded := roundDiv n d
    let (mantissa, exponent) :=
      if rounded = Nat.pow 2 mantissaBits then (Nat.pow 2 (mantissaBits - 1), exponent + 1)
      else (rounded, exponent)
    if maxExponent < exponent then .infinite negative
    else if mantissa = 0 then .finite negative 0 0
    else .finite negative mantissa exponent

/-- The number nearest to `significand · 10 ^ exponent`, where the significand is below
`10 ^ length`. A magnitude that is certainly out of range is not computed. -/
def ofDecimal (negative : Bool) (significand length : Nat) (exponent : Int) : Binary64 :=
  if significand = 0 ∨ exponent + length < -330 then .finite negative 0 0
  else if 330 < exponent then .infinite negative
  else ofFraction negative (significand * Nat.pow 10 exponent.toNat)
    (Nat.pow 10 (-exponent).toNat)

end Binary64

end DownloadSite
