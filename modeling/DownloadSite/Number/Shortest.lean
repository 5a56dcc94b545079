import DownloadSite.Number.Binary64
import DownloadSite.Text.Digits

/-!
# The shortest decimal text of a number

A finite number is written with the fewest digits that read back as the same number, and among those
with the ones nearest to it; a tie goes up. The text is always positional, never with an exponent, and
an integral number keeps one place, `.0`.
-/

namespace DownloadSite.Binary64

/-- The numbers that a magnitude is read back from: from `low` to `high` quarters of its last place,
ends included if `closed`. The magnitude itself is four times its mantissa. -/
structure Cell where
  low : Nat
  high : Nat
  closed : Bool
  deriving DecidableEq, Repr

/-- The cell of a magnitude. Below a power of two the neighbours lie half as far apart. -/
def cell (mantissa : Nat) (exponent : Int) : Cell where
  low := if mantissa = Nat.pow 2 (mantissaBits - 1) ∧ minExponent < exponent
    then 4 * mantissa - 1 else 4 * mantissa - 2
  high := 4 * mantissa + 2
  closed := mantissa % 2 = 0

/-- Does `n / d`, in the unit of a cell, lie in it? -/
def Cell.has (c : Cell) (n d : Nat) : Bool :=
  if c.closed then c.low * d ≤ n && n ≤ c.high * d else c.low * d < n && n < c.high * d

/-- The multiple of `10 ^ power` that is nearest to a magnitude and reads back as it, if any of the two
multiples around the magnitude does. -/
def onGrid? (mantissa : Nat) (exponent power : Int) : Option Nat :=
  let unit := exponent - 2
  -- one step of the grid is `n / d` quarters of the last place
  let n := Nat.pow 10 power.toNat * Nat.pow 2 (-unit).toNat
  let d := Nat.pow 10 (-power).toNat * Nat.pow 2 unit.toNat
  let c := cell mantissa exponent
  let below := 4 * mantissa * d / n
  let rest := 4 * mantissa * d % n
  match c.has (below * n) d, c.has ((below + 1) * n) d with
  | true, true => if 2 * rest < n then some below else some (below + 1)
  | true, false => some below
  | false, true => some (below + 1)
  | false, false => none

/-- The digits of a positive magnitude and the power of ten of the last one: the coarsest grid with a
point that reads back gives the fewest digits. -/
def shortest (mantissa : Nat) (exponent : Int) : Nat × Int :=
  let powers := (List.range 640).map fun (i : Nat) => (310 - i : Int)
  (powers.findSome? fun power =>
    (onGrid? mantissa exponent power).map fun digits => (digits, power)).getD (0, 0)

/-- `digits · 10 ^ power` in positional notation with at least one place. -/
def positional (digits : Nat) (power : Int) : List Char :=
  let ds := Text.toDigits 10 digits
  if 0 ≤ power then ds ++ List.replicate power.toNat '0' ++ ".0".toList
  else
    let places := (-power).toNat
    let padded := List.replicate (places + 1 - ds.length) '0' ++ ds
    let whole := padded.length - places
    padded.take whole ++ '.' :: padded.drop whole

def toText : Binary64 → String
  | .notANumber => "NaN"
  | .infinite negative => if negative then "-inf" else "inf"
  | .finite negative mantissa exponent =>
    let (digits, power) := if mantissa = 0 then (0, 0) else shortest mantissa exponent
    String.ofList ((if negative then ['-'] else []) ++ positional digits power)

end DownloadSite.Binary64
