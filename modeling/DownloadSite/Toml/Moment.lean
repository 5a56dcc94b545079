import DownloadSite.Text.Digits

/-!
# Moments

Dates, times of day, and both together, with or without an offset from universal time. A date has to
exist in the Gregorian calendar; a minute may have sixty-one seconds.
-/

namespace DownloadSite.Toml

structure Date where
  year : Nat
  month : Nat
  day : Nat
  deriving DecidableEq, Repr

/-- A time of day; the fraction of its second is kept as digits. -/
structure Time where
  hour : Nat
  minute : Nat
  second : Nat
  fraction : List Char
  deriving DecidableEq, Repr

/-- A date, a time of day, or both; the offset is in minutes. -/
structure Moment where
  date : Option Date
  time : Option Time
  offset : Option Int
  deriving DecidableEq, Repr

def twoDigits? (low high : Nat) (tens ones : Char) : Option Nat :=
  (Text.ofDigits? 10 [tens, ones]).filter fun n => low ≤ n && n ≤ high

def daysIn (year month : Nat) : Nat :=
  if month = 2 then
    if year % 4 = 0 ∧ (year % 100 ≠ 0 ∨ year % 400 = 0) then 29 else 28
  else if month ∈ [4, 6, 9, 11] then 30
  else 31

def date? : List Char → Option Date
  | [y1, y2, y3, y4, dash1, m1, m2, dash2, d1, d2] =>
    if dash1 = '-' ∧ dash2 = '-' then do
      let year ← Text.ofDigits? 10 [y1, y2, y3, y4]
      let month ← twoDigits? 1 12 m1 m2
      let day ← twoDigits? 1 (daysIn year month) d1 d2
      some { year, month, day }
    else none
  | _ => none

/-- The fraction of a second: nothing, or a point and digits. -/
def secondFraction? : List Char → Option (List Char)
  | [] => some []
  | point :: digits =>
    if point = '.' ∧ digits ≠ [] ∧ digits.all (Text.isDigit 10) then some digits else none

def time? : List Char → Option Time
  | h1 :: h2 :: colon1 :: m1 :: m2 :: colon2 :: s1 :: s2 :: rest =>
    if colon1 = ':' ∧ colon2 = ':' then do
      let hour ← twoDigits? 0 23 h1 h2
      let minute ← twoDigits? 0 59 m1 m2
      let second ← twoDigits? 0 60 s1 s2
      let fraction ← secondFraction? rest
      some { hour, minute, second, fraction }
    else none
  | _ => none

/-- An offset: nothing, the letter of universal time, or a sign with hours and minutes. -/
def offset? : List Char → Option (Option Int)
  | [] => some none
  | [letter] => if letter = 'Z' ∨ letter = 'z' then some (some 0) else none
  | [sign, h1, h2, colon, m1, m2] =>
    if (sign = '+' ∨ sign = '-') ∧ colon = ':' then do
      let hours ← twoDigits? 0 23 h1 h2
      let minutes ← twoDigits? 0 59 m1 m2
      let total : Int := hours * 60 + minutes
      some (some (if sign = '-' then -total else total))
    else none
  | _ => none

/-- A time with an optional offset. -/
def timeAndOffset? (word : List Char) : Option (Time × Option Int) :=
  let isTimePart := fun c => Text.isDigit 10 c || c = ':' || c = '.'
  (time? (word.takeWhile isTimePart)).bind fun time =>
    (offset? (word.dropWhile isTimePart)).map fun offset => (time, offset)

/-- The word as a moment. A letter joins a date and a time; a time alone has no offset. -/
def moment? (word : List Char) : Option Moment :=
  match date? (word.take 10) with
  | some date =>
    match word.drop 10 with
    | [] => some { date := some date, time := none, offset := none }
    | letter :: rest =>
      if letter = 'T' ∨ letter = 't' then
        (timeAndOffset? rest).map fun (time, offset) =>
          { date := some date, time := some time, offset }
      else none
  | none => (time? word).map fun time => { date := none, time := some time, offset := none }

end DownloadSite.Toml
