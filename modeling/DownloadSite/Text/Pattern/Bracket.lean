import DownloadSite.Text.Pattern.Escape
import DownloadSite.Text.Pattern.Height

/-!
# Classes in brackets

A class lists characters, ranges of two, shorthands, named classes and further classes in brackets.
Operators of two equal signs join the members on both sides. A class that takes in what it does not list
holds more than ASCII, and is refused where classes are those of ASCII.
-/

namespace DownloadSite.Text.Pattern

/-! ### Named classes -/

def classNames : List String :=
  ["alnum", "alpha", "ascii", "blank", "cntrl", "digit", "graph", "lower", "print", "punct", "space",
   "upper", "word", "xdigit"]

/-- What follows a named class, given what follows its bracket, and whether it stands for all that is
not in it. -/
def namedClass? : List Char → Option (Bool × List Char)
  | [] => none
  | colon :: rest =>
    if colon = ':' then
      let negated := rest.head? = some '^'
      let rest := if negated then rest.drop 1 else rest
      let name := rest.takeWhile (· ≠ ':')
      match rest.drop name.length with
      | a :: b :: rest =>
        if a = ':' ∧ b = ']' ∧ classNames.contains (String.ofList name) then some (negated, rest)
        else none
      | _ => none
    else none

/-! ### Open classes -/

/-- A class whose end is not read yet. -/
structure OpenClass where
  /-- The height of all that stands before the last operator. -/
  left : Option Nat := none
  /-- The heights of the members behind it. -/
  members : List Nat := []

def OpenClass.height (opened : OpenClass) : Nat :=
  match opened.left with
  | none => rowHeight opened.members
  | some left => max left (rowHeight opened.members) + 1

def OpenClass.add (opened : OpenClass) (height : Nat) : OpenClass :=
  { opened with members := height :: opened.members }

def OpenClass.operate (opened : OpenClass) : OpenClass := { left := some opened.height }

/-- Reads the dashes in front of a class, which stand for themselves, and counts them. The first number
bounds the steps. -/
def leadingDashes (mode : Mode) : Nat → List Char → Nat × List Char
  | 0, cs => (0, cs)
  | _ + 1, [] => (0, [])
  | fuel + 1, c :: rest =>
    if c = '-' then
      let (count, rest) := leadingDashes mode fuel (mode.skip rest)
      (count + 1, rest)
    else (0, c :: rest)

/-- Reads the beginning of a class behind its bracket: a mark of negation, and then dashes or a closing
bracket, which only there stand for themselves. The number bounds the steps. -/
def openClass (mode : Mode) (fuel : Nat) (cs : List Char) : Option (OpenClass × List Char) :=
  let cs := mode.skip cs
  let negated := cs.head? = some '^'
  let cs := if negated then mode.skip (cs.drop 1) else cs
  let (dashes, cs) := leadingDashes mode fuel cs
  let closing := dashes = 0 ∧ cs.head? = some ']'
  let count := if closing then 1 else dashes
  if negated ∧ !mode.unicode then none
  else if 0 < count ∧ !mode.admitsLiteral then none
  else some ({ members := List.replicate count 0 }, if closing then cs.drop 1 else cs)

/-! ### Members -/

def classItem (mode : Mode) : List Char → Option (Escape × List Char)
  | [] => none
  | c :: rest => if c = '\\' then escape mode rest else some (.literal c, rest)

def isMember (mode : Mode) : Escape → Bool
  | .literal c => mode.admitsMember c
  | .shorthand => true
  | .place => false

def isRange (mode : Mode) : Escape → Escape → Bool
  | .literal low, .literal high =>
    low.toNat ≤ high.toNat && mode.admitsMember low && mode.admitsMember high
  | _, _ => false

def classRange (mode : Mode) (cs : List Char) : Option (List Char) :=
  (classItem mode cs).bind fun (first, rest) =>
    let rest := mode.skip rest
    let next := mode.behindDash (rest.drop 1)
    if rest.head? ≠ some '-' ∨ next = some ']' ∨ next = some '-' then
      if isMember mode first then some rest else none
    else
      (classItem mode (mode.skip (rest.drop 1))).bind fun (last, rest) =>
        if isRange mode first last then some rest else none

def isOperator (cs : List Char) : Bool :=
  match cs with
  | a :: b :: _ => a = b && (a = '&' || a = '-' || a = '~')
  | _ => false

/-! ### Whole classes -/

/-- Reads a class to its end, together with the classes around it, the innermost first. The result has
the height of the outermost one. The first number bounds the steps. -/
def closeClass (mode : Mode) : Nat → OpenClass → List OpenClass → List Char → Option (Nat × List Char)
  | 0, _, _, _ => none
  | fuel + 1, opened, outer, cs =>
    match mode.skip cs with
    | [] => none
    | c :: rest =>
      if c = ']' then
        match outer with
        | [] => some (opened.height + 1, rest)
        | next :: outer => closeClass mode fuel (next.add (opened.height + 1)) outer rest
      else if c = '[' then
        match namedClass? rest with
        | some (negated, rest) =>
          if !mode.admitsLiteral ∨ (negated ∧ !mode.unicode) then none
          else closeClass mode fuel (opened.add 0) outer rest
        | none =>
          (openClass mode fuel rest).bind fun (inner, rest) =>
            closeClass mode fuel inner (opened :: outer) rest
      else if isOperator (c :: rest) then closeClass mode fuel opened.operate outer (rest.drop 1)
      else
        (classRange mode (c :: rest)).bind fun rest => closeClass mode fuel (opened.add 0) outer rest

/-- Reads a class behind its bracket: its height, and what follows it. -/
def bracketed (mode : Mode) (cs : List Char) : Option (Nat × List Char) :=
  let fuel := cs.length + 1
  (openClass mode fuel cs).bind fun (opened, rest) => closeClass mode fuel opened [] rest

end DownloadSite.Text.Pattern
