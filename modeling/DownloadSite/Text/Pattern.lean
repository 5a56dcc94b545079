import DownloadSite.Text.Alphanumeric
import DownloadSite.Text.Pattern.Bracket

/-!
# Patterns

Which texts are regular expressions. An expression is read from left to right; groups nest, and each may
switch modes for what it contains. It may nest only so deep. Only texts without a closing brace are asked
about, so whatever needs braces is refused. Tables of Unicode classes are not at hand: what depends on
one is refused, too, unless the mode limits it to ASCII.
-/

namespace DownloadSite.Text.Pattern

/-! ### Modes of groups -/

/-- The flags that a group may switch. -/
def flagLetters : List Char := ['i', 'm', 's', 'U', 'u', 'R', 'x']

def Mode.switch (mode : Mode) (on : Bool) (letter : Char) : Mode :=
  if letter = 'u' then { mode with unicode := on }
  else if letter = 'i' then { mode with anyCase := on }
  else if letter = 'x' then { mode with spaced := on }
  else mode

/-- The mode that a list of flags leads to, those behind a dash being switched off. No flag may be
named twice, there is one dash at most, and a flag follows it. -/
def Mode.switchAll (mode : Mode) (flags : List Char) : Option Mode :=
  let on := flags.takeWhile (· ≠ '-')
  let off := (flags.drop on.length).drop 1
  let named := on ++ off
  if named.all flagLetters.contains ∧ named.Nodup ∧ flags.getLast? ≠ some '-' then
    some (off.foldl (Mode.switch · false) (on.foldl (Mode.switch · true) mode))
  else none

/-! ### Scopes -/

/-- A part of an expression that is read. -/
structure Part where
  height : Nat
  /-- A switch of modes cannot be repeated. -/
  repeatable : Bool := true

/-- A group whose end is not read yet, or the whole expression. -/
structure Scope where
  mode : Mode
  /-- The heights of the alternatives before the one that is being read. -/
  alternatives : List Nat := []
  /-- The parts of the alternative that is being read, the last first. -/
  parts : List Part := []

def Scope.heights (scope : Scope) : List Nat :=
  rowHeight (scope.parts.map Part.height) :: scope.alternatives

def Scope.height (scope : Scope) : Nat := rowHeight scope.heights

def Scope.add (scope : Scope) (height : Nat) : Scope :=
  { scope with parts := { height } :: scope.parts }

def Scope.alternate (scope : Scope) : Scope := { mode := scope.mode, alternatives := scope.heights }

def Scope.switch (scope : Scope) (mode : Mode) : Scope :=
  { scope with mode, parts := { height := 0, repeatable := false } :: scope.parts }

def Scope.repeatLast (scope : Scope) : Option Scope :=
  match scope.parts with
  | [] => none
  | part :: parts =>
    if part.repeatable then some { scope with parts := { height := part.height + 1 } :: parts }
    else none

/-- Where the reading of an expression stands. -/
structure State where
  scope : Scope
  /-- The scopes around it, the innermost first. -/
  outer : List Scope := []
  /-- The names of groups so far. -/
  names : List (List Char) := []

def State.add (state : State) (height : Nat) : State :=
  { state with scope := state.scope.add height }

def State.enter (state : State) (mode : Mode) : State :=
  { state with scope := { mode }, outer := state.scope :: state.outer }

def State.leave (state : State) : Option State :=
  match state.outer with
  | [] => none
  | scope :: outer => some { state with scope := scope.add (state.scope.height + 1), outer }

/-! ### Groups -/

def isGroupName : List Char → Bool
  | [] => false
  | c :: rest =>
    (c = '_' || isLetter c)
      && rest.all fun d => d = '_' || d = '.' || d = '[' || d = ']' || isAlphanumeric d

def namedGroup (state : State) (cs : List Char) : Option (State × List Char) :=
  let name := cs.takeWhile (· ≠ '>')
  match cs.drop name.length with
  | [] => none
  | _ :: rest =>
    if isGroupName name ∧ !state.names.contains name then
      some ({ state.enter state.scope.mode with names := name :: state.names }, rest)
    else none

/-- Reads the flags of a group, or flags that hold from there on. -/
def flaggedGroup (state : State) (cs : List Char) : Option (State × List Char) :=
  let flags := cs.takeWhile fun c => c ≠ ':' && c ≠ ')'
  match cs.drop flags.length with
  | [] => none
  | c :: rest =>
    (state.scope.mode.switchAll flags).bind fun mode =>
      if c = ':' then some (state.enter mode, rest)
      else if flags = [] then none
      else some ({ state with scope := state.scope.switch mode }, rest)

def group (state : State) (cs : List Char) : Option (State × List Char) :=
  match state.scope.mode.skip cs with
  | '?' :: 'P' :: '<' :: rest => namedGroup state rest
  | '?' :: '<' :: rest => namedGroup state rest
  | '?' :: rest => flaggedGroup state rest
  | rest => some (state.enter state.scope.mode, rest)

/-! ### Whole expressions -/

def step (state : State) (c : Char) (rest : List Char) : Option (State × List Char) :=
  let mode := state.scope.mode
  if c = '(' then group state rest
  else if c = ')' then state.leave.map fun state => (state, rest)
  else if c = '|' then some ({ state with scope := state.scope.alternate }, rest)
  else if c = '?' ∨ c = '*' ∨ c = '+' then
    state.scope.repeatLast.map fun scope =>
      ({ state with scope }, if rest.head? = some '?' then rest.drop 1 else rest)
  else if c = '[' then (bracketed mode rest).map fun (height, rest) => (state.add height, rest)
  else if c = '\x7b' then none
  else if c = '\\' then
    (escape mode rest).bind fun (found, rest) =>
      if found = .place ∨ mode.admitsLiteral then some (state.add 0, rest) else none
  else if c = '.' then if mode.unicode then some (state.add 0, rest) else none
  else if c = '^' ∨ c = '$' ∨ mode.admitsLiteral then some (state.add 0, rest)
  else none

/-- Reads an expression to its end; the result is its height. The number bounds the steps. -/
def run : Nat → State → List Char → Option Nat
  | 0, _, _ => none
  | fuel + 1, state, cs =>
    match state.scope.mode.skip cs with
    | [] => if state.outer.isEmpty then some state.scope.height else none
    | c :: rest => (step state c rest).bind fun (state, rest) => run fuel state rest

def height? (cs : List Char) : Option Nat := run (cs.length + 1) { scope := { mode := {} } } cs

end Pattern

def isPattern (cs : List Char) : Bool := (Pattern.height? cs).any (· ≤ Pattern.maxHeight)

end DownloadSite.Text
