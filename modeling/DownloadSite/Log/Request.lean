import DownloadSite.Log.Filter
import DownloadSite.Text.Cut
import DownloadSite.Text.Pattern

/-!
# Asking for a filter

A filter is asked for by directives between commas. A directive is a level for everything; a part of the
program with a level behind a sign of equality; or a part alone, for which everything is written. Behind the
part, brackets may hold the name of a span, and braces in them the name of a field, with a value behind a
sign of equality.
-/

namespace DownloadSite.Log

/-! ### Levels -/

def rankNames : List String := ["off", "error", "warn", "info", "debug", "trace"]

/-- An ASCII letter in lower case; other characters stay. -/
def lowerChar (c : Char) : Char := if 'A' ≤ c ∧ c ≤ 'Z' then Char.ofNat (c.toNat + 32) else c

def dropPlus : List Char → List Char
  | [] => []
  | c :: rest => if c = '+' then rest else c :: rest

/-- A rank by its name in any case, or by its number. -/
def rank? (text : List Char) : Option Nat :=
  match rankNames.findIdx? fun name => name.toList = text.map lowerChar with
  | some rank => some rank
  | none => (Text.ofDigits? 10 (dropPlus text)).filter (· ≤ Level.trace.rank)

/-- The rank behind a sign of equality; nothing stands for everything. -/
def rankOrAll? (text : List Char) : Option Nat :=
  if text.isEmpty then some Level.trace.rank else rank? text

/-! ### Values of fields -/

/-- Is the text an exponent: a letter, an optional sign, and digits? -/
def isExponent : List Char → Bool
  | [] => false
  | letter :: rest =>
    let digits := if rest.head? = some '-' then rest.drop 1 else dropPlus rest
    (letter = 'e' || letter = 'E') && !digits.isEmpty && digits.all (Text.isDigit 10)

/-- Is the text a decimal number without a sign, with a fraction, an exponent, or neither? -/
def isDecimal (cs : List Char) : Bool :=
  let whole := cs.takeWhile (Text.isDigit 10)
  let rest := cs.drop whole.length
  let places := if rest.head? = some '.' then (rest.drop 1).takeWhile (Text.isDigit 10) else []
  let rest := if rest.head? = some '.' then rest.drop (places.length + 1) else rest
  (!whole.isEmpty || !places.isEmpty) && (rest.isEmpty || isExponent rest)

def isNumber (cs : List Char) : Bool :=
  let cs := dropPlus cs
  isDecimal cs || ["inf", "infinity", "nan"].any fun name => name.toList = cs.map lowerChar

def isFieldValue (cs : List Char) : Bool := isNumber cs || Text.isPattern cs

def fieldCondition? (field : List Char) : Option Condition :=
  let name := field.takeWhile (· ≠ '=')
  match field.drop name.length with
  | [] => if field.isEmpty then none else some (.hasField (String.ofList name))
  | _ :: value => if isFieldValue (value.takeWhile (· ≠ '=')) then some .insideSpan else none

/-! ### Directives -/

/-- A directive as far as it is not read yet. The white space around it does not count when its parts are
told apart, which the guide does; the parts are cut from the whole text at the same distances, where
it can be cut. -/
structure Cutter where
  guide : List Char
  whole : List Char
  /-- The distance from the beginning, in bytes. -/
  offset : Nat := 0

def Cutter.ofText (text : List Char) : Cutter := { guide := Text.trim text, whole := text }

def Cutter.skip (cutter : Cutter) (part : List Char) : Cutter :=
  { cutter with
    guide := cutter.guide.drop part.length
    offset := cutter.offset + Text.byteLength part }

def Cutter.drop (cutter : Cutter) (n : Nat) : Cutter := cutter.skip (cutter.guide.take n)

/-- All that is not read yet. -/
def Cutter.rest? (cutter : Cutter) : Option (List Char) :=
  Text.dropBytes? cutter.offset cutter.whole

/-- The part in front that ends before one of the given characters, and what follows it. -/
def Cutter.cut? (cutter : Cutter) (ends : List Char) : Option (List Char × Cutter) :=
  let part := cutter.guide.takeWhile fun c => !ends.contains c
  (cutter.rest?.bind (Text.takeBytes? (Text.byteLength part))).map fun found =>
    (found, cutter.skip part)

def levelIn? (cutter : Cutter) : Option Nat := (cutter.drop 1).rest?.bind rankOrAll?

def levelBehind? (cutter : Cutter) : Option Nat :=
  match cutter.guide with
  | [] => some Level.trace.rank
  | c :: _ => if c = '=' then levelIn? cutter else none

/-- Reads a field behind the brace that opens it, in brackets with or without the name of a span. -/
def fieldIn? (inSpan : Bool) (cutter : Cutter) : Option (Condition × Cutter) :=
  (cutter.cut? ['\x7d']).bind fun (field, cutter) =>
    (fieldCondition? field).bind fun condition =>
      match cutter.guide with
      | _ :: bracket :: _ =>
        if bracket = ']' then some (if inSpan then .insideSpan else condition, cutter.drop 2)
        else none
      | _ => none

def inBrackets? (cutter : Cutter) : Option (Condition × Cutter) :=
  (cutter.cut? [']', '\x7b']).bind fun (span, cutter) =>
    match cutter.guide with
    | [] => none
    | c :: _ =>
      if c = ']' then some (.insideSpan, cutter.drop 1) else fieldIn? (!span.isEmpty) (cutter.drop 1)

/-- Reads a directive from its brackets on. -/
def bracketed? (origin : List Char) (cutter : Cutter) : Option Directive :=
  (inBrackets? cutter).bind fun (condition, cutter) =>
    (levelBehind? cutter).map fun rank => { origin := String.ofList origin, condition, rank }

/-- May the character begin a directive without brackets? -/
def beginsDirective (c : Char) : Bool := Text.isAlphanumeric c || c = '_' || c = '-' || c = ':'

def wordDirective (text : List Char) : Directive :=
  match rank? text with
  | some rank => { origin := "", rank }
  | none => { origin := String.ofList text, rank := Level.trace.rank }

def originDirective? (cutter : Cutter) : Option Directive :=
  (cutter.cut? ['=', '[']).bind fun (origin, cutter) =>
    match cutter.guide with
    | [] => none
    | c :: _ =>
      if c = '=' then (levelIn? cutter).map fun rank => { origin := String.ofList origin, rank }
      else bracketed? origin (cutter.drop 1)

def directive? (text : List Char) : Option Directive :=
  let cutter := Cutter.ofText text
  match cutter.guide with
  | [] => none
  | c :: _ =>
    if c = '[' then bracketed? [] (cutter.drop 1)
    else if beginsDirective c then
      if cutter.guide.any fun c => c = '=' || c = '[' then originDirective? cutter
      else some (wordDirective text)
    else none

/-! ### Filters -/

/-- Reads directives between commas; nothing between two commas is no directive. -/
def Filter.parse? (text : String) : Option Filter :=
  ((text.toList.splitOn ',').filter (· ≠ [])).mapM directive?

/-- The filter that is asked for by a text, if any. A text that is no filter asks for none. -/
def Filter.ofRequest (request : Option String) : Filter :=
  (request.bind Filter.parse?).getD Filter.default

/-! ### Installing a filter -/

/-- A filter is installed once for a whole program. -/
inductive InstallFault where
  | alreadyInstalled
  deriving DecidableEq, Repr

def InstallFault.message : InstallFault → String
  | .alreadyInstalled =>
    "Failed to initialize logging: a global default trace dispatcher has already been set"

/-- Installs the filter that is asked for, unless one is installed. -/
def install (installed : Option Filter) (request : Option String) : Except InstallFault Filter :=
  match installed with
  | none => .ok (Filter.ofRequest request)
  | some _ => .error .alreadyInstalled

end DownloadSite.Log
