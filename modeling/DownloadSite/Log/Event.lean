import DownloadSite.Text.Quoted

/-!
# Log events

What a program tells about its work besides its result. An event has a level, the part of the program it
comes from, a message and named values, and is written on one line behind a time stamp. Characters of the
message that would steer a terminal are written as escapes.
-/

namespace DownloadSite.Log

inductive Level where
  | error
  | warn
  | info
  | debug
  | trace
  deriving DecidableEq, Repr

namespace Level

/-- The place of a level, counted from the most important one. -/
def rank : Level → Nat
  | .error => 1
  | .warn => 2
  | .info => 3
  | .debug => 4
  | .trace => 5

def name : Level → String
  | .error => "ERROR"
  | .warn => "WARN"
  | .info => "INFO"
  | .debug => "DEBUG"
  | .trace => "TRACE"

end Level

/-- A named value of an event, as it is or between quotes. -/
inductive Value where
  | plain (text : String)
  | quoted (text : String)
  deriving DecidableEq, Repr

def Value.text : Value → String
  | .plain text => text
  | .quoted text => Text.quoteString text

/-- Something that a program tells on a line of its own. The line is the one without colors and other styles, as
`NO_COLOR` asks for it. -/
structure Event where
  level : Level
  /-- The part of the program, as names joined by `::`. -/
  origin : String
  message : String
  values : List (String × Value) := []
  deriving DecidableEq, Repr

def Event.fieldNames (event : Event) : List String := "message" :: event.values.map Prod.fst

/-- Two hexadecimal digits behind a backslash and an x. -/
def byteEscape (c : Char) : List Char :=
  let digits := Text.toDigits 16 c.toNat
  "\\x".toList ++ List.replicate (2 - digits.length) '0' ++ digits

def messageChar (c : Char) : List Char :=
  if c = '\x1b' ∨ c = '\x07' ∨ c = '\x08' ∨ c = '\x0c' ∨ c = '\x7f' then byteEscape c
  else if 0x80 ≤ c.toNat ∧ c.toNat < 0xa0 then Text.codePointEscape c
  else [c]

/-- The name of a level, with blanks before it to a common width. -/
def Level.column (level : Level) : String :=
  "".pushn ' ' (5 - level.name.length) ++ level.name

def Event.line (stamp : String) (event : Event) : String :=
  stamp ++ " " ++ event.level.column ++ " "
    ++ String.ofList (event.message.toList.flatMap messageChar)
    ++ String.join (event.values.map fun (name, value) => " " ++ name ++ "=" ++ value.text)
    ++ "\n"

end DownloadSite.Log
