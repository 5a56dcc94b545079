import DownloadSite.CommandLine.Config
import DownloadSite.CommandLine.Switch
import DownloadSite.CommandLine.Word

/-!
# Reading a command line

Words are taken from left to right and the first problem ends the reading. The value of an option may
stand in the next word; such an option is open until the next switch or the end, and only then is it
checked: that it has a value, that it is given for the first time, and that it admits the value. A word
that names nothing known, and a value for a switch that takes none, are problems at once.
-/

namespace DownloadSite.CommandLine

/-- Why the reading ends early. -/
inductive Stop where
  | asked (request : Request)
  /-- Nothing has this name, or a word stands where none may. -/
  | unknown (shown : String)
  | noValue (opt : Opt)
  | repeated (switch : Switch)
  | superfluous (value : String) (switch : Switch)
  deriving DecidableEq, Repr

def Stop.message : Stop → String
  | .asked _ => ""
  | .unknown shown => "error: unexpected argument '" ++ shown ++ "' found"
  | .noValue opt =>
    "error: a value is required for '" ++ (Switch.opt opt).display ++ "' but none was supplied"
  | .repeated switch =>
    "error: the argument '" ++ switch.display ++ "' cannot be used multiple times"
  | .superfluous value switch =>
    "error: unexpected value '" ++ value ++ "' for '" ++ switch.display
      ++ "' found; no more were expected"

/-- The first line of a text. A carriage return at its end belongs to the line end. -/
def firstLine (text : String) : String :=
  let line := text.toList.takeWhile (· ≠ '\n')
  if line.length < text.toList.length ∧ line.getLast? = some '\r' then String.ofList line.dropLast
  else String.ofList line

/-- What the words so far have said. -/
structure Given where
  /-- The value of each option that is given and checked. -/
  value : Opt → Option String := fun _ => none
  /-- The flags that are given. -/
  flag : Flag → Bool := fun _ => false
  /-- The option whose value may stand in the next word, and that value once it is read. -/
  pending : Option (Opt × Option String) := none
  /-- Have two dashes ended the switches? -/
  ended : Bool := false

namespace Given

def giveValue (given : Given) (opt : Opt) (value : String) : Except Stop Given :=
  if (given.value opt).isSome then .error (.repeated (.opt opt))
  else if opt.admits value then
    .ok { given with value := fun other => if other = opt then some value else given.value other }
  else .error (.noValue opt)

def giveFlag (given : Given) (flag : Flag) : Except Stop Given :=
  if given.flag flag then .error (.repeated (.flag flag))
  else .ok { given with flag := fun other => if other = flag then true else given.flag other }

def settle (given : Given) : Except Stop Given :=
  match given.pending with
  | none => .ok given
  | some (opt, none) => .error (.noValue opt)
  | some (opt, some value) => { given with pending := none }.giveValue opt value

/-- Takes a word that is no switch: the value of the open option, or a problem. -/
def takePlain (given : Given) (word : String) : Except Stop Given :=
  match given.pending with
  | some (opt, none) => .ok { given with pending := some (opt, some word) }
  | _ => .error (.unknown word)

def takeSwitch (given : Given) (value : Option String) (switch : Switch) : Except Stop Given :=
  match switch, value with
  | .opt opt, some value => given.settle.bind fun given => given.giveValue opt value
  | .opt opt, none => given.settle.map fun given => { given with pending := some (opt, none) }
  | switch, some value => .error (.superfluous value switch)
  | .flag flag, none => given.settle.bind fun given => given.giveFlag flag
  | .request request, none => given.settle.bind fun _ => .error (.asked request)

/-- Takes a letter with what follows it in its word; only an option has a use for that. -/
def takeLetter (given : Given) (letter : Char) (tail : List Char) : Except Stop Given :=
  match Switch.ofLetter? letter with
  | none => .error (.unknown (String.ofList ['-', letter]))
  | some (.opt opt) => given.takeSwitch (tailValue? tail) (.opt opt)
  | some switch => given.takeSwitch none switch

def take (given : Given) (word : String) : Except Stop Given :=
  if given.ended then .error (.unknown word)
  else
    match Word.ofChars word.toList with
    | .terminator => .ok { given with ended := true }
    | .plain => given.takePlain word
    | .short letter tail => given.takeLetter letter tail
    | .long name value =>
      match Switch.ofName? name with
      | none => .error (.unknown ("--" ++ name))
      | some switch => given.takeSwitch value switch

def toConfig (given : Given) : Config where
  release := given.value .release
  output := (given.value .output).getD defaultOutput
  config := given.value .config
  siteBase := given.value .siteBase
  pageExtension := given.value .pageExtension
  siteName := given.value .siteName
  stdout := given.flag .stdout
  noOpen := given.flag .noOpen

end Given

def parse (words : List String) : Except Stop Config :=
  (words.foldlM Given.take {}).bind fun given => given.settle.map Given.toConfig

end DownloadSite.CommandLine
