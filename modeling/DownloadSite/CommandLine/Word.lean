/-!
# Words of a command line

A word is told apart by the dashes that it begins with: two dashes and a name, which a sign of equality
may separate from a value; one dash and a letter, behind which anything may follow; two dashes alone,
after which nothing is a switch any more; and everything else, a single dash included.
-/

namespace DownloadSite.CommandLine

inductive Word where
  /-- Two dashes alone. -/
  | terminator
  | long (name : String) (value : Option String)
  | short (letter : Char) (tail : List Char)
  /-- A word that names nothing. -/
  | plain

/-- The value behind the first sign of equality, if there is one. -/
def attached? (cs : List Char) : Option String :=
  match cs.dropWhile (· ≠ '=') with
  | [] => none
  | _ :: value => some (String.ofList value)

def Word.ofChars : List Char → Word
  | ['-', '-'] => .terminator
  | '-' :: '-' :: rest => .long (String.ofList (rest.takeWhile (· ≠ '='))) (attached? rest)
  | '-' :: letter :: tail => .short letter tail
  | _ => .plain

/-- The value in the rest of a word behind a letter, a leading sign of equality apart. -/
def tailValue? : List Char → Option String
  | [] => none
  | c :: rest => some (String.ofList (if c = '=' then rest else c :: rest))

end DownloadSite.CommandLine
