import DownloadSite.Number.Shortest
import DownloadSite.Toml.Moment

/-!
# Documents as trees

A document is a tree of named values. Tables come about in different ways, and a document may extend
some of them and not others, so each table remembers how it was opened.
-/

namespace DownloadSite.Toml

inductive Opening where
  /-- Written in place as a value. -/
  | inline
  /-- Opened by a header of its own. -/
  | header
  /-- Led through by the header of a table below it. -/
  | implied
  /-- Led through by a dotted key. -/
  | dotted
  deriving DecidableEq, Repr

inductive Node where
  | text (value : String)
  | integer (value : Int)
  | float (value : Binary64)
  | boolean (value : Bool)
  | moment (value : Moment)
  | array (items : List Node)
  | table (opening : Opening) (entries : List (String × Node))
  /-- The tables that headers in double brackets open one after the other. -/
  | tables (elements : List (List (String × Node)))

/-- The entries of a table in the order in which the document first mentions them. -/
abbrev Entries := List (String × Node)

def integerText (n : Int) : String :=
  String.ofList ((if n < 0 then ['-'] else []) ++ Text.toDigits 10 n.natAbs)

/-- What a message calls a value. Moments count as tables, being made of several numbers. -/
def Node.describe : Node → String
  | .text _ => "string"
  | .integer n => "integer `" ++ integerText n ++ "`"
  | .float x => "floating point `" ++ x.toText ++ "`"
  | .boolean b => "boolean `" ++ (if b then "true" else "false") ++ "`"
  | .array _ | .tables _ => "sequence"
  | .table .. | .moment _ => "map"

/-! ### Entering values -/

def replaceEntry (name : String) (value : Node) : Entries → Entries
  | [] => []
  | entry :: rest =>
    if entry.1 = name then (name, value) :: rest else entry :: replaceEntry name value rest

def changeLast (change : Entries → Option Entries) : List Entries → Option (List Entries)
  | [] => none
  | [entries] => (change entries).map ([·])
  | entries :: rest => (changeLast change rest).map (entries :: ·)

/-- Enters a value under a key. The tables that the key leads through are created where they are
missing; tables that dotted keys opened may be extended. Tables from headers may only be led through on
the way to those. A name that is taken is refused. -/
def assign (last : String) (value : Node) : List String → Entries → Option Entries
  | [], entries => if (entries.lookup last).isSome then none else some (entries ++ [(last, value)])
  | name :: parents, entries =>
    match entries.lookup name with
    | none =>
      (assign last value parents []).map fun inner => entries ++ [(name, .table .dotted inner)]
    | some (.table .dotted inner) =>
      (assign last value parents inner).map fun inner =>
        replaceEntry name (.table .dotted inner) entries
    | some (.table .implied inner) =>
      if parents.isEmpty then none
      else (assign last value parents inner).map fun inner =>
        replaceEntry name (.table .implied inner) entries
    | some (.tables elements) =>
      if parents.isEmpty then none
      else (changeLast (assign last value parents) elements).map fun elements =>
        replaceEntry name (.tables elements) entries
    | some _ => none

/-- Changes the table that the names of a header lead to. Missing tables are created on the way, of
several tables the last is taken, and values are not entered. -/
def changeAt (change : Entries → Option Entries) : List String → Entries → Option Entries
  | [], entries => change entries
  | name :: path, entries =>
    match entries.lookup name with
    | none =>
      (changeAt change path []).map fun inner => entries ++ [(name, .table .implied inner)]
    | some (.table .inline _) => none
    | some (.table opening inner) =>
      (changeAt change path inner).map fun inner => replaceEntry name (.table opening inner) entries
    | some (.tables elements) =>
      (changeLast (changeAt change path) elements).map fun elements =>
        replaceEntry name (.tables elements) entries
    | some _ => none

/-- Opens a table by its own header. A table that was only led through so far keeps its entries and
moves behind the others. -/
def openTable (name : String) (entries : Entries) : Option Entries :=
  match entries.lookup name with
  | none => some (entries ++ [(name, .table .header [])])
  | some (.table .implied inner) =>
    some (entries.filter (fun entry => entry.1 ≠ name) ++ [(name, .table .header inner)])
  | some _ => none

/-- Opens one more of several tables. -/
def openElement (name : String) (entries : Entries) : Option Entries :=
  match entries.lookup name with
  | none => some (entries ++ [(name, .tables [[]])])
  | some (.tables elements) => some (replaceEntry name (.tables (elements ++ [[]])) entries)
  | some _ => none

end DownloadSite.Toml
