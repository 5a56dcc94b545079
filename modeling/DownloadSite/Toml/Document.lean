import DownloadSite.Toml.Value

/-!
# Whole documents

A document is read line by line: an empty line, a pair of key and value, or a header that says which
table the pairs after it belong to.
-/

namespace DownloadSite.Toml

/-- A document as far as it is read: its entries, and the table that pairs are entered into. -/
structure Progress where
  entries : Entries := []
  current : List String := []

def Progress.enter (progress : Progress) (key : Key) (node : Node) : Option Progress :=
  (changeAt (assign key.last node key.parents) progress.current progress.entries).map
    fun entries => { progress with entries }

/-- Follows a header, with `change` to open its table. -/
def Progress.follow (progress : Progress) (key : Key) (change : String → Entries → Option Entries) :
    Option Progress :=
  (changeAt (change key.last) key.parents progress.entries).map
    fun entries => { entries, current := key.parents ++ [key.last] }

def header (progress : Progress) (cs : List Char) : Option (Progress × List Char) :=
  match cs with
  | [] => none
  | c :: rest =>
    if c = '[' then
      (key rest).bind fun (key, rest) =>
        match rest with
        | a :: b :: rest =>
          if a = ']' ∧ b = ']' then
            (endLine? rest).bind fun rest =>
              (progress.follow key openElement).map fun progress => (progress, rest)
          else none
        | _ => none
    else
      (key (c :: rest)).bind fun (key, rest) =>
        match rest with
        | a :: rest =>
          if a = ']' then
            (endLine? rest).bind fun rest =>
              (progress.follow key openTable).map fun progress => (progress, rest)
          else none
        | _ => none

/-- Reads one line; the value of a pair may reach over several. -/
def line (progress : Progress) (cs : List Char) : Option (Progress × List Char) :=
  match skipBlanks cs with
  | [] => some (progress, [])
  | c :: rest =>
    if c = '#' ∨ c = '\n' then (endLine? (c :: rest)).map fun rest => (progress, rest)
    else if c = '[' then header progress rest
    else
      (pair value (c :: rest)).bind fun ((key, node), rest) =>
        (endLine? rest).bind fun rest =>
          (progress.enter key node).map fun progress => (progress, rest)

/-- Reads lines to the end. The number bounds how many. -/
def lines : Nat → Progress → List Char → Option Progress
  | _, progress, [] => some progress
  | 0, _, _ :: _ => none
  | fuel + 1, progress, c :: cs =>
    (line progress (c :: cs)).bind fun (progress, rest) => lines fuel progress rest

/-- A line that ends with a change to the document. -/
theorem finish_eq_some {changed : Option Progress} {cs rest : List Char} {next : Progress} :
    ((endLine? cs).bind fun rest => changed.map fun progress => (progress, rest)) =
      some (next, rest) ↔ endLine? cs = some rest ∧ changed = some next := by
  constructor
  · intro h
    obtain ⟨final, hend, h⟩ := Option.bind_eq_some_iff.1 h
    obtain ⟨progress, hchanged, heq⟩ := Option.map_eq_some_iff.1 h
    cases heq
    exact ⟨hend, hchanged⟩
  · rintro ⟨hend, hchanged⟩
    rw [hend, hchanged]
    rfl

theorem lines_nil (fuel : Nat) (progress : Progress) : lines fuel progress [] = some progress := by
  cases fuel <;> rfl

theorem lines_of_line {progress next : Progress} {cs rest : List Char} (hne : cs ≠ [])
    (h : line progress cs = some (next, rest)) (fuel : Nat) :
    lines (fuel + 1) progress cs = lines fuel next rest := by
  obtain ⟨c, cs, rfl⟩ := List.exists_cons_of_ne_nil hne
  rw [lines, h]
  rfl

/-- The entries of a document, if the text is one. -/
def parse? (document : String) : Option Entries :=
  (unifyLineEnds? (dropByteOrderMark document.toList)).bind fun cs =>
    (lines cs.length {} cs).map Progress.entries

end DownloadSite.Toml
