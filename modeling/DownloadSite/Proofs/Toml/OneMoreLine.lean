import DownloadSite.Proofs.Toml.Continuation
import DownloadSite.Proofs.Toml.CurrentTable
import DownloadSite.Proofs.Toml.Lines

/-!
# One more line

A document that gives names to strings and to nothing else goes on where it ends: with a line feed and one
more pair it is the document with one more entry, unless the name is taken (`parse?_append_quotedLine`).
Nothing at the end of the first text can take the new line in. Its lines read the same in front of the line
feed, and no table is open behind them.
-/

namespace DownloadSite.Toml

def quotedLine (nameText valueText : List Char) : List Char :=
  '"' :: (nameText ++ ("\" = \"".toList ++ (valueText ++ ['"'])))

section

variable {name value : String} {nameText valueText : List Char}
  (hname : Escaped .line name.toList nameText) (hvalue : Escaped .line value.toList valueText)

include hname hvalue

theorem line_quotedLine (progress : Progress) :
    line progress (quotedLine nameText valueText) =
      (progress.enter ⟨[], name⟩ (.text value)).map fun progress => (progress, []) := by
  have hread : Toml.value ('"' :: (valueText ++ ['"']) ++ []) = some (.text value, []) := by
    rw [value_string (.escaped hvalue) (by simp) (by simp), String.ofList_toList]
  rw [List.append_nil] at hread
  have hsolid := skipBlanks_stringText (.escaped hvalue) []
  rw [List.append_nil] at hsolid
  have hline := line_pair (.escaped hname) allBlank_nil allBlank_space allBlank_space
    hsolid hread (endLine?_ends (.inl ⟨rfl, rfl⟩)) progress
  simpa [quotedLine] using hline

theorem unifyLineEnds?_quotedLine :
    unifyLineEnds? ('\n' :: quotedLine nameText valueText) =
      some ('\n' :: quotedLine nameText valueText) := by
  apply unifyLineEnds?_of_notMem
  simp [quotedLine, hname.return_notMem, hvalue.return_notMem]

theorem lines_quotedLine {fuel : Nat} (hfuel : 0 < fuel) (progress : Progress) :
    lines fuel progress (quotedLine nameText valueText) = progress.enter ⟨[], name⟩ (.text value) := by
  obtain ⟨fuel, rfl⟩ : ∃ n, fuel = n + 1 := ⟨fuel - 1, by omega⟩
  have hline := line_quotedLine hname hvalue progress
  cases henter : progress.enter ⟨[], name⟩ (.text value) with
  | none =>
    rw [henter] at hline
    rw [quotedLine] at hline ⊢
    rw [lines, hline]
    rfl
  | some next =>
    rw [henter, Option.map_some] at hline
    rw [lines_of_line (by simp [quotedLine]) hline, lines_nil]

end

theorem Progress.enter_taken {progress : Progress} (hcurrent : progress.current = []) {name : String}
    (htaken : progress.entries.lookup name ≠ none) (node : Node) :
    progress.enter ⟨[], name⟩ node = none := by
  rw [Progress.enter, hcurrent, changeAt, assign, if_pos (Option.isSome_iff_ne_none.2 htaken)]
  rfl

/-- What the reading of a document leaves behind, if its entries are all strings. -/
theorem exists_of_parse? {text : String} {entries : Entries} (h : parse? text = some entries)
    (htexts : ∀ entry ∈ entries, ∃ content, entry.2 = .text content) :
    ∃ cs, unifyLineEnds? (dropByteOrderMark text.toList) = some cs ∧
      lines cs.length {} cs = some { entries, current := [] } := by
  obtain ⟨cs, hcs, h⟩ := Option.bind_eq_some_iff.1 h
  obtain ⟨last, hlines, rfl⟩ := Option.map_eq_some_iff.1 h
  have hcurrent := current_eq_nil_of_lines hlines htexts
  refine ⟨cs, hcs, ?_⟩
  rw [hlines, ← hcurrent]

theorem parse?_append_quotedLine {text : String} {entries : Entries} (h : parse? text = some entries)
    (htexts : ∀ entry ∈ entries, ∃ content, entry.2 = .text content)
    {name value : String} {nameText valueText : List Char}
    (hname : Escaped .line name.toList nameText) (hvalue : Escaped .line value.toList valueText) :
    parse? (text ++ "\n" ++ String.ofList (quotedLine nameText valueText)) =
      if (entries.lookup name).isSome then none else some (entries ++ [(name, .text value)]) := by
  obtain ⟨cs, hcs, hlines⟩ := exists_of_parse? h htexts
  have htext : (text ++ "\n" ++ String.ofList (quotedLine nameText valueText)).toList =
      text.toList ++ '\n' :: quotedLine nameText valueText := by simp
  have hunify : unifyLineEnds? (dropByteOrderMark text.toList ++ '\n' :: quotedLine nameText valueText) =
      some (cs ++ '\n' :: quotedLine nameText valueText) := by
    rw [unifyLineEnds?_append hcs, unifyLineEnds?_quotedLine hname hvalue, Option.map_some]
  have hlength : (cs ++ '\n' :: quotedLine nameText valueText).length =
      cs.length + (quotedLine nameText valueText).length + 1 := by
    rw [List.length_append, List.length_cons, Nat.add_assoc]
  have hpositive : 0 < (quotedLine nameText valueText).length := by simp [quotedLine]
  obtain ⟨left, hleft, hmore⟩ := lines_append_feed hlines (quotedLine nameText valueText)
    (quotedLine nameText valueText).length
  rw [parse?, htext, dropByteOrderMark_append (by decide), hunify, Option.bind_some, hlength, hmore,
    lines_quotedLine hname hvalue (by omega)]
  by_cases htaken : entries.lookup name = none
  · rw [Progress.enter_fresh rfl htaken, htaken]
    rfl
  · rw [Progress.enter_taken rfl htaken, if_pos (Option.isSome_iff_ne_none.2 htaken)]
    rfl

end DownloadSite.Toml
