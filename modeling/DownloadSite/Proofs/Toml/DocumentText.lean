import DownloadSite.Proofs.Toml.Sheet

/-!
# Documents of names and strings

The texts that give names to strings: one line for each pair, in any order and with lines between them
that say nothing. Names and strings may be quoted in any way, blanks may stand around them, a comment may
end a line, every line break may be of either kind, and a mark of byte order may come first. Such a text
is a document with exactly these entries in their order (`parse?_written`).
-/

namespace DownloadSite.Toml

/-- A line and what it says: nothing, or a name and a string. -/
inductive LineText : Option (String × String) → List Char → Prop where
  | silent {text : List Char} (htext : Trailing text) : LineText none text
  | pair {name value : String} {nameText valueText before after gap tail : List Char}
      (hname : NameText name nameText) (hvalue : StringText value.toList valueText)
      (hbefore : AllBlank before) (hafter : AllBlank after) (hgap : AllBlank gap)
      (htail : Trailing tail) :
      LineText (some (name, value))
        (before ++ (nameText ++ (after ++ '=' :: (gap ++ (valueText ++ tail)))))

structure WrittenLine where
  pair? : Option (String × String)
  text : List Char
  written : LineText pair? text

def said (written : List WrittenLine) : List (String × String) := written.filterMap (·.pair?)

def joined (written : List WrittenLine) : List Char :=
  ['\n'].intercalate (written.map (·.text))

/-! ### As lines that say something -/

def textMention (pair : String × String) : Mention := .entry pair.1 (.text pair.2)

theorem LineText.mentionText {pair? : Option (String × String)} {text : List Char} (h : LineText pair? text) :
    MentionText (pair?.map textMention) text := by
  cases h with
  | silent htext => exact .silent htext
  | pair hname hvalue hbefore hafter hgap htail =>
    have hline := MentionText.entry (.mk hname hbefore hafter hgap) (.text hvalue) htail
    simpa [textMention] using hline

def WrittenLine.mentionLine (written : WrittenLine) : MentionLine :=
  ⟨written.pair?.map textMention, written.text, written.written.mentionText⟩

theorem mentions_mentionLine (written : List WrittenLine) :
    mentions (written.map WrittenLine.mentionLine) = (said written).map textMention := by
  rw [mentions, said, List.filterMap_map, List.map_filterMap]
  rfl

theorem feedJoined_mentionLine (written : List WrittenLine) :
    feedJoined (written.map WrittenLine.mentionLine) = joined written := by
  rw [feedJoined, List.map_map]
  rfl

def textSheet (pairs : List (String × String)) : Sheet where
  top := pairs.map fun pair => (pair.1, .text pair.2)
  sections := []

theorem mentions_textSheet (pairs : List (String × String)) :
    (textSheet pairs).mentions = pairs.map textMention := by
  rw [Sheet.mentions, textSheet, List.flatMap_nil, List.append_nil, List.map_map]
  rfl

theorem openedEntries_textSheet (pairs : List (String × String)) :
    openedEntries (textSheet pairs).opened = pairs.map textEntry := by
  rw [Sheet.opened, textSheet, List.map_nil, List.append_nil, openedEntries, List.map_map, List.map_map]
  rfl

/-- A written document has the entries that its lines say. -/
theorem parse?_written {written : List WrittenLine} (hnodup : ((said written).map Prod.fst).Nodup)
    {raw : List Char} (hbroken : Broken (joined written) raw) {mark : List Char}
    (hmark : mark = [] ∨ mark = ['\ufeff']) :
    parse? (String.ofList (mark ++ raw)) = some ((said written).map textEntry) := by
  have hsaid : mentions (written.map WrittenLine.mentionLine) = (textSheet (said written)).mentions := by
    rw [mentions_mentionLine, mentions_textSheet]
  have hdistinct : ((textSheet (said written)).opened.map Prod.fst).Nodup := by
    rw [← names_openedEntries, openedEntries_textSheet, List.map_map]
    exact hnodup
  rw [← feedJoined_mentionLine] at hbroken
  rw [parse?_sheet hsaid hbroken hmark, if_pos hdistinct, openedEntries_textSheet]

end DownloadSite.Toml
