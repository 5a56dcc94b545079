import DownloadSite.Proofs.Settings.Entries
import DownloadSite.Proofs.Toml.OneMoreLine

/-!
# Settings with one more line

An accepted text keeps its meaning if a line is added. The line gives a setting that was not given, or
makes the text no document if the setting was given before, or is refused as an unknown field
(`ofToml_append_quotedLine`).
-/

namespace DownloadSite.Settings

open Toml

theorem ofToml_eq_ok_iff {text : String} {settings : Settings} :
    ofToml text = .ok settings ↔
      ∃ entries, parse? text = some entries ∧ entries.foldlM take {} = .ok settings := by
  unfold ofToml
  cases parse? text with
  | none => simp
  | some entries => simp [ofEntries]

/-- The entries of an accepted text are strings. -/
theorem texts_of_foldlM_take {entries : Entries} {settings last : Settings}
    (h : entries.foldlM take settings = .ok last) :
    ∀ entry ∈ entries, ∃ content, entry.2 = .text content := by
  intro entry hmem
  obtain ⟨field, content, rfl⟩ := forall_of_foldlM_take h entry hmem
  exact ⟨content, rfl⟩

/-- The settings give a field exactly if the document has an entry of its name. -/
theorem lookup_isSome_iff_get {entries : Entries} {settings : Settings}
    (h : entries.foldlM take {} = .ok settings) (field : Field) :
    (entries.lookup field.name).isSome = true ↔ settings.get field ≠ none := by
  have hget := get_foldlM_take h field
  rw [get_empty] at hget
  rw [← Option.isSome_iff_ne_none, hget]
  simp

theorem ofEntries_append_single {entries : Entries} {settings : Settings}
    (h : entries.foldlM take {} = .ok settings) (entry : String × Node) :
    ofEntries (entries ++ [entry]) = settings.take entry := by
  rw [ofEntries, List.foldlM_append, h]
  exact bind_pure (settings.take entry)

/-- The three outcomes of one more line, by the name in it. -/
theorem ofToml_append_quotedLine {text : String} {settings : Settings}
    (h : ofToml text = .ok settings) {name value : String} {nameText valueText : List Char}
    (hname : Escaped .line name.toList nameText) (hvalue : Escaped .line value.toList valueText) :
    (∀ field : Field, name = field.name → settings.get field = none →
      ofToml (text ++ "\n" ++ String.ofList (quotedLine nameText valueText)) =
        .ok (settings.set field value)) ∧
    (∀ field : Field, name = field.name → settings.get field ≠ none →
      ofToml (text ++ "\n" ++ String.ofList (quotedLine nameText valueText)) = .error .malformed) ∧
    ((∀ field : Field, name ≠ field.name) →
      ofToml (text ++ "\n" ++ String.ofList (quotedLine nameText valueText)) =
        .error (.unknownField name)) := by
  obtain ⟨entries, hparse, htake⟩ := ofToml_eq_ok_iff.1 h
  have hextended := parse?_append_quotedLine hparse (texts_of_foldlM_take htake) hname hvalue
  refine ⟨?_, ?_, ?_⟩
  · rintro field rfl hfresh
    have hlookup : ¬ (entries.lookup field.name).isSome = true := by
      rw [lookup_isSome_iff_get htake]
      exact absurd hfresh
    rw [if_neg hlookup] at hextended
    rw [ofToml, hextended]
    exact (ofEntries_append_single htake _).trans (take_text settings field value)
  · rintro field rfl htaken
    rw [if_pos ((lookup_isSome_iff_get htake field).2 htaken)] at hextended
    rw [ofToml, hextended]
  · intro hunknown
    have hlookup : entries.lookup name = none := by
      rw [List.lookup_eq_none_iff]
      intro entry hmem
      obtain ⟨field, content, rfl⟩ := forall_of_foldlM_take htake entry hmem
      simpa using hunknown field
    rw [hlookup] at hextended
    rw [ofToml, hextended]
    exact (ofEntries_append_single htake _).trans (take_unknown hunknown settings (.text value))

theorem ofToml_append_quotedLine_comment :
    ofToml "\ufeffversion = '1' # \"open\n\"site_name\" = \"a \\\"b\\\"\"" =
        .ok { version := some "1", siteName := some "a \"b\"" } ∧
      ofToml "\ufeffversion = '1' # \"open\n\"version\" = \"2\"" = .error .malformed ∧
      ofToml "\ufeffversion = '1' # \"open\n\"\\u0000\" = \"2\"" = .error (.unknownField "\x00") := by
  have htext : ofToml "\ufeffversion = '1' # \"open" = .ok { version := some "1" } := by rfl
  have hextended := fun name value : String => ofToml_append_quotedLine htext
    (escaped_flatMap .line name.toList) (escaped_flatMap .line value.toList)
  refine ⟨?_, ?_, ?_⟩
  · exact (hextended "site_name" "a \"b\"").1 .siteName rfl rfl
  · exact (hextended "version" "2").2.1 .version rfl (by decide)
  · have hunknown : ∀ field : Field, "\x00" ≠ field.name := by
      intro field
      cases field <;> decide
    exact (hextended "\x00" "2").2.2 hunknown

end DownloadSite.Settings
