import DownloadSite.Proofs.Settings.Entries
import DownloadSite.Proofs.Toml.DocumentText

/-!
# Written settings read back

Settings may be written down in any of the ways a document allows: the lines in any order with comments
between them, names and texts quoted in any way, line breaks of either kind. Reading gives back the same
settings (`ofToml_eq_ok_of_states`).
-/

namespace DownloadSite.Settings

open Toml

/-- The pairs name each field that the settings give, once and with its text, and nothing else. -/
structure States (pairs : List (String × String)) (settings : Settings) : Prop where
  nodup : (pairs.map Prod.fst).Nodup
  mem_iff : ∀ name text,
    (name, text) ∈ pairs ↔ ∃ field : Field, name = field.name ∧ settings.get field = some text

/-- Pairs of different fields are all taken: a field has the text of its pair, or else what it had. -/
theorem foldlM_take_textEntry (pairs : List (String × String)) (settings : Settings)
    (hnodup : (pairs.map Prod.fst).Nodup)
    (hknown : ∀ pair ∈ pairs, ∃ field : Field, pair.1 = field.name) :
    ∃ last, (pairs.map textEntry).foldlM take settings = .ok last ∧
      (∀ (field : Field) (text : String), (field.name, text) ∈ pairs → last.get field = some text) ∧
      ∀ field : Field, field.name ∉ pairs.map Prod.fst → last.get field = settings.get field := by
  induction pairs generalizing settings with
  | nil => exact ⟨settings, rfl, by simp, fun _ _ => rfl⟩
  | cons pair rest ih =>
    obtain ⟨name, value⟩ := pair
    obtain ⟨field, rfl⟩ := hknown (name, value) List.mem_cons_self
    rw [List.map_cons, List.nodup_cons] at hnodup
    obtain ⟨last, hlast, htext, hother⟩ := ih (settings.set field value) hnodup.2
      fun pair hpair => hknown pair (List.mem_cons_of_mem _ hpair)
    refine ⟨last, ?_, ?_, ?_⟩
    · rw [List.map_cons, List.foldlM_cons, textEntry, take_text]
      exact hlast
    · intro other text hmem
      rcases List.mem_cons.1 hmem with heq | hmem
      · obtain ⟨hname, rfl⟩ := Prod.mk.inj heq
        obtain rfl := Field.name_injective hname
        rw [hother other hnodup.1, get_set, if_pos rfl]
      · exact htext other text hmem
    · intro other hnot
      rw [List.map_cons, List.mem_cons, not_or] at hnot
      rw [hother other hnot.2, get_set, if_neg fun heq => hnot.1 (congrArg Field.name heq)]

/-- Pairs of different fields give exactly the settings that they name. -/
theorem exists_ofEntries_textEntry {pairs : List (String × String)} (hnodup : (pairs.map Prod.fst).Nodup)
    (hknown : ∀ pair ∈ pairs, ∃ field : Field, pair.1 = field.name) :
    ∃ settings, ofEntries (pairs.map textEntry) = .ok settings ∧
      ∀ (field : Field) (text : String), settings.get field = some text ↔ (field.name, text) ∈ pairs := by
  obtain ⟨last, hlast, htext, hother⟩ := foldlM_take_textEntry pairs {} hnodup hknown
  refine ⟨last, hlast, fun field text => ⟨?_, htext field text⟩⟩
  intro hget
  by_cases hname : field.name ∈ pairs.map Prod.fst
  · obtain ⟨⟨name, given⟩, hpair, rfl⟩ := List.mem_map.1 hname
    have hsame := (htext field given hpair).symm.trans hget
    rwa [Option.some.inj hsame] at hpair
  · rw [hother field hname, get_empty] at hget
    cases hget

theorem ofEntries_textEntry {pairs : List (String × String)} {settings : Settings}
    (h : States pairs settings) : ofEntries (pairs.map textEntry) = .ok settings := by
  have hknown : ∀ pair ∈ pairs, ∃ field : Field, pair.1 = field.name := by
    intro pair hpair
    obtain ⟨field, hname, -⟩ := (h.mem_iff pair.1 pair.2).1 hpair
    exact ⟨field, hname⟩
  obtain ⟨last, hlast, hget⟩ := exists_ofEntries_textEntry h.nodup hknown
  have hsame : last = settings := by
    apply ext_get
    intro field
    apply Option.ext
    intro text
    rw [hget, h.mem_iff]
    constructor
    · rintro ⟨other, hname, hgiven⟩
      rwa [Field.name_injective hname]
    · exact fun hgiven => ⟨field, rfl, hgiven⟩
  rw [hlast, hsame]

/-- Settings that are written down in any way are read back. -/
theorem ofToml_eq_ok_of_states {settings : Settings} {written : List WrittenLine}
    (h : States (said written) settings) {raw : List Char} (hbroken : Broken (joined written) raw)
    {mark : List Char} (hmark : mark = [] ∨ mark = ['\ufeff']) :
    ofToml (String.ofList (mark ++ raw)) = .ok settings := by
  rw [ofToml, parse?_written h.nodup hbroken hmark]
  exact ofEntries_textEntry h

theorem nameText_siteName : NameText "site_name" ('\'' :: ("site_name".toList ++ ['\''])) :=
  .literal (by simp [isTextChar])

theorem nameText_version : NameText "version" "version".toList := .bare (by simp) (by simp [isBareChar])

theorem stringText_twoLines : StringText "a\n\"".toList
    ("\"\"\"\n".toList ++ ['a', '\n', '\\', '"'] ++ "\"\"\"".toList) := by
  have hwritten : Escaped .lines ['a', '\n', '"'] ['a', '\n', '\\', '"'] :=
    .plain 'a' (by decide) (by decide) (by decide) (.lineFeed rfl (.quote .nil))
  exact .escapedLines hwritten

theorem stringText_backslash : StringText "\\1".toList ('\'' :: ("\\1".toList ++ ['\''])) :=
  .literal (by simp [isTextChar])

/-- A comment, a string of two lines under a quoted name, and a literal string under a bare name. -/
def mixedLines : List WrittenLine :=
  [⟨none, [' '] ++ '#' :: "all".toList, .silent (.comment allBlank_space (by simp [isTextChar]))⟩,
   ⟨some ("site_name", "a\n\""), _, .pair nameText_siteName stringText_twoLines allBlank_nil
      allBlank_space allBlank_space (.blank allBlank_space)⟩,
   ⟨some ("version", "\\1"), _, .pair nameText_version stringText_backslash allBlank_nil allBlank_nil
      allBlank_nil (.blank allBlank_nil)⟩]

theorem states_mixedLines :
    States (said mixedLines) { version := some "\\1", siteName := some "a\n\"" } := by
  have hsaid : said mixedLines = [("site_name", "a\n\""), ("version", "\\1")] := by rfl
  rw [hsaid]
  refine ⟨by decide, ?_⟩
  intro name text
  constructor
  · intro hmem
    simp only [List.mem_cons, Prod.mk.injEq, List.not_mem_nil, or_false] at hmem
    rcases hmem with ⟨rfl, rfl⟩ | ⟨rfl, rfl⟩
    · exact ⟨.siteName, rfl, rfl⟩
    · exact ⟨.version, rfl, rfl⟩
  · rintro ⟨field, rfl, hget⟩
    cases field with
    | version =>
      cases hget
      simp [Field.name]
    | siteBase => cases hget
    | pageExtension => cases hget
    | siteName =>
      cases hget
      simp [Field.name]

/-- The mixed lines behind a mark of byte order, with line ends of both kinds. -/
theorem ofToml_mixedLines :
    ofToml "\ufeff #all\r\n'site_name' = \"\"\"\na\r\n\\\"\"\"\" \nversion='\\1'" =
      .ok { version := some "\\1", siteName := some "a\n\"" } := by
  have hunify : unifyLineEnds?
      " #all\r\n'site_name' = \"\"\"\na\r\n\\\"\"\"\" \nversion='\\1'".toList =
        some (joined mixedLines) := by decide
  have htext : "\ufeff #all\r\n'site_name' = \"\"\"\na\r\n\\\"\"\"\" \nversion='\\1'" =
      String.ofList (['\ufeff'] ++
        " #all\r\n'site_name' = \"\"\"\na\r\n\\\"\"\"\" \nversion='\\1'".toList) := by decide
  rw [htext]
  exact ofToml_eq_ok_of_states states_mixedLines (broken_of_unifyLineEnds? hunify) (.inr rfl)

end DownloadSite.Settings
