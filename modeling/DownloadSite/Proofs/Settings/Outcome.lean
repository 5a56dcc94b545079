import DownloadSite.Proofs.Settings.RoundTrip
import DownloadSite.Proofs.Toml.Sheet

/-!
# What a document comes to as settings

The outcome for every document of entries and sections: a name that is opened twice makes it no document at all;
otherwise the first name that is no setting, or has something other than a text, decides the fault; and if there
is none, the settings are exactly the texts given (`outcome_of_written`).
-/

namespace DownloadSite

open Toml

/-! ### What a message calls a value -/

theorem Toml.integerText_eq_toString (n : Int) : integerText n = toString n := by
  cases n with
  | ofNat m =>
    have hsign : ¬ (Int.ofNat m < 0) := by simp
    rw [integerText, if_neg hsign, Text.toDigits_ten, List.nil_append]
    exact Nat.toString_eq_ofList_toDigits.symm
  | negSucc m =>
    have hsign : Int.negSucc m < 0 := Int.negSucc_lt_zero m
    rw [integerText, if_pos hsign, Text.toDigits_ten]
    show String.ofList (['-'] ++ Nat.toDigits 10 (m + 1)) = "-" ++ toString (m + 1)
    rw [String.ofList_append, Nat.toString_eq_ofList_toDigits]

def Toml.Opened.description : Opened → String
  | .value (.text _) => "string"
  | .value (.integer n _ _) => "integer `" ++ toString n ++ "`"
  | .value (.boolean true) => "boolean `true`"
  | .value (.boolean false) => "boolean `false`"
  | .value (.texts _) => "sequence"
  | .value (.pairs _ _) => "map"
  | .table _ => "map"

theorem Toml.Opened.describe_node (opened : Opened) : opened.node.describe = opened.description := by
  cases opened with
  | table entries => rfl
  | value given =>
    cases given with
    | integer n low high =>
      show "integer `" ++ integerText n ++ "`" = "integer `" ++ toString n ++ "`"
      rw [integerText_eq_toString]
    | boolean value => cases value <;> rfl
    | _ => rfl

namespace Settings

def IsSetting (entry : String × Opened) : Prop :=
  ∃ (field : Field) (text : String), entry = (field.name, .value (.text text))

/-- What the names that a document opens come to. -/
inductive Outcome (opened : List (String × Opened)) : Except Fault Settings → Prop where
  | twice (htwice : ¬ (opened.map Prod.fst).Nodup) : Outcome opened (.error .malformed)
  | unknownField (hdistinct : (opened.map Prod.fst).Nodup) {before after : List (String × Opened)}
      {name : String} {value : Opened} (hopened : opened = before ++ (name, value) :: after)
      (hbefore : ∀ entry ∈ before, IsSetting entry) (hname : ∀ field : Field, name ≠ field.name) :
      Outcome opened (.error (.unknownField name))
  | wrongType (hdistinct : (opened.map Prod.fst).Nodup) {before after : List (String × Opened)}
      {field : Field} {value : Opened} (hopened : opened = before ++ (field.name, value) :: after)
      (hbefore : ∀ entry ∈ before, IsSetting entry) (hvalue : ∀ text, value ≠ .value (.text text)) :
      Outcome opened (.error (.wrongType value.description))
  | settings (hdistinct : (opened.map Prod.fst).Nodup) (hall : ∀ entry ∈ opened, IsSetting entry)
      {settings : Settings}
      (hget : ∀ (field : Field) (text : String),
        settings.get field = some text ↔ (field.name, .value (.text text)) ∈ opened) :
      Outcome opened (.ok settings)

/-! ### The first name that is not taken -/

theorem take_wrongType (settings : Settings) (field : Field) {value : Opened}
    (h : ∀ text, value ≠ .value (.text text)) :
    settings.take (field.name, value.node) = .error (.wrongType value.description) := by
  rw [take, Field.ofName?_name, ← Opened.describe_node]
  cases value with
  | table entries => rfl
  | value given =>
    cases given with
    | text content => exact absurd rfl (h content)
    | _ => rfl

theorem exists_pairs_of_isSetting {opened : List (String × Opened)} (h : ∀ entry ∈ opened, IsSetting entry) :
    ∃ pairs : List (String × String), opened = pairs.map (fun pair => (pair.1, .value (.text pair.2))) ∧
      ∀ pair ∈ pairs, ∃ field : Field, pair.1 = field.name := by
  induction opened with
  | nil => exact ⟨[], rfl, List.forall_mem_nil _⟩
  | cons entry rest ih =>
    obtain ⟨hentry, hrest⟩ := List.forall_mem_cons.1 h
    obtain ⟨field, text, rfl⟩ := hentry
    obtain ⟨pairs, rfl, hpairs⟩ := ih hrest
    exact ⟨(field.name, text) :: pairs, rfl, List.forall_mem_cons.2 ⟨⟨field, rfl⟩, hpairs⟩⟩

/-- Settings with different names are all taken. -/
theorem exists_ofEntries_of_isSetting {opened : List (String × Opened)} (hdistinct : (opened.map Prod.fst).Nodup)
    (h : ∀ entry ∈ opened, IsSetting entry) :
    ∃ settings, ofEntries (openedEntries opened) = .ok settings ∧ ∀ (field : Field) (text : String),
      settings.get field = some text ↔ (field.name, .value (.text text)) ∈ opened := by
  obtain ⟨pairs, rfl, hknown⟩ := exists_pairs_of_isSetting h
  have hentries : openedEntries (pairs.map fun pair => (pair.1, .value (.text pair.2))) = pairs.map textEntry := by
    rw [openedEntries, List.map_map]
    rfl
  have hmem : ∀ name text, (name, Opened.value (.text text)) ∈
      pairs.map (fun pair => (pair.1, Opened.value (.text pair.2))) ↔ (name, text) ∈ pairs := by
    simp
  rw [List.map_map] at hdistinct
  obtain ⟨settings, hsettings, hget⟩ := exists_ofEntries_textEntry hdistinct hknown
  refine ⟨settings, hentries ▸ hsettings, fun field text => ?_⟩
  rw [hget, hmem]

theorem outcome_ofEntries {opened : List (String × Opened)} (hdistinct : (opened.map Prod.fst).Nodup) :
    Outcome opened (ofEntries (openedEntries opened)) := by
  classical
  cases hfind : opened.find? fun entry => decide (¬ IsSetting entry) with
  | none =>
    have hall : ∀ entry ∈ opened, IsSetting entry := by simpa using hfind
    obtain ⟨settings, hsettings, hget⟩ := exists_ofEntries_of_isSetting hdistinct hall
    rw [hsettings]
    exact .settings hdistinct hall hget
  | some entry =>
    obtain ⟨hentry, before, after, hopened, hfront⟩ := List.find?_eq_some_iff_append.1 hfind
    obtain ⟨name, value⟩ := entry
    have hfirst : ¬ IsSetting (name, value) := of_decide_eq_true hentry
    have hbefore : ∀ entry ∈ before, IsSetting entry := by simpa using hfront
    have hbeforeDistinct : (before.map Prod.fst).Nodup := by
      rw [hopened, List.map_append, List.nodup_append] at hdistinct
      exact hdistinct.1
    obtain ⟨settings, hsettings, -⟩ := exists_ofEntries_of_isSetting hbeforeDistinct hbefore
    have hfold : ofEntries (openedEntries opened) =
        (settings.take (name, value.node)).bind fun next => (openedEntries after).foldlM take next := by
      rw [hopened, openedEntries_append, ofEntries, List.foldlM_append]
      rw [ofEntries] at hsettings
      rw [hsettings]
      rfl
    rw [hfold]
    by_cases hname : ∃ field : Field, name = field.name
    · obtain ⟨field, rfl⟩ := hname
      have hvalue : ∀ text, value ≠ .value (.text text) := by
        rintro text rfl
        exact hfirst ⟨field, text, rfl⟩
      rw [take_wrongType settings field hvalue]
      exact .wrongType hdistinct hopened hbefore hvalue
    · have hunknown : ∀ field : Field, name ≠ field.name := fun field hfield => hname ⟨field, hfield⟩
      rw [take_unknown hunknown]
      exact .unknownField hdistinct hopened hbefore hunknown

/-- The outcome for a document of entries and sections, in whatever way its lines are written. -/
theorem outcome_of_written {sheet : Sheet} {written : List MentionLine}
    (hwritten : mentions written = sheet.mentions) {raw mark : List Char}
    (hbroken : Broken (feedJoined written) raw) (hmark : mark = [] ∨ mark = ['\ufeff']) :
    Outcome sheet.opened (ofToml (String.ofList (mark ++ raw))) := by
  rw [ofToml, parse?_sheet hwritten hbroken hmark]
  by_cases hdistinct : (sheet.opened.map Prod.fst).Nodup
  · rw [if_pos hdistinct]
    exact outcome_ofEntries hdistinct
  · rw [if_neg hdistinct]
    exact .twice hdistinct

/-- A setting, a setting with a number, and a section that is no setting. -/
def numberSheet : Sheet where
  top := [("site_name", .text "a"), ("version", .integer (-50) (by decide) (by decide))]
  sections := [⟨"é", [("k", "v")], by decide⟩]

theorem integerText_minusFifty : IntegerText (-50) ['-', '5', '_', '0'] := by
  have hdigits : Text.toDigits 10 (Int.natAbs (-50)) = ['5', '0'] := by decide
  exact .minus (by decide) (hdigits ▸ .underscore '5' (.single '0'))

/-- They are written with a comment and an empty line between them. -/
def numberLines : List MentionLine :=
  [⟨some (.entry "site_name" (.text "a")), _,
      .entry (leadText_quoted "site_name") (.text (stringText_quoted "a")) (.blank allBlank_nil)⟩,
    ⟨some (.entry "version" (.integer (-50) (by decide) (by decide))), _,
      .entry (leadText_quoted "version") (.integer integerText_minusFifty)
        (.comment allBlank_space (List.forall_mem_nil _))⟩,
    ⟨none, [], .silent (.blank allBlank_nil)⟩,
    ⟨some (.header "é"), _,
      .header (nameText_quoted "é") allBlank_nil allBlank_nil allBlank_nil (.blank allBlank_nil)⟩,
    ⟨some (.entry "k" (.text "v")), _,
      .entry (leadText_quoted "k") (.text (stringText_quoted "v")) (.blank allBlank_nil)⟩]

theorem outcome_numberLines : Outcome numberSheet.opened
    (ofToml "\ufeff\"site_name\" = \"a\"\r\n\"version\" = -5_0 #\n\n[\"é\"]\n\"k\" = \"v\"") := by
  have hunify : unifyLineEnds?
      "\"site_name\" = \"a\"\r\n\"version\" = -5_0 #\n\n[\"é\"]\n\"k\" = \"v\"".toList =
        some (feedJoined numberLines) := by decide
  have htext : "\ufeff\"site_name\" = \"a\"\r\n\"version\" = -5_0 #\n\n[\"é\"]\n\"k\" = \"v\"" =
      String.ofList (['\ufeff'] ++
        "\"site_name\" = \"a\"\r\n\"version\" = -5_0 #\n\n[\"é\"]\n\"k\" = \"v\"".toList) := by decide
  have hmentions : mentions numberLines = numberSheet.mentions := rfl
  rw [htext]
  exact outcome_of_written hmentions (broken_of_unifyLineEnds? hunify) (.inr rfl)

end Settings

end DownloadSite
