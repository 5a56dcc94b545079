import DownloadSite.Proofs.Toml.CurrentTable
import DownloadSite.Proofs.Toml.SectionText

/-!
# Documents with sections

A document of entries and, behind them, sections with strings. A text of this form is a document exactly if no
name is opened twice, and then it has an entry for each name that it opens, in their order (`parse?_sheet`).
-/

namespace DownloadSite.Toml

/-- A table of strings with a header of its own. -/
structure Section where
  name : String
  entries : List (String × String)
  distinct : (entries.map Prod.fst).Nodup

/-- What is behind a name that a document opens: a value, or the strings of a table. -/
inductive Opened where
  | value (given : Given)
  | table (entries : List (String × String))

def Opened.node : Opened → Node
  | .value given => given.node
  | .table entries => .table .header (entries.map textEntry)

/-- Entries, and sections behind them. -/
structure Sheet where
  top : List (String × Given)
  sections : List Section

def Section.mentions (part : Section) : List Mention :=
  .header part.name :: part.entries.map fun pair => .entry pair.1 (.text pair.2)

def Sheet.mentions (sheet : Sheet) : List Mention :=
  sheet.top.map (fun pair => .entry pair.1 pair.2) ++ sheet.sections.flatMap Section.mentions

def openedValue (pair : String × Given) : String × Opened := (pair.1, .value pair.2)

def Section.opened (part : Section) : String × Opened := (part.name, .table part.entries)

/-- The names that a document opens, with what is behind them. -/
def Sheet.opened (sheet : Sheet) : List (String × Opened) :=
  sheet.top.map openedValue ++ sheet.sections.map Section.opened

def openedEntries (opened : List (String × Opened)) : Entries :=
  opened.map fun pair => (pair.1, pair.2.node)

/-! ### Entries with and without a name -/

theorem lookup_eq_none_iff {entries : Entries} {name : String} :
    entries.lookup name = none ↔ name ∉ entries.map Prod.fst := by
  rw [List.lookup_eq_none_iff]
  constructor
  · intro h hmem
    obtain ⟨entry, hentry, rfl⟩ := List.mem_map.1 hmem
    simpa using h entry hentry
  · intro h entry hentry
    have hne : name ≠ entry.1 := fun heq => h (heq ▸ List.mem_map_of_mem hentry)
    simpa using hne

theorem names_openedEntries (opened : List (String × Opened)) :
    (openedEntries opened).map Prod.fst = opened.map Prod.fst := by
  rw [openedEntries, List.map_map]
  rfl

theorem openedEntries_append (first second : List (String × Opened)) :
    openedEntries (first ++ second) = openedEntries first ++ openedEntries second := List.map_append

theorem lookup_openedEntries_ne_implied (opened : List (String × Opened)) (name : String) (inner : Entries) :
    (openedEntries opened).lookup name ≠ some (.table .implied inner) := by
  intro h
  obtain ⟨before, after, hentries, -⟩ := List.lookup_eq_some_iff.1 h
  have hmem : (name, Node.table .implied inner) ∈ openedEntries opened := by
    rw [hentries]
    exact List.mem_append_right _ List.mem_cons_self
  obtain ⟨⟨other, value⟩, -, heq⟩ := List.mem_map.1 hmem
  have hnode : value.node = .table .implied inner := (Prod.mk.inj heq).2
  cases value with
  | value given => cases given <;> cases hnode
  | table entries => cases hnode

theorem replaceEntry_append_single {entries : Entries} {name : String} (h : entries.lookup name = none)
    (old new : Node) : replaceEntry name new (entries ++ [(name, old)]) = entries ++ [(name, new)] := by
  induction entries with
  | nil => exact if_pos rfl
  | cons entry rest ih =>
    rw [lookup_eq_none_iff, List.map_cons, List.mem_cons, not_or] at h
    rw [List.cons_append, replaceEntry, if_neg (Ne.symm h.1), ih (lookup_eq_none_iff.2 h.2)]
    rfl

/-! ### One opening -/

theorem mention_entry (opened : List (String × Opened)) (name : String) (given : Given) :
    Progress.mention ⟨openedEntries opened, []⟩ (.entry name given) =
      if name ∈ opened.map Prod.fst then none
      else some ⟨openedEntries (opened ++ [openedValue (name, given)]), []⟩ := by
  rw [Progress.mention, Progress.enter, changeAt, assign]
  split
  · next htaken =>
    rw [Option.isSome_iff_ne_none, ne_eq, lookup_eq_none_iff, Classical.not_not, names_openedEntries] at htaken
    rw [if_pos htaken]
    rfl
  · next hfresh =>
    rw [Option.not_isSome_iff_eq_none, lookup_eq_none_iff, names_openedEntries] at hfresh
    rw [if_neg hfresh, openedEntries_append]
    rfl

theorem mention_header (opened : List (String × Opened)) (current : List String) (name : String) :
    Progress.mention ⟨openedEntries opened, current⟩ (.header name) =
      if name ∈ opened.map Prod.fst then none
      else some ⟨openedEntries opened ++ [(name, .table .header [])], [name]⟩ := by
  rw [Progress.mention, Progress.follow, changeAt, openTable]
  split
  · next hfresh =>
    rw [lookup_eq_none_iff, names_openedEntries] at hfresh
    rw [if_neg hfresh]
    rfl
  · next hlookup => exact absurd hlookup (lookup_openedEntries_ne_implied opened name _)
  · next node hnot hlookup =>
    have htaken : name ∈ opened.map Prod.fst := by
      by_contra hfresh
      rw [← names_openedEntries, ← lookup_eq_none_iff, hlookup] at hfresh
      cases hfresh
    rw [if_pos htaken]
    rfl

theorem foldlM_mention_strings {entries : Entries} {name : String} (hname : entries.lookup name = none)
    (pairs : List (String × String)) {inner : Entries} (hdistinct : (pairs.map Prod.fst).Nodup)
    (hfresh : ∀ key ∈ pairs.map Prod.fst, inner.lookup key = none) :
    (pairs.map fun pair => Mention.entry pair.1 (.text pair.2)).foldlM Progress.mention
        ⟨entries ++ [(name, .table .header inner)], [name]⟩ =
      some ⟨entries ++ [(name, .table .header (inner ++ pairs.map textEntry))], [name]⟩ := by
  induction pairs generalizing inner with
  | nil =>
    rw [List.map_nil, List.map_nil, List.append_nil]
    rfl
  | cons pair rest ih =>
    rw [List.map_cons, List.nodup_cons] at hdistinct
    have hpair : inner.lookup pair.1 = none := hfresh pair.1 List.mem_cons_self
    have hrest : ∀ key ∈ rest.map Prod.fst, (inner ++ [textEntry pair]).lookup key = none :=
      lookup_append_textEntry hdistinct.1 hfresh
    have hmention : Progress.mention ⟨entries ++ [(name, .table .header inner)], [name]⟩
        (.entry pair.1 (.text pair.2)) =
          some ⟨entries ++ [(name, .table .header (inner ++ [textEntry pair]))], [name]⟩ := by
      rw [Progress.mention, Progress.enter, changeAt, lookup_append_single hname]
      simp only [changeAt, assign, hpair, Option.isSome_none, Bool.false_eq_true, if_false, Option.map_some,
        replaceEntry_append_single hname]
      rfl
    rw [List.map_cons, List.foldlM_cons, hmention, Option.bind_eq_bind, Option.bind_some,
      ih hdistinct.2 hrest, List.map_cons, List.append_assoc, List.singleton_append]

theorem foldlM_mention_section (opened : List (String × Opened)) (current : List String) (part : Section) :
    part.mentions.foldlM Progress.mention ⟨openedEntries opened, current⟩ =
      if part.name ∈ opened.map Prod.fst then none
      else some ⟨openedEntries (opened ++ [part.opened]), [part.name]⟩ := by
  rw [Section.mentions, List.foldlM_cons, mention_header]
  split
  · rfl
  · next hfresh =>
    rw [← names_openedEntries, ← lookup_eq_none_iff] at hfresh
    rw [Option.bind_eq_bind, Option.bind_some,
      foldlM_mention_strings hfresh part.entries part.distinct fun _ _ => rfl, openedEntries_append]
    rfl

/-! ### All openings -/

/-- If each item opens one name, and where pairs may go then is as the next item needs it, then all items together
open all their names, unless one of them is taken when its turn comes. -/
theorem exists_foldlM_mention {α : Type} {said : α → List Mention} {opens : α → String × Opened}
    {Fits : List String → Prop}
    (hstep : ∀ item opened current, Fits current → ∃ next, Fits next ∧
      (said item).foldlM Progress.mention ⟨openedEntries opened, current⟩ =
        if (opens item).1 ∈ opened.map Prod.fst then none
        else some ⟨openedEntries (opened ++ [opens item]), next⟩)
    (items : List α) {opened : List (String × Opened)} (hdistinct : (opened.map Prod.fst).Nodup)
    {current : List String} (hfits : Fits current) :
    ∃ last, Fits last ∧
      (items.flatMap said).foldlM Progress.mention ⟨openedEntries opened, current⟩ =
        if ((opened ++ items.map opens).map Prod.fst).Nodup then
          some ⟨openedEntries (opened ++ items.map opens), last⟩
        else none := by
  induction items generalizing opened current with
  | nil =>
    refine ⟨current, hfits, ?_⟩
    rw [List.map_nil, List.append_nil, if_pos hdistinct]
    rfl
  | cons item rest ih =>
    obtain ⟨next, hnext, hitem⟩ := hstep item opened current hfits
    rw [List.flatMap_cons, List.foldlM_append, hitem]
    by_cases htaken : (opens item).1 ∈ opened.map Prod.fst
    · have htwice : ¬ ((opened ++ (item :: rest).map opens).map Prod.fst).Nodup := by
        intro hnodup
        rw [List.map_append, List.nodup_append] at hnodup
        exact hnodup.2.2 _ htaken _ (by simp) rfl
      exact ⟨current, hfits, by rw [if_pos htaken, if_neg htwice]; rfl⟩
    · have hmore : ((opened ++ [opens item]).map Prod.fst).Nodup := by
        rw [List.map_append, List.nodup_append]
        refine ⟨hdistinct, List.pairwise_singleton _ _, ?_⟩
        rintro name hname other hother rfl
        exact htaken (List.mem_singleton.1 hother ▸ hname)
      obtain ⟨last, hlast, hrest⟩ := ih hmore hnext
      refine ⟨last, hlast, ?_⟩
      rw [if_neg htaken, Option.bind_eq_bind, Option.bind_some, hrest, List.append_assoc, List.singleton_append,
        List.map_cons]

theorem foldlM_mention_sheet (sheet : Sheet) :
    (sheet.mentions.foldlM Progress.mention {}).map Progress.entries =
      if (sheet.opened.map Prod.fst).Nodup then some (openedEntries sheet.opened) else none := by
  have hvalue : ∀ (pair : String × Given) (opened : List (String × Opened)) (current : List String),
      current = [] → ∃ next, next = [] ∧
        [Mention.entry pair.1 pair.2].foldlM Progress.mention ⟨openedEntries opened, current⟩ =
          if (openedValue pair).1 ∈ opened.map Prod.fst then none
          else some ⟨openedEntries (opened ++ [openedValue pair]), next⟩ := by
    rintro pair opened current rfl
    refine ⟨[], rfl, ?_⟩
    rw [List.foldlM_cons, mention_entry]
    by_cases htaken : pair.1 ∈ opened.map Prod.fst
    · rw [if_pos htaken]
      exact (if_pos htaken).symm
    · rw [if_neg htaken]
      exact (if_neg htaken).symm
  have hsection : ∀ (part : Section) (opened : List (String × Opened)) (current : List String),
      True → ∃ next, True ∧ part.mentions.foldlM Progress.mention ⟨openedEntries opened, current⟩ =
        if part.opened.1 ∈ opened.map Prod.fst then none
        else some ⟨openedEntries (opened ++ [part.opened]), next⟩ := fun part opened current _ =>
    ⟨[part.name], trivial, foldlM_mention_section opened current part⟩
  have hnone : (([] : List (String × Opened)).map Prod.fst).Nodup := List.nodup_nil
  obtain ⟨current, -, htop⟩ := exists_foldlM_mention hvalue sheet.top hnone rfl
  rw [← List.map_eq_flatMap, List.nil_append] at htop
  rw [Sheet.mentions, List.foldlM_append, show ({} : Progress) = ⟨openedEntries [], []⟩ from rfl, htop]
  by_cases hdistinct : ((sheet.top.map openedValue).map Prod.fst).Nodup
  · obtain ⟨last, -, hall⟩ := exists_foldlM_mention hsection sheet.sections hdistinct trivial
    rw [if_pos hdistinct, Option.bind_eq_bind, Option.bind_some, hall, Sheet.opened]
    split <;> rfl
  · have htwice : ¬ (sheet.opened.map Prod.fst).Nodup := by
      intro hnodup
      rw [Sheet.opened, List.map_append, List.nodup_append] at hnodup
      exact hdistinct hnodup.1
    rw [if_neg hdistinct, if_neg htwice]
    rfl

/-- A written document has an entry for each name that it opens, unless it opens one twice. -/
theorem parse?_sheet {sheet : Sheet} {written : List MentionLine} (hwritten : mentions written = sheet.mentions)
    {raw mark : List Char} (hbroken : Broken (feedJoined written) raw)
    (hmark : mark = [] ∨ mark = ['\ufeff']) :
    parse? (String.ofList (mark ++ raw)) =
      if (sheet.opened.map Prod.fst).Nodup then some (openedEntries sheet.opened) else none := by
  rw [parse?_mentions hbroken hmark, hwritten, foldlM_mention_sheet]

end DownloadSite.Toml
