import DownloadSite.Toml.Document

/-!
# The table that pairs go into

Once a header has opened a table, pairs go into that table and no longer into the document itself. The
first name of the way to it is then always the name of a table (`Progress.Rooted`): every change along a
way leaves a table at its first name, and lines change a document in no other manner. A document that has
no table at all therefore has no open one either (`current_eq_nil_of_lines`).
-/

namespace DownloadSite.Toml

def Node.IsTable : Node → Prop
  | .table .. | .tables _ => True
  | _ => False

def HasTable (entries : Entries) (name : String) : Prop :=
  ∃ node, entries.lookup name = some node ∧ node.IsTable

/-- The way to the current table begins at a table of the document. -/
def Progress.Rooted (progress : Progress) : Prop :=
  ∀ name path, progress.current = name :: path → HasTable progress.entries name

/-! ### Entries after a change -/

theorem lookup_replaceEntry {name : String} {entries : Entries}
    (h : entries.lookup name ≠ none) (value : Node) :
    (replaceEntry name value entries).lookup name = some value := by
  induction entries with
  | nil => exact absurd rfl h
  | cons entry rest ih =>
    rw [replaceEntry]
    by_cases hname : entry.1 = name
    · rw [if_pos hname]
      exact List.lookup_cons_self
    · have hother : (name == entry.1) = false := beq_false_of_ne (Ne.symm hname)
      rw [List.lookup_cons, hother] at h
      rw [if_neg hname, List.lookup_cons, hother]
      exact ih h

theorem lookup_append_single {name : String} {entries : Entries} (h : entries.lookup name = none)
    (value : Node) : (entries ++ [(name, value)]).lookup name = some value := by
  rw [List.lookup_append, h, Option.none_or]
  exact List.lookup_cons_self

theorem lookup_filter_ne (name : String) (entries : Entries) :
    (entries.filter fun entry => entry.1 ≠ name).lookup name = none := by
  rw [List.lookup_eq_none_iff]
  intro entry hmem
  obtain ⟨-, hne⟩ := List.mem_filter.1 hmem
  have hname : entry.1 ≠ name := by simpa using hne
  simpa using hname.symm

/-- What is changed at the end of a way leaves a table where the way begins. -/
theorem hasTable_of_changeAt {change : Entries → Option Entries} {name : String} {path : List String}
    {entries changed : Entries} (h : changeAt change (name :: path) entries = some changed) :
    HasTable changed name := by
  rw [changeAt] at h
  split at h
  · next hlookup =>
    obtain ⟨inner, -, rfl⟩ := Option.map_eq_some_iff.1 h
    exact ⟨_, lookup_append_single hlookup _, trivial⟩
  · cases h
  · next hlookup =>
    obtain ⟨inner, -, rfl⟩ := Option.map_eq_some_iff.1 h
    exact ⟨_, lookup_replaceEntry (by simp [hlookup]) _, trivial⟩
  · next hlookup =>
    obtain ⟨elements, -, rfl⟩ := Option.map_eq_some_iff.1 h
    exact ⟨_, lookup_replaceEntry (by simp [hlookup]) _, trivial⟩
  · cases h

theorem hasTable_of_openTable {name : String} {entries opened : Entries}
    (h : openTable name entries = some opened) : HasTable opened name := by
  rw [openTable] at h
  split at h
  · next hlookup =>
    cases h
    exact ⟨_, lookup_append_single hlookup _, trivial⟩
  · cases h
    exact ⟨_, lookup_append_single (lookup_filter_ne name entries) _, trivial⟩
  · cases h

theorem hasTable_of_openElement {name : String} {entries opened : Entries}
    (h : openElement name entries = some opened) : HasTable opened name := by
  rw [openElement] at h
  split at h
  · next hlookup =>
    cases h
    exact ⟨_, lookup_append_single hlookup _, trivial⟩
  · next hlookup =>
    cases h
    exact ⟨_, lookup_replaceEntry (by simp [hlookup]) _, trivial⟩
  · cases h

/-! ### Lines -/

theorem Progress.rooted_of_enter {progress next : Progress} {key : Key} {node : Node}
    (h : progress.enter key node = some next) : next.Rooted := by
  obtain ⟨entries, hentries, rfl⟩ := Option.map_eq_some_iff.1 h
  intro name path hcurrent
  change progress.current = name :: path at hcurrent
  rw [hcurrent] at hentries
  exact hasTable_of_changeAt hentries

theorem Progress.rooted_of_follow {progress next : Progress} {key : Key}
    {change : String → Entries → Option Entries}
    (hchange : ∀ {entries opened}, change key.last entries = some opened → HasTable opened key.last)
    (h : progress.follow key change = some next) : next.Rooted := by
  obtain ⟨entries, hentries, rfl⟩ := Option.map_eq_some_iff.1 h
  intro name path hcurrent
  change key.parents ++ [key.last] = name :: path at hcurrent
  cases hparents : key.parents with
  | nil =>
    rw [hparents] at hentries hcurrent
    obtain ⟨rfl, -⟩ := List.cons.inj hcurrent
    exact hchange hentries
  | cons parent parents =>
    rw [hparents] at hentries hcurrent
    obtain ⟨rfl, -⟩ := List.cons.inj hcurrent
    exact hasTable_of_changeAt hentries

theorem header_cases {progress next : Progress} {cs rest : List Char}
    (h : header progress cs = some (next, rest)) :
    (∃ key, progress.follow key openTable = some next) ∨
      ∃ key, progress.follow key openElement = some next := by
  rw [header.eq_def] at h
  split at h
  · cases h
  · split at h
    · obtain ⟨⟨key, last⟩, -, h⟩ := Option.bind_eq_some_iff.1 h
      rcases last with _ | ⟨a, _ | ⟨b, last⟩⟩
      · cases h
      · cases h
      · obtain ⟨-, h⟩ := Option.ite_none_right_eq_some.1 h
        exact .inr ⟨key, (finish_eq_some.1 h).2⟩
    · obtain ⟨⟨key, last⟩, -, h⟩ := Option.bind_eq_some_iff.1 h
      cases last with
      | nil => cases h
      | cons a last =>
        obtain ⟨-, h⟩ := Option.ite_none_right_eq_some.1 h
        exact .inl ⟨key, (finish_eq_some.1 h).2⟩

/-- What a line may do: nothing, enter a pair, open a table, or open one more of several tables. -/
theorem line_cases {progress next : Progress} {cs rest : List Char}
    (h : line progress cs = some (next, rest)) :
    next = progress ∨ (∃ key node, progress.enter key node = some next) ∨
      (∃ key, progress.follow key openTable = some next) ∨
      ∃ key, progress.follow key openElement = some next := by
  rw [line] at h
  split at h
  · cases h
    exact .inl rfl
  · split at h
    · obtain ⟨final, -, heq⟩ := Option.map_eq_some_iff.1 h
      cases heq
      exact .inl rfl
    · split at h
      · exact .inr (.inr (header_cases h))
      · obtain ⟨⟨⟨key, node⟩, tail⟩, -, h⟩ := Option.bind_eq_some_iff.1 h
        exact .inr (.inl ⟨key, node, (finish_eq_some.1 h).2⟩)

theorem Progress.Rooted.line {progress next : Progress} {cs rest : List Char}
    (hrooted : progress.Rooted) (h : line progress cs = some (next, rest)) : next.Rooted := by
  rcases line_cases h with rfl | ⟨key, node, henter⟩ | ⟨key, hfollow⟩ | ⟨key, hfollow⟩
  · exact hrooted
  · exact Progress.rooted_of_enter henter
  · exact Progress.rooted_of_follow hasTable_of_openTable hfollow
  · exact Progress.rooted_of_follow hasTable_of_openElement hfollow

theorem Progress.Rooted.lines {fuel : Nat} {progress last : Progress} {cs : List Char}
    (hrooted : progress.Rooted) (h : lines fuel progress cs = some last) : last.Rooted := by
  induction fuel generalizing progress cs with
  | zero =>
    cases cs with
    | nil =>
      cases h
      exact hrooted
    | cons c cs => cases h
  | succ fuel ih =>
    cases cs with
    | nil =>
      cases h
      exact hrooted
    | cons c cs =>
      rw [Toml.lines] at h
      obtain ⟨⟨next, rest⟩, hline, h⟩ := Option.bind_eq_some_iff.1 h
      exact ih (hrooted.line hline) h

/-- Where all entries are strings, pairs go into the document itself. -/
theorem current_eq_nil_of_lines {fuel : Nat} {last : Progress} {cs : List Char}
    (h : lines fuel {} cs = some last)
    (htexts : ∀ entry ∈ last.entries, ∃ text, entry.2 = .text text) : last.current = [] := by
  have hstart : Progress.Rooted {} := by
    intro name path hcurrent
    cases hcurrent
  cases hcurrent : last.current with
  | nil => rfl
  | cons name path =>
    obtain ⟨node, hlookup, htable⟩ := hstart.lines h name path hcurrent
    obtain ⟨before, after, hentries, -⟩ := List.lookup_eq_some_iff.1 hlookup
    have hmem : (name, node) ∈ last.entries := by
      rw [hentries]
      exact List.mem_append_right _ List.mem_cons_self
    obtain ⟨text, htext⟩ := htexts _ hmem
    have htext : node = .text text := htext
    rw [htext] at htable
    exact htable.elim

end DownloadSite.Toml
