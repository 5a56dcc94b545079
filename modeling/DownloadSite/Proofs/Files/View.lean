import Mathlib.Tactic.SplitIfs
import DownloadSite.Files.Tree

/-!
# What a tree holds

A tree holds at each location a file with its content, a directory, or nothing. That is all that a walk sees
of it. A node that is put into a directory changes this view at its own location and below, and nowhere else
(`view_set_below`, `view_set_apart`); where it takes no directory away, every walk goes on as before
(`Keeps.walk_eq_ok`).
-/

namespace DownloadSite.FileTree

/-- What a location can hold. -/
inductive Entry where
  | file (content : ByteArray)
  | directory

/-- What a node is, whatever is below it. -/
def entry : FileTree → Entry
  | .file content => .file content
  | .directory _ => .directory

/-- What the tree holds at a location. -/
def view (tree : FileTree) (location : Location) : Option Entry := (tree.get? location).map entry

variable {tree after new : FileTree} {parent location : Location} {name : String}

theorem get?_append (tree : FileTree) (location below : Location) :
    tree.get? (location ++ below) = (tree.get? location).bind fun node => node.get? below := by
  induction location generalizing tree with
  | nil => cases tree <;> rfl
  | cons name rest ih =>
    cases tree with
    | file content => rfl
    | directory entries =>
      simp only [List.cons_append, get?, Option.bind_assoc]
      exact Option.bind_congr fun node _ => ih node

theorem isDirectoryAt_iff : tree.isDirectoryAt location = true ↔ tree.view location = some .directory := by
  unfold isDirectoryAt view
  rcases tree.get? location with _ | ⟨_ | _⟩ <;> simp [entry]

theorem get?_eq_some_file {content : ByteArray} (h : tree.view location = some (.file content)) :
    tree.get? location = some (.file content) := by
  obtain ⟨node, hnode, hentry⟩ := Option.map_eq_some_iff.1 h
  cases node with
  | file other =>
    cases hentry
    exact hnode
  | directory entries => cases hentry

theorem view_below_eq_none (h : tree.isDirectoryAt location = false) (name : String) (below : Location) :
    tree.view (location ++ name :: below) = none := by
  rw [view, get?_append]
  cases hnode : tree.get? location with
  | none => rfl
  | some node =>
    cases node with
    | file content => rfl
    | directory entries => simp [isDirectoryAt, hnode] at h

/-! ### A node put into a directory -/

theorem set_cons (new : FileTree) (entries : List (String × FileTree)) (first : String)
    (h : location ≠ []) :
    set new (.directory entries) (first :: location) =
      match entries.lookup first with
      | some node => .directory (setEntry first (set new node location) entries)
      | none => .directory entries := by
  cases location with
  | nil => exact absurd rfl h
  | cons second rest => rfl

theorem exists_lookup_of_isDirectoryAt {first : String} (h : tree.isDirectoryAt (first :: parent) = true) :
    ∃ entries node, tree = .directory entries ∧ entries.lookup first = some node ∧
      node.isDirectoryAt parent = true := by
  cases tree with
  | file content => cases h
  | directory entries =>
    rcases hnode : entries.lookup first with _ | node
    · simp [isDirectoryAt, get?, hnode] at h
    · refine ⟨entries, node, rfl, hnode, ?_⟩
      simpa [isDirectoryAt, get?, hnode] using h

theorem get?_set_below (h : tree.isDirectoryAt parent = true) (name : String) (new : FileTree)
    (below : Location) : (set new tree (parent ++ [name])).get? (parent ++ name :: below) = new.get? below := by
  induction parent generalizing tree with
  | nil =>
    cases tree with
    | file content => cases h
    | directory entries => simp [set, get?, lookup_setEntry]
  | cons first rest ih =>
    obtain ⟨entries, node, rfl, hnode, hdirectory⟩ := exists_lookup_of_isDirectoryAt h
    rw [List.cons_append, set_cons _ _ _ (by simp), hnode]
    simpa [get?, lookup_setEntry] using ih hdirectory

theorem view_set_below (h : tree.isDirectoryAt parent = true) (name : String) (new : FileTree)
    (below : Location) : (set new tree (parent ++ [name])).view (parent ++ name :: below) = new.view below := by
  rw [view, get?_set_below h, view]

theorem view_set_apart (h : tree.isDirectoryAt parent = true) (new : FileTree)
    (hapart : ¬ parent ++ [name] <+: location) :
    (set new tree (parent ++ [name])).view location = tree.view location := by
  induction parent generalizing tree location with
  | nil =>
    cases tree with
    | file content => cases h
    | directory entries =>
      cases location with
      | nil => rfl
      | cons other rest =>
        have hne : other ≠ name := by
          rintro rfl
          exact hapart ⟨rest, rfl⟩
        simp [set, view, get?, lookup_setEntry, hne]
  | cons first rest ih =>
    obtain ⟨entries, node, rfl, hnode, hdirectory⟩ := exists_lookup_of_isDirectoryAt h
    rw [List.cons_append, set_cons _ _ _ (by simp), hnode]
    cases location with
    | nil => rfl
    | cons other behind =>
      by_cases hother : other = first
      · subst hother
        have hrest : ¬ rest ++ [name] <+: behind := fun hprefix =>
          hapart (List.cons_prefix_cons.2 ⟨rfl, hprefix⟩)
        simpa [view, get?, lookup_setEntry, hnode] using ih hdirectory hrest
      · simp [view, get?, lookup_setEntry, hother]

/-! ### Trees with more in them -/

/-- Nothing of the tree is missing in the other one, and its directories are directories there. -/
structure Keeps (tree after : FileTree) : Prop where
  present : ∀ location, (tree.view location).isSome → (after.view location).isSome
  directory : ∀ location, tree.view location = some .directory → after.view location = some .directory

theorem Keeps.isDirectoryAt (h : Keeps tree after) (hdirectory : tree.isDirectoryAt location = true) :
    after.isDirectoryAt location = true :=
  isDirectoryAt_iff.2 (h.directory _ (isDirectoryAt_iff.1 hdirectory))

theorem keeps_set (h : tree.isDirectoryAt parent = true) (new : FileTree)
    (hname : tree.isDirectoryAt (parent ++ [name]) = false) : Keeps tree (set new tree (parent ++ [name])) := by
  have hview : ∀ location, (tree.view location).isSome →
      (location = parent ++ [name] ∧ tree.view location ≠ some .directory) ∨
        (set new tree (parent ++ [name])).view location = tree.view location := by
    intro location hsome
    by_cases hprefix : parent ++ [name] <+: location
    · obtain ⟨below, rfl⟩ := hprefix
      cases below with
      | nil =>
        left
        rw [List.append_nil]
        exact ⟨rfl, fun hdirectory => by simp [isDirectoryAt_iff.2 hdirectory] at hname⟩
      | cons second rest =>
        rw [view_below_eq_none hname] at hsome
        cases hsome
    · exact .inr (view_set_apart h new hprefix)
  constructor
  · intro location hsome
    rcases hview location hsome with ⟨rfl, -⟩ | heq
    · rw [view_set_below h]
      rfl
    · rwa [heq]
  · intro location hdirectory
    rcases hview location (by rw [hdirectory]; rfl) with ⟨-, hne⟩ | heq
    · exact absurd hdirectory hne
    · rwa [heq]

/-! ### Walks -/

theorem walk_append (tree : FileTree) (location : Location) (names more : List String) :
    tree.walk location (names ++ more) =
      (tree.walk location names).bind fun middle => tree.walk middle more := by
  induction names generalizing location with
  | nil => rfl
  | cons name rest ih =>
    simp only [List.cons_append, walk, ih]
    split_ifs <;> rfl

/-- A name that leads from a directory into one of its entries. -/
structure IsProper (name : String) : Prop where
  ne_dot : name ≠ "."
  ne_dots : name ≠ ".."
  short : name.utf8ByteSize ≤ maxNameBytes

instance (name : String) : Decidable (IsProper name) :=
  decidable_of_iff (name ≠ "." ∧ name ≠ ".." ∧ name.utf8ByteSize ≤ maxNameBytes)
    ⟨fun ⟨dot, dots, short⟩ => ⟨dot, dots, short⟩, fun h => ⟨h.ne_dot, h.ne_dots, h.short⟩⟩

/-- Where one name leads from a directory. -/
inductive Step (tree : FileTree) (location : Location) : String → Location → Prop where
  | stay : Step tree location "." location
  | up : Step tree location ".." location.dropLast
  | down (name : String) (proper : IsProper name) (present : (tree.view (location ++ [name])).isSome) :
      Step tree location name (location ++ [name])

theorem walk_cons_eq_ok_iff {rest : List String} {last : Location} :
    tree.walk location (name :: rest) = .ok last ↔
      tree.isDirectoryAt location = true ∧
        ∃ next, Step tree location name next ∧ tree.walk next rest = .ok last := by
  constructor
  · intro h
    rw [walk] at h
    split_ifs at h with hdirectory hdot hdots hlong hmissing
    · subst hdot
      exact ⟨by simpa using hdirectory, _, .stay, h⟩
    · subst hdots
      exact ⟨by simpa using hdirectory, _, .up, h⟩
    · refine ⟨by simpa using hdirectory, _, .down name ⟨hdot, hdots, Nat.not_lt.1 hlong⟩ ?_, h⟩
      rw [view, Option.isSome_map]
      simpa [Option.isSome_iff_ne_none] using hmissing
  · rintro ⟨hdirectory, next, hstep, hrest⟩
    cases hstep with
    | stay => simpa [walk, hdirectory] using hrest
    | up => simpa [walk, hdirectory] using hrest
    | down name proper present =>
      rw [view, Option.isSome_map] at present
      simpa [walk, hdirectory, proper.ne_dot, proper.ne_dots, Nat.not_lt.2 proper.short,
        Option.isNone_eq_false_iff.2 present] using hrest

theorem Keeps.step (h : Keeps tree after) {next : Location} (hstep : Step tree location name next) :
    Step after location name next := by
  cases hstep with
  | stay => exact .stay
  | up => exact .up
  | down name proper present => exact .down name proper (h.present _ present)

theorem Keeps.walk_eq_ok (h : Keeps tree after) {names : List String} {last : Location}
    (hwalk : tree.walk location names = .ok last) : after.walk location names = .ok last := by
  induction names generalizing location with
  | nil => exact hwalk
  | cons name rest ih =>
    obtain ⟨hdirectory, next, hstep, hrest⟩ := walk_cons_eq_ok_iff.1 hwalk
    exact walk_cons_eq_ok_iff.2 ⟨h.isDirectoryAt hdirectory, next, h.step hstep, ih hrest⟩

end DownloadSite.FileTree
