import Mathlib.Algebra.GroupWithZero.Nat
import Mathlib.Algebra.Order.BigOperators.Group.List
import Mathlib.Algebra.Order.Group.Nat
import Mathlib.Data.List.Basic
import DownloadSite.Files.Path

/-!
# The names of a path

What joining paths does to the names that a walk along them takes: behind a slash the names of the second
path follow those of the first (`steps_append_slash`), and a path with one more name leads one step further
from the same start (`steps_join`). Writing a path anew from names of its own makes it no longer
(`utf8ByteSize_ofComponents_le`).
-/

namespace DownloadSite.Path

/-! ### Parts between slashes -/

theorem mem_of_mem_splitOn {cs part : List Char} (h : part ∈ cs.splitOn '/') {c : Char} (hc : c ∈ part) :
    c ∈ cs ∧ c ≠ '/' := by
  induction cs generalizing part with
  | nil =>
    rw [List.splitOn_nil, List.mem_singleton] at h
    rw [h] at hc
    cases hc
  | cons d rest ih =>
    rw [List.splitOn_cons_eq_if_modifyHead] at h
    by_cases hd : d = '/'
    · rw [if_pos (beq_iff_eq.2 hd)] at h
      rcases List.mem_cons.1 h with rfl | h
      · cases hc
      · exact (ih h hc).imp_left (List.mem_cons_of_mem _)
    · rw [if_neg (mt beq_iff_eq.1 hd)] at h
      cases hparts : rest.splitOn '/' with
      | nil => exact absurd hparts (List.splitOn_ne_nil _ _)
      | cons first parts =>
        rw [hparts, List.modifyHead_cons] at h
        rw [hparts] at ih
        rcases List.mem_cons.1 h with rfl | h
        · rcases List.mem_cons.1 hc with rfl | hc
          · exact ⟨List.mem_cons_self, hd⟩
          · exact (ih List.mem_cons_self hc).imp_left (List.mem_cons_of_mem _)
        · exact (ih (List.mem_cons_of_mem _ h) hc).imp_left (List.mem_cons_of_mem _)

/-! ### Names -/

/-- Text that can stand between two slashes. -/
structure IsName (name : String) : Prop where
  ne_empty : name ≠ ""
  slash_notMem : '/' ∉ name.toList

theorem steps_append_slash (first second : String) :
    steps (first ++ "/" ++ second) = steps first ++ steps second := by
  have hchars : (first ++ "/" ++ second).toList = first.toList ++ '/' :: second.toList := by simp
  rw [steps, hchars, List.splitOn_append_cons_self, List.filter_append, List.map_append]
  rfl

theorem IsName.steps_eq {name : String} (h : IsName name) : steps name = [name] := by
  have hne : name.toList ≠ [] := by simpa using h.ne_empty
  rw [steps, List.splitOn_eq_singleton h.slash_notMem]
  simp [hne]

theorem isName_of_mem_steps {path name : String} (h : name ∈ steps path) : IsName name := by
  obtain ⟨part, hpart, rfl⟩ := List.mem_map.1 h
  obtain ⟨hmem, hne⟩ := List.mem_filter.1 hpart
  refine ⟨by simpa using hne, ?_⟩
  rw [String.toList_ofList]
  exact fun hslash => (mem_of_mem_splitOn hmem hslash).2 rfl

theorem mem_toList_of_mem_steps {path name : String} (h : name ∈ steps path) {c : Char}
    (hc : c ∈ name.toList) : c ∈ path.toList := by
  obtain ⟨part, hpart, rfl⟩ := List.mem_map.1 h
  rw [String.toList_ofList] at hc
  exact (mem_of_mem_splitOn (List.mem_filter.1 hpart).1 hc).1

/-! ### A path with one more name -/

theorem exists_of_endsInSlash {path : String} (h : endsInSlash path = true) :
    ∃ front, path = front ++ "/" ∧ steps path = steps front := by
  have hlast : path.toList.getLast? = some '/' := by simpa [endsInSlash] using h
  have hpath : path = String.ofList path.toList.dropLast ++ "/" := by
    apply String.toList_inj.1
    rw [String.toList_append, String.toList_ofList]
    exact (List.dropLast_append_getLast? _ hlast).symm
  refine ⟨_, hpath, ?_⟩
  have hsteps := steps_append_slash (String.ofList path.toList.dropLast) ""
  rw [String.append_empty, ← hpath] at hsteps
  rw [hsteps]
  exact List.append_nil _

theorem steps_join (path : String) {name : String} (h : IsName name) :
    steps (join path name) = steps path ++ [name] := by
  rw [join]
  split
  · next hend =>
    rcases Bool.or_eq_true_iff.1 hend with hempty | hslash
    · have hpath : path = "" := by simpa using hempty
      rw [hpath, String.empty_append, h.steps_eq]
      rfl
    · obtain ⟨front, hpath, hsteps⟩ := exists_of_endsInSlash hslash
      rw [hsteps, hpath, steps_append_slash, h.steps_eq]
  · rw [steps_append_slash, h.steps_eq]

theorem isAbsolute_join (path : String) {name : String} (h : IsName name) :
    isAbsolute (join path name) = isAbsolute path := by
  obtain ⟨c, rest, hname⟩ := List.exists_cons_of_ne_nil (by simpa using h.ne_empty : name.toList ≠ [])
  have hc : c ≠ '/' := by
    rintro rfl
    exact h.slash_notMem (hname ▸ List.mem_cons_self)
  unfold isAbsolute join
  cases hpath : path.toList with
  | nil =>
    have hempty : path = "" := by simpa using hpath
    simp [hempty, hname, hc]
  | cons d front => split <;> simp [hpath]

theorem endsInSlash_join (path : String) {name : String} (h : IsName name) :
    endsInSlash (join path name) = false := by
  have hne : name.toList ≠ [] := by simpa using h.ne_empty
  have hlast : ∀ front : List Char, (front ++ name.toList).getLast? ≠ some '/' := by
    intro front hlast
    rw [List.getLast?_append_of_ne_nil _ hne] at hlast
    exact h.slash_notMem (List.mem_of_getLast? hlast)
  unfold endsInSlash join
  split
  · simpa using hlast path.toList
  · simpa using hlast (path.toList ++ ['/'])

/-! ### Names written anew -/

theorem ofComponents_singleton (name : String) : ofComponents false [name] = name := by
  simp [ofComponents]

theorem ofComponents_cons {names : List String} (hne : names ≠ []) (name : String) :
    ofComponents false (name :: names) = name ++ "/" ++ ofComponents false names := by
  obtain ⟨second, rest, rfl⟩ := List.exists_cons_of_ne_nil hne
  rw [ofComponents, ofComponents]
  apply String.toList_inj.1
  simp [String.toList_intercalate]

theorem steps_ofComponents {names : List String} (h : ∀ name ∈ names, IsName name) :
    steps (ofComponents false names) = names := by
  induction names with
  | nil => rfl
  | cons name rest ih =>
    have hname := h name List.mem_cons_self
    have hrest := ih fun other hother => h other (List.mem_cons_of_mem _ hother)
    cases rest with
    | nil => rw [ofComponents_singleton, hname.steps_eq]
    | cons second rest =>
      rw [ofComponents_cons (List.cons_ne_nil _ _), steps_append_slash, hname.steps_eq, hrest]
      rfl

/-- What names take in a path, each with one slash. -/
def extent (names : List String) : Nat := (names.map fun name => name.utf8ByteSize + 1).sum

theorem extent_cons (name : String) (names : List String) :
    extent (name :: names) = name.utf8ByteSize + 1 + extent names := by
  rw [extent, List.map_cons, List.sum_cons]
  rfl

theorem utf8ByteSize_ofComponents {names : List String} (hne : names ≠ []) :
    (ofComponents false names).utf8ByteSize + 1 = extent names := by
  induction names with
  | nil => exact absurd rfl hne
  | cons name rest ih =>
    cases rest with
    | nil => simp [ofComponents_singleton, extent]
    | cons second rest =>
      have hrest := ih (List.cons_ne_nil _ _)
      have hslash : "/".utf8ByteSize = 1 := rfl
      rw [ofComponents_cons (List.cons_ne_nil _ _), String.utf8ByteSize_append, String.utf8ByteSize_append,
        hslash]
      rw [extent_cons]
      omega

theorem extent_splitOn (cs : List Char) :
    extent ((cs.splitOn '/').map String.ofList) = (String.ofList cs).utf8ByteSize + 1 := by
  induction cs with
  | nil => rfl
  | cons c rest ih =>
    rw [List.splitOn_cons_eq_if_modifyHead, String.ofList_cons, String.utf8ByteSize_append,
      String.utf8ByteSize_singleton]
    by_cases hc : c = '/'
    · have hsize : c.utf8Size = 1 := by
        rw [hc]
        rfl
      have hnil : (String.ofList []).utf8ByteSize = 0 := rfl
      rw [if_pos (beq_iff_eq.2 hc), List.map_cons, extent_cons]
      omega
    · rw [if_neg (mt beq_iff_eq.1 hc)]
      cases hparts : rest.splitOn '/' with
      | nil => exact absurd hparts (List.splitOn_ne_nil _ _)
      | cons part parts =>
        rw [hparts, List.map_cons, extent_cons] at ih
        rw [List.modifyHead_cons, List.map_cons, extent_cons, String.ofList_cons, String.utf8ByteSize_append,
          String.utf8ByteSize_singleton]
        omega

/-- Some of the names of a path, joined by single slashes, are no longer than the path. -/
theorem utf8ByteSize_ofComponents_le {names : List String} {path : String} (h : names.Sublist (steps path)) :
    (ofComponents false names).utf8ByteSize ≤ path.utf8ByteSize := by
  cases names with
  | nil => exact Nat.zero_le _
  | cons name rest =>
    have hall : (name :: rest).Sublist ((path.toList.splitOn '/').map String.ofList) :=
      h.trans (List.filter_sublist.map _)
    have hle : extent (name :: rest) ≤ extent ((path.toList.splitOn '/').map String.ofList) :=
      (hall.map _).sum_le_sum fun _ _ => Nat.zero_le _
    rw [← utf8ByteSize_ofComponents (List.cons_ne_nil _ _), extent_splitOn, String.ofList_toList] at hle
    omega

end DownloadSite.Path
