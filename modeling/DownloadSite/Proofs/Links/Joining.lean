import Mathlib.Data.List.DropRight
import DownloadSite.Links

/-!
# Joining addresses

The address of a hosted page is its path joined to the base. Slashes at the end of the base and at the front of
the path do not count, exactly one slash stands at the join, and a path may be joined part by part
(`Hosting.links_hosted`). What is left of a text without such slashes is known only through the number of slashes it
lacks and through the character it ends or begins with.
-/

namespace DownloadSite

variable {text front back : String}

/-! ### Slashes around a text -/

def slashes (n : Nat) : String := String.ofList (List.replicate n '/')

def EndsInSlash (text : String) : Prop := text.toList.getLast? = some '/'

def BeginsWithSlash (text : String) : Prop := text.toList.head? = some '/'

def dropEndSlashes (text : String) : String := String.ofList (text.toList.rdropWhile (· = '/'))

def dropFrontSlashes (text : String) : String := String.ofList (text.toList.dropWhile (· = '/'))

@[simp] theorem toList_slashes (n : Nat) : (slashes n).toList = List.replicate n '/' := by
  rw [slashes, String.toList_ofList]

theorem slashes_append (m n : Nat) : slashes m ++ slashes n = slashes (m + n) := by
  apply String.toList_inj.1
  simp

theorem exists_eq_replicate {cs : List Char} (h : ∀ c ∈ cs, c = '/') : ∃ n, cs = List.replicate n '/' :=
  ⟨cs.length, List.eq_replicate_of_mem h⟩

theorem exists_eq_dropEndSlashes (text : String) : ∃ n, text = dropEndSlashes text ++ slashes n := by
  have hslashes : ∀ c ∈ text.toList.rtakeWhile (· = '/'), c = '/' := fun c hc => by
    simpa using List.mem_rtakeWhile_imp hc
  obtain ⟨n, hn⟩ := exists_eq_replicate hslashes
  refine ⟨n, String.toList_inj.1 ?_⟩
  rw [dropEndSlashes, String.toList_append, String.toList_ofList, toList_slashes, ← hn]
  exact List.rdropWhile_append_rtakeWhile.symm

theorem exists_eq_dropFrontSlashes (text : String) : ∃ n, text = slashes n ++ dropFrontSlashes text := by
  have hslashes : ∀ c ∈ text.toList.takeWhile (· = '/'), c = '/' := fun c hc => by
    simpa using List.mem_takeWhile_imp hc
  obtain ⟨n, hn⟩ := exists_eq_replicate hslashes
  refine ⟨n, String.toList_inj.1 ?_⟩
  rw [dropFrontSlashes, String.toList_append, String.toList_ofList, toList_slashes, ← hn]
  exact List.takeWhile_append_dropWhile.symm

theorem not_endsInSlash_dropEndSlashes (text : String) : ¬ EndsInSlash (dropEndSlashes text) := by
  intro h
  rw [EndsInSlash, dropEndSlashes, String.toList_ofList] at h
  have hne : text.toList.rdropWhile (· = '/') ≠ [] := List.ne_nil_of_mem (List.mem_of_getLast? h)
  have hlast := List.rdropWhile_last_not (· = '/') text.toList hne
  rw [List.getLast?_eq_some_getLast hne] at h
  exact hlast (by simpa using h)

theorem not_beginsWithSlash_dropFrontSlashes (text : String) : ¬ BeginsWithSlash (dropFrontSlashes text) := by
  intro h
  rw [BeginsWithSlash, dropFrontSlashes, String.toList_ofList] at h
  have hnot := List.head?_dropWhile_not (· = '/') text.toList
  rw [h] at hnot
  simp at hnot

/-- The slashes at the end are all that is dropped there. -/
theorem dropEndSlashes_append_slashes (h : ¬ EndsInSlash text) (n : Nat) :
    dropEndSlashes (text ++ slashes n) = text := by
  apply String.toList_inj.1
  rw [dropEndSlashes, String.toList_ofList, String.toList_append, toList_slashes]
  induction n with
  | zero =>
    rw [List.replicate_zero, List.append_nil, List.rdropWhile_eq_self_iff]
    intro hne hlast
    apply h
    rw [EndsInSlash, List.getLast?_eq_some_getLast hne]
    simpa using hlast
  | succ n ih => rw [List.replicate_succ', ← List.append_assoc, List.rdropWhile_concat_pos _ _ _ rfl, ih]

theorem dropFrontSlashes_slashes_append (h : ¬ BeginsWithSlash text) (n : Nat) :
    dropFrontSlashes (slashes n ++ text) = text := by
  apply String.toList_inj.1
  rw [dropFrontSlashes, String.toList_ofList, String.toList_append, toList_slashes]
  induction n with
  | zero =>
    rw [List.replicate_zero, List.nil_append]
    rw [BeginsWithSlash] at h
    cases htext : text.toList with
    | nil => rfl
    | cons c rest =>
      have hc : c ≠ '/' := by
        rintro rfl
        exact h (by rw [htext]; rfl)
      simp [hc]
  | succ n ih =>
    rw [List.replicate_succ, List.cons_append, List.dropWhile_cons_of_pos rfl, ih]

theorem dropEndSlashes_append (text : String) (n : Nat) :
    dropEndSlashes (text ++ slashes n) = dropEndSlashes text := by
  obtain ⟨k, hk⟩ := exists_eq_dropEndSlashes text
  calc dropEndSlashes (text ++ slashes n)
      = dropEndSlashes (dropEndSlashes text ++ slashes (k + n)) := by
        rw [← slashes_append, ← String.append_assoc, ← hk]
    _ = dropEndSlashes text := dropEndSlashes_append_slashes (not_endsInSlash_dropEndSlashes text) _

theorem dropFrontSlashes_append (n : Nat) (text : String) :
    dropFrontSlashes (slashes n ++ text) = dropFrontSlashes text := by
  obtain ⟨k, hk⟩ := exists_eq_dropFrontSlashes text
  calc dropFrontSlashes (slashes n ++ text)
      = dropFrontSlashes (slashes (n + k) ++ dropFrontSlashes text) := by
        rw [← slashes_append, String.append_assoc, ← hk]
    _ = dropFrontSlashes text :=
        dropFrontSlashes_slashes_append (not_beginsWithSlash_dropFrontSlashes text) _

theorem dropEndSlashes_slashes (n : Nat) : dropEndSlashes (slashes n) = "" := by
  have hempty := dropEndSlashes_append "" n
  rwa [String.empty_append] at hempty

theorem dropFrontSlashes_slashes (n : Nat) : dropFrontSlashes (slashes n) = "" := by
  have hempty := dropFrontSlashes_append n ""
  rwa [String.append_empty] at hempty

theorem endsInSlash_append (h : back ≠ "") : EndsInSlash (front ++ back) ↔ EndsInSlash back := by
  have hne : back.toList ≠ [] := by simpa using h
  rw [EndsInSlash, EndsInSlash, String.toList_append, List.getLast?_append_of_ne_nil _ hne]

theorem beginsWithSlash_append (h : front ≠ "") : BeginsWithSlash (front ++ back) ↔ BeginsWithSlash front := by
  have hne : front.toList ≠ [] := by simpa using h
  rw [BeginsWithSlash, BeginsWithSlash, String.toList_append, List.head?_append_of_ne_nil _ hne]

/-! ### Joining -/

theorem joinUrl_eq (base path : String) : joinUrl base path = dropEndSlashes base ++ "/" ++ dropFrontSlashes path := by
  apply String.toList_inj.1
  rw [joinUrl, dropEndSlashes, dropFrontSlashes]
  simp [List.rdropWhile]

/-- A text is all slashes, or what is left of it between slashes begins and ends with another character. -/
theorem slashes_or_core (text : String) : (∃ n, text = slashes n) ∨
    ∃ m core n, text = slashes m ++ core ++ slashes n ∧ core ≠ "" ∧ ¬ BeginsWithSlash core ∧ ¬ EndsInSlash core := by
  obtain ⟨m, hm⟩ := exists_eq_dropFrontSlashes text
  obtain ⟨n, hn⟩ := exists_eq_dropEndSlashes (dropFrontSlashes text)
  have hbegins := not_beginsWithSlash_dropFrontSlashes text
  have hends := not_endsInSlash_dropEndSlashes (dropFrontSlashes text)
  generalize dropEndSlashes (dropFrontSlashes text) = core at hn hends
  rw [hn] at hm hbegins
  by_cases hcore : core = ""
  · left
    rw [hcore, String.empty_append, slashes_append] at hm
    exact ⟨m + n, hm⟩
  · right
    rw [beginsWithSlash_append hcore] at hbegins
    rw [← String.append_assoc] at hm
    exact ⟨m, core, n, hm, hcore, hbegins, hends⟩

/-- An address whose path is a page with another path behind it is joined in one go or in two. -/
theorem joinUrl_joinUrl (base path rest : String) : joinUrl (joinUrl base path) rest =
    joinUrl base (dropEndSlashes path ++ "/" ++ dropFrontSlashes rest) := by
  have hslash : "/" = slashes 1 := by decide
  have hbase := not_endsInSlash_dropEndSlashes base
  have hrest := not_beginsWithSlash_dropFrontSlashes rest
  simp only [joinUrl_eq]
  rcases slashes_or_core path with ⟨n, rfl⟩ | ⟨m, core, n, rfl, hcore, hbegins, hends⟩
  · rw [dropFrontSlashes_slashes, dropEndSlashes_slashes, String.append_empty, String.empty_append, hslash,
      dropEndSlashes_append_slashes hbase, dropFrontSlashes_slashes_append hrest]
  · have hends' : ∀ front, ¬ EndsInSlash (front ++ core) := fun front => by rwa [endsInSlash_append hcore]
    have hbegins' : ∀ back, ¬ BeginsWithSlash (core ++ back) := fun back => by rwa [beginsWithSlash_append hcore]
    have hend : dropEndSlashes (slashes m ++ core ++ slashes n) = slashes m ++ core :=
      dropEndSlashes_append_slashes (hends' _) n
    have hfront : dropFrontSlashes (slashes m ++ core ++ slashes n) = core ++ slashes n := by
      rw [String.append_assoc]
      exact dropFrontSlashes_slashes_append (hbegins' _) m
    have hleft : dropEndSlashes (dropEndSlashes base ++ "/" ++ (core ++ slashes n)) =
        dropEndSlashes base ++ "/" ++ core := by
      rw [← String.append_assoc]
      exact dropEndSlashes_append_slashes (hends' _) n
    have hright : dropFrontSlashes (slashes m ++ core ++ "/" ++ dropFrontSlashes rest) =
        core ++ "/" ++ dropFrontSlashes rest := by
      rw [String.append_assoc, String.append_assoc, dropFrontSlashes_slashes_append (hbegins' _),
        String.append_assoc]
    rw [hend, hfront, hleft, hright]
    simp only [String.append_assoc]

/-- The address of a hosted page is what is left of base and path with one slash between them. Slashes at the
end of the base and at the front of the path do not change it, and a base that is such an address itself makes
the same as one path behind the first base. -/
theorem Hosting.links_hosted (hosting other : Hosting) (path rest : String) (m n : Nat) :
    let front := dropEndSlashes hosting.siteBase
    let back := dropFrontSlashes path
    ((∃ k, hosting.siteBase = front ++ slashes k) ∧ ¬ EndsInSlash front) ∧
      ((∃ k, path = slashes k ++ back) ∧ ¬ BeginsWithSlash back) ∧
      hosting.links (.hosted path) = front ++ "/" ++ back ∧
      { hosting with siteBase := hosting.siteBase ++ slashes m }.links (.hosted (slashes n ++ path)) =
        hosting.links (.hosted path) ∧
      { other with siteBase := hosting.links (.hosted path) }.links (.hosted rest) =
        hosting.links (.hosted (dropEndSlashes path ++ "/" ++ dropFrontSlashes rest)) := by
  intro front back
  refine ⟨⟨exists_eq_dropEndSlashes _, not_endsInSlash_dropEndSlashes _⟩,
    ⟨exists_eq_dropFrontSlashes _, not_beginsWithSlash_dropFrontSlashes _⟩, joinUrl_eq _ _, ?_,
    joinUrl_joinUrl _ _ _⟩
  show joinUrl (hosting.siteBase ++ slashes m) (slashes n ++ path) = joinUrl hosting.siteBase path
  rw [joinUrl_eq, joinUrl_eq, dropEndSlashes_append, dropFrontSlashes_append]

/-- A path of nothing but slashes adds nothing to an address that goes on. -/
example : joinUrl (joinUrl "https://jode.org//" "//") "/cvs/" = "https://jode.org/cvs/" := by decide

end DownloadSite
