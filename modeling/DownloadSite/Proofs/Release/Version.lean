import DownloadSite.Proofs.Page.Document
import DownloadSite.Proofs.Text.Quoted
import DownloadSite.Release.Version

/-!
# Versions in addresses

A version is accepted exactly if it is one segment of an address path that needs no encoding. Such a version
needs no escaping in markup either, so the links to its archives stand in a page as they are.
-/

namespace DownloadSite

open Html

theorem Html.written_eq_self {content : String} (h : ∀ c ∈ ['&', '<', '>', '"'], c ∉ content.toList) :
    written content = content := by
  have hself : ∀ cs : List Char, (∀ c ∈ ['&', '<', '>', '"'], c ∉ cs) → escape cs = cs := by
    intro cs hcs
    induction cs with
    | nil => rfl
    | cons c cs ih =>
      have hc : c ∉ ['&', '<', '>', '"'] := fun hmem => hcs c hmem List.mem_cons_self
      rw [escape_cons, escapeChar_eq_self hc, ih fun d hd hmem => hcs d hd (List.mem_cons_of_mem _ hmem)]
      rfl
  rw [← String.toList_inj, toList_written, hself _ h]

namespace Version

variable {version : String} {c : Char}

/-- A segment of an address path that names no directory above it and needs no encoding. -/
structure IsSegment (version : String) : Prop where
  ne_empty : version ≠ ""
  ne_dot : version ≠ "."
  ne_dots : version ≠ ".."
  plain : ∀ c ∈ version.toList, c.isAlphanum = true ∨ c ∈ ['.', '_', '~', '-', '+']

theorem isAllowed_iff : isAllowed c = true ↔ c.isAlphanum = true ∨ c ∈ ['.', '_', '~', '-', '+'] := by
  rw [isAllowed, Bool.or_eq_true, List.contains_iff_mem, marks]

theorem check_eq_ok_iff : check version = .ok () ↔ IsSegment version := by
  constructor
  · intro h
    unfold check at h
    split at h
    · cases h
    · next hempty =>
      split at h
      · cases h
      · next hdots =>
        split at h
        · cases h
        · next hfind =>
          rw [not_or] at hdots
          refine ⟨hempty, hdots.1, hdots.2, fun c hc => isAllowed_iff.1 ?_⟩
          simpa using List.find?_eq_none.1 hfind c hc
  · intro h
    have hfind : version.toList.find? (!isAllowed ·) = none := by
      rw [List.find?_eq_none]
      intro c hc
      simpa using isAllowed_iff.2 (h.plain c hc)
    simp [check, h.ne_empty, h.ne_dot, h.ne_dots, hfind]

/-- The leftmost character that segments have not. -/
def IsCulprit (version : String) (c : Char) : Prop :=
  ∃ front back, version = front ++ String.singleton c ++ back ∧
    (∀ d ∈ front.toList, d.isAlphanum = true ∨ d ∈ ['.', '_', '~', '-', '+']) ∧
    ¬ (c.isAlphanum = true ∨ c ∈ ['.', '_', '~', '-', '+'])

theorem find?_eq_some_iff_isCulprit : version.toList.find? (!isAllowed ·) = some c ↔ IsCulprit version c := by
  simp only [List.find?_eq_some_iff_append, Bool.not_not, isAllowed_iff, Bool.not_eq_true',
    ← Bool.not_eq_true]
  constructor
  · rintro ⟨hc, front, back, hversion, hfront⟩
    refine ⟨String.ofList front, String.ofList back, ?_, by simpa using hfront, hc⟩
    rw [← String.toList_inj, hversion]
    simp
  · rintro ⟨front, back, hversion, hfront, hc⟩
    refine ⟨hc, front.toList, back.toList, ?_, hfront⟩
    rw [hversion]
    simp

theorem isCulprit_of_check {fault : Fault} (h : check version = .error fault) (hempty : version ≠ "")
    (hdot : version ≠ ".") (hdots : version ≠ "..") :
    ∃ c, IsCulprit version c ∧ fault = .forbidden c version := by
  rw [check, if_neg hempty, if_neg (not_or.2 ⟨hdot, hdots⟩)] at h
  split at h
  · next c hfind =>
    cases h
    exact ⟨c, find?_eq_some_iff_isCulprit.1 hfind, rfl⟩
  · cases h

theorem IsSegment.append {other : String} (h : IsSegment version) (hother : IsSegment other) :
    IsSegment (version ++ other) := by
  obtain ⟨c, cs, hversion⟩ := List.exists_cons_of_ne_nil (mt String.toList_eq_nil_iff.1 h.ne_empty)
  obtain ⟨d, ds, hnext⟩ := List.exists_cons_of_ne_nil (mt String.toList_eq_nil_iff.1 hother.ne_empty)
  have hchars : (version ++ other).toList = c :: (cs ++ d :: ds) := by
    rw [String.toList_append, hversion, hnext, List.cons_append]
  refine ⟨?_, ?_, ?_, ?_⟩
  · intro hempty
    simp [hempty] at hchars
  · intro hdot
    simp [hdot] at hchars
  · intro hdots
    rw [hdots] at hchars
    obtain ⟨rfl, hrest⟩ := List.cons.inj hchars
    have hfirst : cs = [] := by
      cases cs with
      | nil => rfl
      | cons e cs => simp at hrest
    exact h.ne_dot (by rw [← String.toList_inj, hversion, hfirst]; rfl)
  · intro e he
    rw [String.toList_append, List.mem_append] at he
    exact he.elim (h.plain e) (hother.plain e)

/-- The report of a forbidden character tells it and the version. -/
theorem forbidden_message_inj {d : Char} {other : String}
    (h : (Fault.forbidden c version).message = (Fault.forbidden d other).message) : c = d ∧ version = other := by
  have hreport : ∀ lead colon : String,
      lead ++ Text.quoteChar c ++ colon ++ version = lead ++ Text.quoteChar d ++ colon ++ other →
        c = d ∧ version = other := by
    intro lead colon h
    simp only [String.append_assoc, String.append_right_inj] at h
    obtain ⟨hquoted, hbehind⟩ := Text.Quote.enclose_append_inj h
    exact ⟨(List.cons.inj hquoted).1, (String.append_right_inj _).1 hbehind⟩
  exact hreport _ _ h

/-- Characters that end a segment, that have to be encoded in one, or that markup escapes. -/
def addressMarks : List Char := ['/', '?', '#', '%', ' ', '"', '\'', '&', '<', '>']

theorem notMem_addressMarks (h : isAllowed c = true) : c ∉ addressMarks := by
  intro hmem
  have hrefused : addressMarks.all (!isAllowed ·) = true := by decide
  simpa [h] using List.all_eq_true.1 hrefused c hmem

end Version

namespace Archive

open Version

variable {version : String} {platform : Platform}

theorem isAllowed_of_mem_fileName (hversion : IsSegment version) (hplatform : platform ∈ platforms) {c : Char}
    (h : c ∈ (fileName version platform.suffix).toList) : isAllowed c = true := by
  have hfront : "jode-".toList.all isAllowed = true := by decide
  have hsuffixes : (platforms.map Platform.suffix).all (·.toList.all isAllowed) = true := by decide
  have hend : ".jar".toList.all isAllowed = true := by decide
  have hsuffix := List.all_eq_true.1 hsuffixes _ (List.mem_map_of_mem hplatform)
  simp only [fileName, String.toList_append, List.mem_append] at h
  rcases h with ((h | h) | h) | h
  · exact List.all_eq_true.1 hfront c h
  · exact isAllowed_iff.2 (hversion.plain c h)
  · exact List.all_eq_true.1 hsuffix c h
  · exact List.all_eq_true.1 hend c h

/-- The name of an archive is one segment of its address, and markup escapes nothing of it. -/
theorem notMem_fileName (hversion : IsSegment version) (hplatform : platform ∈ platforms) :
    ∀ c ∈ addressMarks, c ∉ (fileName version platform.suffix).toList :=
  fun _ hc h => notMem_addressMarks (isAllowed_of_mem_fileName hversion hplatform h) hc

theorem writtenLink_eq_linkText (hversion : IsSegment version) (hplatform : platform ∈ platforms) :
    writtenLink version platform =
      linkText (url version platform.suffix) (fileName version platform.suffix) := by
  have hescaped : ∀ c ∈ ['&', '<', '>', '"'], c ∈ addressMarks := by simp [addressMarks]
  have hbase : ['&', '<', '>', '"'].all (!baseUrl.toList.contains ·) = true := by decide
  have hname : ∀ c ∈ ['&', '<', '>', '"'], c ∉ (fileName version platform.suffix).toList :=
    fun c hc => notMem_fileName hversion hplatform c (hescaped c hc)
  have hurl : ∀ c ∈ ['&', '<', '>', '"'], c ∉ (url version platform.suffix).toList := by
    intro c hc hmem
    rw [url, String.toList_append, List.mem_append] at hmem
    rcases hmem with hmem | hmem
    · simpa [hmem] using List.all_eq_true.1 hbase c hc
    · exact hname c hc hmem
  rw [writtenLink, written_eq_self hname, written_eq_self hurl]

/-- The list of the archives of a version in its written form, with nothing escaped. -/
def plainList (version : String) : String :=
  listText fun platform => linkText (url version platform.suffix) (fileName version platform.suffix)

theorem listText_writtenLink (hversion : IsSegment version) :
    listText (writtenLink version) = plainList version := by
  have hitems : (platforms.map fun platform => itemText (writtenLink version platform) platform) =
      platforms.map fun platform =>
        itemText (linkText (url version platform.suffix) (fileName version platform.suffix)) platform := by
    apply List.map_congr_left
    intro platform hplatform
    rw [writtenLink_eq_linkText hversion hplatform]
  rw [plainList, listText, listText, hitems]

end Archive

end DownloadSite
