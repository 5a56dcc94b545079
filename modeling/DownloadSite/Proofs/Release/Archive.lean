import Mathlib.Data.List.Basic
import DownloadSite.Proofs.Release.Version

/-!
# Versions and their archives

The check of a version tells the leftmost character that does not belong there, and what it accepts can be put
together. The archives of all versions and platforms have different names, though a version may end in what
another one has for a platform, so their links differ as well, whether the versions are accepted or not.
-/

namespace DownloadSite.Archive

open Html Version

variable {version other suffix last : String} {platform another : Platform}

theorem length_suffix (h : platform ∈ platforms) : platform.suffix.toList.length = 4 := by
  simp only [platforms, List.mem_cons, List.not_mem_nil, or_false] at h
  rcases h with rfl | rfl <;> rfl

theorem eq_of_suffix_eq (h : platform ∈ platforms) (h' : another ∈ platforms)
    (hsuffix : platform.suffix = another.suffix) : platform = another := by
  simp only [platforms, List.mem_cons, List.not_mem_nil, or_false] at h h'
  rcases h with rfl | rfl
  · rcases h' with rfl | rfl
    · rfl
    · exact absurd hsuffix (by decide)
  · rcases h' with rfl | rfl
    · exact absurd hsuffix (by decide)
    · rfl

/-- The suffixes are equally long, so the name of a file can be divided in one way only. -/
theorem fileName_inj (h : platform ∈ platforms) (h' : another ∈ platforms)
    (hname : fileName version platform.suffix = fileName other another.suffix) :
    version = other ∧ platform = another := by
  have hfront : "jode-" ++ version ++ platform.suffix = "jode-" ++ other ++ another.suffix :=
    (String.append_left_inj ".jar").1 hname
  have hchars : version.toList ++ platform.suffix.toList = other.toList ++ another.suffix.toList := by
    simpa using congrArg String.toList hfront
  have hlength : platform.suffix.toList.length = another.suffix.toList.length := by
    rw [length_suffix h, length_suffix h']
  obtain ⟨hversion, hsuffix⟩ := List.append_inj' hchars hlength
  exact ⟨String.toList_inj.1 hversion, eq_of_suffix_eq h h' (String.toList_inj.1 hsuffix)⟩

theorem fileName_eq_of_url_eq (h : url version suffix = url other last) :
    fileName version suffix = fileName other last :=
  (String.append_right_inj baseUrl).1 h

theorem url_eq_of_render_link_eq
    (h : render (link version suffix) = render (link other last)) : url version suffix = url other last := by
  have hchars :
      escape (url version suffix).toList ++ '"' :: '>' :: (escape (fileName version suffix).toList ++ "</a>".toList) =
        escape (url other last).toList ++ '"' :: '>' :: (escape (fileName other last).toList ++ "</a>".toList) := by
    simpa [link, anchor, element, text, Piece.chars, attributeChars] using congrArg String.toList h
  exact String.toList_inj.1 (escape_append_cons_inj (by decide) hchars).1

/-- A version is accepted exactly if it is one segment of an address. One that is refused, though it is neither
empty nor made of dots alone, has a leftmost character that does not belong there, and the report tells this
character and the version. Two accepted versions put together are accepted. The addresses of archives, and
the links to them, are different for different versions and platforms. -/
theorem check_tells_and_links_differ (version other : String) :
    (check version = .ok () ↔ IsSegment version) ∧
      (∀ fault, check version = .error fault → version ≠ "" → version ≠ "." → version ≠ ".." →
        ∃ c, IsCulprit version c ∧ fault = .forbidden c version ∧
          fault.message = "Release version contains invalid character " ++ Text.quoteChar c ++ ": " ++ version ∧
          ∀ d another, (Fault.forbidden d another).message = fault.message → d = c ∧ another = version) ∧
      (check version = .ok () → check other = .ok () → check (version ++ other) = .ok ()) ∧
      ∀ platform ∈ platforms, ∀ another ∈ platforms,
        (url version platform.suffix = url other another.suffix → version = other ∧ platform = another) ∧
        (render (link version platform.suffix) = render (link other another.suffix) →
          version = other ∧ platform = another) := by
  refine ⟨check_eq_ok_iff, ?_, ?_, ?_⟩
  · intro fault hrefused hempty hdot hdots
    obtain ⟨c, hculprit, rfl⟩ := isCulprit_of_check hrefused hempty hdot hdots
    exact ⟨c, hculprit, rfl, rfl, fun d another h => forbidden_message_inj h⟩
  · intro hversion hother
    exact check_eq_ok_iff.2 ((check_eq_ok_iff.1 hversion).append (check_eq_ok_iff.1 hother))
  · intro platform hplatform another hanother
    have hurl : url version platform.suffix = url other another.suffix → version = other ∧ platform = another :=
      fun h => fileName_inj hplatform hanother (fileName_eq_of_url_eq h)
    exact ⟨hurl, fun h => hurl (url_eq_of_render_link_eq h)⟩

/-- Of two characters that do not belong there the first is told, and a version goes on behind another one. -/
theorem first_culprit_told :
    (check "1.1/8?" = .error (.forbidden '/' "1.1/8?") ∧ IsCulprit "1.1/8?" '/') ∧
      check ("1.1" ++ ".8-1.1") = .ok () := by
  have hrefused : check "1.1/8?" = .error (.forbidden '/' "1.1/8?") := by decide
  obtain ⟨c, hculprit, hfault, -⟩ := (check_tells_and_links_differ "1.1/8?" "").2.1 _ hrefused
    (by decide) (by decide) (by decide)
  obtain ⟨rfl, -⟩ := Fault.forbidden.inj hfault
  refine ⟨⟨hrefused, hculprit⟩, ?_⟩
  exact (check_tells_and_links_differ "1.1" ".8-1.1").2.2.1 (by decide) (by decide)

end DownloadSite.Archive
