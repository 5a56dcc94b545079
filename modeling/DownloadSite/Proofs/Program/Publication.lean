import DownloadSite.Proofs.Page.TagSequence
import DownloadSite.Proofs.Program.Course
import DownloadSite.Proofs.Release.Version
import DownloadSite.Proofs.Site.Course

/-!
# What a run publishes

The generator of the page takes any version, so what protects its links is the way to it: only a version that
is one segment of an address gets there. Without such a version a run fails and leaves the files alone.
-/

namespace DownloadSite

open CommandLine

variable {words : List String} {page : String} {place : Place} {config : Config} {resolved : Resolved}

/-- The version that counts for a command line is the one that it gives, else the one of its settings file. -/
def Config.Selects (config : Config) (place : Place) (version : String) : Prop :=
  config.release = some version ∨
    config.release = none ∧ ∃ file, place.answer config.loadSettings = .ok file ∧ file.version = some version

/-- A run has printed the page, or it has ended well and left the page in its file. -/
def Publishes (words : List String) (shown : Shown) (after : Place) (page : String) : Prop :=
  ∃ config, parse words = .ok config ∧
    (shown.stdout = page ++ "\n" ∨
      config.stdout = false ∧ shown.exit = 0 ∧
        after.read (Path.join config.output Site.pageName) = .ok (Text.encode page))

theorem Config.Resolves.selects (h : config.Resolves place resolved) :
    config.Selects place resolved.version ∧ Version.IsSegment resolved.version := by
  obtain ⟨-, file, hload, hresolve⟩ := h
  unfold resolve at hresolve
  split at hresolve
  · cases hresolve
  · next merged hmerged =>
    cases hresolve
    unfold Resolved.resolve at hmerged
    split at hmerged
    · cases hmerged
    · next version hchoose =>
      split at hmerged
      · cases hmerged
      · next hcheck =>
        cases hmerged
        refine ⟨?_, Version.check_eq_ok_iff.1 hcheck⟩
        rcases Option.or_eq_some_iff.1 hchoose with hrelease | ⟨hrelease, hfile⟩
        · exact .inl hrelease
        · exact .inr ⟨hrelease, file, hload, hfile⟩

theorem Text.encode_injective : Function.Injective encode := fun _ _ h => String.toByteArray_inj.1 h

theorem append_lineEnd_ne_empty (page : String) : page ++ "\n" ≠ "" := by
  intro h
  have hchars := congrArg String.toList h
  rw [String.toList_append] at hchars
  exact List.append_ne_nil_of_right_ne_nil _ (by decide) hchars

section

variable {surroundings : Surroundings} {outcome : Outcome} {after : Place} {filter : Log.Filter} {stamp : String}

/-- Every page that is published is the page of settings that stand. -/
theorem Course.exists_resolves_of_publishes (hcourse : Course surroundings words place outcome after)
    (h : Publishes words (outcome.shown filter stamp) after page) :
    ∃ config resolved, parse words = .ok config ∧ config.Resolves place resolved ∧
      page = (Site.ofResolved resolved).page := by
  obtain ⟨config, hwords, hpublished⟩ := h
  cases hcourse with
  | stopped hstop => cases hstop.symm.trans hwords
  | refused _ _ =>
    rcases hpublished with hprinted | ⟨-, hexit, -⟩
    · exact absurd hprinted.symm (append_lineEnd_ne_empty page)
    · cases hexit
  | printed hother hresolves hstdout =>
    refine ⟨_, _, hother, hresolves, ?_⟩
    rcases hpublished with hprinted | ⟨hfalse, -, -⟩
    · exact (String.append_left_inj "\n").1 hprinted.symm
    · cases hother.symm.trans hwords
      cases hfalse.symm.trans hstdout
  | unwritten _ _ _ _ =>
    rcases hpublished with hprinted | ⟨-, hexit, -⟩
    · exact absurd hprinted.symm (append_lineEnd_ne_empty page)
    · cases hexit
  | written hother hresolves _ hwrite =>
    refine ⟨_, _, hother, hresolves, ?_⟩
    rcases hpublished with hprinted | ⟨-, -, hread⟩
    · exact absurd hprinted.symm (append_lineEnd_ne_empty page)
    · cases hother.symm.trans hwords
      exact Text.encode_injective (Except.ok.inj (hread.symm.trans hwrite.read_page))

/-- What is neither asked for nor given settings fails. -/
theorem Course.asked_or_fails (hcourse : Course surroundings words place outcome after)
    (hrefused : ∀ config resolved, parse words = .ok config → ¬ config.Resolves place resolved) :
    (∃ asked, parse words = .error (.asked asked)) ∨ outcome.exit ≠ 0 ∧ after = place := by
  cases hcourse with
  | @stopped stop hwords =>
    cases stop with
    | asked request => exact .inl ⟨request, hwords⟩
    | _ => exact .inr ⟨Nat.succ_ne_zero _, rfl⟩
  | refused _ _ => exact .inr ⟨Nat.one_ne_zero, rfl⟩
  | printed hwords hresolves _ => exact absurd hresolves (hrefused _ _ hwords)
  | unwritten hwords hresolves _ _ => exact absurd hresolves (hrefused _ _ hwords)
  | written hwords hresolves _ _ => exact absurd hresolves (hrefused _ _ hwords)

theorem Course.asked_or_publishes (hcourse : Course surroundings words place outcome after)
    (hexit : outcome.exit = 0) (filter : Log.Filter) (stamp : String) :
    (∃ asked, parse words = .error (.asked asked)) ∨
      ∃ page, Publishes words (outcome.shown filter stamp) after page := by
  cases hcourse with
  | @stopped stop hwords =>
    cases stop with
    | asked request => exact .inl ⟨request, hwords⟩
    | _ => cases hexit
  | refused _ _ => cases hexit
  | printed hwords _ _ => exact .inr ⟨_, _, hwords, .inl rfl⟩
  | unwritten _ _ _ _ => cases hexit
  | written hwords _ hstdout hwrite => exact .inr ⟨_, _, hwords, .inr ⟨hstdout, rfl, hwrite.read_page⟩⟩

end

/-- A run that ends well has published a page, unless it was asked for something else. Every page that a run
publishes has in its only list, unescaped, the links to the archives of the version that counts, and this
version is one segment of their addresses. A run without such a version fails and leaves the files alone. -/
theorem published_links_are_safe (surroundings : Surroundings) (request : Option String) (words : List String)
    (stamp : String) (place : Place) :
    let shown := place.answer (run surroundings request words stamp)
    let after := place.after (run surroundings request words stamp)
    (shown.exit = 0 →
      (∃ asked, parse words = .error (.asked asked)) ∨ ∃ page, Publishes words shown after page) ∧
    (∀ page, Publishes words shown after page →
      ∃ config version, parse words = .ok config ∧ config.Selects place version ∧
        Version.IsSegment version ∧
        (∃ before behind, page = before ++ Archive.plainList version ++ behind) ∧
        (Html.tagSequence page).count "<ul>" = 1 ∧
        ∀ platform ∈ Archive.platforms, ∀ c ∈ Version.addressMarks,
          c ∉ (Archive.fileName version platform.suffix).toList) ∧
    ((∀ config version, parse words = .ok config → config.Selects place version →
        ¬ Version.IsSegment version) →
      (∃ asked, parse words = .error (.asked asked)) ∨ shown.exit ≠ 0 ∧ after = place) := by
  intro shown after
  obtain ⟨outcome, last, hcourse, hruns⟩ := exists_course surroundings words place
  have hshown : shown = outcome.shown (Log.Filter.ofRequest request) stamp := (hruns request stamp).answer_eq
  have hafter : after = last := (hruns request stamp).after_eq
  rw [hshown, hafter]
  refine ⟨fun hexit => hcourse.asked_or_publishes hexit _ stamp, fun page hpublishes => ?_, fun hunsafe => ?_⟩
  · obtain ⟨config, resolved, hwords, hresolves, rfl⟩ := hcourse.exists_resolves_of_publishes hpublishes
    obtain ⟨hselects, hsegment⟩ := hresolves.selects
    refine ⟨config, resolved.version, hwords, hselects, hsegment, ?_, ?_, ?_⟩
    · rw [← Archive.listText_writtenLink hsegment]
      exact DownloadPage.exists_render_document_eq _ _ _
    · have htags : Html.tagSequence (Site.ofResolved resolved).page = DownloadPage.pageTags :=
        DownloadPage.tagSequence_document _ _ _
      rw [htags]
      decide
    · exact fun platform hplatform => Archive.notMem_fileName hsegment hplatform
  · refine hcourse.asked_or_fails fun config resolved hwords hresolves => ?_
    obtain ⟨hselects, hsegment⟩ := hresolves.selects
    exact hunsafe config resolved.version hwords hselects hsegment

end DownloadSite
