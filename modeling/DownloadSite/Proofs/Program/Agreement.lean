import DownloadSite.Proofs.CommandLine.Printing
import DownloadSite.Proofs.Program.Course
import DownloadSite.Proofs.Program.Requests
import DownloadSite.Proofs.Site.Course

/-!
# Printing and writing agree

A run without settings leaves the files alone and prints no page. A run that prints leaves the files alone
too, and one that writes leaves in its file what it would have printed.
-/

namespace DownloadSite

open CommandLine

variable {surroundings : Surroundings} {words : List String} {place after : Place} {outcome : Outcome}

/-- Without settings nothing is printed but what is asked for. -/
theorem Course.unless_resolves (hcourse : Course surroundings words place outcome after)
    (hrefused : ∀ config resolved, parse words = .ok config → ¬ config.Resolves place resolved) :
    after = place ∧ HasNoPage outcome.stdout ∧
      (outcome.stdout = "" ∨ ∃ asked, parse words = .error (.asked asked)) := by
  cases hcourse with
  | @stopped stop hwords =>
    refine ⟨rfl, stop.hasNoPage_stdout _, ?_⟩
    rcases stop.stdout_eq (surroundings.usage words) with hempty | ⟨asked, rfl⟩
    · exact .inl hempty
    · exact .inr ⟨asked, hwords⟩
  | refused _ _ => exact ⟨rfl, hasNoPage_of_notMem List.not_mem_nil, .inl rfl⟩
  | printed hwords hresolves _ => exact absurd hresolves (hrefused _ _ hwords)
  | unwritten hwords hresolves _ _ => exact absurd hresolves (hrefused _ _ hwords)
  | written hwords hresolves _ _ => exact absurd hresolves (hrefused _ _ hwords)

theorem does_run_of_printing {config : Config} {resolved : Resolved} (hwords : parse words = .ok config)
    (hresolves : config.Resolves place resolved) (hstdout : config.stdout = true) (surroundings : Surroundings)
    (request : Option String) (stamp : String) :
    place.Does (run surroundings request words stamp) { stdout := (Site.ofResolved resolved).page ++ "\n" }
      place := by
  rw [run_of_parse hwords]
  exact Config.does_run_of_printed hresolves hstdout

/-- A run that writes prints nothing, and if it ends well it has written the page. -/
theorem Course.of_writing {config : Config} {resolved : Resolved}
    (hcourse : Course surroundings words place outcome after) (hwords : parse words = .ok config)
    (hresolves : config.Resolves place resolved) (hstdout : config.stdout = false) :
    outcome.stdout = "" ∧ (outcome.exit = 0 →
      after.read (Path.join config.output Site.pageName) =
        .ok (Text.encode (Site.ofResolved resolved).page)) := by
  cases hcourse with
  | stopped hstop => cases hstop.symm.trans hwords
  | refused hother hrefused =>
    cases hother.symm.trans hwords
    cases hrefused.symm.trans (Config.answer_prepare_eq_ok_iff.2 hresolves)
  | printed hother _ hprinting =>
    cases hother.symm.trans hwords
    cases hprinting.symm.trans hstdout
  | unwritten _ _ _ _ => exact ⟨rfl, fun hexit => absurd hexit Nat.one_ne_zero⟩
  | written hother hresolved _ hwrite =>
    cases hother.symm.trans hwords
    cases hresolved.unique hresolves
    exact ⟨rfl, fun _ => hwrite.read_page⟩

/-- A run leaves the files alone and prints no page unless its settings stand. If they do, it prints the page
and leaves the files alone, or prints nothing and, if it ends well, leaves as the file of the page what every
run at the same place prints with `--stdout` in front of its words. -/
theorem printing_agrees_with_writing (surroundings : Surroundings) (request : Option String)
    (words : List String) (stamp : String) (place : Place) :
    let shown := place.answer (run surroundings request words stamp)
    let after := place.after (run surroundings request words stamp)
    ((∀ config resolved, parse words = .ok config → ¬ config.Resolves place resolved) →
      after = place ∧ HasNoPage shown.stdout ∧
        (shown.stdout = "" ∨ ∃ asked, parse words = .error (.asked asked))) ∧
    ∀ config resolved, parse words = .ok config → config.Resolves place resolved →
      (config.stdout = true →
        shown.exit = 0 ∧ shown.stdout = (Site.ofResolved resolved).page ++ "\n" ∧ after = place) ∧
      (config.stdout = false →
        shown.stdout = "" ∧
          (shown.exit = 0 → ∃ text,
            after.read (Path.join config.output Site.pageName) = .ok (Text.encode text) ∧
              ∀ surroundings request stamp,
                let printed := place.answer (run surroundings request ("--stdout" :: words) stamp)
                printed.exit = 0 ∧ printed.stdout = text ++ "\n")) := by
  intro shown after
  obtain ⟨outcome, last, hcourse, hruns⟩ := exists_course surroundings words place
  have hshown : shown = outcome.shown (Log.Filter.ofRequest request) stamp := (hruns request stamp).answer_eq
  have hafter : after = last := (hruns request stamp).after_eq
  rw [hshown, hafter]
  refine ⟨hcourse.unless_resolves, fun config resolved hwords hresolves => ⟨?_, ?_⟩⟩
  · intro hstdout
    obtain ⟨hprinted, hplace⟩ := (does_run_of_printing hwords hresolves hstdout surroundings request stamp).unique
      (hruns request stamp)
    rw [← hprinted, ← hplace]
    exact ⟨rfl, rfl, rfl⟩
  · intro hstdout
    obtain ⟨hsilent, hread⟩ := hcourse.of_writing hwords hresolves hstdout
    refine ⟨hsilent, fun hexit => ⟨_, hread hexit, fun surroundings request stamp => ?_⟩⟩
    have hprinting : ({ config with stdout := true } : Config).Resolves place resolved := hresolves
    have hprinted := does_run_of_printing (parse_stdout_cons hwords hstdout) hprinting rfl surroundings request
      stamp
    rw [hprinted.answer_eq]
    exact ⟨rfl, rfl⟩

end DownloadSite
