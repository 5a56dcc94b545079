import DownloadSite.Program
import DownloadSite.Proofs.Site.Course

/-!
# The course of a run

A run at a place goes one of five ways: its words are not read, its settings do not stand, the page is
printed, or the site is written, in full or up to a fault. `Course` has one case for each of them. What it says
is the same for every log filter that is asked for: the filter decides only which events of the course are
shown (`exists_course`).
-/

namespace DownloadSite

open CommandLine

/-! ### Settings -/

namespace Config

variable {config : Config} {place : Place}

theorem onlyLooks_validate (config : Config) : OnlyLooks config.validate := by
  unfold validate
  split
  · exact onlyLooks_pure _
  · refine (onlyLooks_isPresent _).bind fun present => ?_
    cases present
    · exact onlyLooks_pure _
    · exact onlyLooks_pure _

theorem onlyLooks_loadSettings (config : Config) : OnlyLooks config.loadSettings := by
  unfold loadSettings
  split
  · exact onlyLooks_pure _
  · refine OnlyLooks.bind ((onlyLooks_read _).bind fun content => ?_) fun settings => ?_
    · cases content
      · exact onlyLooks_pure _
      · exact onlyLooks_pure _
    · cases settings
      · exact onlyLooks_pure _
      · exact onlyLooks_pure _

/-- The settings of a command line stand at a place: the command line is valid there, its settings file gives
settings, and these resolve. -/
def Resolves (config : Config) (place : Place) (resolved : Resolved) : Prop :=
  place.answer config.validate = .ok () ∧
    ∃ file, place.answer config.loadSettings = .ok file ∧ config.resolve file = .ok resolved

theorem onlyLooks_prepare (config : Config) : OnlyLooks config.prepare := by
  refine (onlyLooks_validate config).bind fun valid => ?_
  cases valid with
  | error failure => exact onlyLooks_pure _
  | ok _ =>
    refine (onlyLooks_loadSettings config).bind fun file => ?_
    cases file
    · exact onlyLooks_pure _
    · exact onlyLooks_pure _

theorem answer_prepare_eq_ok_iff {resolved : Resolved} :
    place.answer config.prepare = .ok resolved ↔ config.Resolves place resolved := by
  rw [prepare, (onlyLooks_validate config).answer_bind, Resolves]
  cases place.answer config.validate with
  | error failure => simp
  | ok _ =>
    simp only [resolveAll, (onlyLooks_loadSettings config).answer_bind, true_and]
    cases place.answer config.loadSettings <;> simp

theorem Resolves.unique {resolved other : Resolved} (h : config.Resolves place resolved)
    (hother : config.Resolves place other) : resolved = other :=
  Except.ok.inj ((answer_prepare_eq_ok_iff.2 h).symm.trans (answer_prepare_eq_ok_iff.2 hother))

theorem Resolves.does_prepare {resolved : Resolved} (h : config.Resolves place resolved) :
    place.Does config.prepare (.ok resolved) place := by
  rw [← answer_prepare_eq_ok_iff.2 h]
  exact (onlyLooks_prepare config).does place

end Config

/-! ### Whole runs -/

/-- What a run comes to, with everything that it has to tell. -/
structure Outcome where
  exit : Nat := 0
  stdout : String := ""
  events : List Log.Event := []
  report : String := ""

/-- What is seen of an outcome through a log filter. -/
def Outcome.shown (outcome : Outcome) (filter : Log.Filter) (stamp : String) : Shown where
  exit := outcome.exit
  stdout := outcome.stdout
  stderr := filter.lines stamp outcome.events ++ outcome.report

/-- The ways that a run takes, and the place that it leaves. -/
inductive Course (surroundings : Surroundings) (words : List String) (place : Place) : Outcome → Place → Prop where
  | stopped {stop : Stop} (hwords : parse words = .error stop) :
      Course surroundings words place
        { exit := (stop.outcome (surroundings.usage words)).exit
          stdout := (stop.outcome (surroundings.usage words)).stdout
          report := (stop.outcome (surroundings.usage words)).stderr } place
  | refused {config : Config} {failure : Failure} (hwords : parse words = .ok config)
      (hrefused : place.answer config.prepare = .error failure) :
      Course surroundings words place
        { exit := 1
          report := Report.text (configurationContext :: failure.reported surroundings.excerpt) } place
  | printed {config : Config} {resolved : Resolved} (hwords : parse words = .ok config)
      (hresolves : config.Resolves place resolved) (hstdout : config.stdout = true) :
      Course surroundings words place { stdout := (Site.ofResolved resolved).page ++ "\n" } place
  | unwritten {config : Config} {resolved : Resolved} {fault : Site.WriteFault} {events : List Log.Event}
      {after : Place} (hwords : parse words = .ok config) (hresolves : config.Resolves place resolved)
      (hstdout : config.stdout = false)
      (hwrite : Site.WriteCourse (Site.ofResolved resolved) config.output place
        { result := .error fault, events } after) :
      Course surroundings words place { exit := 1, events, report := Report.text fault.chain } after
  | written {config : Config} {resolved : Resolved} {path : String} {events : List Log.Event} {after : Place}
      (hwords : parse words = .ok config) (hresolves : config.Resolves place resolved)
      (hstdout : config.stdout = false)
      (hwrite : Site.WriteCourse (Site.ofResolved resolved) config.output place
        { result := .ok path, events } after) :
      Course surroundings words place { events := events ++ config.opened surroundings.opening path } after

section

variable {surroundings : Surroundings} {words : List String} {config : Config} {place after : Place}
  {resolved : Resolved} {filter : Log.Filter} {stamp : String}

theorem Log.Filter.lines_nil (filter : Filter) (stamp : String) : filter.lines stamp [] = "" := rfl

theorem Log.Filter.lines_cons (filter : Filter) (stamp : String) (event : Event) (events : List Event) :
    filter.lines stamp (event :: events) =
      (if filter.allows event then event.line stamp else "") ++ filter.lines stamp events := by
  cases hallows : filter.allows event <;> simp [lines, hallows]

theorem Log.Filter.lines_append (filter : Filter) (stamp : String) (events others : List Event) :
    filter.lines stamp (events ++ others) = filter.lines stamp events ++ filter.lines stamp others := by
  rw [lines, lines, lines, List.filter_append, List.map_append, String.join_append]

theorem run_of_parse (hwords : parse words = .ok config) (request : Option String) :
    (run surroundings request words stamp : StateM Place Shown) =
      config.run surroundings (Log.Filter.ofRequest request) stamp := by
  rw [run, hwords]
  rfl

theorem Config.does_run_of_refused {failure : Failure} (hrefused : place.answer config.prepare = .error failure) :
    place.Does (config.run surroundings filter stamp)
      { exit := 1
        stderr := Report.text (configurationContext :: failure.reported surroundings.excerpt) } place := by
  have hprepare := (onlyLooks_prepare config).does place
  rw [hrefused] at hprepare
  exact hprepare.bind (.pure _ _)

theorem Config.does_run_of_printed (hresolves : config.Resolves place resolved) (hstdout : config.stdout = true) :
    place.Does (config.run surroundings filter stamp) { stdout := (Site.ofResolved resolved).page ++ "\n" }
      place := by
  refine hresolves.does_prepare.bind ?_
  simp only [hstdout, if_true]
  exact .pure _ _

theorem Config.does_run_of_unwritten {fault : Site.WriteFault} {events : List Log.Event}
    (hresolves : config.Resolves place resolved) (hstdout : config.stdout = false)
    (hwrite : place.Does ((Site.ofResolved resolved).write config.output)
      { result := .error fault, events } after) :
    place.Does (config.run surroundings filter stamp)
      { exit := 1, stderr := filter.lines stamp events ++ Report.text fault.chain } after := by
  refine hresolves.does_prepare.bind ?_
  simp only [hstdout]
  exact hwrite.bind (.pure _ _)

theorem Config.does_run_of_written {path : String} {events : List Log.Event}
    (hresolves : config.Resolves place resolved) (hstdout : config.stdout = false)
    (hwrite : place.Does ((Site.ofResolved resolved).write config.output) { result := .ok path, events } after) :
    place.Does (config.run surroundings filter stamp)
      { stderr := filter.lines stamp events ++
          filter.lines stamp (config.opened surroundings.opening path) } after := by
  refine hresolves.does_prepare.bind ?_
  simp only [hstdout]
  exact hwrite.bind (.pure _ _)

/-- A run takes one course at a place, and every log filter shows what this course comes to. -/
theorem exists_course (surroundings : Surroundings) (words : List String) (place : Place) :
    ∃ outcome after, Course surroundings words place outcome after ∧
      ∀ (request : Option String) (stamp : String),
        place.Does (run surroundings request words stamp)
          (outcome.shown (Log.Filter.ofRequest request) stamp) after := by
  cases hwords : parse words with
  | error stop =>
    refine ⟨_, _, .stopped hwords, fun request stamp => ?_⟩
    rw [run, hwords, Outcome.shown, Log.Filter.lines_nil, String.empty_append]
    exact .pure _ _
  | ok config =>
    simp only [run_of_parse hwords]
    cases hprepare : place.answer config.prepare with
    | error failure =>
      refine ⟨_, _, .refused hwords hprepare, fun request stamp => ?_⟩
      rw [Outcome.shown, Log.Filter.lines_nil, String.empty_append]
      exact Config.does_run_of_refused hprepare
    | ok resolved =>
      have hresolves := Config.answer_prepare_eq_ok_iff.1 hprepare
      cases hstdout : config.stdout with
      | true =>
        refine ⟨_, _, .printed hwords hresolves hstdout, fun request stamp => ?_⟩
        rw [Outcome.shown, Log.Filter.lines_nil, String.empty_append]
        exact Config.does_run_of_printed hresolves hstdout
      | false =>
        have hdoes := Place.Does.of_answer place ((Site.ofResolved resolved).write config.output)
        generalize place.answer ((Site.ofResolved resolved).write config.output) = written at hdoes
        obtain ⟨result, events⟩ := written
        have hwrite := Site.course_of_does_write hdoes
        cases result with
        | error fault =>
          refine ⟨_, _, .unwritten hwords hresolves hstdout hwrite, fun request stamp => ?_⟩
          exact Config.does_run_of_unwritten hresolves hstdout hdoes
        | ok path =>
          refine ⟨_, _, .written hwords hresolves hstdout hwrite, fun request stamp => ?_⟩
          rw [Outcome.shown, Log.Filter.lines_append, String.append_empty]
          exact Config.does_run_of_written hresolves hstdout hdoes

end

end DownloadSite
