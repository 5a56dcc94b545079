import DownloadSite.Proofs.Log.Request
import DownloadSite.Proofs.Program.Course

/-!
# Logging beside the result

Which events of a run are shown is decided by the clauses of the request, in whatever order they stand. The
request has no part in anything else: with any other one a run has the same result, leaves the same files, and
ends its report in the same way.
-/

namespace DownloadSite

open Log

/-- One outcome stands behind the runs with all requests. They exit with its status, print what it prints and
leave the files that it leaves; on the error output they have the lines of those of its events that the request
lets through, and behind them its report. A request of clauses lets an event through exactly if the clause with
the longest module that its origin begins with allows its level; the clauses may stand in any order. -/
theorem requests_decide_events_only (surroundings : Surroundings) (words : List String) (place : Place) :
    ∃ outcome after, Course surroundings words place outcome after ∧
      (∀ (request : Option String) (stamp : String),
        let shown := place.answer (run surroundings request words stamp)
        shown.exit = outcome.exit ∧ shown.stdout = outcome.stdout ∧
          place.after (run surroundings request words stamp) = after ∧
          shown.stderr =
            String.join ((outcome.events.filter (Filter.ofRequest request).allows).map (Event.line stamp)) ++
              outcome.report) ∧
      ∀ clauses : List Clause, (clauses.map Clause.origin).Nodup →
        (∀ event : Event,
          (Filter.ofRequest (some (requestText clauses))).allows event = true ↔ Shows clauses event) ∧
        ∀ stamp : String,
          (place.answer (run surroundings (some (requestText clauses)) words stamp)).stderr =
              String.join ((outcome.events.filter fun event => Shows clauses event).map (Event.line stamp)) ++
                outcome.report ∧
            ∀ others : List Clause, clauses.Perm others →
              (place.answer (run surroundings (some (requestText others)) words stamp)).stderr =
                (place.answer (run surroundings (some (requestText clauses)) words stamp)).stderr := by
  obtain ⟨outcome, after, hcourse, hruns⟩ := exists_course surroundings words place
  refine ⟨outcome, after, hcourse, fun request stamp => ?_, fun clauses hnodup => ?_⟩
  · intro shown
    have hshown : shown = outcome.shown (Filter.ofRequest request) stamp := (hruns request stamp).answer_eq
    rw [hshown]
    exact ⟨rfl, rfl, (hruns request stamp).after_eq, rfl⟩
  · refine ⟨allows_requestText_iff hnodup, fun stamp => ⟨?_, fun others hperm => ?_⟩⟩
    · rw [(hruns _ stamp).answer_eq, Outcome.shown, lines_requestText hnodup]
    · rw [(hruns _ stamp).answer_eq, (hruns _ stamp).answer_eq, Outcome.shown, Outcome.shown,
        Filter.lines_eq_of_allows_eq (allows_requestText_of_perm hnodup hperm)]

theorem isIdentifier_of_isAlpha {name : String} {c : Char} {cs : List Char} (hname : name.toList = c :: cs)
    (hc : c.isAlpha = true) (hinner : name.toList.all (fun d => decide (IsInner d ∧ d ≠ ':')) = true) :
    IsIdentifier name := by
  refine ⟨⟨c, cs, hname, .inl ?_⟩, fun d hd => of_decide_eq_true (List.all_eq_true.1 hinner d hd)⟩
  exact Text.isAlphanumeric_of_isAlphanum (isAlphanum_of_isAlpha hc)

theorem isIdentifier_site : IsIdentifier "jode_site" := isIdentifier_of_isAlpha rfl (by decide) (by decide)

theorem isIdentifier_assets : IsIdentifier "assets" := isIdentifier_of_isAlpha rfl (by decide) (by decide)

/-- A module that is turned off, a module in it that is not, and a level for everything. -/
def nestedClauses : List Clause :=
  [{ path := ["jode_site"], least := none, word := "oFF"
     identifiers := by simpa using isIdentifier_site, spelled := by decide },
   { path := ["jode_site", "assets"], least := some .debug, word := "Debug"
     identifiers := by simpa using ⟨isIdentifier_site, isIdentifier_assets⟩, spelled := by decide },
   { path := [], least := some .warn, word := "WARN", identifiers := by simp, spelled := by decide }]

theorem nodup_nestedClauses : (nestedClauses.map Clause.origin).Nodup := by decide

/-- The innermost of the nested modules decides for its own events, wherever its clause stands. -/
theorem nestedClauses_decide :
    let surroundings : Surroundings := { opening := fun _ => .error "no display" }
    let place : Place := { root := .directory [], current := [] }
    requestText nestedClauses = "jode_site=oFF,jode_site::assets=Debug,WARN" ∧
      (place.answer (run surroundings (some "WARN,jode_site::assets=Debug,jode_site=oFF")
        ["--release=1.1.8"] "12:00")).stderr = "12:00 DEBUG wrote stylesheet asset=\"site.css\"\n" := by
  intro surroundings place
  have htext : requestText nestedClauses = "jode_site=oFF,jode_site::assets=Debug,WARN" := by decide
  have hother : requestText nestedClauses.reverse = "WARN,jode_site::assets=Debug,jode_site=oFF" := by decide
  have hshown : (place.answer (run surroundings (some "jode_site=oFF,jode_site::assets=Debug,WARN")
      ["--release=1.1.8"] "12:00")).stderr = "12:00 DEBUG wrote stylesheet asset=\"site.css\"\n" := by
    decide +kernel
  obtain ⟨_, _, _, _, hclauses⟩ := requests_decide_events_only surroundings ["--release=1.1.8"] place
  have horder := ((hclauses nestedClauses nodup_nestedClauses).2 "12:00").2 nestedClauses.reverse
    (List.reverse_perm nestedClauses).symm
  rw [hother, htext, hshown] at horder
  exact ⟨htext, horder⟩

end DownloadSite
