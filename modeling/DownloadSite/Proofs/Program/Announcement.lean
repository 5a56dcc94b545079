import DownloadSite.Proofs.Program.Course
import DownloadSite.Proofs.Text.Quoted

/-!
# What is told about a written site

Once its page is written a site is announced in one line of the log, at whose end the base of its addresses
stands between quotes. A base may be any text: it can neither end the line nor leave the quotes, and it can be
read back from them. A run that writes the site has the line on its error output (`announces_siteBase`).
-/

namespace DownloadSite.Site

open Text

/-- What the line about a written page has before the field of the site base. -/
def announcement (stamp version path : String) : String :=
  stamp ++ "  INFO " ++ String.ofList (("generated " ++ path).toList.flatMap Log.messageChar)
    ++ " version=" ++ version ++ " "

def baseField (base : String) : String := "site_base=" ++ quoteString base

def quotedBase (base : String) : List Char := base.toList.flatMap Quote.double.escape

theorem baseField_eq (base : String) :
    baseField base = "site_base=\"" ++ String.ofList (quotedBase base) ++ "\"" := by
  rw [← String.toList_inj]
  simp [baseField, quoteString, Quote.enclose, Quote.char, quotedBase]

theorem baseField_injective : Function.Injective baseField := by
  intro base other h
  have hquoted : quoteString base = quoteString other := (String.append_right_inj _).1 h
  have hbehind : quoteString base ++ "" = quoteString other ++ "" := by rw [hquoted]
  exact String.toList_inj.1 (Quote.enclose_append_inj hbehind).1

theorem line_pageWritten (site : Site) (path stamp : String) :
    (site.pageWritten path).line stamp =
      announcement stamp site.version path ++ baseField site.hosting.siteBase ++ "\n" := by
  have hcolumn : Log.Level.info.column = " INFO" := by decide
  rw [← String.toList_inj]
  simp [Log.Event.line, pageWritten, announcement, baseField, hcolumn, Log.Value.text]

theorem lineFeed_notMem_quotedBase (base : String) : '\n' ∉ quotedBase base := by
  intro h
  obtain ⟨c, -, hc⟩ := List.mem_flatMap.1 h
  exact absurd (Quote.isControl_of_mem_escape hc) (by decide)

/-- A page is announced exactly if it is written. -/
theorem pageWritten_mem_iff (site : Site) (output : String) (place : Place) :
    site.pageWritten (pagePath output) ∈ (place.answer (site.write output)).events ↔
      ∃ path, (place.answer (site.write output)).result = .ok path := by
  have hcourse := course_of_does_write (Place.Does.of_answer place (site.write output))
  have hother : site.pageWritten (pagePath output) ≠ stylesheetWritten stylesheetName := by
    intro h
    cases congrArg Log.Event.level h
  generalize place.answer (site.write output) = written at hcourse ⊢
  cases hcourse with
  | complete => simp
  | _ => simp [hother]

/-- The words ask for the site to be written into the output directory, and it is. -/
def IsWrittenBy (site : Site) (output : String) (words : List String) (place : Place) : Prop :=
  ∃ config resolved, CommandLine.parse words = .ok config ∧ config.Resolves place resolved ∧
    config.stdout = false ∧ site = ofResolved resolved ∧ output = config.output ∧
    ∃ path, (place.answer (site.write output)).result = .ok path

/-- What a run that writes a site has on its error output before the line about the page, and behind it. -/
theorem exists_stderr_of_isWrittenBy {site : Site} {output : String} {words : List String} {place : Place}
    (h : site.IsWrittenBy output words place) (surroundings : Surroundings) {request : Option String}
    (hallows : (Log.Filter.ofRequest request).allows (site.pageWritten (pagePath output)) = true)
    (stamp : String) :
    ∃ front behind, (front = "" ∨ front = (stylesheetWritten stylesheetName).line stamp) ∧
      (place.answer (run surroundings request words stamp)).stderr =
        front ++ (site.pageWritten (pagePath output)).line stamp ++ behind := by
  obtain ⟨config, resolved, hwords, hresolves, hstdout, rfl, rfl, path, hpath⟩ := h
  have hdoes := Place.Does.of_answer place ((ofResolved resolved).write config.output)
  generalize place.answer ((ofResolved resolved).write config.output) = written at hdoes hpath
  have hcourse := course_of_does_write hdoes
  cases hcourse with
  | complete _ _ _ _ =>
    have hrun : place.Does (config.run surroundings (Log.Filter.ofRequest request) stamp) _ _ :=
      Config.does_run_of_written hresolves hstdout hdoes
    rw [run_of_parse hwords, hrun.answer_eq, Log.Filter.lines_cons, Log.Filter.lines_cons, if_pos hallows,
      Log.Filter.lines_nil, String.append_empty]
    refine ⟨_, _, ?_, rfl⟩
    split
    · exact .inr rfl
    · exact .inl rfl
  | _ => cases hpath

/-- The line about a written page ends with the field of the site base and has no other line break behind what
stands before the field. The field has no control character between its quotes, a quote there has a backslash
before it, and whatever follows, a reader of the field ends at its last quote with the site base itself. No
other base is told in the same way. A run that writes the site has the line on its error output, unless a
request for other events keeps it from there, and only the line about the stylesheet may come before it. -/
theorem announces_siteBase (site : Site) (output stamp : String) (place : Place) :
    let written := place.answer (site.write output)
    let base := site.hosting.siteBase
    let before := announcement stamp site.version (pagePath output)
    (site.pageWritten (pagePath output) ∈ written.events ↔ ∃ path, written.result = .ok path) ∧
      (site.pageWritten (pagePath output)).line stamp = before ++ baseField base ++ "\n" ∧
      (before ++ baseField base ++ "\n").toList.count '\n' = before.toList.count '\n' + 1 ∧
      (∃ body, baseField base = "site_base=\"" ++ String.ofList body ++ "\"" ∧
        (∀ c ∈ body, isControl c = false) ∧
        (∀ front behind, body = front ++ '"' :: behind → ∃ rest, front = rest ++ ['\\']) ∧
        (∀ behind, Quote.double.read? (body ++ '"' :: behind) = some (base.toList, behind)) ∧
        ∀ other, baseField other = baseField base → other = base) ∧
      ∀ (surroundings : Surroundings) (request : Option String) (words : List String),
        site.IsWrittenBy output words place →
        (Log.Filter.ofRequest request).allows (site.pageWritten (pagePath output)) = true →
        ∃ front behind, (front = "" ∨ front = (stylesheetWritten stylesheetName).line stamp) ∧
          (place.answer (run surroundings request words stamp)).stderr =
            front ++ (before ++ baseField base ++ "\n") ++ behind := by
  intro written base before
  have hline : (site.pageWritten (pagePath output)).line stamp = before ++ baseField base ++ "\n" :=
    line_pageWritten site _ stamp
  refine ⟨pageWritten_mem_iff site output place, hline, ?_,
    ⟨quotedBase base, baseField_eq base, ?_, ?_, ?_, fun other h => baseField_injective h⟩, ?_⟩
  · have hfield : (baseField base).toList.count '\n' = 0 := by
      rw [baseField_eq, List.count_eq_zero]
      simpa using lineFeed_notMem_quotedBase base
    have hend : "\n".toList.count '\n' = 1 := by decide
    rw [String.toList_append, String.toList_append, List.count_append, List.count_append, hfield, hend]
  · intro c hc
    obtain ⟨d, -, hd⟩ := List.mem_flatMap.1 hc
    exact Quote.isControl_of_mem_escape hd
  · exact fun front behind h => Quote.exists_backslash_of_flatMap_eq h
  · exact fun behind => Quote.read?_flatMap_escape .double base.toList behind
  · intro surroundings request words hwritten hallows
    rw [← hline]
    exact exists_stderr_of_isWrittenBy hwritten surroundings hallows stamp

/-- A base that looks like an escape is told apart from the line break it would stand for. -/
example : baseField "\\n\"\n" = "site_base=\"\\\\n\\\"\\n\"" := by decide

end DownloadSite.Site
