import DownloadSite.Proofs.CommandLine.Reading

/-!
# Every way to ask for a configuration is understood

A configuration can be asked for by any occurrences that agree with it, in any order and spelling, with
or without two dashes at the end; the words are read as that configuration (`parse_eq_ok_of_agrees`). The
only configurations that cannot be asked for are those with an empty path.
-/

namespace DownloadSite.CommandLine

/-- Without an empty path, a configuration has values that its options admit. -/
theorem Agrees.admitted {occurrences : List Occurrence} {config : Config}
    (h : Agrees occurrences config) (houtput : config.output ≠ "") (hconfig : config.config ≠ some "")
    {occurrence : Occurrence} (hmem : occurrence ∈ occurrences) : occurrence.Admitted := by
  cases occurrence with
  | ofFlag flag => trivial
  | ofOpt opt value words spelled =>
    have hvalue := h.value_of_mem hmem
    have hne : opt.isPath = true → value ≠ "" := by
      rintro hpath rfl
      cases opt with
      | output => exact houtput (Option.some.inj hvalue)
      | config => exact hconfig hvalue
      | _ => cases hpath
    cases hpath : opt.isPath with
    | false => simp [Occurrence.Admitted, Opt.admits, hpath]
    | true => simpa [Occurrence.Admitted, Opt.admits, hpath] using hne hpath

/-- What is given at the end counts, whether two dashes follow or not. -/
theorem Given.Amounts.parse_eq {words : List String} {given closed : Given}
    (h : given.Amounts closed) (hread : words.foldlM Given.take {} = .ok given) {last : List String}
    (hlast : last = [] ∨ last = ["--"]) : parse (words ++ last) = .ok closed.toConfig := by
  rw [parse, List.foldlM_append, hread]
  rcases hlast with rfl | rfl
  · change given.settle.map Given.toConfig = _
    rw [h.settle_eq]
    rfl
  · change ((["--"].foldlM Given.take given).bind fun given => given.settle.map Given.toConfig) = _
    rw [List.foldlM_cons, Given.take_terminator h.notEnded]
    change ({ given with ended := true } : Given).settle.map Given.toConfig = _
    rw [Given.settle_ended, h.settle_eq]
    rfl

/-- Occurrences that agree with a configuration ask for it, whatever their order and spelling. -/
theorem parse_eq_ok_of_agrees {occurrences : List Occurrence} {config : Config}
    (hagrees : Agrees occurrences config) (houtput : config.output ≠ "")
    (hconfig : config.config ≠ some "") {last : List String} (hlast : last = [] ∨ last = ["--"]) :
    parse (occurrences.flatMap Occurrence.words ++ last) = .ok config := by
  have hstart : ({} : Given).Amounts {} := ⟨rfl, rfl⟩
  have hlacks : ∀ occurrence ∈ occurrences, ({} : Given).Lacks occurrence.switch := by
    intro occurrence _
    cases occurrence <;> rfl
  obtain ⟨given, hread, hamounts⟩ := hstart.foldlM_flatMap occurrences hagrees.nodup hlacks
    fun _ hmem => hagrees.admitted houtput hconfig hmem
  rw [hamounts.parse_eq hread hlast]
  exact congrArg Except.ok ((Given.agrees_recorded hagrees.nodup).unique hagrees)

/-- An empty value, a single dash, a value that looks like a flag and one that begins with a sign of
equality, with two dashes at the end. -/
theorem parse_eq_ok_mixed :
    parse ["--site-base", "", "--stdout", "-o", "-", "--release=--stdout", "-c==a", "--"] =
      .ok { release := some "--stdout", output := "-", config := some "=a", siteBase := some "",
            stdout := true } := by
  let occurrences : List Occurrence :=
    [.ofOpt .siteBase "" _ (.next (by decide)), .ofFlag .stdout,
     .ofOpt .output "-" _ (.letterNext 'o' rfl (by decide)), .ofOpt .release "--stdout" _ .equals,
     .ofOpt .config "=a" _ (.letterEquals 'c' rfl)]
  have hagrees : Agrees occurrences
      { release := some "--stdout", output := "-", config := some "=a", siteBase := some "",
        stdout := true } := by
    refine ⟨by decide, ?_, ?_, ?_⟩
    · intro opt value words spelled hmem
      simp only [occurrences, List.mem_cons, Occurrence.ofOpt.injEq, List.not_mem_nil, or_false,
        reduceCtorEq, false_or] at hmem
      rcases hmem with ⟨rfl, rfl, -⟩ | ⟨rfl, rfl, -⟩ | ⟨rfl, rfl, -⟩ | ⟨rfl, rfl, -⟩ <;> rfl
    · intro opt hmem
      cases opt <;> first | rfl | exact absurd (by decide) hmem
    · intro flag
      cases flag <;> simp [occurrences, Config.hasFlag]
  exact parse_eq_ok_of_agrees hagrees (by decide) (by decide) (.inr rfl)

end DownloadSite.CommandLine
