import DownloadSite.Proofs.CommandLine.Completeness
import DownloadSite.Proofs.CommandLine.Soundness

/-!
# Asking for the page to be printed

A command line that asks for files to be written asks for the page to be printed once `--stdout` stands in
front of it, and for nothing else that is different (`parse_stdout_cons`).
-/

namespace DownloadSite.CommandLine

variable {occurrences : List Occurrence} {words last : List String} {config : Config}

/-- The words of occurrences that can be entered are read as what they say. -/
theorem Given.Enterable.parse_eq (h : Enterable occurrences) (hlast : last = [] ∨ last = ["--"]) :
    parse (occurrences.flatMap Occurrence.words ++ last) = .ok (recorded occurrences).toConfig := by
  obtain ⟨given, hread, hamounts⟩ := exists_amounts_recorded h.nodup h.admitted
  exact hamounts.parse_eq hread hlast

theorem exists_enterable_of_parse_eq_ok (h : parse words = .ok config) :
    ∃ occurrences last, Given.Enterable occurrences ∧
      words = occurrences.flatMap Occurrence.words ++ last ∧ (last = [] ∨ last = ["--"]) ∧
      Agrees occurrences config := by
  obtain ⟨given, hread, hsettle⟩ := exists_of_bind_eq_ok h
  obtain ⟨closed, hclosed, rfl⟩ := exists_of_map_eq_ok hsettle
  have hstart : Given.Covers [] {} := .settled [] ⟨List.nodup_nil, by simp⟩
  obtain ⟨occurrences, last, henter, hwords, hlast, hconfig⟩ :=
    (hstart.foldlM_take words hread).exists_occurrences hclosed
  refine ⟨occurrences, last, henter, hwords, hlast, ?_⟩
  rw [hconfig]
  exact Given.agrees_recorded henter.nodup

theorem Agrees.stdout_cons (h : Agrees occurrences config) (hstdout : config.stdout = false) :
    Agrees (.ofFlag .stdout :: occurrences) { config with stdout := true } := by
  have hvalue : ∀ opt, ({ config with stdout := true } : Config).value? opt = config.value? opt := by
    intro opt
    cases opt <;> rfl
  have hfresh : Occurrence.ofFlag .stdout ∉ occurrences := by
    intro hmem
    have hflag : config.stdout = true := (h.hasFlag_iff .stdout).2 hmem
    rw [hstdout] at hflag
    cases hflag
  constructor
  · exact List.nodup_cons.2 ⟨fun hmem => hfresh (Occurrence.flag_mem_switch.1 hmem), h.nodup⟩
  · intro opt value words spelled hmem
    rw [hvalue]
    exact h.value_of_mem (List.mem_of_ne_of_mem (by simp) hmem)
  · intro opt hmem
    rw [hvalue]
    exact h.value_of_notMem fun hmem' => hmem (List.mem_cons_of_mem _ hmem')
  · intro flag
    cases flag with
    | stdout => exact ⟨fun _ => List.mem_cons_self, fun _ => rfl⟩
    | noOpen =>
      refine (h.hasFlag_iff .noOpen).trans ?_
      simp

theorem parse_stdout_cons (h : parse words = .ok config) (hstdout : config.stdout = false) :
    parse ("--stdout" :: words) = .ok { config with stdout := true } := by
  obtain ⟨occurrences, last, henter, rfl, hlast, hagrees⟩ := exists_enterable_of_parse_eq_ok h
  have hprinting := hagrees.stdout_cons hstdout
  have henter' : Given.Enterable (.ofFlag .stdout :: occurrences) := by
    refine ⟨hprinting.nodup, fun occurrence hmem => ?_⟩
    rcases List.mem_cons.1 hmem with rfl | hmem
    · trivial
    · exact henter.admitted occurrence hmem
  have hparse := henter'.parse_eq hlast
  rw [(Given.agrees_recorded hprinting.nodup).unique hprinting] at hparse
  exact hparse

end DownloadSite.CommandLine
