import DownloadSite.Program
import DownloadSite.Proofs.Page.Document

/-!
# Runs that are asked for no work

What a run prints when it is asked for help or for its version is no page and has none in it: every page has
an exclamation mark, in the declaration that it begins with, and those texts have none.
-/

namespace DownloadSite

namespace CommandLine

theorem mem_toList_pushn {c d : Char} {text : String} {n : Nat} (h : c ∈ (text.pushn d n).toList) :
    c ∈ text.toList ∨ c = d := by
  rw [String.pushn_eq_repeat_push] at h
  induction n with
  | zero => exact .inl h
  | succ n ih =>
    rw [Nat.repeat, String.toList_push, List.mem_append, List.mem_singleton] at h
    exact h.elim ih .inr

theorem Switch.notMem_description (switch : Switch) : '!' ∉ switch.description.toList := by
  cases switch with
  | opt opt => cases opt <;> exact notMem_toList_ofList (by decide)
  | flag flag => cases flag <;> exact notMem_toList_ofList (by decide)
  | request request => cases request <;> exact notMem_toList_ofList (by decide)

theorem Switch.notMem_column (switch : Switch) : '!' ∉ switch.column.toList := by
  cases switch with
  | opt opt => cases opt <;> decide
  | flag flag => cases flag <;> decide
  | request request => cases request <;> decide

theorem Switch.notMem_helpLine (switch : Switch) : '!' ∉ switch.helpLine.toList := by
  intro h
  simp only [helpLine, String.toList_append, List.mem_append] at h
  rcases h with ((hindent | hcolumn) | hdescription) | hend
  · exact absurd hindent (by decide)
  · rcases mem_toList_pushn hcolumn with hcolumn | hblank
    · exact switch.notMem_column hcolumn
    · cases hblank
  · exact switch.notMem_description hdescription
  · exact absurd hend (by decide)

theorem notMem_helpText : '!' ∉ helpText.toList := by
  intro h
  simp only [helpText, String.toList_append, String.toList_join, List.mem_append, List.mem_flatMap,
    List.mem_map] at h
  rcases h with (((hsummary | husage) | hname) | hoptions) | ⟨_, ⟨switch, -, rfl⟩, hline⟩
  · exact absurd hsummary (notMem_toList_ofList (by decide))
  · exact absurd husage (by decide)
  · exact absurd hname (by decide)
  · exact absurd hoptions (by decide)
  · exact switch.notMem_helpLine hline

end CommandLine

def HasNoPage (text : String) : Prop := ∀ site : Site, ¬ site.page.toList <:+: text.toList

theorem Site.mem_page (site : Site) : '!' ∈ site.page.toList := by
  rw [page, Html.toList_render, DownloadPage.document, Layout.document, Html.chars_append]
  exact List.mem_append_left _ (by decide)

theorem hasNoPage_of_notMem {text : String} (h : '!' ∉ text.toList) : HasNoPage text :=
  fun site hpage => h (hpage.subset site.mem_page)

theorem CommandLine.Stop.hasNoPage_stdout (stop : Stop) (usage : String) :
    HasNoPage (stop.outcome usage).stdout := by
  apply hasNoPage_of_notMem
  unfold Stop.outcome
  split
  · exact notMem_helpText
  · show '!' ∉ versionText.toList
    decide
  · exact List.not_mem_nil

/-- Only requests have something to print. -/
theorem CommandLine.Stop.stdout_eq (stop : Stop) (usage : String) :
    (stop.outcome usage).stdout = "" ∨ ∃ asked, stop = .asked asked := by
  cases stop with
  | asked request => exact .inr ⟨request, rfl⟩
  | _ => exact .inl rfl

end DownloadSite
