/-!
# Steps that succeed

A computation that may fail has succeeded only if each of its steps has.
-/

namespace DownloadSite

variable {ε α β : Type}

theorem exists_of_bind_eq_ok {result : Except ε α} {next : α → Except ε β} {b : β}
    (h : result.bind next = .ok b) : ∃ a, result = .ok a ∧ next a = .ok b := by
  cases result with
  | error fault => cases h
  | ok a => exact ⟨a, rfl, h⟩

theorem exists_of_map_eq_ok {result : Except ε α} {change : α → β} {b : β}
    (h : result.map change = .ok b) : ∃ a, result = .ok a ∧ change a = b := by
  cases result with
  | error fault => cases h
  | ok a => exact ⟨a, rfl, Except.ok.inj h⟩

theorem exists_of_foldlM_cons_eq_ok {step : β → α → Except ε β} {start last : β} {a : α}
    {rest : List α} (h : (a :: rest).foldlM step start = .ok last) :
    ∃ next, step start a = .ok next ∧ rest.foldlM step next = .ok last := by
  rw [List.foldlM_cons] at h
  exact exists_of_bind_eq_ok h

end DownloadSite
