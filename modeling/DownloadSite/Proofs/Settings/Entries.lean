import DownloadSite.Proofs.Except
import DownloadSite.Settings.Basic

/-!
# Settings from entries

What taking entries one after the other comes to. It succeeds only if every entry is a field with a text
(`forall_of_foldlM_take`), and then a field is given exactly if there is an entry for it
(`get_foldlM_take`).
-/

namespace DownloadSite

theorem Field.name_of_ofName? {name : String} {field : Field} (h : Field.ofName? name = some field) :
    field.name = name := by
  simpa using List.find?_some h

theorem Field.name_injective {field other : Field} (h : field.name = other.name) : field = other := by
  have hfield := Field.ofName?_name field
  rw [h, Field.ofName?_name] at hfield
  exact (Option.some.inj hfield).symm

theorem Field.ofName?_eq_none {name : String} (h : ∀ field : Field, name ≠ field.name) :
    Field.ofName? name = none := by
  cases hfield : Field.ofName? name with
  | none => rfl
  | some field => exact absurd (Field.name_of_ofName? hfield).symm (h field)

namespace Settings

theorem get_empty (field : Field) : ({} : Settings).get field = none := by
  cases field <;> rfl

theorem take_text (settings : Settings) (field : Field) (text : String) :
    settings.take (field.name, .text text) = .ok (settings.set field text) := by
  simp [take, Field.ofName?_name]

theorem take_unknown {name : String} (h : ∀ field : Field, name ≠ field.name) (settings : Settings)
    (node : Toml.Node) : settings.take (name, node) = .error (.unknownField name) := by
  simp [take, Field.ofName?_eq_none h]

theorem exists_of_take {settings next : Settings} {entry : String × Toml.Node}
    (h : settings.take entry = .ok next) :
    ∃ field text, entry = (field.name, .text text) ∧ next = settings.set field text := by
  unfold take at h
  split at h
  · cases h
  · next field hfield =>
    split at h
    · next text htext =>
      cases h
      refine ⟨field, text, ?_, rfl⟩
      rw [Field.name_of_ofName? hfield, ← htext]
    · cases h

/-- Every entry that is taken is a field with a text. -/
theorem forall_of_foldlM_take {entries : Toml.Entries} {settings last : Settings}
    (h : entries.foldlM take settings = .ok last) :
    ∀ entry ∈ entries, ∃ (field : Field) (text : String), entry = (field.name, .text text) := by
  induction entries generalizing settings with
  | nil => exact List.forall_mem_nil _
  | cons entry rest ih =>
    obtain ⟨next, htake, hrest⟩ := exists_of_foldlM_cons_eq_ok h
    obtain ⟨field, text, hentry, -⟩ := exists_of_take htake
    intro other hother
    rcases List.mem_cons.1 hother with rfl | hother
    · exact ⟨field, text, hentry⟩
    · exact ih hrest other hother

/-- A field is given afterwards exactly if it was before or an entry has its name. -/
theorem get_foldlM_take {entries : Toml.Entries} {settings last : Settings}
    (h : entries.foldlM take settings = .ok last) (field : Field) :
    (last.get field).isSome = true ↔
      (settings.get field).isSome = true ∨ field.name ∈ entries.map Prod.fst := by
  induction entries generalizing settings with
  | nil =>
    cases h
    simp
  | cons entry rest ih =>
    obtain ⟨next, htake, hrest⟩ := exists_of_foldlM_cons_eq_ok h
    obtain ⟨other, text, rfl, rfl⟩ := exists_of_take htake
    rw [ih hrest, get_set, List.map_cons, List.mem_cons]
    by_cases hfield : field = other
    · simp [hfield]
    · have hname : field.name ≠ other.name := fun heq => hfield (Field.name_injective heq)
      simp [hfield, hname]

end Settings

end DownloadSite
