import DownloadSite.Files.Tree

/-!
# What programs do at a place

A program that runs at a place gives an answer there and leaves a place behind. One that only looks at files
leaves the place as it was, so that what follows it meets the same place.
-/

namespace DownloadSite

variable {α β : Type} {program : StateM Place α} {next : α → StateM Place β}

def Place.answer (place : Place) (program : StateM Place α) : α := (program.run place).1

def Place.after (place : Place) (program : StateM Place α) : Place := (program.run place).2

@[simp] theorem Place.answer_pure (place : Place) (a : α) : place.answer (pure a) = a := rfl

theorem Place.answer_bind (place : Place) (program : StateM Place α) (next : α → StateM Place β) :
    place.answer (program >>= next) = (place.after program).answer (next (place.answer program)) := rfl

theorem Place.after_bind (place : Place) (program : StateM Place α) (next : α → StateM Place β) :
    place.after (program >>= next) = (place.after program).after (next (place.answer program)) := rfl

/-- At the first place the program gives the answer, and it leaves the second place. -/
def Place.Does (place : Place) (program : StateM Place α) (a : α) (after : Place) : Prop :=
  program.run place = (a, after)

namespace Place.Does

variable {place middle after : Place} {a : α} {b : β}

theorem of_answer (place : Place) (program : StateM Place α) :
    place.Does program (place.answer program) (place.after program) := rfl

theorem answer_eq (h : place.Does program a after) : place.answer program = a := congrArg Prod.fst h

theorem after_eq (h : place.Does program a after) : place.after program = after := congrArg Prod.snd h

/-- A program gives one answer at a place and leaves one place. -/
theorem unique {other : α} {last : Place} (h : place.Does program a after) (h' : place.Does program other last) :
    a = other ∧ after = last :=
  Prod.mk.inj (Eq.trans (Eq.symm h) h')

protected theorem pure (place : Place) (a : α) : place.Does (pure a) a place := rfl

theorem eq_of_pure {other : α} (h : place.Does (pure a) other after) : other = a ∧ after = place :=
  ⟨h.answer_eq.symm, h.after_eq.symm⟩

protected theorem bind (h : place.Does program a middle) (hnext : middle.Does (next a) b after) :
    place.Does (program >>= next) b after := by
  show (next (program.run place).1).run (program.run place).2 = (b, after)
  rw [show program.run place = (a, middle) from h]
  exact hnext

theorem exists_of_bind (h : place.Does (program >>= next) b after) :
    ∃ a middle, place.Does program a middle ∧ middle.Does (next a) b after :=
  ⟨_, _, of_answer place program, h⟩

end Place.Does

/-- The program leaves every place as it is. -/
def OnlyLooks (program : StateM Place α) : Prop := ∀ place : Place, place.after program = place

theorem onlyLooks_pure (a : α) : OnlyLooks (pure a) := fun _ => rfl

theorem onlyLooks_isPresent (path : String) : OnlyLooks (FileAccess.isPresent path) := fun _ => rfl

theorem onlyLooks_read (path : String) : OnlyLooks (FileAccess.read path) := fun _ => rfl

namespace OnlyLooks

protected theorem does (h : OnlyLooks program) (place : Place) :
    place.Does program (place.answer program) place := by
  have hdoes := Place.Does.of_answer place program
  rwa [h place] at hdoes

theorem answer_bind (h : OnlyLooks program) (next : α → StateM Place β) (place : Place) :
    place.answer (program >>= next) = place.answer (next (place.answer program)) := by
  rw [Place.answer_bind, h]

theorem after_bind (h : OnlyLooks program) (next : α → StateM Place β) (place : Place) :
    place.after (program >>= next) = place.after (next (place.answer program)) := by
  rw [Place.after_bind, h]

protected theorem bind (h : OnlyLooks program) (hnext : ∀ a, OnlyLooks (next a)) :
    OnlyLooks (program >>= next) := by
  intro place
  rw [h.after_bind, hnext]

end OnlyLooks

end DownloadSite
