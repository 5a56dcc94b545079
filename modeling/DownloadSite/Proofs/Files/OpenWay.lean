import Mathlib.Data.List.Induction
import DownloadSite.Proofs.Files.PlainPath

/-!
# Opening the way to a directory

The directories of a plain path are created from the first that is missing on. This fails exactly if there is a
file on the way, and then nothing was created before; otherwise the way is open afterwards and nothing beside
it has changed (`ensured_of_does`).
-/

namespace DownloadSite.Place

open FileTree

variable {place middle after : Place} {path name : String} {above names : List String} {fault : FileFault}

/-- The names lead through directories in the second place, and all that is not on their way is as it was in
the first one. -/
structure Opens (place : Place) (names : List String) (after : Place) : Prop where
  current_eq : after.current = place.current
  on_way : ∀ above, above <+: names → after.root.view (place.current ++ above) = some .directory
  off_way : ∀ location, (∀ above, above <+: names → location ≠ place.current ++ above) →
    after.root.view location = place.root.view location

theorem Opens.of_isDirectoryAt (h : place.root.isDirectoryAt (place.current ++ names) = true) :
    place.Opens names place where
  current_eq := rfl
  on_way above hway := by
    obtain ⟨below, rfl⟩ := hway
    cases below with
    | nil =>
      rw [List.append_nil] at h
      exact isDirectoryAt_iff.1 h
    | cons first rest =>
      rw [← List.append_assoc] at h
      exact isDirectoryAt_iff.1 (isDirectoryAt_of_isSome_below (isSome_of_isDirectoryAt h))
  off_way _ _ := rfl

theorem Opens.isDirectoryAt (h : place.Opens names after) :
    after.root.isDirectoryAt (after.current ++ names) = true := by
  rw [isDirectoryAt_iff, h.current_eq]
  exact h.on_way names List.prefix_rfl

theorem Opens.isDirectoryAt_current (h : place.Opens names after) :
    after.root.isDirectoryAt after.current = true := by
  have hview := h.on_way [] List.nil_prefix
  rw [List.append_nil] at hview
  rw [isDirectoryAt_iff, h.current_eq]
  exact hview

theorem Opens.view_below (h : place.Opens names after) (first : String) (rest : List String) :
    after.root.view (place.current ++ names ++ first :: rest) =
      place.root.view (place.current ++ names ++ first :: rest) := by
  apply h.off_way
  intro above hway heq
  have hlength := congrArg List.length heq
  have hle := hway.length_le
  simp only [List.length_append, List.length_cons] at hlength
  omega

theorem Opens.view_beside (h : place.Opens (names ++ [name]) after) {other : String} (hne : other ≠ name)
    (rest : List String) :
    after.root.view (place.current ++ names ++ other :: rest) =
      place.root.view (place.current ++ names ++ other :: rest) := by
  apply h.off_way
  intro above hway heq
  rw [List.append_assoc] at heq
  rcases List.prefix_concat_iff.1 hway with rfl | hway
  · have hlast := List.append_cancel_left (List.append_cancel_left heq)
    exact hne (List.cons.inj hlast).1
  · have hlength := congrArg List.length heq
    have hle := hway.length_le
    simp only [List.length_append, List.length_cons] at hlength
    omega

theorem Opens.view_of_ne_directory (h : place.Opens names after) {location : Location}
    (hne : after.root.view location ≠ some .directory) :
    after.root.view location = place.root.view location := by
  apply h.off_way
  rintro above hway rfl
  exact hne (h.on_way above hway)

/-- The directories that are new are the missing ones on the way. -/
theorem Opens.new_directory_iff (h : place.Opens names after) (hclear : ¬ place.root.Blocked place.current names)
    (location : Location) :
    (after.root.view location = some .directory ∧ place.root.view location ≠ some .directory) ↔
      (place.root.view location = none ∧ ∃ above, above <+: names ∧ location = place.current ++ above) := by
  constructor
  · rintro ⟨hafter, hbefore⟩
    have hway : ∃ above, above <+: names ∧ location = place.current ++ above := by
      by_contra hoff
      apply hbefore
      rw [← h.off_way location fun above hway heq => hoff ⟨above, hway, heq⟩, hafter]
    refine ⟨?_, hway⟩
    obtain ⟨above, hway, rfl⟩ := hway
    rw [← Option.not_isSome_iff_eq_none]
    intro hsome
    have hclear' : ¬ place.root.Blocked place.current above := fun hblocked => hclear (hblocked.mono hway)
    exact hbefore (isDirectoryAt_iff.1 (isDirectoryAt_of_not_blocked hclear' hsome))
  · rintro ⟨hnone, above, hway, rfl⟩
    refine ⟨h.on_way above hway, ?_⟩
    rw [hnone]
    exact nofun

protected theorem Opens.trans (h : place.Opens above middle) (hway : above <+: names)
    (h' : middle.Opens names after) : place.Opens names after where
  current_eq := h'.current_eq.trans h.current_eq
  on_way first hfirst := by
    rw [← h.current_eq]
    exact h'.on_way first hfirst
  off_way location hoff := by
    have hmiddle := h'.off_way location fun first hfirst => h.current_eq ▸ hoff first hfirst
    rw [hmiddle]
    exact h.off_way location fun first hfirst => hoff first (hfirst.trans hway)

theorem Opens.of_put (hparent : place.root.isDirectoryAt (place.current ++ above) = true)
    (habsent : place.root.view (place.current ++ above ++ [name]) = none) :
    place.Opens (above ++ [name]) (place.put (place.current ++ above ++ [name]) (.directory [])) := by
  have hname : place.root.isDirectoryAt (place.current ++ above ++ [name]) = false :=
    isDirectoryAt_eq_false (by rw [habsent]; exact nofun)
  have hview : ∀ location, (place.put (place.current ++ above ++ [name]) (.directory [])).root.view location =
      if location = place.current ++ above ++ [name] then some .directory else place.root.view location :=
    view_set_leaf hparent hname fun _ _ => rfl
  refine ⟨rfl, ?_, ?_⟩
  · intro first hfirst
    rw [hview]
    split
    · rfl
    · next hne =>
      rcases List.prefix_concat_iff.1 hfirst with rfl | hfirst
      · rw [List.append_assoc] at hne
        exact absurd rfl hne
      · exact (Opens.of_isDirectoryAt hparent).on_way first hfirst
  · intro location hoff
    have hne : location ≠ place.current ++ above ++ [name] := by
      rw [List.append_assoc]
      exact hoff _ List.prefix_rfl
    rw [hview, if_neg hne]

/-! ### Creating directories -/

theorem Does.makeDirectory {result : Except FileFault Unit} (h : place.makeDirectory path = (result, after)) :
    place.Does (FileAccess.makeDirectory path) result after := h

theorem does_makeOrKeep_of_isDirectoryAt (h : Path.IsPlain path) (hsteps : Path.steps path = above ++ [name])
    (hdirectory : place.root.isDirectoryAt (place.current ++ Path.steps path) = true) :
    place.Does (FileAccess.makeOrKeep path) (.ok ()) place := by
  have hne : Path.steps path ≠ [] := by simp [hsteps]
  have hsome := isSome_of_isDirectoryAt hdirectory
  have hthere : place.Does (FileAccess.isDirectory path) true place := by
    show (place.isDirectory path, place) = (true, place)
    rw [isDirectory_of_isSome h hne hsome, hdirectory]
  exact (Does.makeDirectory (makeDirectory_of_isSome h hsteps hsome)).bind (hthere.bind (Does.pure place _))

theorem does_makeOrKeep_of_absent (h : Path.IsPlain path) (hsteps : Path.steps path = above ++ [name])
    (hparent : place.root.isDirectoryAt (place.current ++ above) = true)
    (habsent : place.root.view (place.current ++ above ++ [name]) = none) :
    place.Does (FileAccess.makeOrKeep path) (.ok ())
      (place.put (place.current ++ above ++ [name]) (.directory [])) := by
  have hmake : place.makeDirectory path =
      (.ok (), place.put (place.current ++ above ++ [name]) (.directory [])) := by
    rw [makeDirectory_of_isDirectoryAt h hsteps hparent, habsent]
    rfl
  exact (Does.makeDirectory hmake).bind (Does.pure _ _)

theorem does_makeOrKeep_of_locateLast (h : place.locateLast path = .error fault)
    (hfault : fault ≠ .alreadyExists) : place.Does (FileAccess.makeOrKeep path) (.error fault) place := by
  have hmake : place.makeDirectory path = (.error fault, place) := by rw [makeDirectory, h]
  apply (Does.makeDirectory hmake).bind
  cases fault with
  | alreadyExists => exact absurd rfl hfault
  | _ => exact Does.pure place _

theorem exists_does_makeOrKeep_of_blocked (h : Path.IsPlain path) (hsteps : Path.steps path = above ++ [name])
    (hblocked : place.root.Blocked place.current (Path.steps path)) :
    ∃ fault, fault ≠ .missing ∧ place.Does (FileAccess.makeOrKeep path) (.error fault) place := by
  obtain ⟨first, hway, hfile⟩ := hblocked
  rw [hsteps] at hway
  rcases List.prefix_concat_iff.1 hway with rfl | hway
  · rw [← hsteps] at hfile
    have hne : Path.steps path ≠ [] := by simp [hsteps]
    have hmake := makeDirectory_of_isSome h hsteps hfile.isSome
    have hthere : place.Does (FileAccess.isDirectory path) false place := by
      show (place.isDirectory path, place) = (false, place)
      rw [isDirectory_of_isSome h hne hfile.isSome, hfile.isDirectoryAt_eq_false]
    exact ⟨.alreadyExists, nofun, (Does.makeDirectory hmake).bind (hthere.bind (Does.pure place _))⟩
  · have hlocate := locateLast_of_hasFile h hsteps hway hfile
    exact ⟨.notDirectory, nofun, does_makeOrKeep_of_locateLast hlocate nofun⟩

theorem exists_does_ensureFirst (hcurrent : place.root.isDirectoryAt place.current = true)
    (h : Path.IsPlain path) (hsteps : Path.steps path = names) (hne : names ≠ [])
    (hclear : ¬ place.root.Blocked place.current names) :
    ∃ after, place.Does (FileAccess.ensureFirst (path :: Path.above false names.reverse)) (.ok ()) after ∧
      place.Opens names after := by
  induction names using List.reverseRecOn generalizing path with
  | nil => exact absurd rfl hne
  | append_singleton above name ih =>
    rw [FileAccess.ensureFirst]
    cases hview : place.root.view (place.current ++ (above ++ [name])) with
    | some entry =>
      have hdirectory := isDirectoryAt_of_not_blocked hclear (by rw [hview]; rfl)
      have hkept := does_makeOrKeep_of_isDirectoryAt h hsteps (hsteps ▸ hdirectory)
      exact ⟨place, hkept.bind (Does.pure place _), .of_isDirectoryAt hdirectory⟩
    | none =>
      rw [← List.append_assoc] at hview
      by_cases hparent : place.root.isDirectoryAt (place.current ++ above) = true
      · have hmade := does_makeOrKeep_of_absent h hsteps hparent hview
        exact ⟨_, hmade.bind (Does.pure _ _), .of_put hparent hview⟩
      · have habove : above ≠ [] := by
          rintro rfl
          rw [List.append_nil] at hparent
          exact hparent hcurrent
        have hclear' : ¬ place.root.Blocked place.current above := fun hblocked =>
          hclear (hblocked.mono (List.prefix_append _ _))
        have hfirst := does_makeOrKeep_of_locateLast (locateLast_of_missing h hsteps hcurrent hclear' hparent) nofun
        obtain ⟨hplain, hnames⟩ := h.ofComponents (hsteps ▸ List.prefix_append above [name])
        obtain ⟨middle, hmiddle, hopens⟩ := ih hplain hnames habove hclear'
        have hoff : middle.root.view (middle.current ++ above ++ [name]) = none := by
          rw [hopens.current_eq, hopens.view_below, hview]
        have hmade := does_makeOrKeep_of_absent h hsteps hopens.isDirectoryAt hoff
        refine ⟨_, hfirst.bind ?_, hopens.trans (List.prefix_append _ _) (.of_put hopens.isDirectoryAt hoff)⟩
        rw [List.reverse_concat, Path.above_cons (by simpa using habove), List.reverse_reverse]
        exact hmiddle.bind hmade

/-- What creating the directories along names leads to. -/
inductive Ensured (place : Place) (names : List String) : Except FileFault Unit → Place → Prop where
  | blocked (fault : FileFault) (hblocked : place.root.Blocked place.current names) :
      Ensured place names (.error fault) place
  | opened {after : Place} (hclear : ¬ place.root.Blocked place.current names) (hopens : place.Opens names after)
      (hkept : place.root.isDirectoryAt (place.current ++ names) = true → after = place) :
      Ensured place names (.ok ()) after

theorem ensured_of_does {result : Except FileFault Unit}
    (hcurrent : place.root.isDirectoryAt place.current = true) (h : Path.IsPlain path)
    (hdoes : place.Does (FileAccess.ensureDirectory path) result after) :
    place.Ensured (Path.steps path) result after := by
  unfold FileAccess.ensureDirectory at hdoes
  split at hdoes
  · next hempty =>
    have hsteps : Path.steps path = [] := List.isEmpty_iff.1 hempty
    obtain ⟨rfl, rfl⟩ := hdoes.eq_of_pure
    rw [hsteps]
    have hhere : after.root.isDirectoryAt (after.current ++ []) = true := by rwa [List.append_nil]
    refine .opened ?_ (.of_isDirectoryAt hhere) fun _ => rfl
    rintro ⟨above, hway, hfile⟩
    rw [List.prefix_nil.1 hway] at hfile
    rw [hfile.isDirectoryAt_eq_false] at hhere
    cases hhere
  · next hempty =>
    have hne : Path.steps path ≠ [] := by simpa using hempty
    have hlast := (List.dropLast_concat_getLast hne).symm
    rw [h.ancestors_eq] at hdoes
    by_cases hblocked : place.root.Blocked place.current (Path.steps path)
    · obtain ⟨fault, hfault, hmake⟩ := exists_does_makeOrKeep_of_blocked h hlast hblocked
      have hensure : place.Does (FileAccess.ensureFirst (path :: Path.above false (Path.steps path).reverse))
          (.error fault) place := by
        apply hmake.bind
        cases fault with
        | missing => exact absurd rfl hfault
        | _ => exact Does.pure place _
      obtain ⟨rfl, rfl⟩ := hdoes.unique hensure
      exact .blocked fault hblocked
    · obtain ⟨middle, hensure, hopens⟩ := exists_does_ensureFirst hcurrent h rfl hne hblocked
      obtain ⟨rfl, rfl⟩ := hdoes.unique hensure
      refine .opened hblocked hopens fun hdirectory => ?_
      have hkept : place.Does (FileAccess.ensureFirst (path :: Path.above false (Path.steps path).reverse))
          (.ok ()) place := (does_makeOrKeep_of_isDirectoryAt h hlast hdirectory).bind (Does.pure place _)
      exact (hensure.unique hkept).2

/-- Going on to a directory below one whose way is open is going there from the start: a file where the last name
belongs was there before, and so was the first way. -/
theorem Ensured.trans {result : Except FileFault Unit} (h : place.Ensured names (.ok ()) middle)
    (h' : middle.Ensured (names ++ [name]) result after) : place.Ensured (names ++ [name]) result after := by
  cases h with
  | opened hclear hopens hkept =>
    cases h' with
    | blocked fault hblocked =>
      rcases blocked_concat_iff.1 hblocked with ⟨above, hway, hfile⟩ | ⟨content, hview⟩
      · rw [HasFile, hopens.current_eq, hopens.on_way above hway] at hfile
        obtain ⟨content, hview⟩ := hfile
        cases hview
      · rw [hopens.current_eq, hopens.view_below] at hview
        have hparent : place.root.isDirectoryAt (place.current ++ names) = true :=
          isDirectoryAt_of_isSome_below (by rw [hview]; rfl)
        obtain rfl := hkept hparent
        exact .blocked fault hblocked
    | opened hclear' hopens' hkept' =>
      refine .opened ?_ (hopens.trans (List.prefix_append _ _) hopens') ?_
      · intro hblocked
        rcases blocked_concat_iff.1 hblocked with hblocked | ⟨content, hview⟩
        · exact hclear hblocked
        · apply hclear'
          rw [blocked_concat_iff]
          refine .inr ⟨content, ?_⟩
          rw [hopens.current_eq, hopens.view_below, hview]
      · intro hdirectory
        obtain rfl := hkept (isDirectoryAt_of_isSome_concat (isSome_of_isDirectoryAt hdirectory))
        exact hkept' hdirectory

end DownloadSite.Place
