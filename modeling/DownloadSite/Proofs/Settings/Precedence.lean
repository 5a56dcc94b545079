import DownloadSite.Program
import DownloadSite.Proofs.Files.Effect
import DownloadSite.Proofs.Except

/-!
# Which setting counts

Each field of resolved settings is decided on its own: what the command line gives counts before what the file
gives, and that before a default (`Counts`). Only the version can keep settings from resolving. It is checked
once before anything is read and once more where it counts, and the two checks never disagree
(`Config.resolve_decides`).
-/

namespace DownloadSite

/-- The text that counts, of one from the command line, one from the file and a default. A text that is given
counts whatever it is. -/
inductive Counts : Option String → Option String → Option String → String → Prop where
  | given (text : String) (file fallback : Option String) : Counts (some text) file fallback text
  | filed (text : String) (fallback : Option String) : Counts none (some text) fallback text
  | fallback (text : String) : Counts none none (some text) text

/-- The text of a field that is given nowhere. -/
def Field.fallback : Field → Option String
  | .version => none
  | .siteBase => some "https://sourceforge.net/projects/jode"
  | .pageExtension => some ".html"
  | .siteName => some "JODE"

def Resolved.get (resolved : Resolved) : Field → String
  | .version => resolved.version
  | .siteBase => resolved.siteBase
  | .pageExtension => resolved.pageExtension
  | .siteName => resolved.siteName

/-- The settings are the same but for one field. -/
def Settings.AgreeBut (field : Field) (settings others : Settings) : Prop :=
  ∀ other, other ≠ field → settings.get other = others.get other

namespace Resolved

/-- Two attempts to resolve settings fail alike, or both succeed and agree but for one field. -/
def SameBut {ε : Type} (field : Field) : Except ε Resolved → Except ε Resolved → Prop
  | .ok resolved, .ok changed => ∀ other, other ≠ field → resolved.get other = changed.get other
  | .error fault, .error other => fault = other
  | _, _ => False

variable {settings others file changed : Settings} {resolved : Resolved} {fault : Fault} {field : Field}
  {text : String}

theorem ext_get {other : Resolved} (h : ∀ field, resolved.get field = other.get field) : resolved = other := by
  cases resolved
  cases other
  have h1 := h .version
  have h2 := h .siteBase
  have h3 := h .pageExtension
  have h4 := h .siteName
  simp only [get] at h1 h2 h3 h4
  simp [h1, h2, h3, h4]

/-! ### What counts -/

theorem counts_iff {given file fallback : Option String} :
    Counts given file fallback text ↔ (given.or file).or fallback = some text := by
  constructor
  · intro h
    cases h <;> rfl
  · intro h
    match given, file, fallback, h with
    | some text, file, fallback, rfl => exact .given text file fallback
    | none, some text, fallback, rfl => exact .filed text fallback
    | none, none, some text, rfl => exact .fallback text

theorem counts_version_iff : Counts settings.version file.version none text ↔
    choose settings file .version = some text := by
  rw [counts_iff, Option.or_none]
  rfl

theorem counts_iff_chooseOrDefault (h : field ≠ .version) :
    Counts (settings.get field) (file.get field) field.fallback text ↔ chooseOrDefault settings file field = text := by
  have hfallback : field.fallback = some (default field) := by
    cases field with
    | version => exact absurd rfl h
    | _ => rfl
  rw [counts_iff, hfallback, Option.or_some, Option.some_inj, chooseOrDefault, choose]

/-! ### Resolving -/

/-- The version that counts, if it stands. -/
def checkedVersion (settings file : Settings) : Except Fault String :=
  match choose settings file .version with
  | none => .error .noVersion
  | some version =>
    match Version.check version with
    | .error fault => .error (.version fault)
    | .ok () => .ok version

def merged (settings file : Settings) (version : String) : Resolved where
  version := version
  siteBase := chooseOrDefault settings file .siteBase
  pageExtension := chooseOrDefault settings file .pageExtension
  siteName := chooseOrDefault settings file .siteName

theorem get_merged (settings file : Settings) (version : String) (field : Field) :
    (merged settings file version).get field =
      if field = .version then version else chooseOrDefault settings file field := by
  cases field <;> rfl

theorem resolve_eq (settings file : Settings) :
    resolve settings file = (checkedVersion settings file).map (merged settings file) := by
  rw [resolve, checkedVersion]
  cases choose settings file .version with
  | none => rfl
  | some version => cases hcheck : Version.check version <;> simp only [hcheck] <;> rfl

theorem checkedVersion_eq_ok_iff : checkedVersion settings file = .ok text ↔
    Counts settings.version file.version none text ∧ Version.check text = .ok () := by
  rw [counts_version_iff, checkedVersion]
  cases choose settings file .version with
  | none => simp
  | some version =>
    rw [Option.some_inj]
    constructor
    · intro h
      cases hcheck : Version.check version with
      | error cause => simp [hcheck] at h
      | ok _ =>
        obtain rfl : version = text := by simpa [hcheck] using h
        exact ⟨rfl, hcheck⟩
    · rintro ⟨rfl, hcheck⟩
      simp [hcheck]

theorem checkedVersion_eq_error_iff : checkedVersion settings file = .error fault ↔
    (settings.version = none ∧ file.version = none ∧ fault = .noVersion) ∨
      ∃ version cause, Counts settings.version file.version none version ∧
        Version.check version = .error cause ∧ fault = .version cause := by
  simp only [counts_version_iff, checkedVersion]
  have hnone : settings.version = none ∧ file.version = none ↔ choose settings file .version = none :=
    Option.or_eq_none_iff.symm
  rw [← and_assoc, hnone]
  cases choose settings file .version with
  | none => simp [eq_comm]
  | some version => cases hcheck : Version.check version <;> simp [hcheck, eq_comm]

theorem resolve_eq_error_iff : resolve settings file = .error fault ↔
    (settings.version = none ∧ file.version = none ∧ fault = .noVersion) ∨
      ∃ version cause, Counts settings.version file.version none version ∧
        Version.check version = .error cause ∧ fault = .version cause := by
  rw [← checkedVersion_eq_error_iff, resolve_eq]
  cases checkedVersion settings file <;> simp [Except.map]

theorem resolve_eq_ok_iff : resolve settings file = .ok resolved ↔
    Version.check resolved.version = .ok () ∧
      ∀ field, Counts (settings.get field) (file.get field) field.fallback (resolved.get field) := by
  constructor
  · intro h
    rw [resolve_eq] at h
    obtain ⟨version, hversion, rfl⟩ := exists_of_map_eq_ok h
    obtain ⟨hcounts, hcheck⟩ := checkedVersion_eq_ok_iff.1 hversion
    refine ⟨hcheck, fun field => ?_⟩
    by_cases hfield : field = .version
    · subst hfield
      exact hcounts
    · rw [counts_iff_chooseOrDefault hfield, get_merged, if_neg hfield]
  · rintro ⟨hcheck, hcounts⟩
    have hmerged : merged settings file resolved.version = resolved := by
      apply ext_get
      intro field
      rw [get_merged]
      split
      · next hfield =>
        subst hfield
        rfl
      · next hfield => exact (counts_iff_chooseOrDefault hfield).1 (hcounts field)
    rw [resolve_eq, checkedVersion_eq_ok_iff.2 ⟨hcounts .version, hcheck⟩]
    exact congrArg Except.ok hmerged

theorem chooseOrDefault_eq {other : Field} (hsettings : Settings.AgreeBut field settings others)
    (hfile : Settings.AgreeBut field file changed) (h : other ≠ field) :
    chooseOrDefault settings file other = chooseOrDefault others changed other := by
  rw [chooseOrDefault, chooseOrDefault, choose, choose, hsettings other h, hfile other h]

/-- A field that is not the version has no part in what the others resolve to, nor in whether they do. -/
theorem resolve_sameBut (h : field ≠ .version) (hsettings : Settings.AgreeBut field settings others)
    (hfile : Settings.AgreeBut field file changed) :
    SameBut field (resolve settings file) (resolve others changed) := by
  have hchoose : choose settings file .version = choose others changed .version := by
    rw [choose, choose, hsettings _ (Ne.symm h), hfile _ (Ne.symm h)]
  have hversion : checkedVersion settings file = checkedVersion others changed := by
    rw [checkedVersion, checkedVersion, hchoose]
  rw [resolve_eq, resolve_eq, hversion]
  cases checkedVersion others changed with
  | error fault => exact rfl
  | ok version =>
    intro other hother
    rw [get_merged, get_merged, chooseOrDefault_eq hsettings hfile hother]

end Resolved

namespace Config

variable {config : Config} {file : Settings} {place : Place} {failure : Failure} {release : String}

/-! ### The check before anything is read -/

theorem validateRelease_eq_error_iff : config.validateRelease = .error failure ↔
    ∃ release fault, config.release = some release ∧ Version.check release = .error fault ∧
      failure = .version fault := by
  rw [validateRelease]
  cases config.release with
  | none => simp
  | some release => cases hcheck : Version.check release <;> simp [hcheck, eq_comm]

theorem check_eq_ok_of_validateRelease (h : config.validateRelease = .ok ()) (hrelease : config.release = some release) :
    Version.check release = .ok () := by
  rw [validateRelease, hrelease] at h
  cases hcheck : Version.check release with
  | error fault => simp [hcheck] at h
  | ok _ => rfl

theorem answer_validate (config : Config) (place : Place) : place.answer config.validate =
    match config.config with
    | none => config.validateRelease
    | some path => if place.isPresent path then config.validateRelease else .error (.noSettingsFile path) := by
  rw [validate]
  cases config.config with
  | none => rfl
  | some path =>
    rw [(onlyLooks_isPresent path).answer_bind]
    show place.answer (if place.isPresent path = true then _ else _) = _
    cases hpresent : place.isPresent path <;> simp [hpresent]

theorem validateRelease_of_validate (h : place.answer config.validate = .ok ()) : config.validateRelease = .ok () := by
  rw [answer_validate] at h
  split at h
  · exact h
  · split at h
    · exact h
    · cases h

theorem validateRelease_of_present (h : ∀ path, config.config = some path → place.isPresent path = true) :
    place.answer config.validate = config.validateRelease := by
  rw [answer_validate]
  split
  · rfl
  · next path hpath => rw [h path hpath, if_pos rfl]

/-! ### Both checks -/

theorem resolve_eq_error_iff : config.resolve file = .error failure ↔
    (config.release = none ∧ file.version = none ∧ failure = .resolve .noVersion) ∨
      ∃ version fault, Counts config.release file.version none version ∧ Version.check version = .error fault ∧
        failure = .resolve (.version fault) := by
  have hresolve : config.resolve file = .error failure ↔
      ∃ fault, Resolved.resolve config.settings file = .error fault ∧ failure = .resolve fault := by
    rw [resolve]
    cases Resolved.resolve config.settings file <;> simp [eq_comm]
  rw [hresolve]
  simp only [Resolved.resolve_eq_error_iff]
  constructor
  · rintro ⟨_, ⟨hrelease, hversion, rfl⟩ | ⟨version, fault, hcounts, hcheck, rfl⟩, rfl⟩
    · exact .inl ⟨hrelease, hversion, rfl⟩
    · exact .inr ⟨version, fault, hcounts, hcheck, rfl⟩
  · rintro (⟨hrelease, hversion, rfl⟩ | ⟨version, fault, hcounts, hcheck, rfl⟩)
    · exact ⟨_, .inl ⟨hrelease, hversion, rfl⟩, rfl⟩
    · exact ⟨_, .inr ⟨version, fault, hcounts, hcheck, rfl⟩, rfl⟩

theorem resolve_eq_ok_iff {resolved : Resolved} : config.resolve file = .ok resolved ↔
    Version.check resolved.version = .ok () ∧
      ∀ field, Counts (config.settings.get field) (file.get field) field.fallback (resolved.get field) := by
  rw [← Resolved.resolve_eq_ok_iff, resolve]
  cases Resolved.resolve config.settings file <;> simp

theorem resolve_sameBut {other : Config} {changed : Settings} {field : Field} (h : field ≠ .version)
    (hconfig : Settings.AgreeBut field config.settings other.settings) (hfile : Settings.AgreeBut field file changed) :
    Resolved.SameBut field (config.resolve file) (other.resolve changed) := by
  have hsame := Resolved.resolve_sameBut h hconfig hfile
  rw [resolve, resolve]
  generalize Resolved.resolve config.settings file = first at hsame ⊢
  generalize Resolved.resolve other.settings changed = second at hsame ⊢
  cases first with
  | error fault =>
    cases second with
    | error cause => exact congrArg Failure.resolve hsame
    | ok resolved => exact hsame.elim
  | ok resolved =>
    cases second with
    | error cause => exact hsame.elim
    | ok others => exact hsame

/-- A version that the command line gives is the one that counts, so it decides for every file. -/
theorem resolve_of_release (hrelease : config.release = some release) (file : Settings) :
    (Version.check release = .ok () → ∃ resolved, config.resolve file = .ok resolved) ∧
      ∀ fault, Version.check release = .error fault → config.resolve file = .error (.resolve (.version fault)) := by
  have hcounts : Counts config.release file.version none release := hrelease ▸ .given release file.version none
  refine ⟨fun hcheck => ?_, fun fault hcheck => resolve_eq_error_iff.2 (.inr ⟨release, fault, hcounts, hcheck, rfl⟩)⟩
  cases hresolve : config.resolve file with
  | ok resolved => exact ⟨resolved, rfl⟩
  | error failure =>
    rcases resolve_eq_error_iff.1 hresolve with ⟨hnone, -⟩ | ⟨version, fault, hcounts, hfault, -⟩
    · rw [hrelease] at hnone
      cases hnone
    · rw [hrelease] at hcounts
      cases hcounts
      rw [hcheck] at hfault
      cases hfault

/-- Settings resolve unless no version is given or the one that counts does not stand, and then each field is the
text that counts for it. A field that is not the version decides nothing beside itself. A command line that
gives a version and is found valid resolves with every file. One whose settings file is no obstacle and that is
found invalid fails with every file, and with the same report. -/
theorem resolve_decides (config : Config) :
    (∀ file failure, config.resolve file = .error failure ↔
      (config.release = none ∧ file.version = none ∧ failure = .resolve .noVersion) ∨
        ∃ version fault, Counts config.release file.version none version ∧
          Version.check version = .error fault ∧ failure = .resolve (.version fault)) ∧
    (∀ file resolved, config.resolve file = .ok resolved ↔
      Version.check resolved.version = .ok () ∧
        ∀ field, Counts (config.settings.get field) (file.get field) field.fallback (resolved.get field)) ∧
    (∀ field, field ≠ .version → ∀ (other : Config) (file changed : Settings),
      Settings.AgreeBut field config.settings other.settings → Settings.AgreeBut field file changed →
        Resolved.SameBut field (config.resolve file) (other.resolve changed)) ∧
    ∀ place : Place,
      (config.release.isSome → place.answer config.validate = .ok () →
        ∀ file, ∃ resolved, config.resolve file = .ok resolved) ∧
      ((∀ path, config.config = some path → place.isPresent path = true) →
        ∀ failure, place.answer config.validate = .error failure →
          ∃ other : Failure, other.chain = failure.chain ∧ ∀ file, config.resolve file = .error other) := by
  refine ⟨fun _ _ => resolve_eq_error_iff, fun _ _ => resolve_eq_ok_iff,
    fun _ h _ _ _ hconfig hfile => resolve_sameBut h hconfig hfile, fun place => ⟨?_, ?_⟩⟩
  · intro hgiven hvalid file
    obtain ⟨release, hrelease⟩ := Option.isSome_iff_exists.1 hgiven
    have hcheck := check_eq_ok_of_validateRelease (validateRelease_of_validate hvalid) hrelease
    exact (resolve_of_release hrelease file).1 hcheck
  · intro hpresent failure hfailure
    rw [validateRelease_of_present hpresent] at hfailure
    obtain ⟨release, fault, hrelease, hcheck, rfl⟩ := validateRelease_eq_error_iff.1 hfailure
    exact ⟨.resolve (.version fault), rfl, fun file => (resolve_of_release hrelease file).2 fault hcheck⟩

/-- A version of the file that does not stand is hidden, and an empty text is given. -/
example : ({ release := some "1.1.8", siteName := some "" } : Config).resolve
    { version := some "1 2", pageExtension := some "", siteName := some "Mirror" } =
      .ok ⟨"1.1.8", "https://sourceforge.net/projects/jode", "", ""⟩ := by rfl

end Config

end DownloadSite
