import DownloadSite.CommandLine.Parse

/-!
# Occurrences on a command line

What a command line says, told apart from how it is read: a list of occurrences of options and flags,
each with the words that spell it. An option can be spelled with its value in one word or in two, by its
name or by its letter. `Agrees` is what a configuration has to do with the occurrences that ask for it;
it determines the configuration (`Agrees.unique`).
-/

namespace DownloadSite.Config

open CommandLine

def value? (config : Config) : Opt → Option String
  | .release => config.release
  | .output => some config.output
  | .config => config.config
  | .siteBase => config.siteBase
  | .pageExtension => config.pageExtension
  | .siteName => config.siteName

def hasFlag (config : Config) : Flag → Bool
  | .stdout => config.stdout
  | .noOpen => config.noOpen

theorem ext_value? {config other : Config} (hvalue : ∀ opt, config.value? opt = other.value? opt)
    (hflag : ∀ flag, config.hasFlag flag = other.hasFlag flag) : config = other := by
  have hrelease := hvalue .release
  have houtput := hvalue .output
  have hconfig := hvalue .config
  have hbase := hvalue .siteBase
  have hextension := hvalue .pageExtension
  have hname := hvalue .siteName
  have hstdout := hflag .stdout
  have hopen := hflag .noOpen
  cases config
  cases other
  simp only [value?, hasFlag, Option.some.injEq] at *
  simp only [*]

end DownloadSite.Config

namespace DownloadSite.CommandLine

/-! ### Spellings -/

/-- May a value stand in a word of its own? A single dash may, and what begins with no dash. -/
def IsDetachable (value : String) : Prop := value = "-" ∨ value.toList.head? ≠ some '-'

instance (value : String) : Decidable (IsDetachable value) :=
  inferInstanceAs (Decidable (value = "-" ∨ value.toList.head? ≠ some '-'))

/-- The words that spell an option with its value. -/
inductive Spelled (opt : Opt) (value : String) : List String → Prop where
  | equals : Spelled opt value ["--" ++ opt.name ++ "=" ++ value]
  | next (detachable : IsDetachable value) : Spelled opt value ["--" ++ opt.name, value]
  | letterEquals (letter : Char) (known : opt.letter? = some letter) :
      Spelled opt value [String.ofList ['-', letter] ++ "=" ++ value]
  | letterNext (letter : Char) (known : opt.letter? = some letter)
      (detachable : IsDetachable value) : Spelled opt value [String.ofList ['-', letter], value]
  /-- The value stands right behind the letter; a sign of equality there would not be part of it. -/
  | letterJoined (letter : Char) (known : opt.letter? = some letter)
      (unequal : value.toList.head? ≠ some '=') :
      Spelled opt value [String.ofList ['-', letter] ++ value]

/-- An option with its value, spelled by the given words, or a flag. -/
inductive Occurrence where
  | ofOpt (opt : Opt) (value : String) (words : List String) (spelled : Spelled opt value words)
  | ofFlag (flag : Flag)

namespace Occurrence

def switch : Occurrence → Switch
  | .ofOpt opt .. => .opt opt
  | .ofFlag flag => .flag flag

def words : Occurrence → List String
  | .ofOpt _ _ words _ => words
  | .ofFlag flag => ["--" ++ flag.name]

/-- Is the value of the occurrence one that its option admits? -/
def Admitted : Occurrence → Prop
  | .ofOpt opt value .. => opt.admits value = true
  | .ofFlag _ => True

theorem exists_ofOpt_mem {occurrences : List Occurrence} {opt : Opt}
    (h : Switch.opt opt ∈ occurrences.map switch) :
    ∃ value words spelled, ofOpt opt value words spelled ∈ occurrences := by
  obtain ⟨occurrence, hmem, hswitch⟩ := List.mem_map.1 h
  cases occurrence with
  | ofOpt other value words spelled =>
    cases hswitch
    exact ⟨value, words, spelled, hmem⟩
  | ofFlag flag => cases hswitch

theorem flag_mem_switch {occurrences : List Occurrence} {flag : Flag} :
    Switch.flag flag ∈ occurrences.map switch ↔ ofFlag flag ∈ occurrences := by
  constructor
  · intro h
    obtain ⟨occurrence, hmem, hswitch⟩ := List.mem_map.1 h
    cases occurrence with
    | ofOpt other value words spelled => cases hswitch
    | ofFlag other =>
      cases hswitch
      exact hmem
  · intro h
    exact List.mem_map.2 ⟨_, h, rfl⟩

end Occurrence

/-! ### What occurrences ask for -/

/-- What an option has that nothing is said about. -/
def Opt.absent? : Opt → Option String
  | .output => some defaultOutput
  | _ => none

/-- A configuration has what the occurrences say and nothing else: no switch occurs twice, every value
is that of an occurrence or stands for none, and the flags are those that occur. -/
structure Agrees (occurrences : List Occurrence) (config : Config) : Prop where
  nodup : (occurrences.map Occurrence.switch).Nodup
  value_of_mem : ∀ {opt value words spelled},
    Occurrence.ofOpt opt value words spelled ∈ occurrences → config.value? opt = some value
  value_of_notMem : ∀ {opt},
    Switch.opt opt ∉ occurrences.map Occurrence.switch → config.value? opt = opt.absent?
  hasFlag_iff : ∀ flag, config.hasFlag flag = true ↔ Occurrence.ofFlag flag ∈ occurrences

theorem Agrees.unique {occurrences : List Occurrence} {config other : Config}
    (h : Agrees occurrences config) (h' : Agrees occurrences other) : config = other := by
  apply Config.ext_value?
  · intro opt
    by_cases hmem : Switch.opt opt ∈ occurrences.map Occurrence.switch
    · obtain ⟨value, words, spelled, hmem⟩ := Occurrence.exists_ofOpt_mem hmem
      rw [h.value_of_mem hmem, h'.value_of_mem hmem]
    · rw [h.value_of_notMem hmem, h'.value_of_notMem hmem]
  · intro flag
    rw [Bool.eq_iff_iff, h.hasFlag_iff, h'.hasFlag_iff]

end DownloadSite.CommandLine
