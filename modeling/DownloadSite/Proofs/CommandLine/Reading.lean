import Mathlib.Data.List.TakeWhile
import DownloadSite.Proofs.CommandLine.Occurrence

/-!
# Reading occurrences

How the words of an occurrence act on what is given. An option that is open changes nothing until it is
settled, so the state of the reading is compared with what it amounts to once it is settled
(`Given.Amounts`). The words of one occurrence add that occurrence to it (`Amounts.foldlM_words`), and the
words of several add all of them (`Amounts.foldlM_flatMap`).
-/

namespace DownloadSite.CommandLine

/-! ### Words by their form -/

namespace Word

theorem ne_of_notMem {name : List Char} (h : '=' ∉ name) :
    ∀ c ∈ name, decide (c ≠ '=') = true := by
  intro c hc
  rw [decide_eq_true_eq]
  rintro rfl
  exact h hc

theorem ofChars_name {name : List Char} (hname : '=' ∉ name) (hne : name ≠ []) :
    ofChars ('-' :: '-' :: name) = .long (String.ofList name) none := by
  have htake : name.takeWhile (· ≠ '=') = name := List.takeWhile_eq_self_iff.2 (ne_of_notMem hname)
  have hdrop : name.dropWhile (· ≠ '=') = [] := List.dropWhile_eq_nil_iff.2 (ne_of_notMem hname)
  obtain ⟨c, rest, rfl⟩ := List.exists_cons_of_ne_nil hne
  rw [ofChars, htake, attached?, hdrop]
  simp

theorem ofChars_nameEquals {name : List Char} (hname : '=' ∉ name) (value : List Char) :
    ofChars ('-' :: '-' :: (name ++ '=' :: value)) =
      .long (String.ofList name) (some (String.ofList value)) := by
  have hall := ne_of_notMem hname
  rw [ofChars, List.takeWhile_append_of_pos hall, attached?, List.dropWhile_append_of_pos hall]
  · simp
  · simp

theorem ofChars_letter {letter : Char} (h : letter ≠ '-') (tail : List Char) :
    ofChars ('-' :: letter :: tail) = .short letter tail := by
  simp [ofChars, h]

theorem ofChars_detachable {value : String} (h : IsDetachable value) :
    ofChars value.toList = .plain := by
  rcases h with rfl | h
  · rfl
  · rcases hcs : value.toList with _ | ⟨c, rest⟩
    · rfl
    · have hc : c ≠ '-' := by
        rintro rfl
        exact h (by rw [hcs]; rfl)
      simp [ofChars, hc]

end Word

theorem Switch.notMem_name (switch : Switch) : '=' ∉ switch.name.toList := by
  cases switch with
  | opt o => cases o <;> decide
  | flag f => cases f <;> decide
  | request r => cases r <;> decide

theorem Switch.name_ne_nil (switch : Switch) : switch.name.toList ≠ [] := by
  cases switch with
  | opt o => cases o <;> decide
  | flag f => cases f <;> decide
  | request r => cases r <;> decide

theorem Switch.ofLetter?_letter {switch : Switch} {letter : Char}
    (h : switch.letter? = some letter) : Switch.ofLetter? letter = some switch := by
  cases switch with
  | opt o => cases o <;> cases h <;> decide
  | flag f => cases h
  | request r => cases r <;> cases h <;> decide

theorem Switch.letter_ne_dash {switch : Switch} {letter : Char} (h : switch.letter? = some letter) :
    letter ≠ '-' := by
  cases switch with
  | opt o => cases o <;> cases h <;> decide
  | flag f => cases h
  | request r => cases r <;> cases h <;> decide

/-- An option with a letter is a path, and a path is not empty. -/
theorem Opt.toList_ne_nil_of_admits {opt : Opt} {letter : Char} {value : String}
    (h : opt.letter? = some letter) (hadmits : opt.admits value = true) : value.toList ≠ [] := by
  intro hnil
  have hempty : value = "" := String.toList_eq_nil_iff.1 hnil
  subst hempty
  cases opt <;> cases h <;> exact absurd hadmits (by decide)

namespace Given

variable {given closed : Given}

/-! ### Taking a word of each form -/

theorem take_name (h : given.ended = false) (switch : Switch) :
    given.take ("--" ++ switch.name) = given.takeSwitch none switch := by
  have hchars : ("--" ++ switch.name).toList = '-' :: '-' :: switch.name.toList := by simp
  rw [take, h, hchars, Word.ofChars_name switch.notMem_name switch.name_ne_nil]
  simp [Switch.ofName?_name]

theorem take_nameEquals (h : given.ended = false) (switch : Switch) (value : String) :
    given.take ("--" ++ switch.name ++ "=" ++ value) = given.takeSwitch (some value) switch := by
  have hchars : ("--" ++ switch.name ++ "=" ++ value).toList =
      '-' :: '-' :: (switch.name.toList ++ '=' :: value.toList) := by simp
  rw [take, h, hchars, Word.ofChars_nameEquals switch.notMem_name]
  simp [Switch.ofName?_name]

theorem take_letter (h : given.ended = false) {opt : Opt} {letter : Char}
    (hletter : opt.letter? = some letter) (tail : String) :
    given.take (String.ofList ['-', letter] ++ tail) =
      given.takeSwitch (tailValue? tail.toList) (.opt opt) := by
  have hchars : (String.ofList ['-', letter] ++ tail).toList = '-' :: letter :: tail.toList := by
    simp
  have hswitch : (Switch.opt opt).letter? = some letter := hletter
  rw [take, h, hchars, Word.ofChars_letter (Switch.letter_ne_dash hswitch)]
  simp [takeLetter, Switch.ofLetter?_letter hswitch]

/-- The value is attached to the word of its option. Without a value a letter alone leaves the option open,
so the value has to be one that the option admits. -/
theorem take_attached (h : given.ended = false) {opt : Opt} {value word : String}
    (hattached : Spelled opt value [word]) (hadmits : opt.admits value = true) :
    given.take word = given.takeSwitch (some value) (.opt opt) := by
  cases hattached with
  | equals => exact take_nameEquals h (.opt opt) value
  | letterEquals letter known =>
    rw [String.append_assoc, take_letter h known]
    simp [tailValue?]
  | letterJoined letter known unequal =>
    obtain ⟨c, rest, hvalue⟩ := List.exists_cons_of_ne_nil
      (Opt.toList_ne_nil_of_admits known hadmits)
    have hc : c ≠ '=' := fun heq => unequal (by rw [hvalue, heq]; rfl)
    rw [take_letter h known, hvalue, tailValue?, if_neg hc, ← hvalue, String.ofList_toList]

theorem take_detachable (h : given.ended = false) {value : String} (hvalue : IsDetachable value) :
    given.take value = given.takePlain value := by
  rw [take, h, Word.ofChars_detachable hvalue]
  rfl

theorem take_terminator (h : given.ended = false) :
    given.take "--" = .ok { given with ended := true } := by
  rw [take, h]
  rfl

/-! ### What is given once the open option is settled -/

/-- The words so far amount to `closed` once the open option is settled, and a switch may follow. -/
structure Amounts (given closed : Given) : Prop where
  settle_eq : given.settle = .ok closed
  notEnded : given.ended = false

def record (given : Given) : Occurrence → Given
  | .ofOpt opt value .. =>
    { given with value := fun other => if other = opt then some value else given.value other }
  | .ofFlag flag =>
    { given with flag := fun other => if other = flag then true else given.flag other }

def Lacks (given : Given) : Switch → Prop
  | .opt opt => given.value opt = none
  | .flag flag => given.flag flag = false
  | .request _ => True

theorem giveValue_eq_record {opt : Opt} {value : String} {words : List String}
    (spelled : Spelled opt value words) (hlacks : given.Lacks (.opt opt))
    (hadmits : opt.admits value = true) :
    given.giveValue opt value = .ok (given.record (.ofOpt opt value words spelled)) := by
  have hnone : given.value opt = none := hlacks
  simp [giveValue, hnone, hadmits, record]

theorem giveFlag_eq_record {flag : Flag} (hlacks : given.Lacks (.flag flag)) :
    given.giveFlag flag = .ok (given.record (.ofFlag flag)) := by
  have hfalse : given.flag flag = false := hlacks
  simp [giveFlag, hfalse, record]

@[simp] theorem record_pending (given : Given) (occurrence : Occurrence) :
    (given.record occurrence).pending = given.pending := by
  cases occurrence <;> rfl

@[simp] theorem record_ended (given : Given) (occurrence : Occurrence) :
    (given.record occurrence).ended = given.ended := by
  cases occurrence <;> rfl

theorem lacks_record {occurrence : Occurrence} {switch : Switch} (h : given.Lacks switch)
    (hne : occurrence.switch ≠ switch) : (given.record occurrence).Lacks switch := by
  cases switch with
  | opt opt =>
    cases occurrence with
    | ofOpt other value words spelled =>
      have hother : opt ≠ other := fun heq => hne (by rw [heq]; rfl)
      simpa [Lacks, record, hother] using h
    | ofFlag flag => exact h
  | flag flag =>
    cases occurrence with
    | ofOpt other value words spelled => exact h
    | ofFlag other =>
      have hother : flag ≠ other := fun heq => hne (by rw [heq]; rfl)
      simpa [Lacks, record, hother] using h
  | request request => trivial

theorem settle_of_pending (h : given.pending = none) : given.settle = .ok given := by
  simp [settle, h]

theorem settle_withValue (h : given.pending = none) (opt : Opt) (value : String) :
    { given with pending := some (opt, some value) }.settle = given.giveValue opt value := by
  have hgiven : { given with pending := none } = given := by rw [← h]
  simp [settle, hgiven]

theorem pending_giveValue {opt : Opt} {value : String} {next : Given}
    (h : given.giveValue opt value = .ok next) :
    next.pending = given.pending ∧ next.ended = given.ended := by
  unfold giveValue at h
  split at h
  · cases h
  · split at h
    · cases h
      exact ⟨rfl, rfl⟩
    · cases h

theorem pending_settle (h : given.settle = .ok closed) :
    closed.pending = none ∧ closed.ended = given.ended := by
  unfold settle at h
  split at h
  · next hpending =>
    cases h
    exact ⟨hpending, rfl⟩
  · cases h
  · exact pending_giveValue h

theorem settle_ended (given : Given) :
    { given with ended := true }.settle = given.settle.map fun closed => { closed with ended := true } := by
  obtain ⟨values, flags, pending, ended⟩ := given
  rcases pending with _ | ⟨opt, _ | value⟩
  · rfl
  · rfl
  · simp only [settle, giveValue]
    split
    · rfl
    · split <;> rfl

/-! ### From one occurrence to all -/

namespace Amounts

theorem pending (h : given.Amounts closed) : closed.pending = none := (pending_settle h.settle_eq).1

theorem ended (h : given.Amounts closed) : closed.ended = false :=
  (pending_settle h.settle_eq).2.trans h.notEnded

theorem of_record (h : given.Amounts closed) (occurrence : Occurrence) :
    (closed.record occurrence).Amounts (closed.record occurrence) where
  settle_eq := settle_of_pending (by rw [record_pending, h.pending])
  notEnded := by rw [record_ended, h.ended]

theorem foldlM_attached (h : given.Amounts closed) {opt : Opt} {value word : String}
    {words : List String} (spelled : Spelled opt value words)
    (hword : given.take word = given.takeSwitch (some value) (.opt opt))
    (hlacks : closed.Lacks (.opt opt)) (hadmits : opt.admits value = true) :
    ∃ next, [word].foldlM take given = .ok next ∧
      next.Amounts (closed.record (.ofOpt opt value words spelled)) := by
  refine ⟨_, ?_, h.of_record _⟩
  rw [List.foldlM_cons, hword, takeSwitch, h.settle_eq]
  simp only [Except.bind, giveValue_eq_record spelled hlacks hadmits]
  rfl

/-- The value follows in a word of its own: the option stays open behind it. -/
theorem foldlM_detached (h : given.Amounts closed) {opt : Opt} {value word : String}
    {words : List String} (spelled : Spelled opt value words) (hvalue : IsDetachable value)
    (hword : given.take word = given.takeSwitch none (.opt opt))
    (hlacks : closed.Lacks (.opt opt)) (hadmits : opt.admits value = true) :
    ∃ next, [word, value].foldlM take given = .ok next ∧
      next.Amounts (closed.record (.ofOpt opt value words spelled)) := by
  refine ⟨{ closed with pending := some (opt, some value) }, ?_, ?_, h.ended⟩
  · have hopen : given.take word = .ok { closed with pending := some (opt, none) } := by
      rw [hword, takeSwitch, h.settle_eq]
      rfl
    rw [List.foldlM_cons, hopen]
    change [value].foldlM take { closed with pending := some (opt, none) } = _
    rw [List.foldlM_cons, take_detachable (by exact h.ended) hvalue]
    rfl
  · rw [settle_withValue h.pending, giveValue_eq_record spelled hlacks hadmits]

theorem foldlM_words (h : given.Amounts closed) (occurrence : Occurrence)
    (hlacks : closed.Lacks occurrence.switch) (hadmitted : occurrence.Admitted) :
    ∃ next, occurrence.words.foldlM take given = .ok next ∧
      next.Amounts (closed.record occurrence) := by
  cases occurrence with
  | ofOpt opt value words spelled =>
    have hspelled := spelled
    cases hspelled with
    | equals => exact h.foldlM_attached spelled (take_attached h.notEnded spelled hadmitted) hlacks hadmitted
    | next detachable =>
      exact h.foldlM_detached spelled detachable (take_name h.notEnded (.opt opt)) hlacks hadmitted
    | letterEquals letter known =>
      exact h.foldlM_attached spelled (take_attached h.notEnded spelled hadmitted) hlacks hadmitted
    | letterNext letter known detachable =>
      refine h.foldlM_detached spelled detachable ?_ hlacks hadmitted
      have htake := take_letter h.notEnded known ""
      simpa [tailValue?] using htake
    | letterJoined letter known unequal =>
      exact h.foldlM_attached spelled (take_attached h.notEnded spelled hadmitted) hlacks hadmitted
  | ofFlag flag =>
    refine ⟨_, ?_, h.of_record _⟩
    change ["--" ++ (Switch.flag flag).name].foldlM take given = _
    rw [List.foldlM_cons, take_name h.notEnded (.flag flag), takeSwitch, h.settle_eq]
    simp only [Except.bind, giveFlag_eq_record hlacks]
    rfl

/-- The words of different occurrences, none of them given before, add all of them. -/
theorem foldlM_flatMap (h : given.Amounts closed) (occurrences : List Occurrence)
    (hnodup : (occurrences.map Occurrence.switch).Nodup)
    (hlacks : ∀ occurrence ∈ occurrences, closed.Lacks occurrence.switch)
    (hadmitted : ∀ occurrence ∈ occurrences, occurrence.Admitted) :
    ∃ next, (occurrences.flatMap Occurrence.words).foldlM take given = .ok next ∧
      next.Amounts (occurrences.foldl record closed) := by
  induction occurrences generalizing given closed with
  | nil => exact ⟨given, rfl, h⟩
  | cons occurrence rest ih =>
    rw [List.map_cons, List.nodup_cons] at hnodup
    obtain ⟨hfresh, hrest⟩ := hnodup
    obtain ⟨mid, hmid, hamounts⟩ := h.foldlM_words occurrence (hlacks _ List.mem_cons_self)
      (hadmitted _ List.mem_cons_self)
    have hlacks' : ∀ other ∈ rest, (closed.record occurrence).Lacks other.switch := by
      intro other hother
      refine lacks_record (hlacks _ (List.mem_cons_of_mem _ hother)) fun heq => hfresh ?_
      rw [heq]
      exact List.mem_map_of_mem hother
    obtain ⟨next, hnext, hdone⟩ := ih hamounts hrest hlacks' fun other hother =>
      hadmitted other (List.mem_cons_of_mem _ hother)
    refine ⟨next, ?_, hdone⟩
    rw [List.flatMap_cons, List.foldlM_append, hmid]
    exact hnext

end Amounts

/-! ### What recorded occurrences ask for -/

/-- What occurrences give, taken together. -/
def recorded (occurrences : List Occurrence) : Given := occurrences.foldl record {}

/-- The words of occurrences are read as these occurrences, the last of which may still be open. -/
theorem exists_amounts_recorded {occurrences : List Occurrence}
    (hnodup : (occurrences.map Occurrence.switch).Nodup)
    (hadmitted : ∀ occurrence ∈ occurrences, occurrence.Admitted) :
    ∃ given, (occurrences.flatMap Occurrence.words).foldlM take {} = .ok given ∧
      given.Amounts (recorded occurrences) := by
  have hstart : ({} : Given).Amounts {} := ⟨rfl, rfl⟩
  have hlacks : ∀ occurrence ∈ occurrences, ({} : Given).Lacks occurrence.switch := by
    intro occurrence _
    cases occurrence <;> rfl
  exact hstart.foldlM_flatMap occurrences hnodup hlacks hadmitted

theorem recorded_append (occurrences : List Occurrence) (occurrence : Occurrence) :
    recorded (occurrences ++ [occurrence]) = (recorded occurrences).record occurrence := by
  rw [recorded, List.foldl_append]
  rfl

theorem value_foldl_record (occurrences : List Occurrence) (given : Given) {opt : Opt}
    (h : Switch.opt opt ∉ occurrences.map Occurrence.switch) :
    (occurrences.foldl record given).value opt = given.value opt := by
  induction occurrences generalizing given with
  | nil => rfl
  | cons occurrence rest ih =>
    rw [List.map_cons, List.mem_cons, not_or] at h
    rw [List.foldl_cons, ih _ h.2]
    cases occurrence with
    | ofOpt other value words spelled =>
      have hne : opt ≠ other := fun heq => h.1 (by rw [heq]; rfl)
      simp [record, hne]
    | ofFlag flag => rfl

theorem value_recorded_of_mem {occurrences : List Occurrence}
    (hnodup : (occurrences.map Occurrence.switch).Nodup) {opt : Opt} {value : String}
    {words : List String} {spelled : Spelled opt value words}
    (h : Occurrence.ofOpt opt value words spelled ∈ occurrences) :
    (recorded occurrences).value opt = some value := by
  obtain ⟨before, after, rfl⟩ := List.append_of_mem h
  rw [List.map_append, List.map_cons, List.nodup_append, List.nodup_cons] at hnodup
  rw [recorded, List.foldl_append, List.foldl_cons, value_foldl_record _ _ hnodup.2.1.1]
  simp [record]

theorem flag_foldl_record (occurrences : List Occurrence) (given : Given) (flag : Flag) :
    (occurrences.foldl record given).flag flag = true ↔
      given.flag flag = true ∨ Occurrence.ofFlag flag ∈ occurrences := by
  induction occurrences generalizing given with
  | nil => simp
  | cons occurrence rest ih =>
    rw [List.foldl_cons, ih]
    cases occurrence with
    | ofOpt opt value words spelled => simp [record]
    | ofFlag other =>
      by_cases hflag : flag = other
      · simp [record, hflag]
      · simp [record, hflag]

theorem value?_toConfig (given : Given) (opt : Opt) :
    given.toConfig.value? opt = (given.value opt).or opt.absent? := by
  cases opt with
  | output => cases h : given.value .output <;> simp [toConfig, Config.value?, Opt.absent?, h]
  | _ => simp [toConfig, Config.value?, Opt.absent?]

theorem hasFlag_toConfig (given : Given) (flag : Flag) :
    given.toConfig.hasFlag flag = given.flag flag := by
  cases flag <;> rfl

theorem agrees_recorded {occurrences : List Occurrence}
    (hnodup : (occurrences.map Occurrence.switch).Nodup) :
    Agrees occurrences (recorded occurrences).toConfig where
  nodup := hnodup
  value_of_mem h := by rw [value?_toConfig, value_recorded_of_mem hnodup h, Option.some_or]
  value_of_notMem h := by
    rw [value?_toConfig, recorded, value_foldl_record _ _ h]
    rfl
  hasFlag_iff flag := by
    rw [hasFlag_toConfig, recorded, flag_foldl_record]
    simp

end Given

end DownloadSite.CommandLine
