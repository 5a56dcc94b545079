import DownloadSite.Proofs.CommandLine.Soundness

/-!
# The first problem on a command line

Occurrences that can be entered are read without a problem, and the first problem behind them ends the
reading, whatever other words follow (`parse_eq_error_of_endsReading`). An option whose value stood in a
word of its own is still open at that point. Its value is admitted and new, so settling it is no problem
that could come first, and having a value it takes no further word.
-/

namespace DownloadSite.CommandLine

/-- Words that may not stand behind the occurrences, and the problem that they make. -/
inductive EndsReading (occurrences : List Occurrence) : List String → Stop → Prop where
  | askedByName (request : Request) : EndsReading occurrences ["--" ++ request.name] (.asked request)
  | askedByLetter (request : Request) :
      EndsReading occurrences [String.ofList ['-', request.letter]] (.asked request)
  | unknownName {name : String} (hne : name ≠ "") (hequals : '=' ∉ name.toList)
      (hunknown : ∀ switch : Switch, switch.name ≠ name) :
      EndsReading occurrences ["--" ++ name] (.unknown ("--" ++ name))
  | unknownNameEquals {name : String} (value : String) (hne : name ≠ "") (hequals : '=' ∉ name.toList)
      (hunknown : ∀ switch : Switch, switch.name ≠ name) :
      EndsReading occurrences ["--" ++ name ++ "=" ++ value] (.unknown ("--" ++ name))
  | unknownLetter {letter : Char} (tail : String) (hdash : letter ≠ '-')
      (hunknown : ∀ switch : Switch, switch.letter? ≠ some letter) :
      EndsReading occurrences [String.ofList ['-', letter] ++ tail] (.unknown (String.ofList ['-', letter]))
  | plain {word : String} (hplain : IsDetachable word) : EndsReading occurrences [word] (.unknown word)
  | behindTerminator (word : String) : EndsReading occurrences ["--", word] (.unknown word)
  | superfluous {switch : Switch} (value : String) (hvalueless : ∀ opt, switch ≠ .opt opt) :
      EndsReading occurrences ["--" ++ switch.name ++ "=" ++ value] (.superfluous value switch)
  | repeatedFlag {flag : Flag} (hgiven : .ofFlag flag ∈ occurrences) :
      EndsReading occurrences ["--" ++ flag.name] (.repeated (.flag flag))
  | repeatedOption {opt : Opt} {value word : String} (hattached : Spelled opt value [word])
      (hadmits : opt.admits value = true) (hgiven : .opt opt ∈ occurrences.map Occurrence.switch) :
      EndsReading occurrences [word] (.repeated (.opt opt))

namespace Switch

theorem ofName?_eq_none {name : String} (h : ∀ switch : Switch, switch.name ≠ name) :
    ofName? name = none := by
  cases hswitch : ofName? name with
  | none => rfl
  | some switch => exact absurd (name_of_ofName? hswitch) (h switch)

theorem ofLetter?_eq_none {letter : Char} (h : ∀ switch : Switch, switch.letter? ≠ some letter) :
    ofLetter? letter = none := by
  cases hswitch : ofLetter? letter with
  | none => rfl
  | some switch => exact absurd (letter?_of_ofLetter? hswitch) (h switch)

end Switch

namespace Given

variable {given closed : Given} {occurrences : List Occurrence}

/-! ### Words that name nothing -/

theorem take_unknownName (h : given.ended = false) {name : String} (hne : name ≠ "")
    (hequals : '=' ∉ name.toList) (hunknown : ∀ switch : Switch, switch.name ≠ name) :
    given.take ("--" ++ name) = .error (.unknown ("--" ++ name)) := by
  have hchars : ("--" ++ name).toList = '-' :: '-' :: name.toList := by simp
  have hlong := Word.ofChars_name hequals (by simpa using hne)
  rw [take, h, hchars, hlong]
  simp [Switch.ofName?_eq_none hunknown]

theorem take_unknownNameEquals (h : given.ended = false) {name : String} (hequals : '=' ∉ name.toList)
    (hunknown : ∀ switch : Switch, switch.name ≠ name) (value : String) :
    given.take ("--" ++ name ++ "=" ++ value) = .error (.unknown ("--" ++ name)) := by
  have hchars : ("--" ++ name ++ "=" ++ value).toList =
      '-' :: '-' :: (name.toList ++ '=' :: value.toList) := by simp
  rw [take, h, hchars, Word.ofChars_nameEquals hequals]
  simp [Switch.ofName?_eq_none hunknown]

theorem take_unknownLetter (h : given.ended = false) {letter : Char} (hdash : letter ≠ '-')
    (hunknown : ∀ switch : Switch, switch.letter? ≠ some letter) (tail : String) :
    given.take (String.ofList ['-', letter] ++ tail) = .error (.unknown (String.ofList ['-', letter])) := by
  have hchars : (String.ofList ['-', letter] ++ tail).toList = '-' :: letter :: tail.toList := by simp
  rw [take, h, hchars, Word.ofChars_letter hdash]
  simp [takeLetter, Switch.ofLetter?_eq_none hunknown]

theorem take_requestLetter (h : given.ended = false) (request : Request) :
    given.take (String.ofList ['-', request.letter]) = given.takeSwitch none (.request request) := by
  have hletter : (Switch.request request).letter? = some request.letter := rfl
  rw [take, h, String.toList_ofList, Word.ofChars_letter (Switch.letter_ne_dash hletter)]
  simp [takeLetter, Switch.ofLetter?_letter hletter]

/-! ### Behind occurrences -/

theorem Amounts.takePlain_eq (h : given.Amounts closed) (word : String) :
    given.takePlain word = .error (.unknown word) := by
  have hsettle := h.settle_eq
  unfold settle at hsettle
  unfold takePlain
  split at hsettle
  · next hpending => rw [hpending]
  · cases hsettle
  · next hpending => rw [hpending]

theorem Amounts.takeSwitch_request (h : given.Amounts closed) (request : Request) :
    given.takeSwitch none (.request request) = .error (.asked request) := by
  rw [takeSwitch, h.settle_eq]
  rfl

theorem Amounts.takeSwitch_flag (h : given.Amounts closed) {flag : Flag} (hflag : closed.flag flag = true) :
    given.takeSwitch none (.flag flag) = .error (.repeated (.flag flag)) := by
  rw [takeSwitch, h.settle_eq]
  simp [Except.bind, giveFlag, hflag]

theorem Amounts.takeSwitch_opt (h : given.Amounts closed) {opt : Opt} (hopt : closed.value opt ≠ none)
    (value : String) : given.takeSwitch (some value) (.opt opt) = .error (.repeated (.opt opt)) := by
  rw [takeSwitch, h.settle_eq]
  simp [Except.bind, giveValue, Option.isSome_iff_ne_none, hopt]

theorem takeSwitch_superfluous (given : Given) {switch : Switch} (hvalueless : ∀ opt, switch ≠ .opt opt)
    (value : String) : given.takeSwitch (some value) switch = .error (.superfluous value switch) := by
  cases switch with
  | opt opt => exact absurd rfl (hvalueless opt)
  | flag flag => rfl
  | request request => rfl

theorem foldlM_singleton (given : Given) (word : String) : [word].foldlM take given = given.take word := by
  rw [List.foldlM_cons]
  exact bind_pure (given.take word)

theorem Amounts.foldlM_eq_error (h : given.Amounts (recorded occurrences))
    (hnodup : (occurrences.map Occurrence.switch).Nodup) {words : List String} {stop : Stop}
    (hends : EndsReading occurrences words stop) : words.foldlM take given = .error stop := by
  have hopen := h.notEnded
  cases hends with
  | askedByName request =>
    rw [foldlM_singleton]
    exact (take_name hopen (.request request)).trans (h.takeSwitch_request request)
  | askedByLetter request => rw [foldlM_singleton, take_requestLetter hopen, h.takeSwitch_request]
  | unknownName hne hequals hunknown => rw [foldlM_singleton, take_unknownName hopen hne hequals hunknown]
  | unknownNameEquals value hne hequals hunknown =>
    rw [foldlM_singleton, take_unknownNameEquals hopen hequals hunknown]
  | unknownLetter tail hdash hunknown => rw [foldlM_singleton, take_unknownLetter hopen hdash hunknown]
  | plain hplain => rw [foldlM_singleton, take_detachable hopen hplain, h.takePlain_eq]
  | behindTerminator word =>
    rw [List.foldlM_cons, take_terminator hopen]
    exact foldlM_singleton { given with ended := true } word
  | superfluous value hvalueless =>
    rw [foldlM_singleton, take_nameEquals hopen, takeSwitch_superfluous given hvalueless]
  | @repeatedFlag flag hgiven =>
    have hflag : (recorded occurrences).flag flag = true :=
      (flag_foldl_record occurrences {} flag).2 (.inr hgiven)
    rw [foldlM_singleton]
    exact (take_name hopen (.flag flag)).trans (h.takeSwitch_flag hflag)
  | @repeatedOption opt value word hattached hadmits hgiven =>
    obtain ⟨other, words, spelled, hmem⟩ := Occurrence.exists_ofOpt_mem hgiven
    have hopt : (recorded occurrences).value opt ≠ none := by
      rw [value_recorded_of_mem hnodup hmem]
      exact Option.some_ne_none other
    rw [foldlM_singleton, take_attached hopen hattached hadmits, h.takeSwitch_opt hopt]

end Given

/-- Behind occurrences that can be entered, the first problem decides what the reading ends with. -/
theorem parse_eq_error_of_endsReading {occurrences : List Occurrence} (h : Given.Enterable occurrences)
    {words : List String} {stop : Stop} (hends : EndsReading occurrences words stop) (rest : List String) :
    parse (occurrences.flatMap Occurrence.words ++ words ++ rest) = .error stop := by
  obtain ⟨given, hread, hamounts⟩ := Given.exists_amounts_recorded h.nodup h.admitted
  rw [parse, List.append_assoc, List.foldlM_append, hread]
  show ((words ++ rest).foldlM Given.take given).bind _ = _
  rw [List.foldlM_append, hamounts.foldlM_eq_error h.nodup hends]
  rfl

/-- The output is given in two words, so that it is still open when it is given again. -/
theorem parse_repeatedOutput :
    Given.Enterable [.ofFlag .noOpen, .ofOpt .output "-" _ (.letterNext 'o' rfl (by decide))] ∧
      EndsReading [.ofFlag .noOpen, .ofOpt .output "-" _ (.letterNext 'o' rfl (by decide))] ["-o=x"]
        (.repeated (.opt .output)) ∧
      parse ["--no-open", "-o", "-", "-o=x", "--help", "--", "y"] = .error (.repeated (.opt .output)) := by
  have henter : Given.Enterable
      [.ofFlag .noOpen, .ofOpt .output "-" _ (.letterNext 'o' rfl (by decide))] := by
    refine ⟨by decide, ?_⟩
    intro occurrence hmem
    rcases List.mem_cons.1 hmem with rfl | hmem
    · trivial
    · rw [List.mem_singleton.1 hmem]
      rfl
  have hends : EndsReading [.ofFlag .noOpen, .ofOpt .output "-" _ (.letterNext 'o' rfl (by decide))] ["-o=x"]
      (.repeated (.opt .output)) := by
    have hattached : Spelled .output "x" ["-o=x"] := .letterEquals 'o' rfl
    exact .repeatedOption hattached rfl (by decide)
  exact ⟨henter, hends, parse_eq_error_of_endsReading henter hends ["--help", "--", "y"]⟩

end DownloadSite.CommandLine
