import DownloadSite.Proofs.CommandLine.Reading
import DownloadSite.Proofs.Except

/-!
# Every word of an accepted command line counts

A reading that succeeds has split its words into occurrences, and what it returns is what they ask for
(`exists_agrees_of_parse_eq_ok`). `Takes` says once what a word that is taken can be; `Covers` is the
invariant: the words so far are occurrences that are entered, then perhaps an option that is open, then
perhaps two dashes.
-/

namespace DownloadSite.CommandLine

/-! ### Words by their form -/

namespace Word

theorem eq_of_ofChars_long {cs : List Char} {name : String} {value : Option String}
    (h : ofChars cs = .long name value) :
    cs = '-' :: '-' :: (name.toList ++ (value.map fun text => '=' :: text.toList).getD []) := by
  unfold ofChars at h
  split at h
  · cases h
  · next rest _ =>
    simp only [Word.long.injEq] at h
    obtain ⟨rfl, rfl⟩ := h
    have hsplit : rest.takeWhile (fun c => decide (c ≠ '=')) ++
        rest.dropWhile (fun c => decide (c ≠ '=')) = rest := List.takeWhile_append_dropWhile
    have hhead := List.head?_dropWhile_not (fun c => decide (c ≠ '=')) rest
    rw [attached?, String.toList_ofList]
    cases hdrop : rest.dropWhile (fun c => decide (c ≠ '=')) with
    | nil =>
      rw [hdrop, List.append_nil] at hsplit
      rw [hsplit]
      simp
    | cons c text =>
      rw [hdrop] at hsplit hhead
      have hc : c = '=' := by simpa using hhead
      subst hc
      simpa using hsplit.symm
  · cases h
  · cases h

theorem eq_of_ofChars_short {cs tail : List Char} {letter : Char}
    (h : ofChars cs = .short letter tail) : cs = '-' :: letter :: tail := by
  unfold ofChars at h
  split at h
  · cases h
  · cases h
  · cases h
    rfl
  · cases h

theorem eq_of_ofChars_terminator {cs : List Char} (h : ofChars cs = .terminator) :
    cs = ['-', '-'] := by
  unfold ofChars at h
  split at h
  · rfl
  · cases h
  · cases h
  · cases h

theorem isDetachable_of_ofChars {word : String} (h : ofChars word.toList = .plain) :
    IsDetachable word := by
  rcases hcs : word.toList with _ | ⟨c, rest⟩
  · exact .inr (by simp [hcs])
  · by_cases hc : c = '-'
    · subst hc
      cases rest with
      | nil => exact .inl (String.toList_inj.1 hcs)
      | cons d rest =>
        rw [hcs] at h
        unfold ofChars at h
        split at h <;> simp_all
    · exact .inr (by simpa [hcs] using hc)

end Word

theorem Switch.name_of_ofName? {name : String} {switch : Switch}
    (h : Switch.ofName? name = some switch) : switch.name = name := by
  simpa using List.find?_some h

theorem Switch.letter?_of_ofLetter? {letter : Char} {switch : Switch}
    (h : Switch.ofLetter? letter = some switch) : switch.letter? = some letter := by
  simpa using List.find?_some h

/-- The word names the option, so that a value may stand in the next word. -/
def Names (word : String) (opt : Opt) : Prop :=
  ∀ value, IsDetachable value → Spelled opt value [word, value]

namespace Given

/-! ### What a word can be -/

/-- What a word that is taken can be, and what it leaves. Everything but two dashes and the value of the
open option settles that option first. -/
inductive Takes (given : Given) (word : String) : Given → Prop where
  | terminator (hword : word = "--") : Takes given word { given with ended := true }
  | value (opt : Opt) (hpending : given.pending = some (opt, none))
      (detachable : IsDetachable word) :
      Takes given word { given with pending := some (opt, some word) }
  | attached (closed next : Given) (hsettle : given.settle = .ok closed) (opt : Opt) (value : String)
      (spelled : Spelled opt value [word]) (hgive : closed.giveValue opt value = .ok next) :
      Takes given word next
  | named (closed : Given) (hsettle : given.settle = .ok closed) (opt : Opt)
      (hnames : Names word opt) :
      Takes given word { closed with pending := some (opt, none) }
  | flag (closed next : Given) (hsettle : given.settle = .ok closed) (flag : Flag)
      (hword : word = "--" ++ flag.name) (hgive : closed.giveFlag flag = .ok next) :
      Takes given word next

variable {given closed next : Given} {word : String}

theorem takes_of_takePlain (h : given.takePlain word = .ok next) (hword : IsDetachable word) :
    Takes given word next := by
  unfold takePlain at h
  split at h
  · next opt hpending =>
    cases h
    exact .value opt hpending hword
  · cases h

/-- A switch is taken as its value, which is attached or missing, lets it be spelled. -/
theorem takes_of_takeSwitch {value : Option String} {switch : Switch}
    (h : given.takeSwitch value switch = .ok next)
    (hattached : ∀ opt text, switch = .opt opt → value = some text → Spelled opt text [word])
    (hnamed : ∀ opt, switch = .opt opt → value = none → Names word opt)
    (hflag : ∀ flag, switch = .flag flag → value = none → word = "--" ++ flag.name) :
    Takes given word next := by
  unfold takeSwitch at h
  split at h
  · next opt text =>
    obtain ⟨closed, hsettle, hgive⟩ := exists_of_bind_eq_ok h
    exact .attached closed next hsettle opt text (hattached opt text rfl rfl) hgive
  · next opt =>
    obtain ⟨closed, hsettle, rfl⟩ := exists_of_map_eq_ok h
    exact .named closed hsettle opt (hnamed opt rfl rfl)
  · cases h
  · next flag =>
    obtain ⟨closed, hsettle, hgive⟩ := exists_of_bind_eq_ok h
    exact .flag closed next hsettle flag (hflag flag rfl rfl) hgive
  · obtain ⟨closed, _, hasked⟩ := exists_of_bind_eq_ok h
    cases hasked

theorem takes_of_takeLetter {letter : Char} {tail : List Char}
    (h : given.takeLetter letter tail = .ok next) (hword : word.toList = '-' :: letter :: tail) :
    Takes given word next := by
  unfold takeLetter at h
  split at h
  · cases h
  · next opt hswitch =>
    have hletter : opt.letter? = some letter := Switch.letter?_of_ofLetter? hswitch
    refine takes_of_takeSwitch h ?_ ?_ ?_
    · intro other text hother htext
      cases hother
      cases tail with
      | nil => cases htext
      | cons c rest =>
        by_cases hc : c = '='
        · subst hc
          cases htext
          have hspelled : word = String.ofList ['-', letter] ++ "=" ++ String.ofList rest :=
            String.toList_inj.1 (by simp [hword])
          rw [hspelled]
          exact .letterEquals letter hletter
        · rw [tailValue?, if_neg hc] at htext
          cases htext
          have hspelled : word = String.ofList ['-', letter] ++ String.ofList (c :: rest) :=
            String.toList_inj.1 (by simp [hword])
          rw [hspelled]
          exact .letterJoined letter hletter (by simpa using hc)
    · intro other hother htext value hvalue
      cases hother
      cases tail with
      | cons c rest => cases htext
      | nil =>
        have hspelled : word = String.ofList ['-', letter] :=
          String.toList_inj.1 (by simp [hword])
        rw [hspelled]
        exact .letterNext letter hletter hvalue
    · intro flag hflag
      cases hflag
  · next switch hopt hswitch =>
    have hletter := Switch.letter?_of_ofLetter? hswitch
    cases switch with
    | opt opt => exact absurd rfl (hopt opt)
    | flag flag => cases hletter
    | request request =>
      refine takes_of_takeSwitch h ?_ ?_ ?_
      · intro opt text heq
        cases heq
      · intro opt heq
        cases heq
      · intro flag heq
        cases heq

/-- What a step of the reading can do. -/
theorem takes_of_take (h : given.take word = .ok next) :
    given.ended = false ∧ Takes given word next := by
  unfold take at h
  split at h
  · cases h
  · next hended =>
    refine ⟨by simpa using hended, ?_⟩
    split at h
    · next hform =>
      cases h
      exact .terminator (String.toList_inj.1 (Word.eq_of_ofChars_terminator hform))
    · next hform => exact takes_of_takePlain h (Word.isDetachable_of_ofChars hform)
    · next letter tail hform => exact takes_of_takeLetter h (Word.eq_of_ofChars_short hform)
    · next name value hform =>
      have hchars := Word.eq_of_ofChars_long hform
      split at h
      · cases h
      · next switch hswitch =>
        have hname := Switch.name_of_ofName? hswitch
        refine takes_of_takeSwitch h ?_ ?_ ?_
        · intro opt text hopt htext
          subst hopt htext
          have hspelled : word = "--" ++ opt.name ++ "=" ++ text :=
            String.toList_inj.1 (by simp [hchars, ← hname, Switch.name])
          rw [hspelled]
          exact .equals
        · intro opt hopt htext text hdetachable
          subst hopt htext
          have hspelled : word = "--" ++ opt.name :=
            String.toList_inj.1 (by simp [hchars, ← hname, Switch.name])
          rw [hspelled]
          exact .next hdetachable
        · intro flag hflag htext
          subst hflag htext
          exact String.toList_inj.1 (by simp [hchars, ← hname, Switch.name])

/-! ### What the words so far consist of -/

/-- Occurrences as a reading enters them: no switch twice, and every value admitted. -/
structure Enterable (occurrences : List Occurrence) : Prop where
  nodup : (occurrences.map Occurrence.switch).Nodup
  admitted : ∀ occurrence ∈ occurrences, occurrence.Admitted

theorem Enterable.snoc {occurrences : List Occurrence} (h : Enterable occurrences)
    {occurrence : Occurrence} (hlacks : (recorded occurrences).Lacks occurrence.switch)
    (hadmitted : occurrence.Admitted) : Enterable (occurrences ++ [occurrence]) where
  nodup := by
    have hfresh : occurrence.switch ∉ occurrences.map Occurrence.switch := by
      intro hmem
      cases occurrence with
      | ofOpt opt value words spelled =>
        obtain ⟨_, _, _, hmem⟩ := Occurrence.exists_ofOpt_mem hmem
        have hvalue := value_recorded_of_mem h.nodup hmem
        have hnone : (recorded occurrences).value opt = none := hlacks
        rw [hvalue] at hnone
        cases hnone
      | ofFlag flag =>
        have hflag := (flag_foldl_record occurrences {} flag).2
          (.inr (Occurrence.flag_mem_switch.1 hmem))
        have hfalse : (occurrences.foldl record {}).flag flag = false := hlacks
        rw [hflag] at hfalse
        cases hfalse
    rw [List.map_append, List.map_singleton, List.nodup_append]
    refine ⟨h.nodup, by simp, ?_⟩
    rintro switch hmem _ hsingle rfl
    rw [List.mem_singleton] at hsingle
    exact hfresh (hsingle ▸ hmem)
  admitted other hmem := by
    rcases List.mem_append.1 hmem with hmem | hmem
    · exact h.admitted other hmem
    · rw [List.mem_singleton] at hmem
      exact hmem ▸ hadmitted

/-- The words so far are occurrences that are entered, an option that may be open, and two dashes if
the switches have ended. -/
inductive Covers : List String → Given → Prop where
  | settled (occurrences : List Occurrence) (henter : Enterable occurrences) :
      Covers (occurrences.flatMap Occurrence.words) (recorded occurrences)
  | named (occurrences : List Occurrence) (henter : Enterable occurrences) (opt : Opt)
      (word : String) (hnames : Names word opt) :
      Covers (occurrences.flatMap Occurrence.words ++ [word])
        { recorded occurrences with pending := some (opt, none) }
  | valued (occurrences : List Occurrence) (henter : Enterable occurrences) (opt : Opt)
      (value : String) (words : List String) (spelled : Spelled opt value words) :
      Covers (occurrences.flatMap Occurrence.words ++ words)
        { recorded occurrences with pending := some (opt, some value) }
  | ended (words : List String) (given : Given) (hcovers : Covers words given)
      (hended : given.ended = false) : Covers (words ++ ["--"]) { given with ended := true }

theorem pending_foldl_record (occurrences : List Occurrence) (given : Given) :
    (occurrences.foldl record given).pending = given.pending ∧
      (occurrences.foldl record given).ended = given.ended := by
  induction occurrences generalizing given with
  | nil => exact ⟨rfl, rfl⟩
  | cons occurrence rest ih =>
    obtain ⟨hpending, hended⟩ := ih (given.record occurrence)
    rw [List.foldl_cons, hpending, hended, record_pending, record_ended]
    exact ⟨rfl, rfl⟩

theorem pending_recorded (occurrences : List Occurrence) :
    (recorded occurrences).pending = none ∧ (recorded occurrences).ended = false :=
  pending_foldl_record occurrences {}

theorem eq_record_of_giveValue {opt : Opt} {value : String} {words : List String}
    (h : given.giveValue opt value = .ok next) (spelled : Spelled opt value words) :
    given.Lacks (.opt opt) ∧ opt.admits value = true ∧
      next = given.record (.ofOpt opt value words spelled) := by
  unfold giveValue at h
  split at h
  · cases h
  · next hnone =>
    split at h
    · next hadmits =>
      cases h
      exact ⟨by simpa [Lacks] using hnone, hadmits, rfl⟩
    · cases h

theorem eq_record_of_giveFlag {flag : Flag} (h : given.giveFlag flag = .ok next) :
    given.Lacks (.flag flag) ∧ next = given.record (.ofFlag flag) := by
  unfold giveFlag at h
  split at h
  · cases h
  · next hfalse =>
    cases h
    exact ⟨by simpa [Lacks] using hfalse, rfl⟩

theorem Enterable.of_giveValue {occurrences : List Occurrence} (henter : Enterable occurrences)
    {opt : Opt} {value : String} {words : List String} (spelled : Spelled opt value words)
    (h : (recorded occurrences).giveValue opt value = .ok next) :
    Enterable (occurrences ++ [.ofOpt opt value words spelled]) ∧
      next = recorded (occurrences ++ [.ofOpt opt value words spelled]) := by
  obtain ⟨hlacks, hadmits, rfl⟩ := eq_record_of_giveValue h spelled
  exact ⟨henter.snoc hlacks hadmits, (recorded_append _ _).symm⟩

theorem Covers.settle {words : List String} (h : Covers words given) (hended : given.ended = false)
    (hsettle : given.settle = .ok closed) :
    ∃ occurrences, Enterable occurrences ∧ words = occurrences.flatMap Occurrence.words ∧
      closed = recorded occurrences := by
  cases h with
  | settled occurrences henter =>
    rw [settle_of_pending (pending_recorded occurrences).1] at hsettle
    exact ⟨occurrences, henter, rfl, (Except.ok.inj hsettle).symm⟩
  | named occurrences henter opt word hnames => cases hsettle
  | valued occurrences henter opt value words spelled =>
    rw [settle_withValue (pending_recorded occurrences).1] at hsettle
    obtain ⟨henter', rfl⟩ := henter.of_giveValue spelled hsettle
    refine ⟨_, henter', ?_, rfl⟩
    rw [List.flatMap_append, List.flatMap_singleton]
    rfl
  | ended words given hcovers hended' => cases hended

/-- A word that is taken extends what is covered. -/
theorem Covers.take {words : List String} (h : Covers words given)
    (htake : given.take word = .ok next) : Covers (words ++ [word]) next := by
  obtain ⟨hended, htakes⟩ := takes_of_take htake
  cases htakes with
  | terminator hword =>
    subst hword
    exact .ended words given h hended
  | value opt hpending detachable =>
    cases h with
    | settled occurrences henter =>
      rw [(pending_recorded occurrences).1] at hpending
      cases hpending
    | named occurrences henter other name hnames =>
      cases hpending
      rw [List.append_assoc]
      exact .valued occurrences henter opt word [name, word] (hnames word detachable)
    | valued occurrences henter other value words spelled => cases hpending
    | ended words given hcovers hended' => cases hended
  | attached closed _ hsettle opt value spelled hgive =>
    obtain ⟨occurrences, henter, rfl, rfl⟩ := h.settle hended hsettle
    obtain ⟨henter', rfl⟩ := henter.of_giveValue spelled hgive
    have hcovers := Covers.settled _ henter'
    rwa [List.flatMap_append, List.flatMap_singleton] at hcovers
  | named closed hsettle opt hnames =>
    obtain ⟨occurrences, henter, rfl, rfl⟩ := h.settle hended hsettle
    exact .named occurrences henter opt word hnames
  | flag closed _ hsettle flag hword hgive =>
    obtain ⟨occurrences, henter, rfl, rfl⟩ := h.settle hended hsettle
    obtain ⟨hlacks, rfl⟩ := eq_record_of_giveFlag hgive
    have henter' : Enterable (occurrences ++ [.ofFlag flag]) := henter.snoc hlacks trivial
    have hcovers := Covers.settled _ henter'
    rw [List.flatMap_append, List.flatMap_singleton, recorded_append] at hcovers
    rwa [hword]

theorem Covers.foldlM_take {words : List String} (h : Covers words given) (rest : List String)
    (hread : rest.foldlM Given.take given = .ok next) : Covers (words ++ rest) next := by
  induction rest generalizing words given with
  | nil =>
    cases hread
    rwa [List.append_nil]
  | cons word rest ih =>
    obtain ⟨mid, htake, hrest⟩ := exists_of_foldlM_cons_eq_ok hread
    have hcovers := ih (h.take htake) hrest
    rwa [List.append_assoc] at hcovers

/-- At the end of the words nothing is left but occurrences and two dashes. -/
theorem Covers.exists_occurrences {words : List String} (h : Covers words given)
    (hsettle : given.settle = .ok closed) :
    ∃ occurrences last, Enterable occurrences ∧
      words = occurrences.flatMap Occurrence.words ++ last ∧ (last = [] ∨ last = ["--"]) ∧
      closed.toConfig = (recorded occurrences).toConfig := by
  cases hended : given.ended with
  | false =>
    obtain ⟨occurrences, henter, hwords, rfl⟩ := h.settle hended hsettle
    exact ⟨occurrences, [], henter, by rw [hwords, List.append_nil], .inl rfl, rfl⟩
  | true =>
    cases h with
    | settled occurrences henter =>
      rw [(pending_recorded occurrences).2] at hended
      cases hended
    | named occurrences henter opt word hnames => cases hsettle
    | valued occurrences henter opt value words spelled =>
      rw [(pending_recorded occurrences).2] at hended
      cases hended
    | ended words given hcovers hended' =>
      rw [settle_ended] at hsettle
      obtain ⟨inner, hinner, rfl⟩ := exists_of_map_eq_ok hsettle
      obtain ⟨occurrences, henter, rfl, rfl⟩ := hcovers.settle hended' hinner
      exact ⟨occurrences, ["--"], henter, rfl, .inr rfl, rfl⟩

end Given

/-! ### Accepted command lines -/

theorem Agrees.path_ne_empty {occurrences : List Occurrence} {config : Config}
    (h : Agrees occurrences config) (hadmitted : ∀ occurrence ∈ occurrences, occurrence.Admitted)
    (opt : Opt) (hpath : opt.isPath = true) : config.value? opt ≠ some "" := by
  intro hempty
  by_cases hmem : Switch.opt opt ∈ occurrences.map Occurrence.switch
  · obtain ⟨value, words, spelled, hmem⟩ := Occurrence.exists_ofOpt_mem hmem
    rw [h.value_of_mem hmem] at hempty
    cases hempty
    have hadmits : opt.admits "" = true := hadmitted _ hmem
    simp [Opt.admits, hpath] at hadmits
  · rw [h.value_of_notMem hmem] at hempty
    cases opt <;> simp [Opt.absent?, defaultOutput] at hempty

/-- The words of an accepted command line are occurrences, perhaps with two dashes behind them, and the
configuration has what they say and nothing else. -/
theorem exists_agrees_of_parse_eq_ok {args : List String} {config : Config}
    (h : parse args = .ok config) :
    ∃ occurrences last, args = occurrences.flatMap Occurrence.words ++ last ∧
      (last = [] ∨ last = ["--"]) ∧ Agrees occurrences config ∧
      config.output ≠ "" ∧ config.config ≠ some "" := by
  obtain ⟨given, hread, hsettle⟩ := exists_of_bind_eq_ok h
  obtain ⟨closed, hclosed, rfl⟩ := exists_of_map_eq_ok hsettle
  have hstart : Given.Covers [] {} := .settled [] ⟨List.nodup_nil, by simp⟩
  obtain ⟨occurrences, last, henter, hwords, hlast, hconfig⟩ :=
    (hstart.foldlM_take args hread).exists_occurrences hclosed
  have hagrees := Given.agrees_recorded henter.nodup
  rw [hconfig]
  refine ⟨occurrences, last, hwords, hlast, hagrees, ?_, ?_⟩
  · intro hempty
    exact hagrees.path_ne_empty henter.admitted .output rfl (congrArg some hempty)
  · exact hagrees.path_ne_empty henter.admitted .config rfl

/-- A detached value, a value behind its letter, a flag between them, and two dashes. -/
theorem exists_agrees_detached :
    ∃ occurrences last,
      ["--release", "-", "--no-open", "-cx=y", "--"] =
        occurrences.flatMap Occurrence.words ++ last ∧
      (last = [] ∨ last = ["--"]) ∧
      Agrees occurrences { release := some "-", config := some "x=y", noOpen := true } ∧
      defaultOutput ≠ "" ∧ some "x=y" ≠ some "" :=
  exists_agrees_of_parse_eq_ok rfl

end DownloadSite.CommandLine
