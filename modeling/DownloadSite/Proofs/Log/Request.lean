import Mathlib.Data.List.Basic
import DownloadSite.Log.Request
import DownloadSite.Proofs.Log.Filter

/-!
# Asking for levels

A request is made of clauses between commas. A clause is a level for everything, or it has a module in front,
the names that lead there joined by `::`, and the level behind a sign of equality; the letters of the level may
be of either case. A request is read as a filter with one directive for each clause (`parse?_requestText`), so
the clause with the longest module decides what is written (`lines_requestText`).
-/

namespace DownloadSite.Log

/-! ### Clauses -/

/-- The word for the least important level that is let through; there may be none. -/
def levelWord : Option Level → String
  | none => "off"
  | some .error => "error"
  | some .warn => "warn"
  | some .info => "info"
  | some .debug => "debug"
  | some .trace => "trace"

/-- The rank of the least important level that is let through. -/
def leastRank : Option Level → Nat
  | none => 0
  | some level => level.rank

/-- Neither a blank nor a mark at which a request is taken apart. -/
def IsInner (c : Char) : Prop := c ∉ [',', '=', '['] ∧ Text.isSpace c = false

instance (c : Char) : Decidable (IsInner c) :=
  inferInstanceAs (Decidable (c ∉ [',', '=', '['] ∧ Text.isSpace c = false))

/-- A name begins with a letter or a numeral of any script or with an underscore. -/
structure IsIdentifier (name : String) : Prop where
  begins : ∃ c cs, name.toList = c :: cs ∧ (Text.isAlphanumeric c = true ∨ c = '_')
  inner : ∀ c ∈ name.toList, IsInner c ∧ c ≠ ':'

/-- A level for a module and for what lies in it. -/
structure Clause where
  /-- The names that lead to the module; none for the whole program. -/
  path : List String
  least : Option Level
  /-- The level as it is spelled. -/
  word : String
  identifiers : ∀ name ∈ path, IsIdentifier name
  spelled : word.toList.map Char.toLower = (levelWord least).toList

namespace Clause

def origin (clause : Clause) : String := "::".intercalate clause.path

def text (clause : Clause) : String :=
  if clause.path = [] then clause.word else clause.origin ++ "=" ++ clause.word

def directive (clause : Clause) : Directive where
  origin := clause.origin
  rank := leastRank clause.least

end Clause

def requestText (clauses : List Clause) : String := ",".intercalate (clauses.map Clause.text)

/-! ### Letters -/

theorem lowerChar_eq_toLower (c : Char) : lowerChar c = c.toLower := by
  by_cases h : 'A' ≤ c ∧ c ≤ 'Z'
  · have hval : c.toLower.val = c.val + 32 := congrArg Char.val (dif_pos h)
    have hcode : c.toLower.toNat = c.toNat + 32 := by
      have hsmall : c.val.toNat ≤ 90 := h.2
      rw [← Char.toNat_val, hval, UInt32.toNat_add]
      exact Nat.mod_eq_of_lt (show c.val.toNat + 32 < 4294967296 by omega)
    rw [lowerChar, if_pos h, ← hcode, Char.ofNat_toNat]
  · have hself : c.toLower = c := dif_neg h
    rw [lowerChar, if_neg h, hself]

theorem isAlpha_of_isAlpha_toLower {c : Char} (h : c.toLower.isAlpha = true) : c.isAlpha = true := by
  by_cases hupper : 'A' ≤ c ∧ c ≤ 'Z'
  · exact Text.isAlpha_iff_toNat.2 (.inl hupper)
  · have hself : c.toLower = c := dif_neg hupper
    rwa [hself] at h

theorem isAlphanum_of_isAlpha {c : Char} (h : c.isAlpha = true) : c.isAlphanum = true := by
  rw [Char.isAlphanum, h, Bool.true_or]

theorem isSpace_eq_false_of_isAlphanum {c : Char} (h : c.isAlphanum = true) : Text.isSpace c = false := by
  obtain ⟨low, high⟩ := Text.toNat_of_isAlphanum h
  simp only [Text.isSpace, Text.Ranges.has, Text.spaces, List.any_cons, List.any_nil, Bool.or_false,
    Bool.or_eq_false_iff, Bool.and_eq_false_iff, decide_eq_false_iff_not]
  omega

theorem isInner_of_isAlpha {c : Char} (h : c.isAlpha = true) : IsInner c := by
  refine ⟨fun hmark => ?_, isSpace_eq_false_of_isAlphanum (isAlphanum_of_isAlpha h)⟩
  have hmarks : [',', '=', '['].all (!Char.isAlpha ·) = true := by decide
  simpa [h] using List.all_eq_true.1 hmarks c hmark

/-! ### Words and origins -/

namespace Clause

variable {clause : Clause} {c : Char}

theorem isAlpha_of_mem_word (h : c ∈ clause.word.toList) : c.isAlpha = true := by
  have hlower : c.toLower ∈ (levelWord clause.least).toList := by
    rw [← clause.spelled]
    exact List.mem_map_of_mem h
  have hletters : (levelWord clause.least).toList.all Char.isAlpha = true := by
    cases clause.least with
    | none => decide
    | some level => cases level <;> decide
  exact isAlpha_of_isAlpha_toLower (List.all_eq_true.1 hletters _ hlower)

theorem rank?_word (clause : Clause) : rank? clause.word.toList = some (leastRank clause.least) := by
  have hlower : clause.word.toList.map lowerChar = (levelWord clause.least).toList := by
    rw [← clause.spelled, List.map_congr_left fun c _ => lowerChar_eq_toLower c]
  have hrank : (rankNames.findIdx? fun name => name.toList = (levelWord clause.least).toList) =
      some (leastRank clause.least) := by
    cases clause.least with
    | none => decide
    | some level => cases level <;> decide
  rw [rank?, hlower, hrank]

/-- The empty text has no rank. -/
theorem word_ne_nil (clause : Clause) : clause.word.toList ≠ [] := by
  intro h
  have hrank : rank? [] = some (leastRank clause.least) := h ▸ clause.rank?_word
  have hnone : rank? [] = none := by decide
  cases hnone.symm.trans hrank

end Clause

theorem forall_mem_intercalate {p : Char → Prop} {separator : List Char} {parts : List (List Char)}
    (hseparator : ∀ c ∈ separator, p c) (hparts : ∀ part ∈ parts, ∀ c ∈ part, p c) :
    ∀ c ∈ separator.intercalate parts, p c := by
  intro c hc
  induction parts with
  | nil => cases hc
  | cons part parts ih =>
    cases parts with
    | nil =>
      rw [List.intercalate_singleton] at hc
      exact hparts part List.mem_cons_self c hc
    | cons next parts =>
      rw [List.intercalate_cons_cons, List.mem_append, List.mem_append] at hc
      rcases hc with (hc | hc) | hc
      · exact hparts part List.mem_cons_self c hc
      · exact hseparator c hc
      · exact ih (fun other h => hparts other (List.mem_cons_of_mem _ h)) hc

namespace Clause

variable {clause : Clause} {c : Char}

theorem isInner_of_mem_origin (h : c ∈ clause.origin.toList) : IsInner c := by
  rw [origin, String.toList_intercalate] at h
  refine forall_mem_intercalate ?_ ?_ c h
  · intro d hd
    have hcolon : d = ':' := by simpa using hd
    rw [hcolon]
    exact ⟨by decide, by decide⟩
  · intro part hpart d hd
    obtain ⟨name, hname, rfl⟩ := List.mem_map.1 hpart
    exact ((clause.identifiers name hname).inner d hd).1

theorem origin_begins (h : clause.path ≠ []) :
    ∃ c cs, clause.origin.toList = c :: cs ∧ (Text.isAlphanumeric c = true ∨ c = '_') := by
  obtain ⟨name, names, hpath⟩ := List.exists_cons_of_ne_nil h
  obtain ⟨c, cs, hname, hc⟩ := (clause.identifiers name (hpath ▸ List.mem_cons_self)).begins
  rw [origin, String.toList_intercalate, hpath, List.map_cons, hname]
  cases names with
  | nil => exact ⟨c, cs, by rw [List.map_nil, List.intercalate_singleton], hc⟩
  | cons next names =>
    rw [List.map_cons, List.intercalate_cons_cons, List.append_assoc, List.cons_append]
    exact ⟨c, _, rfl, hc⟩

/-- Nothing in a clause ends it early or is cut off around it. -/
theorem inner_of_mem_text (h : c ∈ clause.text.toList) : c ≠ ',' ∧ Text.isSpace c = false := by
  have hinner : IsInner c ∨ c = '=' := by
    unfold text at h
    split at h
    · exact .inl (isInner_of_isAlpha (isAlpha_of_mem_word h))
    · rw [String.toList_append, String.toList_append, List.mem_append, List.mem_append] at h
      rcases h with (horigin | hsign) | hword
      · exact .inl (isInner_of_mem_origin horigin)
      · exact .inr (by simpa using hsign)
      · exact .inl (isInner_of_isAlpha (isAlpha_of_mem_word hword))
  rcases hinner with hinner | rfl
  · exact ⟨fun hcomma => hinner.1 (by simp [hcomma]), hinner.2⟩
  · exact ⟨by decide, by decide⟩

end Clause

/-! ### Reading a clause -/

section

variable {cutter : Cutter} {origin word : List Char} {rank : Nat}

theorem Cutter.rest?_of_eq {front rest : List Char} (hwhole : cutter.whole = front ++ rest)
    (hoffset : cutter.offset = Text.byteLength front) : cutter.rest? = some rest := by
  rw [Cutter.rest?, hwhole, hoffset, Text.dropBytes?_append]

theorem rankOrAll?_of_ne_nil (h : word ≠ []) : rankOrAll? word = rank? word := if_neg (by simpa using h)

theorem levelIn?_of_eq (hguide : cutter.guide = '=' :: word) (hwhole : cutter.whole = origin ++ '=' :: word)
    (hoffset : cutter.offset = Text.byteLength origin) (hword : word ≠ []) (hrank : rank? word = some rank) :
    levelIn? cutter = some rank := by
  have hsplit : (cutter.drop 1).whole = (origin ++ ['=']) ++ word := by
    rw [List.append_assoc, List.singleton_append, ← hwhole]
    rfl
  have hnext : (cutter.drop 1).offset = Text.byteLength (origin ++ ['=']) := by
    rw [Text.byteLength_append, Cutter.drop, Cutter.skip, hguide, hoffset]
    rfl
  rw [levelIn?, Cutter.rest?_of_eq hsplit hnext, Option.bind_some, rankOrAll?_of_ne_nil hword, hrank]

/-- A module with a level is cut at the sign of equality. -/
theorem originDirective?_of_eq (hguide : cutter.guide = origin ++ '=' :: word)
    (hwhole : cutter.whole = origin ++ '=' :: word) (hoffset : cutter.offset = 0)
    (horigin : ∀ c ∈ origin, IsInner c) (hword : word ≠ []) (hrank : rank? word = some rank) :
    originDirective? cutter = some { origin := String.ofList origin, rank } := by
  have hpart : cutter.guide.takeWhile (fun c => !(['=', '['].contains c)) = origin := by
    rw [hguide, List.takeWhile_append_of_pos, List.takeWhile_cons_of_neg (by decide), List.append_nil]
    intro c hc
    have hmark : c ∉ ['=', '['] := fun h => (horigin c hc).1 (List.mem_cons_of_mem _ h)
    simpa using hmark
  have hrest : cutter.rest? = some (origin ++ '=' :: word) :=
    Cutter.rest?_of_eq (hwhole.trans (List.nil_append _).symm) hoffset
  have hnext : (cutter.skip origin).guide = '=' :: word := by rw [Cutter.skip, hguide, List.drop_left]
  have hbytes : (cutter.skip origin).offset = Text.byteLength origin := by
    rw [Cutter.skip, hoffset, Nat.zero_add]
  have hcut : cutter.cut? ['=', '['] = some (origin, cutter.skip origin) := by
    rw [Cutter.cut?, hpart, hrest, Option.bind_some, Text.takeBytes?_append]
    rfl
  have hlevel : levelIn? (cutter.skip origin) = some rank := levelIn?_of_eq hnext hwhole hbytes hword hrank
  simp only [originDirective?, hcut, Option.bind_some, hnext, if_true, hlevel, Option.map_some]

end

/-- Without blanks a directive is a word, or it has a module in front. -/
theorem directive?_of_begins {text cs : List Char} {c : Char} (htext : text = c :: cs)
    (hspace : ∀ d ∈ text, Text.isSpace d = false) (hbegins : Text.isAlphanumeric c = true ∨ c = '_')
    (hbracket : c ≠ '[') :
    directive? text =
      if text.any fun d => d = '=' || d = '[' then originDirective? { guide := text, whole := text }
      else some (wordDirective text) := by
  have hfirst : beginsDirective c = true := by
    rcases hbegins with h | rfl
    · simp [beginsDirective, h]
    · simp [beginsDirective]
  rw [directive?, Cutter.ofText, Text.trim_eq_self hspace]
  subst htext
  simp only [if_neg hbracket, if_pos hfirst]

theorem Clause.isSpace_of_mem_text {clause : Clause} :
    ∀ d ∈ clause.text.toList, Text.isSpace d = false := fun _ hd => (inner_of_mem_text hd).2

theorem Clause.directive?_of_whole {clause : Clause} (hpath : clause.path = []) :
    directive? clause.text.toList = some clause.directive := by
  have htext : clause.text = clause.word := if_pos hpath
  have horigin : clause.origin = "" := by rw [origin, hpath, String.intercalate_nil]
  obtain ⟨c, cs, hword⟩ := List.exists_cons_of_ne_nil clause.word_ne_nil
  have halpha : c.isAlpha = true := isAlpha_of_mem_word (hword ▸ List.mem_cons_self)
  have hbracket : c ≠ '[' := fun h => (isInner_of_isAlpha halpha).1 (by simp [h])
  have hmarks : (clause.text.toList.any fun d => d = '=' || d = '[') = false := by
    rw [htext, List.any_eq_false]
    intro d hd
    have hinner := (isInner_of_isAlpha (isAlpha_of_mem_word hd)).1
    simp only [List.mem_cons, List.not_mem_nil, or_false, not_or] at hinner
    simp [hinner]
  rw [directive?_of_begins (htext ▸ hword) isSpace_of_mem_text
    (.inl (Text.isAlphanumeric_of_isAlphanum (isAlphanum_of_isAlpha halpha))) hbracket, hmarks,
    if_neg Bool.false_ne_true, htext, wordDirective, clause.rank?_word, directive, horigin]

theorem Clause.directive?_of_module {clause : Clause} (hpath : clause.path ≠ []) :
    directive? clause.text.toList = some clause.directive := by
  have htext : clause.text.toList = clause.origin.toList ++ '=' :: clause.word.toList := by
    rw [text, if_neg hpath]
    simp
  obtain ⟨c, cs, horigin, hbegins⟩ := origin_begins hpath
  have hbracket : c ≠ '[' := by
    intro h
    exact (isInner_of_mem_origin (horigin ▸ List.mem_cons_self)).1 (by simp [h])
  have hfirst : clause.text.toList = c :: (cs ++ '=' :: clause.word.toList) := by
    rw [htext, horigin, List.cons_append]
  have hmarks : (clause.text.toList.any fun d => d = '=' || d = '[') = true := by
    rw [htext]
    simp
  rw [directive?_of_begins hfirst isSpace_of_mem_text hbegins hbracket, hmarks, if_pos rfl, htext,
    originDirective?_of_eq rfl rfl rfl (fun d hd => isInner_of_mem_origin hd) clause.word_ne_nil
      clause.rank?_word, String.ofList_toList, directive]

theorem Clause.directive?_text (clause : Clause) : directive? clause.text.toList = some clause.directive := by
  by_cases hpath : clause.path = []
  · exact directive?_of_whole hpath
  · exact directive?_of_module hpath

/-! ### Reading a request -/

theorem mapM_directive?_text (clauses : List Clause) :
    (clauses.map fun clause => clause.text.toList).mapM directive? = some (clauses.map Clause.directive) := by
  induction clauses with
  | nil => rfl
  | cons clause clauses ih =>
    rw [List.map_cons, List.mapM_cons, clause.directive?_text, ih]
    rfl

theorem Clause.text_ne_nil (clause : Clause) : clause.text.toList ≠ [] := by
  unfold text
  split
  · exact clause.word_ne_nil
  · rw [String.toList_append]
    exact List.append_ne_nil_of_right_ne_nil _ clause.word_ne_nil

/-- A request is read clause by clause. -/
theorem parse?_requestText (clauses : List Clause) :
    Filter.parse? (requestText clauses) = some (clauses.map Clause.directive) := by
  have hchars : (requestText clauses).toList =
      [','].intercalate (clauses.map fun clause => clause.text.toList) := by
    rw [requestText, String.toList_intercalate, List.map_map]
    rfl
  rw [Filter.parse?, hchars]
  by_cases hempty : clauses = []
  · rw [hempty]
    rfl
  · have hcommas : ∀ part ∈ clauses.map fun clause => clause.text.toList, ',' ∉ part := by
      intro part hpart hcomma
      obtain ⟨clause, -, rfl⟩ := List.mem_map.1 hpart
      exact (Clause.inner_of_mem_text hcomma).1 rfl
    have hnone : (clauses.map fun clause => clause.text.toList).filter (· ≠ []) =
        clauses.map fun clause => clause.text.toList := by
      rw [List.filter_eq_self]
      intro part hpart
      obtain ⟨clause, -, rfl⟩ := List.mem_map.1 hpart
      exact decide_eq_true clause.text_ne_nil
    rw [List.splitOn_intercalate ',' hcommas (by simpa using hempty), hnone, mapM_directive?_text]

theorem ofRequest_requestText (clauses : List Clause) :
    Filter.ofRequest (some (requestText clauses)) = clauses.map Clause.directive := by
  rw [Filter.ofRequest, Option.bind_some, parse?_requestText, Option.getD_some]

/-! ### What a request lets through -/

namespace Clause

/-- No clause with a longer module is about the origin. -/
def Decides (clauses : List Clause) (origin : String) (clause : Clause) : Prop :=
  clause.origin.toList <+: origin.toList ∧
    ∀ other ∈ clauses, other.origin.toList <+: origin.toList → other.origin.length ≤ clause.origin.length

def Allows (clause : Clause) (level : Level) : Prop :=
  ∃ least, clause.least = some least ∧ level.rank ≤ least.rank

end Clause

/-- The clause with the longest module that the origin of the event begins with allows its level. -/
def Shows (clauses : List Clause) (event : Event) : Prop :=
  ∃ clause ∈ clauses, clause.Decides clauses event.origin ∧ clause.Allows event.level

section

variable {clauses others : List Clause} {event : Event}

theorem Clause.allows_iff {clause : Clause} {level : Level} :
    clause.Allows level ↔ level.rank ≤ leastRank clause.least := by
  rw [Allows]
  cases clause.least with
  | none =>
    have hpositive : 0 < level.rank := by cases level <;> decide
    simp [leastRank, Nat.ne_of_gt hpositive]
  | some lowest => simp [leastRank]

instance (clause : Clause) (clauses : List Clause) (origin : String) :
    Decidable (clause.Decides clauses origin) :=
  inferInstanceAs (Decidable (_ ∧ _))

instance (clause : Clause) (level : Level) : Decidable (clause.Allows level) :=
  decidable_of_iff _ Clause.allows_iff.symm

instance (clauses : List Clause) (event : Event) : Decidable (Shows clauses event) :=
  inferInstanceAs (Decidable (∃ clause ∈ clauses, _ ∧ _))

theorem isPlain_directives (clauses : List Clause) : Filter.IsPlain (clauses.map Clause.directive) := by
  intro directive h
  obtain ⟨clause, -, rfl⟩ := List.mem_map.1 h
  rfl

theorem nodup_directives (h : (clauses.map Clause.origin).Nodup) :
    ((clauses.map Clause.directive).map Directive.origin).Nodup := by
  rw [List.map_map]
  exact h

theorem Clause.covers_directive_iff (clause : Clause) :
    clause.directive.covers event = true ↔ clause.origin.toList <+: event.origin.toList :=
  Directive.covers_iff rfl

theorem counts_directive_iff {directive : Directive} :
    Counts (clauses.map Clause.directive) event directive ↔
      ∃ clause ∈ clauses, clause.Decides clauses event.origin ∧ clause.directive = directive := by
  constructor
  · rintro ⟨hmem, hcovers, hlongest⟩
    obtain ⟨clause, hclause, rfl⟩ := List.mem_map.1 hmem
    refine ⟨clause, hclause, ⟨clause.covers_directive_iff.1 hcovers, fun other hother hfront => ?_⟩, rfl⟩
    exact hlongest _ (List.mem_map_of_mem hother) (other.covers_directive_iff.2 hfront)
  · rintro ⟨clause, hclause, ⟨hfront, hlongest⟩, rfl⟩
    refine ⟨List.mem_map_of_mem hclause, clause.covers_directive_iff.2 hfront, ?_⟩
    intro directive hmem hcovers
    obtain ⟨other, hother, rfl⟩ := List.mem_map.1 hmem
    exact hlongest other hother (other.covers_directive_iff.1 hcovers)

/-- The clause with the longest module decides whether an event is let through. -/
theorem allows_requestText_iff (hnodup : (clauses.map Clause.origin).Nodup) (event : Event) :
    (Filter.ofRequest (some (requestText clauses))).allows event = true ↔ Shows clauses event := by
  rw [ofRequest_requestText, Filter.allows_iff (isPlain_directives clauses) (nodup_directives hnodup)]
  constructor
  · rintro ⟨directive, hcounts, hrank⟩
    obtain ⟨clause, hclause, hdecides, rfl⟩ := counts_directive_iff.1 hcounts
    exact ⟨clause, hclause, hdecides, Clause.allows_iff.2 hrank⟩
  · rintro ⟨clause, hclause, hdecides, hallows⟩
    exact ⟨clause.directive, counts_directive_iff.2 ⟨clause, hclause, hdecides, rfl⟩,
      Clause.allows_iff.1 hallows⟩

theorem lines_requestText (hnodup : (clauses.map Clause.origin).Nodup) (stamp : String) (events : List Event) :
    (Filter.ofRequest (some (requestText clauses))).lines stamp events =
      String.join ((events.filter fun event => Shows clauses event).map (Event.line stamp)) := by
  have hshows : ∀ event ∈ events,
      (Filter.ofRequest (some (requestText clauses))).allows event = decide (Shows clauses event) := by
    intro event _
    rw [Bool.eq_iff_iff, allows_requestText_iff hnodup, decide_eq_true_iff]
  rw [Filter.lines, List.filter_congr hshows]

theorem allows_requestText_of_perm (hnodup : (clauses.map Clause.origin).Nodup) (hperm : clauses.Perm others) :
    (Filter.ofRequest (some (requestText clauses))).allows =
      (Filter.ofRequest (some (requestText others))).allows := by
  rw [ofRequest_requestText, ofRequest_requestText]
  exact Filter.allows_eq_of_perm (isPlain_directives clauses) (nodup_directives hnodup) (hperm.map _)

end

end DownloadSite.Log
