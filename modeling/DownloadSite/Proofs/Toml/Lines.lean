import Mathlib.Data.List.TakeWhile
import DownloadSite.Proofs.Toml.LineEnds
import DownloadSite.Proofs.Toml.StringText
import DownloadSite.Toml.Document

/-!
# The lines of a document

How the parts of a line may be written: names quoted or not, blanks around them, a comment behind everything. A
document whose lines each make a change makes these changes one after the other (`lines_intercalate`), whatever
its line breaks are and with or without a mark of byte order (`parse?_broken`).
-/

namespace DownloadSite.Toml

/-! ### Blanks, comments and names -/

def AllBlank (cs : List Char) : Prop := ∀ c ∈ cs, isBlank c = true

/-- What may stand behind the content of a line. -/
inductive Trailing : List Char → Prop where
  | blank {blanks : List Char} (hblanks : AllBlank blanks) : Trailing blanks
  | comment {blanks comment : List Char} (hblanks : AllBlank blanks)
      (hcomment : ∀ c ∈ comment, isTextChar c = true) : Trailing (blanks ++ '#' :: comment)

/-- A name, and a text that stands for it. -/
inductive NameText (name : String) : List Char → Prop where
  | bare (hne : name.toList ≠ []) (hname : ∀ c ∈ name.toList, isBareChar c = true) :
      NameText name name.toList
  | escaped {text : List Char} (htext : Escaped .line name.toList text) :
      NameText name ('"' :: (text ++ ['"']))
  | literal (hname : ∀ c ∈ name.toList, isTextChar c = true ∧ c ≠ '\'') :
      NameText name ('\'' :: (name.toList ++ ['\'']))

theorem allBlank_nil : AllBlank [] := List.forall_mem_nil _

theorem allBlank_space : AllBlank [' '] := by simp [AllBlank, isBlank]

theorem skipBlanks_append {blanks : List Char} (h : AllBlank blanks) (rest : List Char) :
    skipBlanks (blanks ++ rest) = skipBlanks rest :=
  List.dropWhile_append_of_pos h

theorem skipBlanks_cons {c : Char} (h : isBlank c = false) (rest : List Char) :
    skipBlanks (c :: rest) = c :: rest := by
  rw [skipBlanks, List.dropWhile_cons_of_neg (by simp [h])]

/-- A line ends with the text or before a line feed; `after` is what follows it. -/
def Ends (tail after : List Char) : Prop := (tail = [] ∧ after = []) ∨ tail = '\n' :: after

theorem skipBlanks_ends {tail after : List Char} (h : Ends tail after) : skipBlanks tail = tail := by
  rcases h with ⟨rfl, rfl⟩ | rfl <;> rfl

theorem endLine?_ends {tail after : List Char} (h : Ends tail after) : endLine? tail = some after := by
  rcases h with ⟨rfl, rfl⟩ | rfl <;> rfl

theorem endLine?_comment {comment : List Char} (hcomment : ∀ c ∈ comment, isTextChar c = true)
    {tail after : List Char} (h : Ends tail after) :
    endLine? ('#' :: (comment ++ tail)) = some after := by
  rw [endLine?, skipBlanks_cons rfl, skipComment, if_pos rfl, List.dropWhile_append_of_pos hcomment]
  rcases h with ⟨rfl, rfl⟩ | rfl <;> rfl

theorem endLine?_trailing {text : List Char} (htext : Trailing text) {tail after : List Char}
    (h : Ends tail after) : endLine? (text ++ tail) = some after := by
  cases htext with
  | blank hblanks =>
    rw [endLine?, skipBlanks_append hblanks]
    exact endLine?_ends h
  | comment hblanks hcomment =>
    rw [endLine?, List.append_assoc, List.cons_append, skipBlanks_append hblanks]
    exact endLine?_comment hcomment h

theorem Trailing.head?_cases {text : List Char} (h : Trailing text) {c : Char}
    (hc : text.head? = some c) : isBlank c = true ∨ c = '#' := by
  cases h with
  | blank hblanks => exact .inl (hblanks c (List.mem_of_mem_head? hc))
  | @comment blanks comment hblanks hcomment =>
    cases blanks with
    | nil => exact .inr (by simpa using hc.symm)
    | cons b blanks =>
      have hb : b = c := by simpa using hc
      exact .inl (hblanks c (hb ▸ List.mem_cons_self))

/-! ### Keys -/

theorem takeWhile_dropWhile_append {p : Char → Bool} {first rest : List Char} (hfirst : ∀ c ∈ first, p c = true)
    (hrest : ∀ c, rest.head? = some c → p c = false) :
    (first ++ rest).takeWhile p = first ∧ (first ++ rest).dropWhile p = rest := by
  rw [List.takeWhile_append_of_pos hfirst, List.dropWhile_append_of_pos hfirst]
  cases rest with
  | nil => simp
  | cons c rest => simp [hrest c rfl]

theorem isBlank_eq_false_of_isBareChar {c : Char} (h : isBareChar c = true) : isBlank c = false := by
  cases hblank : isBlank c with
  | false => rfl
  | true =>
    simp only [isBlank, Bool.or_eq_true, decide_eq_true_eq] at hblank
    rcases hblank with rfl | rfl <;> cases h

theorem keyName_bare {cs : List Char} (hne : cs ≠ []) (hcs : ∀ c ∈ cs, isBareChar c = true)
    {rest : List Char} (hrest : ∀ c, rest.head? = some c → isBareChar c = false) :
    keyName (cs ++ rest) = some (String.ofList cs, rest) := by
  obtain ⟨c, cs, rfl⟩ := List.exists_cons_of_ne_nil hne
  have hbare := hcs c List.mem_cons_self
  have hdouble : c ≠ '"' := by
    rintro rfl
    cases hbare
  have hsingle : c ≠ '\'' := by
    rintro rfl
    cases hbare
  obtain ⟨htake, hdrop⟩ :=
    takeWhile_dropWhile_append (fun d hd => hcs d (List.mem_cons_of_mem _ hd)) hrest
  rw [List.cons_append, keyName, if_neg (by simp [hdouble, hsingle]), if_pos hbare, htake, hdrop]

theorem keyName_quoted {quote : Char} (hquote : quote = '"' ∨ quote = '\'') {cs rest : List Char}
    {name : List Char} (hread : lineString (quote :: cs) = some (name, rest)) :
    keyName (quote :: cs) = some (String.ofList name, rest) := by
  rw [keyName, if_pos hquote, hread]
  rfl

theorem keyName_written {name : String} {text : List Char} (h : NameText name text)
    {rest : List Char} (hrest : ∀ c, rest.head? = some c → isBareChar c = false) :
    keyName (text ++ rest) = some (name, rest) := by
  cases h with
  | bare hne hname => rw [keyName_bare hne hname hrest, String.ofList_toList]
  | escaped htext =>
    rw [List.cons_append, List.append_assoc, List.singleton_append,
      keyName_quoted (.inl rfl) (lineString_escaped htext rest), String.ofList_toList]
  | literal hname =>
    rw [List.cons_append, List.append_assoc, List.singleton_append,
      keyName_quoted (.inr rfl) (lineString_literal hname rest), String.ofList_toList]

theorem NameText.exists_cons {name : String} {text : List Char} (h : NameText name text) :
    ∃ c rest, text = c :: rest ∧ (isBareChar c = true ∨ c = '"' ∨ c = '\'') := by
  cases h with
  | bare hne hname =>
    obtain ⟨c, rest, hcons⟩ := List.exists_cons_of_ne_nil hne
    exact ⟨c, rest, hcons, .inl (hname c (hcons ▸ List.mem_cons_self))⟩
  | escaped htext => exact ⟨_, _, rfl, .inr (.inl rfl)⟩
  | literal hname => exact ⟨_, _, rfl, .inr (.inr rfl)⟩

/-- The first character of a name is no blank, ends no line and begins no comment or header. -/
theorem NameText.head_facts {c : Char} (h : isBareChar c = true ∨ c = '"' ∨ c = '\'') :
    isBlank c = false ∧ c ≠ '#' ∧ c ≠ '\n' ∧ c ≠ '[' ∧ c ≠ '\ufeff' := by
  rcases h with h | rfl | rfl
  · refine ⟨isBlank_eq_false_of_isBareChar h, ?_, ?_, ?_, ?_⟩ <;>
    · rintro rfl
      cases h
  · decide
  · decide

theorem key_written {name : String} {text before after : List Char} (h : NameText name text)
    (hbefore : AllBlank before) (hafter : AllBlank after) {stop : Char}
    (hstop : stop = '=' ∨ stop = ']') (rest : List Char) :
    key (before ++ (text ++ (after ++ stop :: rest))) = some (⟨[], name⟩, stop :: rest) := by
  obtain ⟨c, tail, hcons, hhead⟩ := h.exists_cons
  have hblank := (NameText.head_facts hhead).1
  have hskip : skipBlanks (text ++ (after ++ stop :: rest)) = text ++ (after ++ stop :: rest) := by
    rw [hcons, List.cons_append, skipBlanks_cons hblank]
  have hend : ∀ c, (after ++ stop :: rest).head? = some c → isBareChar c = false := by
    intro c hc
    cases after with
    | nil =>
      have hc : stop = c := by simpa using hc
      subst hc
      rcases hstop with rfl | rfl <;> rfl
    | cons b after =>
      have hb : b = c := by simpa using hc
      have hblank := hafter b List.mem_cons_self
      cases hbare : isBareChar c with
      | false => rfl
      | true =>
        rw [hb, isBlank_eq_false_of_isBareChar hbare] at hblank
        cases hblank
  have hnext : skipBlanks (after ++ stop :: rest) = stop :: rest := by
    rw [skipBlanks_append hafter]
    rcases hstop with rfl | rfl <;> rfl
  have hdot : stop ≠ '.' := by
    rcases hstop with rfl | rfl <;> decide
  rw [key, maxDepth, keyUpTo, skipBlanks_append hbefore, hskip, keyName_written h hend]
  simp [hnext, hdot]

/-! ### Values and lines -/

theorem StringText.exists_cons {cs text : List Char} (h : StringText cs text) :
    ∃ quote rest, text = quote :: rest ∧ (quote = '"' ∨ quote = '\'') := by
  cases h with
  | escaped htext => exact ⟨_, _, rfl, .inl rfl⟩
  | literal hcs => exact ⟨_, _, rfl, .inr rfl⟩
  | escapedLines htext => exact ⟨_, _, rfl, .inl rfl⟩
  | literalLines hcs => exact ⟨_, _, rfl, .inr rfl⟩

theorem skipBlanks_stringText {cs text : List Char} (h : StringText cs text) (rest : List Char) :
    skipBlanks (text ++ rest) = text ++ rest := by
  obtain ⟨quote, tail, rfl, hquote⟩ := h.exists_cons
  rcases hquote with rfl | rfl <;> rfl

theorem valueUpTo_string {cs text : List Char} (h : StringText cs text) {rest : List Char}
    (hdouble : rest.head? ≠ some '"') (hsingle : rest.head? ≠ some '\'') (depth : Nat) :
    valueUpTo depth (text ++ rest) = some (.text (String.ofList cs), rest) := by
  have hread := string_written h hdouble hsingle
  obtain ⟨quote, tail, rfl, hquote⟩ := h.exists_cons
  have hsquare : quote ≠ '[' := by rcases hquote with rfl | rfl <;> decide
  have hbrace : quote ≠ '\x7b' := by rcases hquote with rfl | rfl <;> decide
  rw [List.cons_append] at hread ⊢
  cases depth with
  | zero =>
    rw [valueUpTo, simpleValue]
    simp [hquote, hread]
  | succ depth =>
    rw [valueUpTo, simpleValue]
    simp [hsquare, hbrace, hquote, hread]

theorem value_string {cs text : List Char} (h : StringText cs text) {rest : List Char}
    (hdouble : rest.head? ≠ some '"') (hsingle : rest.head? ≠ some '\'') :
    value (text ++ rest) = some (.text (String.ofList cs), rest) :=
  valueUpTo_string h hdouble hsingle maxDepth

theorem pair_written {name : String} {text before after gap content : List Char} (hname : NameText name text)
    (hbefore : AllBlank before) (hafter : AllBlank after) (hgap : AllBlank gap)
    (hsolid : skipBlanks content = content) (reader : Reader Node) :
    pair reader (before ++ (text ++ (after ++ '=' :: (gap ++ content)))) =
      (reader content).map fun (node, rest) => ((⟨[], name⟩, node), rest) := by
  rw [pair, key_written hname hbefore hafter (.inl rfl), Option.bind_some]
  simp only [if_true, skipBlanks_append hgap, hsolid]

theorem line_pair {name : String} {text before after gap content tail : List Char} {node : Node}
    (hname : NameText name text) (hbefore : AllBlank before) (hafter : AllBlank after)
    (hgap : AllBlank gap) (hsolid : skipBlanks content = content)
    (hvalue : value content = some (node, tail)) {rest : List Char}
    (hend : endLine? tail = some rest) (progress : Progress) :
    line progress (before ++ (text ++ (after ++ '=' :: (gap ++ content)))) =
      (progress.enter ⟨[], name⟩ node).map fun progress => (progress, rest) := by
  obtain ⟨c, cs, hcons, hhead⟩ := hname.exists_cons
  obtain ⟨hblank, hcomment, hfeed, hsquare, -⟩ := NameText.head_facts hhead
  have hpair := pair_written hname allBlank_nil hafter hgap hsolid value
  rw [List.nil_append, hcons, List.cons_append, hvalue, Option.map_some] at hpair
  rw [line, skipBlanks_append hbefore, hcons, List.cons_append, skipBlanks_cons hblank]
  simp only [hcomment, hfeed, hsquare, or_self, if_false, hpair, Option.bind_some, hend]

def textEntry (pair : String × String) : String × Node := (pair.1, .text pair.2)

/-! ### From one line to all -/

/-- Wherever its line ends, the text changes a document so. -/
def ReadsLine (text : List Char) (change : Progress → Option Progress) : Prop :=
  ∀ (progress : Progress) {tail after : List Char}, Ends tail after →
    line progress (text ++ tail) = (change progress).map fun next => (next, after)

theorem readsLine_trailing {text : List Char} (h : Trailing text) : ReadsLine text some := by
  intro progress tail after hends
  rw [line]
  cases h with
  | blank hblanks =>
    rw [skipBlanks_append hblanks, skipBlanks_ends hends]
    rcases hends with ⟨rfl, rfl⟩ | rfl <;> rfl
  | comment hblanks hcomment =>
    rw [List.append_assoc, List.cons_append, skipBlanks_append hblanks, skipBlanks_cons rfl]
    simp only [true_or, if_true, endLine?_comment hcomment hends, Option.map_some]

theorem lines_of_ne_nil {cs : List Char} (hne : cs ≠ []) (fuel : Nat) (progress : Progress) :
    lines (fuel + 1) progress cs = (line progress cs).bind fun (next, rest) => lines fuel next rest := by
  obtain ⟨c, cs, rfl⟩ := List.exists_cons_of_ne_nil hne
  rfl

/-- Lines with line feeds between them make their changes one after the other. -/
theorem lines_intercalate {α : Type} {text : α → List Char} {change : Progress → α → Option Progress}
    (h : ∀ item, ReadsLine (text item) (change · item)) (items : List α) (progress : Progress) {fuel : Nat}
    (hfuel : (['\n'].intercalate (items.map text)).length ≤ fuel) :
    lines fuel progress (['\n'].intercalate (items.map text)) = items.foldlM change progress := by
  induction items generalizing progress fuel with
  | nil => exact lines_nil fuel progress
  | cons first rest ih =>
    cases rest with
    | nil =>
      have hline : line progress (text first ++ []) = (change progress first).map fun next => (next, []) :=
        h first progress (.inl ⟨rfl, rfl⟩)
      rw [List.append_nil] at hline
      rw [List.map_singleton, List.intercalate_singleton] at hfuel ⊢
      rw [List.foldlM_cons]
      by_cases htext : text first = []
      · rw [htext] at hline ⊢
        rw [lines_nil]
        cases hchange : change progress first with
        | none =>
          rw [hchange] at hline
          cases hline
        | some next =>
          rw [hchange] at hline
          exact congrArg some (Prod.mk.inj (Option.some.inj hline)).1
      · have hpos := List.length_pos_iff.2 htext
        obtain ⟨fuel, rfl⟩ : ∃ n, fuel = n + 1 := ⟨fuel - 1, by omega⟩
        rw [lines_of_ne_nil htext, hline]
        cases change progress first with
        | none => rfl
        | some next => exact lines_nil fuel next
    | cons second rest =>
      have hline : line progress (text first ++ '\n' :: ['\n'].intercalate ((second :: rest).map text)) =
          (change progress first).map fun next => (next, ['\n'].intercalate ((second :: rest).map text)) :=
        h first progress (.inr rfl)
      rw [List.map_cons, List.map_cons, List.intercalate_cons_cons, ← List.map_cons, List.append_assoc,
        List.singleton_append] at hfuel ⊢
      rw [List.length_append, List.length_cons] at hfuel
      obtain ⟨fuel, rfl⟩ : ∃ n, fuel = n + 1 := ⟨fuel - 1, by omega⟩
      rw [lines_of_ne_nil (by simp), hline, List.foldlM_cons]
      cases change progress first with
      | none => rfl
      | some next => exact ih next (by omega)

/-! ### Entries -/

theorem Progress.enter_fresh {progress : Progress} (hcurrent : progress.current = []) {name : String}
    (hfresh : progress.entries.lookup name = none) (node : Node) :
    progress.enter ⟨[], name⟩ node =
      some { progress with entries := progress.entries ++ [(name, node)] } := by
  rw [Progress.enter, hcurrent, changeAt, assign, hfresh]
  rfl

theorem lookup_append_textEntry {entries : Entries} {pair : String × String} {rest : List (String × String)}
    (hdistinct : pair.1 ∉ rest.map Prod.fst)
    (hfresh : ∀ name ∈ (pair :: rest).map Prod.fst, entries.lookup name = none) :
    ∀ name ∈ rest.map Prod.fst, (entries ++ [textEntry pair]).lookup name = none := by
  intro name hname
  have hne : name ≠ pair.1 := by
    rintro rfl
    exact hdistinct hname
  rw [List.lookup_append, hfresh name (List.mem_cons_of_mem _ hname), Option.none_or, List.lookup_eq_none_iff]
  simpa [textEntry] using hne

/-! ### Whole texts -/

theorem head?_intercalate_ne {texts : List (List Char)} {c : Char} (h : ∀ text ∈ texts, text.head? ≠ some c)
    (hc : c ≠ '\n') : (['\n'].intercalate texts).head? ≠ some c := by
  cases texts with
  | nil => simp
  | cons first rest =>
    have hfirst := h first List.mem_cons_self
    cases rest with
    | nil =>
      rw [List.intercalate_singleton]
      exact hfirst
    | cons second rest =>
      rw [List.intercalate_cons_cons]
      cases first with
      | nil => simpa using Ne.symm hc
      | cons d first => simpa using hfirst

theorem Broken.head?_ne {cs raw : List Char} (h : Broken cs raw) {c : Char} (hcs : cs.head? ≠ some c)
    (hc : c ≠ '\r') : raw.head? ≠ some c := by
  cases h with
  | nil => exact hcs
  | char d cs raw hreturn hfeed hrest => exact hcs
  | feed cs raw hrest => exact hcs
  | returnFeed cs raw hrest => simpa using Ne.symm hc

/-- A stored text is read line by line, whatever its line ends and with or without a mark of byte order. -/
theorem parse?_broken {cs raw mark : List Char} (hbroken : Broken cs raw) (hhead : cs.head? ≠ some '\ufeff')
    (hmark : mark = [] ∨ mark = ['\ufeff']) :
    parse? (String.ofList (mark ++ raw)) = (lines cs.length {} cs).map Progress.entries := by
  have hdrop : dropByteOrderMark (mark ++ raw) = raw := by
    rcases hmark with rfl | rfl
    · exact dropByteOrderMark_of_ne (hbroken.head?_ne hhead (by decide))
    · rfl
  rw [parse?, String.toList_ofList, hdrop, unifyLineEnds?_of_broken hbroken, Option.bind_some]

end DownloadSite.Toml
