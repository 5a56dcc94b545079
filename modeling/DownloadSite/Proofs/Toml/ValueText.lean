import DownloadSite.Proofs.Toml.IntegerText

/-!
# Values as they are written

The texts that stand for a string, a decimal integer, a truth value, a list of strings or a table of strings in
braces. Digits may be grouped, and gaps with comments and line breaks may stand between the items of a list.
Each of these texts is read back as its value up to where it ends (`value_written`).
-/

namespace DownloadSite.Toml

inductive Given where
  | text (content : String)
  | integer (n : Int) (low : -2 ^ 63 ≤ n) (high : n < 2 ^ 63)
  | boolean (value : Bool)
  | texts (items : List String)
  | pairs (entries : List (String × String)) (distinct : (entries.map Prod.fst).Nodup)

def Given.node : Given → Node
  | .text content => .text content
  | .integer n _ _ => .integer n
  | .boolean value => .boolean value
  | .texts items => .array (items.map .text)
  | .pairs entries _ => .table .inline (entries.map textEntry)

/-! ### The texts -/

/-- What may stand between the items of a list: blanks, line feeds and comments. -/
inductive GapText : List Char → Prop where
  | nil : GapText []
  | blank (c : Char) (hc : isBlank c = true) {gap : List Char} (hrest : GapText gap) : GapText (c :: gap)
  | feed {gap : List Char} (hrest : GapText gap) : GapText ('\n' :: gap)
  | comment {comment gap : List Char} (hcomment : ∀ c ∈ comment, isTextChar c = true) (hrest : GapText gap) :
      GapText ('#' :: (comment ++ '\n' :: gap))

/-- Strings, and a text that lists them up to the closing bracket. -/
inductive ItemsText : List String → List Char → Prop where
  | none {gap : List Char} (hgap : GapText gap) : ItemsText [] (gap ++ [']'])
  | last {item : String} {gap itemText after : List Char} (hgap : GapText gap)
      (hitem : StringText item.toList itemText) (hafter : GapText after) :
      ItemsText [item] (gap ++ (itemText ++ (after ++ [']'])))
  | more {item : String} {items : List String} {gap itemText after text : List Char} (hgap : GapText gap)
      (hitem : StringText item.toList itemText) (hafter : GapText after) (hrest : ItemsText items text) :
      ItemsText (item :: items) (gap ++ (itemText ++ (after ++ ',' :: text)))

/-- A name with the sign of equality, and a text that stands for both. -/
inductive LeadText (name : String) : List Char → Prop where
  | mk {text before after gap : List Char} (hname : NameText name text) (hbefore : AllBlank before)
      (hafter : AllBlank after) (hgap : AllBlank gap) :
      LeadText name (before ++ (text ++ (after ++ '=' :: gap)))

/-- Pairs of names and strings, and a text that gives them up to the closing brace. -/
inductive PairsText : List (String × String) → List Char → Prop where
  | last {name value : String} {lead valueText after : List Char} (hlead : LeadText name lead)
      (hvalue : StringText value.toList valueText) (hafter : AllBlank after) :
      PairsText [(name, value)] (lead ++ (valueText ++ (after ++ ['\x7d'])))
  | more {name value : String} {entries : List (String × String)} {lead valueText after text : List Char}
      (hlead : LeadText name lead) (hvalue : StringText value.toList valueText) (hafter : AllBlank after)
      (hrest : PairsText entries text) :
      PairsText ((name, value) :: entries) (lead ++ (valueText ++ (after ++ ',' :: text)))

/-- A value, and a text that stands for it. -/
inductive ValueText : Given → List Char → Prop where
  | text {content : String} {text : List Char} (htext : StringText content.toList text) :
      ValueText (.text content) text
  | integer {n : Int} {low : -2 ^ 63 ≤ n} {high : n < 2 ^ 63} {text : List Char} (htext : IntegerText n text) :
      ValueText (.integer n low high) text
  | yes : ValueText (.boolean true) "true".toList
  | no : ValueText (.boolean false) "false".toList
  | texts {items : List String} {text : List Char} (htext : ItemsText items text) :
      ValueText (.texts items) ('[' :: text)
  | noPairs {distinct : (([] : List (String × String)).map Prod.fst).Nodup} {gap : List Char}
      (hgap : AllBlank gap) : ValueText (.pairs [] distinct) ('\x7b' :: (gap ++ ['\x7d']))
  | pairs {entries : List (String × String)} {distinct : (entries.map Prod.fst).Nodup} {text : List Char}
      (htext : PairsText entries text) : ValueText (.pairs entries distinct) ('\x7b' :: text)

/-! ### Lists of strings -/

theorem GapText.head?_append_ne {gap : List Char} (h : GapText gap) {c : Char} (hdouble : c ≠ '"')
    (hsingle : c ≠ '\'') (rest : List Char) :
    (gap ++ c :: rest).head? ≠ some '"' ∧ (gap ++ c :: rest).head? ≠ some '\'' := by
  cases h with
  | nil => simp [hdouble, hsingle]
  | blank d hd hrest =>
    constructor
    · rintro heq
      cases heq
      cases hd
    · rintro heq
      cases heq
      cases hd
  | feed hrest => simp
  | comment hcomment hrest => simp

theorem skipGap_comment {comment : List Char} (hcomment : ∀ c ∈ comment, isTextChar c = true)
    (rest : List Char) : skipGap true (comment ++ '\n' :: rest) = skipGap false rest := by
  induction comment with
  | nil => rfl
  | cons c comment ih =>
    have hc := hcomment c List.mem_cons_self
    have hfeed : c ≠ '\n' := by
      rintro rfl
      cases hc
    rw [List.cons_append, skipGap, if_neg hfeed, if_pos rfl, if_pos hc]
    exact ih fun other hother => hcomment other (List.mem_cons_of_mem _ hother)

theorem skipGap_gap {gap : List Char} (h : GapText gap) (rest : List Char) :
    skipGap false (gap ++ rest) = skipGap false rest := by
  induction h with
  | nil => rfl
  | blank c hc hrest ih =>
    have hfeed : c ≠ '\n' := by
      rintro rfl
      cases hc
    rw [List.cons_append, skipGap, if_neg hfeed, if_neg Bool.false_ne_true, if_pos hc, ih]
  | feed hrest ih =>
    rw [List.cons_append, skipGap, if_pos rfl, ih]
  | comment hcomment hrest ih =>
    rw [List.cons_append, List.append_assoc, List.cons_append, skipGap, if_neg (by decide),
      if_neg Bool.false_ne_true, if_neg (by decide), if_pos rfl, skipGap_comment hcomment, ih]

theorem skipGap_stringText {cs text : List Char} (h : StringText cs text) (rest : List Char) :
    skipGap false (text ++ rest) = text ++ rest := by
  obtain ⟨quote, tail, rfl, hquote⟩ := h.exists_cons
  rcases hquote with rfl | rfl <;> rfl

theorem items_item {item : String} {gap itemText after : List Char} (hgap : GapText gap)
    (hitem : StringText item.toList itemText) (hafter : GapText after) {stop : Char}
    (hstop : stop = ',' ∨ stop = ']') (depth fuel : Nat) (rest : List Char) :
    items (valueUpTo depth) (fuel + 1) (gap ++ (itemText ++ (after ++ stop :: rest))) =
      if stop = ',' then
        (items (valueUpTo depth) fuel rest).map fun (nodes, rest) => (.text item :: nodes, rest)
      else some ([.text item], rest) := by
  have hdouble : stop ≠ '"' := by rcases hstop with rfl | rfl <;> decide
  have hsingle : stop ≠ '\'' := by rcases hstop with rfl | rfl <;> decide
  obtain ⟨hnoDouble, hnoSingle⟩ := hafter.head?_append_ne hdouble hsingle rest
  have hread := valueUpTo_string hitem hnoDouble hnoSingle depth
  have hskip := skipGap_stringText hitem (after ++ stop :: rest)
  have hend : skipGap false (after ++ stop :: rest) = stop :: rest := by
    rw [skipGap_gap hafter]
    rcases hstop with rfl | rfl <;> rfl
  obtain ⟨quote, tail, rfl, hquote⟩ := hitem.exists_cons
  have hbracket : quote ≠ ']' := by rcases hquote with rfl | rfl <;> decide
  rw [String.ofList_toList] at hread
  rw [List.cons_append] at hread hskip ⊢
  rw [items, skipGap_gap hgap, hskip]
  simp only [if_neg hbracket, hread, Option.bind_some, hend]
  rcases hstop with rfl | rfl <;> rfl

theorem items_written {items : List String} {text : List Char} (h : ItemsText items text) (depth : Nat)
    {fuel : Nat} (hfuel : text.length ≤ fuel) (rest : List Char) :
    Toml.items (valueUpTo depth) fuel (text ++ rest) = some (items.map .text, rest) := by
  induction h generalizing fuel with
  | none hgap =>
    obtain ⟨fuel, rfl⟩ : ∃ n, fuel = n + 1 := ⟨fuel - 1, by simp at hfuel; omega⟩
    rw [List.append_assoc, Toml.items, skipGap_gap hgap]
    rfl
  | last hgap hitem hafter =>
    obtain ⟨fuel, rfl⟩ : ∃ n, fuel = n + 1 := ⟨fuel - 1, by simp at hfuel; omega⟩
    have hread := items_item hgap hitem hafter (.inr rfl) depth fuel rest
    simpa using hread
  | @more item items gap itemText after text hgap hitem hafter hrest ih =>
    simp only [List.length_append, List.length_cons] at hfuel
    obtain ⟨fuel, rfl⟩ : ∃ n, fuel = n + 1 := ⟨fuel - 1, by omega⟩
    have hread := items_item hgap hitem hafter (.inl rfl) depth fuel (text ++ rest)
    rw [if_pos rfl, ih (by omega)] at hread
    simpa using hread

/-! ### Tables in braces -/

theorem AllBlank.head?_append_ne {blanks : List Char} (h : AllBlank blanks) {c : Char} (hdouble : c ≠ '"')
    (hsingle : c ≠ '\'') (rest : List Char) :
    (blanks ++ c :: rest).head? ≠ some '"' ∧ (blanks ++ c :: rest).head? ≠ some '\'' := by
  have hgap : GapText blanks := by
    induction blanks with
    | nil => exact .nil
    | cons b blanks ih =>
      exact .blank b (h b List.mem_cons_self) (ih fun other hother => h other (List.mem_cons_of_mem _ hother))
  exact hgap.head?_append_ne hdouble hsingle rest

theorem pairs_pair {name value : String} {lead valueText after : List Char} (hlead : LeadText name lead)
    (hvalue : StringText value.toList valueText) (hafter : AllBlank after) {stop : Char}
    (hstop : stop = ',' ∨ stop = '\x7d') {entries : Entries} (hfresh : entries.lookup name = none)
    (depth fuel : Nat) (rest : List Char) :
    pairs (valueUpTo depth) (fuel + 1) entries (lead ++ (valueText ++ (after ++ stop :: rest))) =
      if stop = ',' then pairs (valueUpTo depth) fuel (entries ++ [textEntry (name, value)]) rest
      else some (entries ++ [textEntry (name, value)], rest) := by
  have hdouble : stop ≠ '"' := by rcases hstop with rfl | rfl <;> decide
  have hsingle : stop ≠ '\'' := by rcases hstop with rfl | rfl <;> decide
  obtain ⟨hnoDouble, hnoSingle⟩ := hafter.head?_append_ne hdouble hsingle rest
  have hread := valueUpTo_string hvalue hnoDouble hnoSingle depth
  have hskip := skipBlanks_stringText hvalue (after ++ stop :: rest)
  have hend : skipBlanks (after ++ stop :: rest) = stop :: rest := by
    rw [skipBlanks_append hafter]
    rcases hstop with rfl | rfl <;> rfl
  have hassign : assign name (.text value) [] entries = some (entries ++ [textEntry (name, value)]) := by
    rw [assign, hfresh]
    rfl
  cases hlead with
  | @mk text before behind gap hname hbefore hbehind hgap =>
    have hpair := pair_written hname hbefore hbehind hgap hskip (valueUpTo depth)
    rw [hread, String.ofList_toList, Option.map_some] at hpair
    simp only [List.append_assoc, List.cons_append]
    rw [pairs, hpair]
    simp only [Option.bind_some, hassign, hend]
    rcases hstop with rfl | rfl <;> rfl

theorem pairs_written {written : List (String × String)} {text : List Char} (h : PairsText written text)
    {entries : Entries} (hdistinct : (written.map Prod.fst).Nodup)
    (hfresh : ∀ name ∈ written.map Prod.fst, entries.lookup name = none) (depth : Nat) {fuel : Nat}
    (hfuel : text.length ≤ fuel) (rest : List Char) :
    pairs (valueUpTo depth) fuel entries (text ++ rest) = some (entries ++ written.map textEntry, rest) := by
  induction h generalizing entries fuel with
  | @last name value lead valueText after hlead hvalue hafter =>
    obtain ⟨fuel, rfl⟩ : ∃ n, fuel = n + 1 := ⟨fuel - 1, by simp at hfuel; omega⟩
    have hread := pairs_pair hlead hvalue hafter (.inr rfl) (hfresh name (by simp)) depth fuel rest
    simpa using hread
  | @more name value written lead valueText after text hlead hvalue hafter hrest ih =>
    simp only [List.length_append, List.length_cons] at hfuel
    rw [List.map_cons, List.nodup_cons] at hdistinct
    obtain ⟨fuel, rfl⟩ : ∃ n, fuel = n + 1 := ⟨fuel - 1, by omega⟩
    have hread := pairs_pair hlead hvalue hafter (.inl rfl) (hfresh name (by simp)) depth fuel (text ++ rest)
    rw [if_pos rfl, ih hdistinct.2 (lookup_append_textEntry hdistinct.1 hfresh) (by omega)] at hread
    simpa using hread

theorem LeadText.exists_cons {name : String} {lead : List Char} (h : LeadText name lead) :
    ∃ blanks c cs, AllBlank blanks ∧ lead = blanks ++ c :: cs ∧ (isBareChar c = true ∨ c = '"' ∨ c = '\'') ∧
      LeadText name (c :: cs) := by
  cases h with
  | @mk text before after gap hname hbefore hafter hgap =>
    have hstripped := LeadText.mk hname allBlank_nil hafter hgap
    obtain ⟨c, tail, rfl, hhead⟩ := hname.exists_cons
    exact ⟨before, c, _, hbefore, rfl, hhead, hstripped⟩

theorem PairsText.exists_cons {written : List (String × String)} {text : List Char}
    (h : PairsText written text) :
    ∃ blanks c cs, AllBlank blanks ∧ text = blanks ++ c :: cs ∧ (isBareChar c = true ∨ c = '"' ∨ c = '\'') ∧
      PairsText written (c :: cs) := by
  cases h with
  | last hlead hvalue hafter =>
    obtain ⟨blanks, c, cs, hblanks, rfl, hhead, hstripped⟩ := hlead.exists_cons
    exact ⟨blanks, c, _, hblanks, by simp, hhead, .last hstripped hvalue hafter⟩
  | more hlead hvalue hafter hrest =>
    obtain ⟨blanks, c, cs, hblanks, rfl, hhead, hstripped⟩ := hlead.exists_cons
    exact ⟨blanks, c, _, hblanks, by simp, hhead, .more hstripped hvalue hafter hrest⟩

theorem inlineTable_written {written : List (String × String)} {text : List Char} (h : PairsText written text)
    (hdistinct : (written.map Prod.fst).Nodup) (depth : Nat) (rest : List Char) :
    inlineTable (valueUpTo depth) (text ++ rest) = some (written.map textEntry, rest) := by
  have hempty : ∀ name ∈ written.map Prod.fst, ([] : Entries).lookup name = none := fun _ _ => rfl
  obtain ⟨blanks, c, cs, hblanks, rfl, hhead, hstripped⟩ := h.exists_cons
  have hbrace : c ≠ '\x7d' := by
    rintro rfl
    exact absurd hhead (by decide)
  have hfuel : (c :: cs).length ≤ (blanks ++ c :: cs ++ rest).length + 1 := by
    simp only [List.length_append]
    omega
  have hread := pairs_written hstripped hdistinct hempty depth hfuel rest
  have hskip : skipBlanks (blanks ++ c :: cs ++ rest) = c :: (cs ++ rest) := by
    rw [List.append_assoc, skipBlanks_append hblanks, List.cons_append,
      skipBlanks_cons (NameText.head_facts hhead).1]
  rw [inlineTable, hskip]
  simp only [if_neg hbrace]
  exact hread

/-! ### All values -/

/-- A written value is read back up to what delimits it. -/
theorem value_written {given : Given} {text : List Char} (h : ValueText given text) {rest : List Char}
    (hrest : Delimited rest) : value (text ++ rest) = some (given.node, rest) := by
  cases h with
  | text htext =>
    have hread := value_string htext (fun hc => (hrest _ hc).2.1 rfl) fun hc => (hrest _ hc).2.2 rfl
    rwa [String.ofList_toList] at hread
  | @integer n low high text htext =>
    obtain ⟨c, cs, hcons, -⟩ := htext.exists_cons
    have hne : text ≠ [] := by simp [hcons]
    rw [value_word hne (fun c => htext.isWordChar) htext.date?_eq_none hrest,
      wordValue?_integer htext low high]
    rfl
  | yes =>
    rw [value_word (by decide) (List.all_eq_true.1 rfl) (by decide) hrest]
    rfl
  | no =>
    rw [value_word (by decide) (List.all_eq_true.1 rfl) (by decide) hrest]
    rfl
  | @texts items text htext =>
    have hfuel : text.length ≤ (text ++ rest).length + 1 := by
      rw [List.length_append]
      omega
    have hread := items_written htext 78 hfuel rest
    rw [List.cons_append, value, maxDepth, valueUpTo, if_pos rfl, hread]
    rfl
  | @noPairs distinct gap hgap =>
    have hskip : skipBlanks (gap ++ '\x7d' :: rest) = '\x7d' :: rest := by
      rw [skipBlanks_append hgap]
      rfl
    rw [List.cons_append, List.append_assoc, value, maxDepth, valueUpTo, if_neg (by decide), if_pos rfl,
      inlineTable, List.singleton_append, hskip]
    rfl
  | @pairs entries distinct text htext =>
    rw [List.cons_append, value, maxDepth, valueUpTo, if_neg (by decide), if_pos rfl,
      inlineTable_written htext distinct]
    rfl

/-! ### Texts between double quotes -/

/-- A text between double quotes, with an escape wherever there has to be one. -/
def quoted (content : String) : List Char := '"' :: (content.toList.flatMap escapeSequence ++ ['"'])

theorem stringText_quoted (content : String) : StringText content.toList (quoted content) :=
  .escaped (escaped_flatMap .line content.toList)

theorem nameText_quoted (name : String) : NameText name (quoted name) :=
  .escaped (escaped_flatMap .line name.toList)

theorem leadText_quoted (name : String) : LeadText name (quoted name ++ [' ', '=', ' ']) :=
  .mk (nameText_quoted name) allBlank_nil allBlank_space allBlank_space

end DownloadSite.Toml
