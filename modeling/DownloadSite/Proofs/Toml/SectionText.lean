import DownloadSite.Proofs.Toml.ValueText

/-!
# Lines that say something

A line gives a name to a value, or it is the header of a table, or it says nothing. What a document comes to is
what its lines say, one after the other, in whatever way each of them is written (`parse?_mentions`).
-/

namespace DownloadSite.Toml

/-- What a line says: a name with a value, or the name of the table that pairs go into from there on. -/
inductive Mention where
  | entry (name : String) (given : Given)
  | header (name : String)

/-- A line and what it says, if anything. -/
inductive MentionText : Option Mention → List Char → Prop where
  | silent {text : List Char} (htext : Trailing text) : MentionText none text
  | entry {name : String} {given : Given} {lead valueText tail : List Char} (hlead : LeadText name lead)
      (hvalue : ValueText given valueText) (htail : Trailing tail) :
      MentionText (some (.entry name given)) (lead ++ (valueText ++ tail))
  | header {name : String} {nameText before inside after tail : List Char} (hname : NameText name nameText)
      (hbefore : AllBlank before) (hinside : AllBlank inside) (hafter : AllBlank after) (htail : Trailing tail) :
      MentionText (some (.header name)) (before ++ '[' :: (inside ++ (nameText ++ (after ++ ']' :: tail))))

structure MentionLine where
  mention? : Option Mention
  text : List Char
  written : MentionText mention? text

def mentions (written : List MentionLine) : List Mention := written.filterMap (·.mention?)

def feedJoined (written : List MentionLine) : List Char := ['\n'].intercalate (written.map (·.text))

/-! ### Lines -/

/-- What a line with something to say does to a document. -/
def Progress.mention (progress : Progress) : Mention → Option Progress
  | .entry name given => progress.enter ⟨[], name⟩ given.node
  | .header name => progress.follow ⟨[], name⟩ openTable

theorem ValueText.exists_cons {given : Given} {text : List Char} (h : ValueText given text) :
    ∃ c rest, text = c :: rest ∧ isBlank c = false := by
  cases h with
  | text htext =>
    obtain ⟨quote, rest, rfl, hquote⟩ := htext.exists_cons
    exact ⟨quote, rest, rfl, by rcases hquote with rfl | rfl <;> rfl⟩
  | integer htext =>
    obtain ⟨c, rest, rfl, hc, -⟩ := htext.exists_cons
    refine ⟨c, rest, rfl, ?_⟩
    cases hblank : isBlank c with
    | false => rfl
    | true =>
      rw [isBlank, Bool.or_eq_true, decide_eq_true_eq, decide_eq_true_eq] at hblank
      rcases hblank with rfl | rfl
      · exact absurd hc (by decide)
      · exact absurd hc (by decide)
  | yes => exact ⟨'t', _, rfl, rfl⟩
  | no => exact ⟨'f', _, rfl, rfl⟩
  | texts htext => exact ⟨'[', _, rfl, rfl⟩
  | noPairs hgap => exact ⟨'\x7b', _, rfl, rfl⟩
  | pairs htext => exact ⟨'\x7b', _, rfl, rfl⟩

theorem skipBlanks_valueText {given : Given} {text : List Char} (h : ValueText given text) (rest : List Char) :
    skipBlanks (text ++ rest) = text ++ rest := by
  obtain ⟨c, tail, rfl, hc⟩ := h.exists_cons
  exact skipBlanks_cons hc _

theorem Trailing.delimited {text : List Char} (h : Trailing text) {tail after : List Char}
    (hends : Ends tail after) : Delimited (text ++ tail) := by
  intro c hc
  have hcases : isBlank c = true ∨ c = '#' ∨ c = '\n' := by
    cases text with
    | nil =>
      rcases hends with ⟨rfl, rfl⟩ | rfl
      · cases hc
      · exact .inr (.inr (Option.some.inj hc).symm)
    | cons d text =>
      rcases h.head?_cases hc with hblank | hcomment
      · exact .inl hblank
      · exact .inr (.inl hcomment)
  rcases hcases with hblank | rfl | rfl
  · rw [isBlank, Bool.or_eq_true, decide_eq_true_eq, decide_eq_true_eq] at hblank
    rcases hblank with rfl | rfl
    · decide
    · decide
  · decide
  · decide

theorem readsLine_entry {name : String} {given : Given} {lead valueText trailing : List Char}
    (hlead : LeadText name lead) (hvalue : ValueText given valueText) (htrailing : Trailing trailing) :
    ReadsLine (lead ++ (valueText ++ trailing)) (·.mention (.entry name given)) := by
  intro progress tail rest hends
  cases hlead with
  | mk hname hbefore hafter hgap =>
    have hline := line_pair hname hbefore hafter hgap (skipBlanks_valueText hvalue _)
      (value_written hvalue (htrailing.delimited hends)) (endLine?_trailing htrailing hends) progress
    simpa [Progress.mention] using hline

theorem header_written {name : String} {nameText inside after : List Char} (hname : NameText name nameText)
    (hinside : AllBlank inside) (hafter : AllBlank after) {rest final : List Char}
    (hend : endLine? rest = some final) (progress : Progress) :
    header progress (inside ++ (nameText ++ (after ++ ']' :: rest))) =
      (progress.follow ⟨[], name⟩ openTable).map fun next => (next, final) := by
  have hkey := key_written hname hinside hafter (.inr rfl) rest
  have hhead : ∃ c cs, inside ++ (nameText ++ (after ++ ']' :: rest)) = c :: cs ∧ c ≠ '[' := by
    cases inside with
    | nil =>
      obtain ⟨c, cs, rfl, hc⟩ := hname.exists_cons
      exact ⟨c, _, rfl, (NameText.head_facts hc).2.2.2.1⟩
    | cons b inside =>
      refine ⟨b, _, rfl, ?_⟩
      rintro rfl
      cases hinside '[' List.mem_cons_self
  obtain ⟨c, cs, hcons, hc⟩ := hhead
  rw [hcons] at hkey ⊢
  rw [header]
  simp only [if_neg hc, hkey, Option.bind_some, if_true, hend]

theorem readsLine_header {name : String} {nameText before inside after trailing : List Char}
    (hname : NameText name nameText) (hbefore : AllBlank before) (hinside : AllBlank inside)
    (hafter : AllBlank after) (htrailing : Trailing trailing) :
    ReadsLine (before ++ '[' :: (inside ++ (nameText ++ (after ++ ']' :: trailing))))
      (·.mention (.header name)) := by
  intro progress tail rest hends
  have hheader := header_written hname hinside hafter (endLine?_trailing htrailing hends) progress
  simp only [List.append_assoc, List.cons_append]
  rw [line, skipBlanks_append hbefore, skipBlanks_cons rfl]
  exact hheader

def MentionLine.change (progress : Progress) (written : MentionLine) : Option Progress :=
  match written.mention? with
  | none => some progress
  | some mention => progress.mention mention

theorem readsLine_mentionLine (written : MentionLine) :
    ReadsLine written.text (MentionLine.change · written) := by
  obtain ⟨mention?, text, hwritten⟩ := written
  cases hwritten with
  | silent htext => exact readsLine_trailing htext
  | entry hlead hvalue htail => exact readsLine_entry hlead hvalue htail
  | header hname hbefore hinside hafter htail => exact readsLine_header hname hbefore hinside hafter htail

theorem foldlM_mentionLine (written : List MentionLine) (progress : Progress) :
    written.foldlM MentionLine.change progress = (mentions written).foldlM Progress.mention progress := by
  induction written generalizing progress with
  | nil => rfl
  | cons first rest ih =>
    rw [mentions, List.filterMap_cons, List.foldlM_cons, MentionLine.change]
    cases first.mention? with
    | none => exact ih progress
    | some mention =>
      rw [List.foldlM_cons]
      congr 1
      funext next
      exact ih next

theorem MentionText.head?_ne {mention? : Option Mention} {text : List Char} (h : MentionText mention? text) :
    text.head? ≠ some '\ufeff' := by
  have hblank : ∀ {blanks : List Char} {c : Char} (rest : List Char), AllBlank blanks → c ≠ '\ufeff' →
      (blanks ++ c :: rest).head? ≠ some '\ufeff' := by
    intro blanks c rest hblanks hc
    cases blanks with
    | nil => simpa using hc
    | cons b blanks =>
      intro heq
      have hb : b = '\ufeff' := by simpa using heq
      have hmark := hblanks b List.mem_cons_self
      rw [hb] at hmark
      cases hmark
  cases h with
  | silent htext =>
    intro hhead
    rcases htext.head?_cases hhead with hc | hc <;> cases hc
  | entry hlead hvalue htail =>
    obtain ⟨blanks, c, cs, hblanks, rfl, hhead, -⟩ := hlead.exists_cons
    rw [List.append_assoc]
    exact hblank _ hblanks (NameText.head_facts hhead).2.2.2.2
  | header hname hbefore hinside hafter htail => exact hblank _ hbefore (by decide)

/-- A stored document comes to what its lines say, one after the other. -/
theorem parse?_mentions {written : List MentionLine} {raw mark : List Char}
    (hbroken : Broken (feedJoined written) raw) (hmark : mark = [] ∨ mark = ['\ufeff']) :
    parse? (String.ofList (mark ++ raw)) =
      ((mentions written).foldlM Progress.mention {}).map Progress.entries := by
  have hhead : (feedJoined written).head? ≠ some '\ufeff' := by
    apply head?_intercalate_ne _ (by decide)
    intro text hmem
    obtain ⟨first, -, rfl⟩ := List.mem_map.1 hmem
    exact first.written.head?_ne
  have hlines : lines (feedJoined written).length {} (feedJoined written) =
      written.foldlM MentionLine.change {} :=
    lines_intercalate readsLine_mentionLine written {} (Nat.le_refl _)
  rw [parse?_broken hbroken hhead hmark, hlines, foldlM_mentionLine]

end DownloadSite.Toml
