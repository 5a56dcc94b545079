import DownloadSite.Toml.Document

/-!
# Readers in front of a line feed

What is read does not depend on what comes after the line: a reader that found something finds the same
if a line feed and any other text follow (`Stable`). The readers of strings, keys, words, lists, tables
and values are all stable, and so a whole document that is read can be continued
(`lines_append_feed`): reading goes on behind the line feed with the entries and the table where it stood.
A longer text is read with more fuel, and fuel that is left over does no harm.
-/

namespace DownloadSite.Toml

/-- A reader that found something finds the same if a line feed and more follow. -/
def Stable {alpha : Type} (reader : Reader alpha) : Prop :=
  ∀ {cs : List Char} {found : alpha} {rest : List Char}, reader cs = some (found, rest) →
    ∀ more : List Char, reader (cs ++ '\n' :: more) = some (found, rest ++ '\n' :: more)

/-- What is made of a found value does not touch what follows it. -/
theorem map_append_feed {alpha beta : Type} {f : alpha → beta}
    {found longer : Option (alpha × List Char)} {more : List Char}
    (hlonger : ∀ {a : alpha} {rest : List Char}, found = some (a, rest) →
      longer = some (a, rest ++ '\n' :: more))
    {b : beta} {rest : List Char} (h : (found.map fun (a, rest) => (f a, rest)) = some (b, rest)) :
    (longer.map fun (a, rest) => (f a, rest)) = some (b, rest ++ '\n' :: more) := by
  obtain ⟨⟨a, after⟩, hfound, heq⟩ := Option.map_eq_some_iff.1 h
  cases heq
  rw [hlonger hfound]
  rfl

/-! ### Classes of characters -/

theorem takeWhile_append_feed {p : Char → Bool} (hp : p '\n' = false) (cs more : List Char) :
    (cs ++ '\n' :: more).takeWhile p = cs.takeWhile p := by
  induction cs with
  | nil => simp [hp]
  | cons c cs ih =>
    rw [List.cons_append, List.takeWhile_cons, List.takeWhile_cons, ih]

theorem dropWhile_append_feed {p : Char → Bool} (hp : p '\n' = false) (cs more : List Char) :
    (cs ++ '\n' :: more).dropWhile p = cs.dropWhile p ++ '\n' :: more := by
  induction cs with
  | nil => simp [hp]
  | cons c cs ih =>
    rw [List.cons_append, List.dropWhile_cons, List.dropWhile_cons, ih]
    split
    · rfl
    · rfl

theorem skipBlanks_append_feed (cs more : List Char) :
    skipBlanks (cs ++ '\n' :: more) = skipBlanks cs ++ '\n' :: more :=
  dropWhile_append_feed rfl cs more

theorem skipComment_append_feed (cs more : List Char) :
    skipComment (cs ++ '\n' :: more) = skipComment cs ++ '\n' :: more := by
  cases cs with
  | nil => rfl
  | cons c cs =>
    rw [List.cons_append, skipComment, skipComment, dropWhile_append_feed rfl]
    split
    · rfl
    · rfl

/-- A gap that something follows is the same gap in a longer text. -/
theorem skipGap_append {comment : Bool} {cs : List Char} {c : Char} {rest : List Char}
    (h : skipGap comment cs = c :: rest) (more : List Char) :
    skipGap comment (cs ++ more) = c :: (rest ++ more) := by
  fun_induction skipGap comment cs with
  | case1 => cases h
  | case2 comment cs ih =>
    rw [List.cons_append, skipGap, if_pos rfl]
    exact ih h
  | case3 d cs hfeed htext ih =>
    rw [List.cons_append, skipGap, if_neg hfeed, if_pos rfl, if_pos htext]
    exact ih h
  | case4 d cs hfeed htext =>
    cases h
    rw [List.cons_append, skipGap, if_neg hfeed, if_pos rfl, if_neg htext]
  | case5 comment d cs hfeed hcomment hblank ih =>
    rw [List.cons_append, skipGap, if_neg hfeed, if_neg hcomment, if_pos hblank]
    exact ih h
  | case6 comment cs hfeed hcomment hblank ih =>
    rw [List.cons_append, skipGap, if_neg hfeed, if_neg hcomment, if_neg hblank, if_pos rfl]
    exact ih h
  | case7 comment d cs hfeed hcomment hblank hhash =>
    cases h
    rw [List.cons_append, skipGap, if_neg hfeed, if_neg hcomment, if_neg hblank, if_neg hhash]

/-! ### Strings -/

theorem close?_append_feed {extent : Extent} {quote : Char} (hquote : quote ≠ '\n')
    (rest more : List Char) :
    extent.close? quote (rest ++ '\n' :: more) =
      (extent.close? quote rest).map fun (own, after) => (own, after ++ '\n' :: more) := by
  cases extent with
  | line => rfl
  | lines =>
    rcases rest with _ | ⟨a, _ | ⟨b, tail⟩⟩
    · cases more <;> simp [Extent.close?, hquote.symm]
    · simp [Extent.close?, hquote.symm]
    · simp only [Extent.close?, List.cons_append]
      split
      · have hown : ((tail ++ '\n' :: more).take 2).takeWhile (· = quote) =
            (tail.take 2).takeWhile (· = quote) := by
          rcases tail with _ | ⟨c, _ | ⟨d, tail⟩⟩
          · simp [hquote.symm]
          · simp [List.takeWhile_cons, hquote.symm]
          · rfl
        have hlength : ((tail.take 2).takeWhile (· = quote)).length ≤ tail.length :=
          Nat.le_trans (List.takeWhile_sublist _).length_le (List.length_take_le' 2 tail)
        rw [hown, List.drop_append_of_le_length hlength]
        rfl
      · rfl

/-- An escape, if the same is known of everything that may stand behind it. -/
theorem escape_append_feed {extent : Extent} {cs more : List Char}
    (hshorter : ∀ (fold : Fold) {cs' : List Char}, cs'.length ≤ cs.length →
      ∀ {content rest : List Char}, escapedBody extent fold cs' = some (content, rest) →
        escapedBody extent fold (cs' ++ '\n' :: more) = some (content, rest ++ '\n' :: more))
    {fold : Fold} (hbegun : fold ≠ .begun) {content rest : List Char}
    (h : escapedBody extent fold ('\\' :: cs) = some (content, rest)) :
    escapedBody extent fold ('\\' :: (cs ++ '\n' :: more)) =
      some (content, rest ++ '\n' :: more) := by
  have hdone : ¬ (fold = .done ∧ (isBlank '\\' = true ∨ '\\' = '\n')) := by
    rintro ⟨-, hblank | hfeed⟩
    · cases hblank
    · revert hfeed
      decide
  have hquote : '\\' ≠ '"' := by decide
  rw [escapedBody.eq_def] at h ⊢
  simp only [if_neg hbegun, if_neg hdone, if_neg hquote, if_true] at h ⊢
  cases cs with
  | nil => cases h
  | cons letter cs =>
    have hcs : ∀ fold : Fold, ∀ {content rest : List Char},
        escapedBody extent fold cs = some (content, rest) →
          escapedBody extent fold (cs ++ '\n' :: more) = some (content, rest ++ '\n' :: more) :=
      fun fold => hshorter fold (by simp)
    simp only [List.cons_append] at h ⊢
    split at h
    · next hu =>
      rw [if_pos hu]
      split at h
      · next d1 d2 d3 d4 cs =>
        obtain ⟨c, hc, h⟩ := Option.bind_eq_some_iff.1 h
        simp only [List.cons_append, hc, Option.bind_some]
        exact map_append_feed (hshorter .none (by simp only [List.length_cons]; omega)) h
      · cases h
    · next hu =>
      rw [if_neg hu]
      split at h
      · next hU =>
        rw [if_pos hU]
        split at h
        · next d1 d2 d3 d4 d5 d6 d7 d8 cs =>
          obtain ⟨c, hc, h⟩ := Option.bind_eq_some_iff.1 h
          simp only [List.cons_append, hc, Option.bind_some]
          exact map_append_feed (hshorter .none (by simp only [List.length_cons]; omega)) h
        · cases h
      · next hU =>
        rw [if_neg hU]
        split at h
        · next hfeed =>
          rw [if_pos hfeed]
          exact hcs .done h
        · next hfeed =>
          rw [if_neg hfeed]
          split at h
          · next hblank =>
            rw [if_pos hblank]
            exact hcs .begun h
          · next hblank =>
            rw [if_neg hblank]
            obtain ⟨c, hc, h⟩ := Option.bind_eq_some_iff.1 h
            rw [hc, Option.bind_some]
            exact map_append_feed (hcs .none) h

theorem stable_escapedBody (extent : Extent) (fold : Fold) : Stable (escapedBody extent fold) := by
  intro cs content rest h more
  induction hlength : cs.length using Nat.strongRecOn generalizing fold cs content rest with
  | ind n ih =>
    cases cs with
    | nil => cases h
    | cons c cs =>
      rw [List.length_cons] at hlength
      have hshorter : ∀ (fold : Fold) {cs' : List Char}, cs'.length ≤ cs.length →
          ∀ {content rest : List Char}, escapedBody extent fold cs' = some (content, rest) →
            escapedBody extent fold (cs' ++ '\n' :: more) =
              some (content, rest ++ '\n' :: more) := by
        intro fold cs' hle content rest hread
        exact ih cs'.length (by omega) fold hread rfl
      rw [List.cons_append]
      by_cases hbegun : fold = .begun
      · rw [escapedBody.eq_def] at h ⊢
        simp only [if_pos hbegun] at h ⊢
        split at h
        · next hfeed =>
          rw [if_pos hfeed]
          exact hshorter .done (Nat.le_refl _) h
        · next hfeed =>
          split at h
          · next hblank =>
            rw [if_neg hfeed, if_pos hblank]
            exact hshorter .begun (Nat.le_refl _) h
          · cases h
      · by_cases hbackslash : c = '\\'
        · subst hbackslash
          exact escape_append_feed hshorter hbegun h
        · rw [escapedBody.eq_def] at h ⊢
          simp only [if_neg hbegun, if_neg hbackslash] at h ⊢
          split at h
          · next hdone =>
            rw [if_pos hdone]
            exact hshorter .done (Nat.le_refl _) h
          · next hdone =>
            rw [if_neg hdone]
            split at h
            · next hquote =>
              rw [if_pos hquote, close?_append_feed (by decide)]
              cases hclose : extent.close? '"' cs with
              | none =>
                simp only [hclose, Option.map_none] at h ⊢
                exact map_append_feed (hshorter .none (Nat.le_refl _)) h
              | some found =>
                simp only [hclose, Option.map_some] at h ⊢
                cases h
                rfl
            · next hquote =>
              split at h
              · next htext =>
                rw [if_neg hquote, if_pos htext]
                exact map_append_feed (hshorter .none (Nat.le_refl _)) h
              · cases h

theorem stable_literalBody (extent : Extent) : Stable (literalBody extent) := by
  intro cs content rest h more
  have hquote : '\'' ≠ '\n' := by decide
  fun_induction literalBody extent cs generalizing content rest with
  | case1 => cases h
  | case2 cs found hclose =>
    cases h
    rw [List.cons_append, literalBody, if_pos rfl, close?_append_feed hquote, hclose]
    rfl
  | case3 cs hclose ih =>
    rw [List.cons_append, literalBody, if_pos rfl, close?_append_feed hquote, hclose]
    exact map_append_feed ih h
  | case4 c cs hsingle htext ih =>
    rw [List.cons_append, literalBody, if_neg hsingle, if_pos htext]
    exact map_append_feed ih h
  | case5 => cases h

theorem stable_lineString : Stable lineString := by
  intro cs content rest h more
  cases cs with
  | nil => cases h
  | cons c cs =>
    rw [lineString] at h
    rw [List.cons_append, lineString]
    split at h
    · next hdouble =>
      rw [if_pos hdouble]
      exact stable_escapedBody _ _ h more
    · next hdouble =>
      split at h
      · next hsingle =>
        rw [if_neg hdouble, if_pos hsingle]
        exact stable_literalBody _ h more
      · cases h

theorem dropFirstLineEnd_append {cs : List Char} (hne : cs ≠ []) (more : List Char) :
    dropFirstLineEnd (cs ++ more) = dropFirstLineEnd cs ++ more := by
  obtain ⟨c, cs, rfl⟩ := List.exists_cons_of_ne_nil hne
  rw [List.cons_append, dropFirstLineEnd, dropFirstLineEnd]
  split
  · rfl
  · rfl

/-- A line feed behind a text does not complete three quotes at its beginning. -/
theorem append_feed_ne {quote : Char} (hquote : quote ≠ '\n') {cs : List Char}
    (h : ∀ rest, cs ≠ quote :: quote :: quote :: rest) (more rest : List Char) :
    cs ++ '\n' :: more ≠ quote :: quote :: quote :: rest := by
  intro heq
  rcases cs with _ | ⟨a, _ | ⟨b, _ | ⟨c, cs⟩⟩⟩
  · exact hquote (List.cons.inj heq).1.symm
  · exact hquote (List.cons.inj (List.cons.inj heq).2).1.symm
  · exact hquote (List.cons.inj (List.cons.inj (List.cons.inj heq).2).2).1.symm
  · simp only [List.cons_append, List.cons.injEq] at heq
    obtain ⟨rfl, rfl, rfl, -⟩ := heq
    exact h cs rfl

theorem stable_string : Stable string := by
  intro cs content rest h more
  rw [string.eq_def] at h
  split at h
  · next cs =>
    have hne : cs ≠ [] := by
      rintro rfl
      cases h
    simp only [List.cons_append]
    rw [string, dropFirstLineEnd_append hne]
    exact stable_escapedBody _ _ h more
  · next cs =>
    have hne : cs ≠ [] := by
      rintro rfl
      cases h
    simp only [List.cons_append]
    rw [string, dropFirstLineEnd_append hne]
    exact stable_literalBody _ h more
  · next hdouble hsingle =>
    rw [string.eq_def]
    split
    · next heq => exact absurd heq (append_feed_ne (by decide) hdouble more _)
    · next heq => exact absurd heq (append_feed_ne (by decide) hsingle more _)
    · exact stable_lineString h more

/-! ### Keys and words -/

theorem stable_keyName : Stable keyName := by
  intro cs name rest h more
  cases cs with
  | nil => cases h
  | cons c cs =>
    rw [keyName] at h
    rw [List.cons_append, keyName]
    split at h
    · next hquote =>
      rw [if_pos hquote, ← List.cons_append]
      exact map_append_feed (fun hread => stable_lineString hread more) h
    · next hquote =>
      split at h
      · next hbare =>
        cases h
        rw [if_neg hquote, if_pos hbare, takeWhile_append_feed rfl, dropWhile_append_feed rfl]
      · cases h

theorem stable_keyUpTo (limit : Nat) : Stable (keyUpTo limit) := by
  induction limit with
  | zero =>
    intro cs key rest h
    cases h
  | succ limit ih =>
    intro cs found rest h more
    rw [keyUpTo] at h
    rw [keyUpTo, skipBlanks_append_feed]
    obtain ⟨⟨name, after⟩, hname, h⟩ := Option.bind_eq_some_iff.1 h
    rw [stable_keyName hname more, Option.bind_some]
    simp only [skipBlanks_append_feed]
    cases hskip : skipBlanks after with
    | nil =>
      simp only [hskip] at h
      cases h
      rfl
    | cons c after =>
      simp only [hskip] at h
      simp only [List.cons_append]
      split at h
      · next hdot =>
        rw [if_pos hdot]
        exact map_append_feed (f := fun key : Key => (⟨name :: key.parents, key.last⟩ : Key))
          (fun hkey => ih hkey more) h
      · next hdot =>
        cases h
        rw [if_neg hdot]
        rfl

theorem stable_key : Stable key := stable_keyUpTo maxDepth

theorem spacedMoment?_append_feed (date : Date) (cs more : List Char) :
    spacedMoment? date (cs ++ '\n' :: more) =
      (spacedMoment? date cs).map fun (moment, rest) => (moment, rest ++ '\n' :: more) := by
  cases cs with
  | nil => rfl
  | cons c cs =>
    rw [List.cons_append, spacedMoment?, spacedMoment?, takeWhile_append_feed rfl,
      dropWhile_append_feed rfl]
    split
    · rw [Option.map_map]
      rfl
    · rfl

theorem stable_word : Stable word := by
  intro cs node rest h more
  have hdated : ∀ found : Option Date,
      (found.bind fun date => spacedMoment? date (cs.dropWhile isWordChar ++ '\n' :: more)) =
        (found.bind fun date => spacedMoment? date (cs.dropWhile isWordChar)).map
          fun (moment, rest) => (moment, rest ++ '\n' :: more) := by
    intro found
    cases found with
    | none => rfl
    | some date => exact spacedMoment?_append_feed date _ more
  simp only [word] at h ⊢
  rw [takeWhile_append_feed rfl, dropWhile_append_feed rfl, hdated]
  split at h
  · next moment after hmoment =>
    cases h
    rw [hmoment]
    rfl
  · next hmoment =>
    obtain ⟨found, hword, heq⟩ := Option.map_eq_some_iff.1 h
    cases heq
    rw [hmoment, hword]
    rfl

theorem stable_simpleValue : Stable simpleValue := by
  intro cs node rest h more
  cases cs with
  | nil => cases h
  | cons c cs =>
    rw [simpleValue] at h
    rw [List.cons_append, simpleValue]
    split at h
    · next hquote =>
      rw [if_pos hquote, ← List.cons_append]
      exact map_append_feed (f := fun content => Node.text (String.ofList content))
        (fun hread => stable_string hread more) h
    · next hquote =>
      rw [if_neg hquote, ← List.cons_append]
      exact stable_word h more

/-! ### Lists and tables -/

theorem items_append_feed {item : Reader Node} (hitem : Stable item) {fuel spare : Nat}
    {cs : List Char} {nodes : List Node} {rest : List Char}
    (h : items item fuel cs = some (nodes, rest)) (more : List Char) :
    items item (fuel + spare) (cs ++ '\n' :: more) = some (nodes, rest ++ '\n' :: more) := by
  induction fuel generalizing cs nodes rest with
  | zero => cases h
  | succ fuel ih =>
    rw [items] at h
    rw [Nat.add_right_comm, items]
    cases hgap : skipGap false cs with
    | nil =>
      simp only [hgap] at h
      cases h
    | cons c after =>
      simp only [hgap] at h
      simp only [skipGap_append hgap]
      split at h
      · next hclose =>
        cases h
        rw [if_pos hclose]
      · next hclose =>
        rw [if_neg hclose]
        obtain ⟨⟨node, last⟩, hnode, h⟩ := Option.bind_eq_some_iff.1 h
        rw [← List.cons_append, hitem hnode more, Option.bind_some]
        cases hnext : skipGap false last with
        | nil =>
          simp only [hnext] at h
          cases h
        | cons d last =>
          simp only [hnext] at h
          simp only [skipGap_append hnext]
          split at h
          · next hcomma =>
            rw [if_pos hcomma]
            exact map_append_feed ih h
          · next hcomma =>
            split at h
            · next hend =>
              cases h
              rw [if_neg hcomma, if_pos hend]
            · cases h

theorem stable_pair {value : Reader Node} (hvalue : Stable value) : Stable (pair value) := by
  intro cs found rest h more
  obtain ⟨⟨key, after⟩, hkey, h⟩ := Option.bind_eq_some_iff.1 h
  rw [pair, stable_key hkey more, Option.bind_some]
  cases after with
  | nil => cases h
  | cons c after =>
    simp only [List.cons_append] at h ⊢
    split at h
    · next hequals =>
      rw [if_pos hequals, skipBlanks_append_feed]
      exact map_append_feed (fun hnode => hvalue hnode more) h
    · cases h

theorem pairs_append_feed {value : Reader Node} (hvalue : Stable value) {fuel spare : Nat}
    {entries filled : Entries} {cs rest : List Char}
    (h : pairs value fuel entries cs = some (filled, rest)) (more : List Char) :
    pairs value (fuel + spare) entries (cs ++ '\n' :: more) =
      some (filled, rest ++ '\n' :: more) := by
  induction fuel generalizing entries cs with
  | zero => cases h
  | succ fuel ih =>
    rw [pairs] at h
    rw [Nat.add_right_comm, pairs]
    obtain ⟨⟨⟨key, node⟩, after⟩, hpair, h⟩ := Option.bind_eq_some_iff.1 h
    obtain ⟨next, hassign, h⟩ := Option.bind_eq_some_iff.1 h
    rw [stable_pair hvalue hpair more]
    simp only [Option.bind_some, hassign, skipBlanks_append_feed]
    cases hskip : skipBlanks after with
    | nil =>
      simp only [hskip] at h
      cases h
    | cons c last =>
      simp only [hskip] at h
      simp only [List.cons_append]
      split at h
      · next hcomma =>
        rw [if_pos hcomma]
        exact ih h
      · next hcomma =>
        split at h
        · next hclose =>
          cases h
          rw [if_neg hcomma, if_pos hclose]
        · cases h

theorem stable_inlineTable {value : Reader Node} (hvalue : Stable value) :
    Stable (inlineTable value) := by
  intro cs entries rest h more
  rw [inlineTable] at h
  rw [inlineTable, skipBlanks_append_feed]
  cases hskip : skipBlanks cs with
  | nil =>
    simp only [hskip] at h
    cases h
  | cons c after =>
    simp only [hskip] at h
    simp only [List.cons_append]
    split at h
    · next hclose =>
      cases h
      rw [if_pos hclose]
    · next hclose =>
      have hlength : (cs ++ '\n' :: more).length + 1 = cs.length + 1 + ('\n' :: more).length := by
        rw [List.length_append]
        omega
      rw [if_neg hclose, hlength]
      exact pairs_append_feed hvalue h more

theorem stable_valueUpTo (depth : Nat) : Stable (valueUpTo depth) := by
  induction depth with
  | zero => exact stable_simpleValue
  | succ depth ih =>
    intro cs node rest h more
    cases cs with
    | nil => cases h
    | cons c cs =>
      rw [valueUpTo] at h
      rw [List.cons_append, valueUpTo]
      split at h
      · next hsquare =>
        have hlength : (cs ++ '\n' :: more).length + 1 = cs.length + 1 + ('\n' :: more).length := by
          rw [List.length_append]
          omega
        rw [if_pos hsquare, hlength]
        exact map_append_feed (fun hitems => items_append_feed ih hitems more) h
      · next hsquare =>
        split at h
        · next hbrace =>
          rw [if_neg hsquare, if_pos hbrace]
          exact map_append_feed (fun htable => stable_inlineTable ih htable more) h
        · next hbrace =>
          rw [if_neg hsquare, if_neg hbrace]
          exact stable_simpleValue h more

theorem stable_value : Stable value := stable_valueUpTo maxDepth

/-! ### Lines -/

/-- A line that is continued goes on behind the line feed, which ends either this line or, where the
line has an end of its own, a later one. -/
def Continues (rest more after : List Char) : Prop :=
  after = rest ++ '\n' :: more ∨ (rest = [] ∧ after = more)

theorem endLine?_append_feed {cs rest : List Char} (h : endLine? cs = some rest) (more : List Char) :
    ∃ after, endLine? (cs ++ '\n' :: more) = some after ∧ Continues rest more after := by
  rw [endLine?] at h
  rw [endLine?, skipBlanks_append_feed, skipComment_append_feed]
  cases hskip : skipComment (skipBlanks cs) with
  | nil =>
    simp only [hskip] at h
    cases h
    exact ⟨more, rfl, .inr ⟨rfl, rfl⟩⟩
  | cons c last =>
    simp only [hskip] at h
    split at h
    · next hfeed =>
      cases h
      exact ⟨_, by rw [List.cons_append]; simp only [if_pos hfeed], .inl rfl⟩
    · cases h

/-- The common end of a header and of a pair: the line ends, and the change that it makes is possible. -/
theorem finish_append_feed {changed : Option Progress} {cs rest : List Char} {next : Progress}
    (h : ((endLine? cs).bind fun rest => changed.map fun progress => (progress, rest)) =
      some (next, rest)) (more : List Char) :
    ∃ after, ((endLine? (cs ++ '\n' :: more)).bind fun rest =>
        changed.map fun progress => (progress, rest)) = some (next, after) ∧
      Continues rest more after := by
  obtain ⟨hend, hchanged⟩ := finish_eq_some.1 h
  obtain ⟨after, hafter, hcontinues⟩ := endLine?_append_feed hend more
  exact ⟨after, finish_eq_some.2 ⟨hafter, hchanged⟩, hcontinues⟩

theorem header_append_feed {progress next : Progress} {cs rest : List Char}
    (h : header progress cs = some (next, rest)) (more : List Char) :
    ∃ after, header progress (cs ++ '\n' :: more) = some (next, after) ∧
      Continues rest more after := by
  cases cs with
  | nil => cases h
  | cons c cs =>
    rw [header] at h
    rw [List.cons_append, header]
    split at h
    · next hsquare =>
      obtain ⟨⟨key, last⟩, hkey, h⟩ := Option.bind_eq_some_iff.1 h
      rw [if_pos hsquare, stable_key hkey more, Option.bind_some]
      rcases last with _ | ⟨a, _ | ⟨b, last⟩⟩
      · cases h
      · cases h
      · simp only [List.cons_append] at h ⊢
        split at h
        · next hclose =>
          rw [if_pos hclose]
          exact finish_append_feed h more
        · cases h
    · next hsquare =>
      obtain ⟨⟨key, last⟩, hkey, h⟩ := Option.bind_eq_some_iff.1 h
      rw [if_neg hsquare, ← List.cons_append, stable_key hkey more, Option.bind_some]
      cases last with
      | nil => cases h
      | cons a last =>
        simp only [List.cons_append] at h ⊢
        split at h
        · next hclose =>
          rw [if_pos hclose]
          exact finish_append_feed h more
        · cases h

theorem line_append_feed {progress next : Progress} {cs rest : List Char}
    (h : line progress cs = some (next, rest)) (more : List Char) :
    ∃ after, line progress (cs ++ '\n' :: more) = some (next, after) ∧
      Continues rest more after := by
  rw [line] at h
  rw [line, skipBlanks_append_feed]
  cases hskip : skipBlanks cs with
  | nil =>
    simp only [hskip] at h
    cases h
    exact ⟨more, rfl, .inr ⟨rfl, rfl⟩⟩
  | cons c last =>
    simp only [hskip] at h
    simp only [List.cons_append]
    split at h
    · next hsilent =>
      obtain ⟨final, hend, heq⟩ := Option.map_eq_some_iff.1 h
      cases heq
      obtain ⟨after, hafter, hcontinues⟩ := endLine?_append_feed hend more
      refine ⟨after, ?_, hcontinues⟩
      rw [if_pos hsilent, ← List.cons_append, hafter, Option.map_some]
    · next hsilent =>
      split at h
      · next hsquare =>
        rw [if_neg hsilent, if_pos hsquare]
        exact header_append_feed h more
      · next hsquare =>
        obtain ⟨⟨⟨key, node⟩, tail⟩, hpair, h⟩ := Option.bind_eq_some_iff.1 h
        rw [if_neg hsilent, if_neg hsquare, ← List.cons_append,
          stable_pair stable_value hpair more, Option.bind_some]
        exact finish_append_feed h more

/-! ### Documents -/

/-- A document that is read can be continued behind a line feed. -/
theorem lines_append_feed {fuel : Nat} {progress last : Progress} {cs : List Char}
    (h : lines fuel progress cs = some last) (more : List Char) (spare : Nat) :
    ∃ left, spare ≤ left ∧
      lines (fuel + spare + 1) progress (cs ++ '\n' :: more) = lines left last more := by
  induction fuel generalizing progress cs with
  | zero =>
    cases cs with
    | nil =>
      cases h
      exact ⟨spare, Nat.le_refl _, by rw [Nat.zero_add]; rfl⟩
    | cons c cs => cases h
  | succ fuel ih =>
    cases cs with
    | nil =>
      cases h
      exact ⟨fuel + 1 + spare, by omega, rfl⟩
    | cons c cs =>
      rw [lines] at h
      obtain ⟨⟨next, rest⟩, hline, h⟩ := Option.bind_eq_some_iff.1 h
      obtain ⟨after, hafter, hcontinues⟩ := line_append_feed hline more
      have hfuel : fuel + 1 + spare + 1 = fuel + spare + 1 + 1 := by omega
      have h : lines fuel next rest = some last := h
      rw [hfuel, lines_of_line (by simp) hafter]
      rcases hcontinues with rfl | ⟨rfl, rfl⟩
      · exact ih h
      · rw [lines_nil] at h
        cases h
        exact ⟨fuel + spare + 1, by omega, rfl⟩

end DownloadSite.Toml
