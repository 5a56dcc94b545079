import DownloadSite.Toml.Blank

/-!
# Line ends

A text with line feeds only may be stored with either line end at each of its line breaks. Reading brings
back the line feeds (`unifyLineEnds?_of_broken`), and it does so part by part
(`unifyLineEnds?_append`).
-/

namespace DownloadSite.Toml

/-- The second text is the first one with a line end of either kind for each line feed. -/
inductive Broken : List Char → List Char → Prop where
  | nil : Broken [] []
  | char (c : Char) (cs raw : List Char) (hreturn : c ≠ '\r') (hfeed : c ≠ '\n')
      (hrest : Broken cs raw) : Broken (c :: cs) (c :: raw)
  | feed (cs raw : List Char) (hrest : Broken cs raw) : Broken ('\n' :: cs) ('\n' :: raw)
  | returnFeed (cs raw : List Char) (hrest : Broken cs raw) :
      Broken ('\n' :: cs) ('\r' :: '\n' :: raw)

theorem unifyLineEnds?_cons {c : Char} (h : c ≠ '\r') (rest : List Char) :
    unifyLineEnds? (c :: rest) = (unifyLineEnds? rest).map (c :: ·) := by
  rw [unifyLineEnds?.eq_3, if_neg h]
  rintro _ rfl
  exact absurd rfl h

theorem unifyLineEnds?_of_broken {cs raw : List Char} (h : Broken cs raw) :
    unifyLineEnds? raw = some cs := by
  induction h with
  | nil => rfl
  | char c cs raw hreturn hfeed hrest ih => rw [unifyLineEnds?_cons hreturn, ih, Option.map_some]
  | feed cs raw hrest ih => rw [unifyLineEnds?_cons (by decide), ih, Option.map_some]
  | returnFeed cs raw hrest ih => rw [unifyLineEnds?, ih, Option.map_some]

theorem broken_of_unifyLineEnds? {raw cs : List Char} (h : unifyLineEnds? raw = some cs) :
    Broken cs raw := by
  fun_induction unifyLineEnds? raw generalizing cs with
  | case1 =>
    cases h
    exact .nil
  | case2 rest ih =>
    obtain ⟨inner, hinner, rfl⟩ := Option.map_eq_some_iff.1 h
    exact .returnFeed inner rest (ih hinner)
  | case3 rest hbreak => cases h
  | case4 c rest hbreak hreturn ih =>
    obtain ⟨inner, hinner, rfl⟩ := Option.map_eq_some_iff.1 h
    by_cases hfeed : c = '\n'
    · subst hfeed
      exact .feed inner rest (ih hinner)
    · exact .char c inner rest hreturn hfeed (ih hinner)

theorem unifyLineEnds?_of_notMem {cs : List Char} (h : '\r' ∉ cs) :
    unifyLineEnds? cs = some cs := by
  induction cs with
  | nil => rfl
  | cons c rest ih =>
    rw [List.mem_cons, not_or] at h
    rw [unifyLineEnds?_cons (Ne.symm h.1), ih h.2, Option.map_some]

/-- A first part that is accepted ends no line in the middle. -/
theorem unifyLineEnds?_append {first unified : List Char}
    (h : unifyLineEnds? first = some unified) (second : List Char) :
    unifyLineEnds? (first ++ second) = (unifyLineEnds? second).map (unified ++ ·) := by
  fun_induction unifyLineEnds? first generalizing unified with
  | case1 =>
    cases h
    simp
  | case2 rest ih =>
    obtain ⟨inner, hinner, rfl⟩ := Option.map_eq_some_iff.1 h
    rw [List.cons_append, List.cons_append, unifyLineEnds?, ih hinner]
    simp [Function.comp_def]
  | case3 rest hbreak => cases h
  | case4 c rest hbreak hreturn ih =>
    obtain ⟨inner, hinner, rfl⟩ := Option.map_eq_some_iff.1 h
    rw [List.cons_append, unifyLineEnds?_cons hreturn, ih hinner]
    simp [Function.comp_def]

theorem dropByteOrderMark_of_ne {cs : List Char} (h : cs.head? ≠ some '\ufeff') :
    dropByteOrderMark cs = cs := by
  cases cs with
  | nil => rfl
  | cons c rest =>
    have hc : c ≠ '\ufeff' := by simpa using h
    rw [dropByteOrderMark, if_neg hc]

theorem dropByteOrderMark_append {c : Char} (hc : c ≠ '\ufeff') (first second : List Char) :
    dropByteOrderMark (first ++ c :: second) = dropByteOrderMark first ++ c :: second := by
  cases first with
  | nil => simp [dropByteOrderMark, hc]
  | cons a rest =>
    rw [List.cons_append, dropByteOrderMark, dropByteOrderMark]
    split
    · rfl
    · rfl

end DownloadSite.Toml
