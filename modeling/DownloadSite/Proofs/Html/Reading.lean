import DownloadSite.Proofs.Html.Outline

/-!
# Reading markup

A reader of documents takes one piece after another off the front of a text and undoes the escaping of texts
and values. Written markup is read back piece by piece (`readPiece?_chars`), so what is read up to an end tag
does not depend on what stands behind the tag (`readThrough?_chars`).
-/

namespace DownloadSite.Html

/-! ### Cutting at a character -/

/-- What stands before a character, and what stands behind it. -/
def cutAt? (d : Char) : List Char → Option (List Char × List Char)
  | [] => none
  | c :: cs => if c = d then some ([], cs) else (cutAt? d cs).map fun (part, rest) => (c :: part, rest)

theorem cutAt?_eq_some_iff {d : Char} {cs part rest : List Char} :
    cutAt? d cs = some (part, rest) ↔ d ∉ part ∧ cs = part ++ d :: rest := by
  constructor
  · intro h
    induction cs generalizing part with
    | nil => cases h
    | cons c cs ih =>
      rw [cutAt?] at h
      split at h
      case isTrue hc =>
        obtain ⟨rfl, rfl⟩ := Prod.mk.inj (Option.some.inj h)
        exact ⟨List.not_mem_nil, by rw [hc, List.nil_append]⟩
      case isFalse hc =>
        obtain ⟨⟨before, behind⟩, hcut, heq⟩ := Option.map_eq_some_iff.1 h
        obtain ⟨rfl, rfl⟩ := Prod.mk.inj heq
        obtain ⟨hmem, rfl⟩ := ih hcut
        exact ⟨by simp [Ne.symm hc, hmem], rfl⟩
  · rintro ⟨hmem, rfl⟩
    induction part with
    | nil => exact if_pos rfl
    | cons c part ih =>
      rw [List.mem_cons, not_or] at hmem
      rw [List.cons_append, cutAt?, if_neg (Ne.symm hmem.1), ih hmem.2]
      rfl

theorem cutAt?_append_cons {d : Char} {part : List Char} (h : d ∉ part) (rest : List Char) :
    cutAt? d (part ++ d :: rest) = some (part, rest) :=
  cutAt?_eq_some_iff.2 ⟨h, rfl⟩

theorem length_lt_of_cutAt? {d : Char} {cs part rest : List Char} (h : cutAt? d cs = some (part, rest)) :
    rest.length < cs.length := by
  rw [(cutAt?_eq_some_iff.1 h).2, List.length_append, List.length_cons]
  omega

/-! ### The reader -/

def readAttribute? (cs : List Char) : Option ((String × String) × List Char) :=
  match cutAt? '=' cs with
  | some (name, '"' :: quoted) =>
    (cutAt? '"' quoted).map fun (value, rest) =>
      ((String.ofList name, String.ofList (unescape value)), rest)
  | _ => none

theorem length_lt_of_readAttribute? {cs rest : List Char} {entry : String × String}
    (h : readAttribute? cs = some (entry, rest)) : rest.length < cs.length := by
  unfold readAttribute? at h
  split at h
  case h_1 name quoted hname =>
    obtain ⟨⟨value, others⟩, hvalue, heq⟩ := Option.map_eq_some_iff.1 h
    obtain ⟨-, rfl⟩ := Prod.mk.inj heq
    have hquoted : quoted.length + 1 < cs.length := length_lt_of_cutAt? hname
    have hrest : others.length < quoted.length := length_lt_of_cutAt? hvalue
    omega
  case h_2 => cases h

def readAttributes? (cs : List Char) : Option (List (String × String) × List Char) :=
  match cs with
  | '>' :: rest => some ([], rest)
  | ' ' :: cs =>
    match _h : readAttribute? cs with
    | some (entry, rest) => (readAttributes? rest).map fun (others, rest) => (entry :: others, rest)
    | none => none
  | _ => none
termination_by cs.length
decreasing_by exact Nat.lt_succ_of_lt (length_lt_of_readAttribute? _h)

theorem length_lt_of_readAttributes? {cs rest : List Char} {attributes : List (String × String)}
    (h : readAttributes? cs = some (attributes, rest)) : rest.length < cs.length := by
  induction cs using readAttributes?.induct generalizing attributes with
  | case1 others =>
    rw [readAttributes?] at h
    obtain ⟨-, rfl⟩ := Prod.mk.inj (Option.some.inj h)
    exact Nat.lt_succ_self _
  | case2 cs entry behind hentry ih =>
    rw [readAttributes?, hentry] at h
    obtain ⟨⟨others, tail⟩, hothers, heq⟩ := Option.map_eq_some_iff.1 h
    obtain ⟨-, rfl⟩ := Prod.mk.inj heq
    exact Nat.lt_succ_of_lt (Nat.lt_trans (ih hothers) (length_lt_of_readAttribute? hentry))
  | case3 cs hentry =>
    rw [readAttributes?, hentry] at h
    cases h
  | case4 cs hend hblank =>
    rw [readAttributes?] at h
    · cases h
    · exact hend
    · exact hblank

/-- Reads a tag or a declaration behind its opening bracket. -/
def readTag? : List Char → Option (Piece × List Char)
  | '!' :: cs =>
    (cutAt? '>' cs).map fun (content, rest) =>
      (.raw (String.ofList ('<' :: '!' :: content ++ ['>'])), rest)
  | '/' :: cs => (cutAt? '>' cs).map fun (name, rest) => (.closeTag (String.ofList name), rest)
  | cs =>
    (readAttributes? (cs.dropWhile Char.isAlphanum)).map fun (attributes, rest) =>
      (.openTag (String.ofList (cs.takeWhile Char.isAlphanum)) attributes, rest)

/-- Reads one piece: a tag, a declaration, or the text up to the next of these. -/
def readPiece? : List Char → Option (Piece × List Char)
  | [] => none
  | '<' :: cs => readTag? cs
  | c :: cs =>
    (cutAt? '<' cs).map fun (content, rest) =>
      (.text (String.ofList (unescape (c :: content))), '<' :: rest)

theorem length_lt_of_readTag? {cs rest : List Char} {p : Piece} (h : readTag? cs = some (p, rest)) :
    rest.length < cs.length := by
  unfold readTag? at h
  split at h
  all_goals
    obtain ⟨⟨part, tail⟩, hpart, heq⟩ := Option.map_eq_some_iff.1 h
    obtain ⟨-, rfl⟩ := Prod.mk.inj heq
  · exact Nat.lt_succ_of_lt (length_lt_of_cutAt? hpart)
  · exact Nat.lt_succ_of_lt (length_lt_of_cutAt? hpart)
  · exact Nat.lt_of_lt_of_le (length_lt_of_readAttributes? hpart) (List.dropWhile_sublist _).length_le

theorem length_lt_of_readPiece? {cs rest : List Char} {p : Piece} (h : readPiece? cs = some (p, rest)) :
    rest.length < cs.length := by
  unfold readPiece? at h
  split at h
  · cases h
  · exact Nat.lt_succ_of_lt (length_lt_of_readTag? h)
  · obtain ⟨⟨content, tail⟩, hcontent, heq⟩ := Option.map_eq_some_iff.1 h
    obtain ⟨-, rfl⟩ := Prod.mk.inj heq
    exact Nat.succ_lt_succ (length_lt_of_cutAt? hcontent)

/-- Reads the pieces before the end tag of the given name. -/
def readThrough? (name : String) (cs : List Char) : Option (Markup × List Char) :=
  match _h : readPiece? cs with
  | none => none
  | some (p, rest) =>
    if p = .closeTag name then some ([], rest)
    else (readThrough? name rest).map fun (m, tail) => (p :: m, tail)
termination_by cs.length
decreasing_by exact length_lt_of_readPiece? _h

/-! ### Reading what is written -/

def isWord (name : String) : Bool := !name.toList.isEmpty && name.toList.all Char.isAlphanum

/-- A piece whose written form is recognised: names are words, a text is not empty, and raw markup is a
declaration. -/
def Piece.IsLegible : Piece → Prop
  | .openTag name attributes => (isWord name && attributes.all fun entry => isWord entry.1) = true
  | .closeTag name => isWord name = true
  | .text content => content ≠ ""
  | .raw content => ∃ cs, '>' ∉ cs ∧ content = String.ofList ('<' :: '!' :: cs ++ ['>'])

theorem alphanumeric_of_isWord {name : String} (h : isWord name = true) :
    ∀ c ∈ name.toList, c.isAlphanum = true := by
  rw [isWord, Bool.and_eq_true, List.all_eq_true] at h
  exact h.2

theorem exists_cons_of_isWord {name : String} (h : isWord name = true) :
    ∃ c cs, name.toList = c :: cs ∧ c.isAlphanum = true := by
  match hname : name.toList with
  | [] => simp [isWord, hname] at h
  | c :: cs => exact ⟨c, cs, rfl, alphanumeric_of_isWord h c (by simp [hname])⟩

theorem notMem_of_isWord {name : String} (h : isWord name = true) {d : Char}
    (hd : d.isAlphanum = false) : d ∉ name.toList := by
  intro hmem
  rw [alphanumeric_of_isWord h d hmem] at hd
  cases hd

theorem readAttribute?_append {entry : String × String} (h : isWord entry.1 = true) (rest : List Char) :
    readAttribute? (entry.1.toList ++ '=' :: '"' :: (escape entry.2.toList ++ '"' :: rest)) =
      some (entry, rest) := by
  have hname := cutAt?_append_cons (notMem_of_isWord h (by decide : '='.isAlphanum = false))
    ('"' :: (escape entry.2.toList ++ '"' :: rest))
  have hvalue := cutAt?_append_cons (not_mem_escape (by decide : '"' ∈ ['<', '>', '"']) entry.2.toList) rest
  simp [readAttribute?, hname, hvalue, unescape_escape]

theorem readAttributes?_append {attributes : List (String × String)}
    (h : (attributes.all fun entry => isWord entry.1) = true) (rest : List Char) :
    readAttributes? (attributes.flatMap attributeChars ++ '>' :: rest) = some (attributes, rest) := by
  induction attributes with
  | nil => exact readAttributes?.eq_1 rest
  | cons entry others ih =>
    rw [List.all_cons, Bool.and_eq_true] at h
    have hchars : (entry :: others).flatMap attributeChars ++ '>' :: rest =
        ' ' :: (entry.1.toList ++ '=' :: '"' :: (escape entry.2.toList ++
          '"' :: (others.flatMap attributeChars ++ '>' :: rest))) := by
      simp [attributeChars]
    rw [hchars, readAttributes?, readAttribute?_append h.1]
    simp only [ih h.2, Option.map_some]

/-- The name of a tag ends where its attributes begin. -/
theorem takeWhile_dropWhile_name {name : String} (h : isWord name = true)
    (attributes : List (String × String)) (rest : List Char) :
    let cs := name.toList ++ (attributes.flatMap attributeChars ++ '>' :: rest)
    cs.takeWhile Char.isAlphanum = name.toList ∧
      cs.dropWhile Char.isAlphanum = attributes.flatMap attributeChars ++ '>' :: rest := by
  intro cs
  have hname := alphanumeric_of_isWord h
  rw [List.takeWhile_append_of_pos hname, List.dropWhile_append_of_pos hname]
  cases attributes with
  | nil => simp
  | cons entry others => simp [attributeChars]

theorem readTag?_openTag {name : String} {attributes : List (String × String)}
    (h : (Piece.openTag name attributes).IsLegible) (rest : List Char) :
    readTag? (name.toList ++ (attributes.flatMap attributeChars ++ '>' :: rest)) =
      some (.openTag name attributes, rest) := by
  obtain ⟨hname, hattributes⟩ := Bool.and_eq_true_iff.1 h
  obtain ⟨c, cs, hcs, hc⟩ := exists_cons_of_isWord hname
  obtain ⟨htake, hdrop⟩ := takeWhile_dropWhile_name hname attributes rest
  have hmarks : c ≠ '!' ∧ c ≠ '/' := by
    constructor <;> rintro rfl <;> exact absurd hc (by decide)
  have hread : readTag? (name.toList ++ (attributes.flatMap attributeChars ++ '>' :: rest)) =
      (readAttributes? (attributes.flatMap attributeChars ++ '>' :: rest)).map fun (attributes, rest) =>
        (.openTag name attributes, rest) := by
    rw [readTag?, hdrop, htake, String.ofList_toList] <;> simp [hcs, hmarks]
  rw [hread, readAttributes?_append hattributes]
  rfl

theorem readPiece?_text {content : String} (h : content ≠ "") (rest : List Char) :
    readPiece? (escape content.toList ++ '<' :: rest) = some (.text content, '<' :: rest) := by
  have hmem := not_mem_escape (by decide : '<' ∈ ['<', '>', '"']) content.toList
  have hcontent := unescape_escape content.toList
  match hescape : escape content.toList with
  | [] =>
    rw [hescape] at hcontent
    exact absurd (String.toList_inj.1 hcontent.symm) h
  | c :: cs =>
    rw [hescape, List.mem_cons, not_or] at hmem
    rw [hescape] at hcontent
    rw [List.cons_append, readPiece?, cutAt?_append_cons hmem.2]
    · simp only [Option.map_some, hcontent, String.ofList_toList]
    · exact Ne.symm hmem.1

theorem readPiece?_chars {p : Piece} (h : p.IsLegible) {rest : List Char}
    (htext : ∀ content, p = .text content → ∃ cs, rest = '<' :: cs) :
    readPiece? (p.chars ++ rest) = some (p, rest) := by
  cases p with
  | openTag name attributes =>
    have htag := readTag?_openTag h rest
    simpa [Piece.chars, readPiece?] using htag
  | closeTag name =>
    have hname := cutAt?_append_cons (notMem_of_isWord h (by decide : '>'.isAlphanum = false)) rest
    simp [Piece.chars, readPiece?, readTag?, hname]
  | text content =>
    obtain ⟨tagged, rfl⟩ := htext content rfl
    exact readPiece?_text h tagged
  | raw content =>
    obtain ⟨cs, hcs, rfl⟩ := h
    simp [Piece.chars, readPiece?, readTag?, cutAt?_append_cons hcs rest]

theorem isSeparated_of_cons {p : Piece} {m : Markup} (h : isSeparated (p :: m) = true) :
    isSeparated m = true := by
  cases p with
  | text content => exact (Bool.and_eq_true_iff.1 h).2
  | _ => exact h

/-- What stands before an end tag is read whatever follows the tag. -/
theorem readThrough?_chars {name : String} {m : Markup}
    (hname : isWord name = true) (hlegible : ∀ p ∈ m, p.IsLegible) (hmem : .closeTag name ∉ m)
    (hseparated : isSeparated (m ++ [.closeTag name]) = true) (tail : List Char) :
    readThrough? name (chars m ++ (Piece.closeTag name).chars ++ tail) = some (m, tail) := by
  induction m with
  | nil =>
    have hend : readPiece? ((Piece.closeTag name).chars ++ tail) = some (.closeTag name, tail) :=
      readPiece?_chars (p := .closeTag name) hname fun _ h => Piece.noConfusion h
    rw [chars_nil, List.nil_append, readThrough?, hend]
    exact if_pos rfl
  | cons p m ih =>
    rw [List.forall_mem_cons] at hlegible
    rw [List.mem_cons, not_or] at hmem
    have hrest : isSeparated (m ++ [.closeTag name]) = true := isSeparated_of_cons hseparated
    have hbegins : ∀ content, p = .text content →
        ∃ cs, chars m ++ (Piece.closeTag name).chars ++ tail = '<' :: cs := by
      rintro content rfl
      rw [List.cons_append, isSeparated, Bool.and_eq_true] at hseparated
      obtain ⟨cs, hcs⟩ := exists_of_beginsWithTag hseparated.1
      refine ⟨cs ++ tail, ?_⟩
      rw [← List.cons_append, ← hcs, chars_append, chars_cons, chars_nil, List.append_nil]
    have hpiece := readPiece?_chars hlegible.1 hbegins
    rw [chars_cons, List.append_assoc, List.append_assoc, ← List.append_assoc (chars m), readThrough?,
      hpiece]
    simp only [if_neg (Ne.symm hmem.1), ih hlegible.2 hmem.2 hrest, Option.map_some]

end DownloadSite.Html
