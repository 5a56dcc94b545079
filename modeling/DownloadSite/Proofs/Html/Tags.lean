import DownloadSite.Html.Markup

/-!
# The tags of a text

A tag of a text reaches from an angle bracket that opens to the next one that closes, without what it has
between double quotes. Markup whose names are free of brackets and quotes, and whose raw pieces close the
tags they open, has in its written form the tags of its pieces and no others (`tagSequence_render`): no text
or value adds one, removes one or changes one.
-/

namespace DownloadSite.Html

/-! ### The tags of any text -/

/-- The characters up to the next closing bracket, the bracket included. -/
def throughBracket : List Char → List Char
  | [] => []
  | c :: rest => if c = '>' then ['>'] else c :: throughBracket rest

/-- What stands outside double quotes, and the quotes; the flag says whether the text begins inside. -/
def withoutQuoted : Bool → List Char → List Char
  | _, [] => []
  | inside, c :: rest =>
    if c = '"' then c :: withoutQuoted (!inside) rest
    else if inside then withoutQuoted inside rest
    else c :: withoutQuoted inside rest

/-- The tags of characters in order, each from an opening bracket to the next closing one and without what
it has between double quotes. -/
def tags : List Char → List String
  | [] => []
  | c :: rest =>
    if c = '<' then String.ofList (withoutQuoted false (c :: throughBracket rest)) :: tags rest
    else tags rest

def tagSequence (text : String) : List String := tags text.toList

theorem tags_append_of_notMem {cs : List Char} (h : '<' ∉ cs) (rest : List Char) :
    tags (cs ++ rest) = tags rest := by
  induction cs with
  | nil => rfl
  | cons c cs ih =>
    rw [List.mem_cons, not_or] at h
    rw [List.cons_append, tags, if_neg (Ne.symm h.1), ih h.2]

theorem throughBracket_append {cs : List Char} (h : '>' ∉ cs) (rest : List Char) :
    throughBracket (cs ++ '>' :: rest) = cs ++ ['>'] := by
  induction cs with
  | nil => rfl
  | cons c cs ih =>
    rw [List.mem_cons, not_or] at h
    rw [List.cons_append, throughBracket, if_neg (Ne.symm h.1), ih h.2, List.cons_append]

theorem throughBracket_append_of_mem {cs : List Char} (h : '>' ∈ cs) (rest : List Char) :
    throughBracket (cs ++ rest) = throughBracket cs := by
  induction cs with
  | nil => cases h
  | cons c cs ih =>
    by_cases hc : c = '>'
    · simp [throughBracket, hc]
    · have hmem : '>' ∈ cs := (List.mem_cons.1 h).resolve_left (Ne.symm hc)
      rw [List.cons_append, throughBracket, throughBracket, if_neg hc, if_neg hc, ih hmem]

theorem tags_tag (cs : List Char) (hopen : '<' ∉ cs) (hclose : '>' ∉ cs) (rest : List Char) :
    tags ('<' :: cs ++ '>' :: rest) =
      String.ofList (withoutQuoted false ('<' :: cs ++ ['>'])) :: tags rest := by
  have hskip : tags (cs ++ '>' :: rest) = tags rest := by
    have hmem : '<' ∉ cs ++ ['>'] := by simp [hopen]
    simpa using tags_append_of_notMem hmem rest
  rw [List.cons_append, tags, if_pos rfl, throughBracket_append hclose, hskip]
  rfl

theorem withoutQuoted_append {cs : List Char} (h : '"' ∉ cs) (rest : List Char) :
    withoutQuoted false (cs ++ rest) = cs ++ withoutQuoted false rest := by
  induction cs with
  | nil => rfl
  | cons c cs ih =>
    rw [List.mem_cons, not_or] at h
    rw [List.cons_append, withoutQuoted, if_neg (Ne.symm h.1), if_neg (by decide), ih h.2]
    rfl

theorem withoutQuoted_quoted {cs : List Char} (h : '"' ∉ cs) (rest : List Char) :
    withoutQuoted true (cs ++ '"' :: rest) = '"' :: withoutQuoted false rest := by
  induction cs with
  | nil => rfl
  | cons c cs ih =>
    rw [List.mem_cons, not_or] at h
    rw [List.cons_append, withoutQuoted, if_neg (Ne.symm h.1), if_pos rfl, ih h.2]

/-! ### The tags of markup -/

def emptyAttribute (entry : String × String) : String := " " ++ entry.1 ++ "=\"\""

/-- The tag that a piece is written as, if it is one, without values; raw markup may hold several. -/
def Piece.tags : Piece → List String
  | .openTag name attributes => ["<" ++ name ++ String.join (attributes.map emptyAttribute) ++ ">"]
  | .closeTag name => ["</" ++ name ++ ">"]
  | .text _ => []
  | .raw content => tagSequence content

def markupTags (m : Markup) : List String := m.flatMap Piece.tags

def isPlainName (name : String) : Bool :=
  !name.toList.contains '<' && !name.toList.contains '>' && !name.toList.contains '"'

def closesTags : List Char → Bool
  | [] => true
  | c :: rest => (c ≠ '<' || rest.contains '>') && closesTags rest

/-- Can the tags of the piece be told from what stands beside it? -/
def Piece.isPlain : Piece → Bool
  | .openTag name attributes => isPlainName name && attributes.all fun entry => isPlainName entry.1
  | .closeTag name => isPlainName name
  | .text _ => true
  | .raw content => closesTags content.toList

theorem notMem_of_isPlainName {name : String} (h : isPlainName name = true) :
    '<' ∉ name.toList ∧ '>' ∉ name.toList ∧ '"' ∉ name.toList := by
  simpa [isPlainName, and_assoc] using h

theorem tags_append_of_closesTags {cs : List Char} (h : closesTags cs = true) (rest : List Char) :
    tags (cs ++ rest) = tags cs ++ tags rest := by
  induction cs with
  | nil => rfl
  | cons c cs ih =>
    rw [closesTags, Bool.and_eq_true, Bool.or_eq_true] at h
    rw [List.cons_append, tags, tags, ih h.2]
    by_cases hc : c = '<'
    · have hmem : '>' ∈ cs := by simpa [hc] using h.1
      simp [hc, throughBracket_append_of_mem hmem]
    · simp [hc]

theorem closesTags_of_notMem {cs : List Char} (h : '<' ∉ cs) : closesTags cs = true := by
  induction cs with
  | nil => rfl
  | cons c cs ih =>
    rw [List.mem_cons, not_or] at h
    simp [closesTags, ih h.2, Ne.symm h.1]

theorem tagSequence_of_notMem {content : String} (h : '<' ∉ content.toList) : tagSequence content = [] := by
  have htags := tags_append_of_notMem h []
  rwa [List.append_nil] at htags

/-- Attributes bring no bracket into their tag, and their values are all that is quoted there. -/
theorem attributes_facts {attributes : List (String × String)}
    (h : (attributes.all fun entry => isPlainName entry.1) = true) :
    '<' ∉ attributes.flatMap attributeChars ∧ '>' ∉ attributes.flatMap attributeChars ∧
      ∀ rest, withoutQuoted false (attributes.flatMap attributeChars ++ rest) =
        (String.join (attributes.map emptyAttribute)).toList ++ withoutQuoted false rest := by
  induction attributes with
  | nil => exact ⟨List.not_mem_nil, List.not_mem_nil, fun _ => rfl⟩
  | cons entry others ih =>
    rw [List.all_cons, Bool.and_eq_true] at h
    obtain ⟨hopen, hclose, hquoted⟩ := ih h.2
    obtain ⟨hopen', hclose', hquote⟩ := notMem_of_isPlainName h.1
    have hvalue := fun d hd => not_mem_escape (d := d) hd entry.2.toList
    refine ⟨?_, ?_, ?_⟩
    · simp [attributeChars, hopen, hopen', hvalue]
    · simp [attributeChars, hclose, hclose', hvalue]
    · intro rest
      have hname : '"' ∉ ' ' :: entry.1.toList ++ ['='] := by simp [hquote]
      calc withoutQuoted false ((entry :: others).flatMap attributeChars ++ rest)
          = withoutQuoted false ((' ' :: entry.1.toList ++ ['=']) ++ '"' ::
              (escape entry.2.toList ++ '"' :: (others.flatMap attributeChars ++ rest))) := by
            simp [attributeChars]
        _ = (' ' :: entry.1.toList ++ ['=']) ++ '"' :: '"' ::
              ((String.join (others.map emptyAttribute)).toList ++ withoutQuoted false rest) := by
            rw [withoutQuoted_append hname, withoutQuoted, if_pos rfl, Bool.not_false,
              withoutQuoted_quoted (hvalue _ (by decide)), hquoted]
        _ = (String.join ((entry :: others).map emptyAttribute)).toList ++ withoutQuoted false rest := by
            simp [emptyAttribute]

theorem Piece.tags_append {p : Piece} (h : p.isPlain = true) (rest : List Char) :
    Html.tags (p.chars ++ rest) = p.tags ++ Html.tags rest := by
  cases p with
  | openTag name attributes =>
    rw [Piece.isPlain, Bool.and_eq_true] at h
    obtain ⟨hopen, hclose, hquote⟩ := notMem_of_isPlainName h.1
    obtain ⟨hopen', hclose', hquoted⟩ := attributes_facts h.2
    have htag := tags_tag (name.toList ++ attributes.flatMap attributeChars)
      (by simp [hopen, hopen']) (by simp [hclose, hclose']) rest
    have hname : '"' ∉ '<' :: name.toList := by simp [hquote]
    have hstripped : withoutQuoted false
        ('<' :: (name.toList ++ attributes.flatMap attributeChars) ++ ['>']) =
        ("<" ++ name ++ String.join (attributes.map emptyAttribute) ++ ">").toList := by
      rw [← List.cons_append, List.append_assoc, withoutQuoted_append hname, hquoted]
      simp [withoutQuoted]
    rw [hstripped, String.ofList_toList] at htag
    simpa [Piece.chars, Piece.tags] using htag
  | closeTag name =>
    obtain ⟨hopen, hclose, hquote⟩ := notMem_of_isPlainName h
    have htag := tags_tag ('/' :: name.toList) (by simp [hopen]) (by simp [hclose]) rest
    have hname : '"' ∉ '<' :: '/' :: name.toList ++ ['>'] := by simp [hquote]
    have hstripped : withoutQuoted false ('<' :: '/' :: name.toList ++ ['>']) =
        ("</" ++ name ++ ">").toList := by
      simpa [withoutQuoted] using withoutQuoted_append hname []
    rw [hstripped, String.ofList_toList] at htag
    simpa [Piece.chars, Piece.tags] using htag
  | text content => exact tags_append_of_notMem (not_mem_escape (by decide) _) rest
  | raw content => exact tags_append_of_closesTags h rest

/-- The written form has the tags of the pieces and no others. -/
theorem tagSequence_render {m : Markup} (h : m.all Piece.isPlain = true) :
    tagSequence (render m) = markupTags m := by
  rw [tagSequence, toList_render]
  induction m with
  | nil => rfl
  | cons p rest ih =>
    rw [List.all_cons, Bool.and_eq_true] at h
    rw [chars_cons, Piece.tags_append h.1, ih h.2]
    rfl

end DownloadSite.Html
