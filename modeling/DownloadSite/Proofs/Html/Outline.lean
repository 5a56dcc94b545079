import Mathlib.Data.List.Basic
import DownloadSite.Html.Markup

/-!
# The outline of markup

What stays of markup without its texts and the values of its attributes is its outline; the texts and values
are its slots. The outline alone decides the frame of the written form, the characters between which the
escaped slots stand (`render_eq_fill`, `frame_outline`). Where a tag follows every text, markup of a known
outline can be read back from its written form (`eq_of_chars_eq`).
-/

namespace DownloadSite.Html

/-! ### Reading escaped text -/

/-- Undoes the escaping of a text. -/
def unescape : List Char → List Char
  | '&' :: 'a' :: 'm' :: 'p' :: ';' :: rest => '&' :: unescape rest
  | '&' :: 'l' :: 't' :: ';' :: rest => '<' :: unescape rest
  | '&' :: 'g' :: 't' :: ';' :: rest => '>' :: unescape rest
  | '&' :: 'q' :: 'u' :: 'o' :: 't' :: ';' :: rest => '"' :: unescape rest
  | c :: rest => c :: unescape rest
  | [] => []

theorem unescape_escapeChar (c : Char) (rest : List Char) :
    unescape (escapeChar c ++ rest) = c :: unescape rest := by
  by_cases hc : c ∈ ['&', '<', '>', '"']
  · simp only [List.mem_cons, List.not_mem_nil, or_false] at hc
    rcases hc with rfl | rfl | rfl | rfl <;> simp [escapeChar, unescape]
  · have hne : c ≠ '&' := fun h => hc (by simp [h])
    rw [escapeChar_eq_self hc]
    simp [unescape, hne]

theorem unescape_escape (cs : List Char) : unescape (escape cs) = cs := by
  induction cs with
  | nil => rfl
  | cons c rest ih => rw [escape_cons, unescape_escapeChar, ih]

theorem escape_injective : Function.Injective escape :=
  Function.LeftInverse.injective unescape_escape

theorem append_cons_inj_of_notMem_left {d : Char} {cs ds rest others : List Char} (hc : d ∉ cs)
    (hd : d ∉ ds) (h : cs ++ d :: rest = ds ++ d :: others) : cs = ds ∧ rest = others := by
  induction cs generalizing ds with
  | nil =>
    cases ds with
    | nil => exact ⟨rfl, (List.cons.inj h).2⟩
    | cons x ds => exact absurd (by rw [(List.cons.inj h).1]; exact List.mem_cons_self) hd
  | cons c cs ih =>
    cases ds with
    | nil => exact absurd (by rw [← (List.cons.inj h).1]; exact List.mem_cons_self) hc
    | cons x ds =>
      obtain ⟨rfl, htail⟩ := List.cons.inj h
      obtain ⟨rfl, hrest⟩ := ih (List.not_mem_of_not_mem_cons hc) (List.not_mem_of_not_mem_cons hd) htail
      exact ⟨rfl, hrest⟩

/-- An escaped text ends where the first bracket or quote stands. -/
theorem escape_append_cons_inj {d : Char} (hd : d ∈ ['<', '>', '"']) {cs ds rest others : List Char}
    (h : escape cs ++ d :: rest = escape ds ++ d :: others) : cs = ds ∧ rest = others := by
  obtain ⟨hescape, hrest⟩ :=
    append_cons_inj_of_notMem_left (not_mem_escape hd cs) (not_mem_escape hd ds) h
  exact ⟨escape_injective hescape, hrest⟩

/-! ### Outlines and slots -/

namespace Piece

/-- A piece without its text or values. -/
def outline : Piece → Piece
  | .openTag name attributes => .openTag name (attributes.map fun entry => (entry.1, ""))
  | .closeTag name => .closeTag name
  | .text _ => .text ""
  | .raw content => .raw content

/-- The text or the values of a piece. -/
def slots : Piece → List String
  | .openTag _ attributes => attributes.map Prod.snd
  | .closeTag _ => []
  | .text content => [content]
  | .raw _ => []

end Piece

/-- Markup without its texts and values. -/
def outline (m : Markup) : Markup := m.map Piece.outline

/-- The texts and values of markup in the order in which they are written. -/
def slots (m : Markup) : List String := m.flatMap Piece.slots

/-! ### Frames -/

/-- What stands before the first slot, and what stands behind each slot. -/
structure Frame where
  first : String
  behind : List String

namespace Frame

def fill (frame : Frame) (texts : List String) : String :=
  frame.first ++ String.join (List.zipWith (· ++ ·) texts frame.behind)

def precede (text : String) (frame : Frame) : Frame := { frame with first := text ++ frame.first }

def addSlot (frame : Frame) : Frame := { first := "", behind := frame.first :: frame.behind }

@[simp] theorem fill_precede (text : String) (frame : Frame) (texts : List String) :
    (frame.precede text).fill texts = text ++ frame.fill texts := by
  simp [fill, precede, String.append_assoc]

@[simp] theorem fill_addSlot (frame : Frame) (text : String) (texts : List String) :
    frame.addSlot.fill (text :: texts) = text ++ frame.fill texts := by
  simp [fill, addSlot, String.append_assoc]

def ofNames (names : List String) (rest : Frame) : Frame :=
  names.foldr (fun name rest => ((rest.precede "\"").addSlot).precede (" " ++ name ++ "=\"")) rest

end Frame

/-- The frame of a piece before that of what follows it. -/
def Piece.frame (rest : Frame) : Piece → Frame
  | .openTag name attributes =>
    (Frame.ofNames (attributes.map Prod.fst) (rest.precede ">")).precede ("<" ++ name)
  | .closeTag name => rest.precede ("</" ++ name ++ ">")
  | .text _ => rest.addSlot
  | .raw content => rest.precede content

def frame (m : Markup) : Frame := m.foldr (fun p rest => p.frame rest) { first := "", behind := [] }

/-- A text or value as it is written. -/
def written (content : String) : String := String.ofList (escape content.toList)

@[simp] theorem toList_written (content : String) : (written content).toList = escape content.toList := by
  simp [written]

theorem Frame.toList_fill_ofNames (attributes : List (String × String)) (rest : Frame)
    (texts : List String) :
    ((Frame.ofNames (attributes.map Prod.fst) rest).fill
        ((attributes.map Prod.snd).map written ++ texts)).toList =
      attributes.flatMap attributeChars ++ (rest.fill texts).toList := by
  induction attributes with
  | nil => rfl
  | cons entry others ih =>
    rw [List.map_cons, List.map_cons, List.map_cons, List.cons_append, Frame.ofNames, List.foldr_cons,
      ← Frame.ofNames, Frame.fill_precede, Frame.fill_addSlot, Frame.fill_precede]
    simpa [attributeChars] using ih

theorem Piece.toList_fill_frame (p : Piece) (rest : Frame) (texts : List String) :
    ((p.frame rest).fill (p.slots.map written ++ texts)).toList = p.chars ++ (rest.fill texts).toList := by
  cases p with
  | openTag name attributes =>
    rw [Piece.frame, Piece.slots, Frame.fill_precede, String.toList_append, Frame.toList_fill_ofNames,
      Frame.fill_precede]
    simp [Piece.chars]
  | closeTag name => simp [Piece.frame, Piece.slots, Piece.chars]
  | text content => simp [Piece.frame, Piece.slots, Piece.chars]
  | raw content => simp [Piece.frame, Piece.slots, Piece.chars]

/-- The written form is the frame with the escaped texts and values in it. -/
theorem render_eq_fill (m : Markup) : render m = (frame m).fill ((slots m).map written) := by
  rw [← String.toList_inj, toList_render]
  induction m with
  | nil => rfl
  | cons p rest ih =>
    rw [slots, List.flatMap_cons, List.map_append, frame, List.foldr_cons, Piece.toList_fill_frame,
      chars_cons, ih]
    rfl

theorem Piece.frame_outline (p : Piece) (rest : Frame) : p.outline.frame rest = p.frame rest := by
  cases p with
  | openTag name attributes => simp [Piece.frame, Piece.outline, Function.comp_def]
  | _ => rfl

theorem frame_outline (m : Markup) : frame (outline m) = frame m := by
  simp [frame, outline, List.foldr_map, Piece.frame_outline]

@[simp] theorem Frame.length_behind_ofNames (names : List String) (rest : Frame) :
    (Frame.ofNames names rest).behind.length = names.length + rest.behind.length := by
  induction names with
  | nil => simp [Frame.ofNames]
  | cons name names ih =>
    rw [Frame.ofNames, List.foldr_cons, ← Frame.ofNames]
    simp only [Frame.precede, Frame.addSlot, List.length_cons, ih]
    omega

theorem length_behind_frame (m : Markup) : (frame m).behind.length = (slots m).length := by
  induction m with
  | nil => rfl
  | cons p rest ih =>
    rw [frame, List.foldr_cons, ← frame, slots, List.flatMap_cons, ← slots, List.length_append, ← ih]
    cases p with
    | openTag name attributes => simp [Piece.frame, Piece.slots, Frame.precede]
    | closeTag name => simp [Piece.frame, Piece.slots, Frame.precede]
    | text content =>
      simp only [Piece.frame, Piece.slots, Frame.addSlot, List.length_cons, List.length_nil]
      omega
    | raw content => simp [Piece.frame, Piece.slots, Frame.precede]

/-! ### Reading the slots back -/

def beginsWithTag : Markup → Bool
  | .openTag .. :: _ | .closeTag _ :: _ => true
  | _ => false

/-- Is every text followed by a tag? -/
def isSeparated : Markup → Bool
  | [] => true
  | .text _ :: rest => beginsWithTag rest && isSeparated rest
  | _ :: rest => isSeparated rest

theorem exists_of_beginsWithTag {m : Markup} (h : beginsWithTag m = true) :
    ∃ rest, chars m = '<' :: rest := by
  match m, h with
  | .openTag .. :: _, _ => exact ⟨_, rfl⟩
  | .closeTag _ :: _, _ => exact ⟨_, rfl⟩

theorem beginsWithTag_outline (m : Markup) : beginsWithTag (outline m) = beginsWithTag m := by
  match m with
  | [] => rfl
  | p :: _ => cases p <;> rfl

theorem attributes_eq_of_chars_eq {attributes others : List (String × String)} {rest tail : List Char}
    (hnames : attributes.map Prod.fst = others.map Prod.fst)
    (h : attributes.flatMap attributeChars ++ '>' :: rest = others.flatMap attributeChars ++ '>' :: tail) :
    attributes = others ∧ rest = tail := by
  induction attributes generalizing others with
  | nil =>
    obtain rfl : others = [] := List.map_eq_nil_iff.1 hnames.symm
    exact ⟨rfl, (List.cons.inj h).2⟩
  | cons entry attributes ih =>
    obtain ⟨name, value⟩ := entry
    match others, hnames with
    | (other, value') :: others, hnames =>
      obtain ⟨rfl, htail⟩ := List.cons.inj hnames
      simp only [List.flatMap_cons, attributeChars, List.cons_append, List.append_assoc, List.cons.injEq,
        true_and, List.nil_append, List.append_cancel_left_eq] at h
      obtain ⟨hvalue, hrest⟩ := escape_append_cons_inj (by decide) h
      obtain ⟨rfl, rfl⟩ := ih htail hrest
      obtain rfl := String.toList_inj.1 hvalue
      exact ⟨rfl, rfl⟩

/-- Markup of one outline, a tag behind every text of it, is written alike only if it is the same. -/
theorem eq_of_chars_eq {m n : Markup} (houtline : outline m = outline n)
    (hseparated : isSeparated m = true) (h : chars m = chars n) : m = n := by
  induction m generalizing n with
  | nil => exact (List.map_eq_nil_iff.1 houtline.symm).symm
  | cons p rest ih =>
    match n, houtline with
    | q :: tail, houtline =>
      obtain ⟨hpiece, htail⟩ := List.cons.inj houtline
      have hrest : outline rest = outline tail := htail
      simp only [chars_cons] at h
      cases p with
      | openTag name attributes =>
        cases q with
        | openTag other others =>
          obtain ⟨rfl, hnames⟩ := Piece.openTag.inj hpiece
          have hnames' : attributes.map Prod.fst = others.map Prod.fst := by
            simpa [Function.comp_def] using congrArg (List.map Prod.fst) hnames
          simp only [Piece.chars, List.cons_append, List.append_assoc, List.cons.injEq, true_and,
            List.nil_append, List.append_cancel_left_eq] at h
          obtain ⟨rfl, hchars⟩ := attributes_eq_of_chars_eq hnames' h
          rw [ih hrest hseparated hchars]
        | _ => cases hpiece
      | closeTag name =>
        cases q with
        | closeTag other =>
          cases hpiece
          rw [ih hrest hseparated (List.append_cancel_left h)]
        | _ => cases hpiece
      | text content =>
        cases q with
        | text other =>
          rw [isSeparated, Bool.and_eq_true] at hseparated
          have hbegins : beginsWithTag tail = true := by
            rw [← beginsWithTag_outline, ← hrest, beginsWithTag_outline]
            exact hseparated.1
          obtain ⟨cs, hcs⟩ := exists_of_beginsWithTag hseparated.1
          obtain ⟨ds, hds⟩ := exists_of_beginsWithTag hbegins
          simp only [Piece.chars, hcs, hds] at h
          obtain ⟨hcontent, rfl⟩ := escape_append_cons_inj (by decide) h
          rw [String.toList_inj.1 hcontent, ih hrest hseparated.2 (hcs.trans hds.symm)]
        | _ => cases hpiece
      | raw content =>
        cases q with
        | raw other =>
          cases hpiece
          rw [ih hrest hseparated (List.append_cancel_left h)]
        | _ => cases hpiece

/-! ### Joining texts -/

/-- Puts a piece before markup; two texts become one. -/
def join : Piece → Markup → Markup
  | .text content, .text other :: rest => .text (content ++ other) :: rest
  | p, rest => p :: rest

/-- Markup with the texts between two tags joined. -/
def joined (m : Markup) : Markup := m.foldr join []

theorem chars_join (p : Piece) (m : Markup) : chars (join p m) = p.chars ++ chars m := by
  unfold join
  split
  · simp [Piece.chars]
  · rfl

theorem chars_joined (m : Markup) : chars (joined m) = chars m := by
  induction m with
  | nil => rfl
  | cons p rest ih => rw [joined, List.foldr_cons, ← joined, chars_join, ih, chars_cons]

theorem outline_join (p : Piece) (m : Markup) :
    outline (join p m) = join p.outline (outline m) := by
  match p, m with
  | .text _, .text _ :: _ => rfl
  | .text _, .openTag .. :: _ => rfl
  | .text _, .closeTag _ :: _ => rfl
  | .text _, .raw _ :: _ => rfl
  | .text _, [] => rfl
  | .openTag .., _ => rfl
  | .closeTag _, _ => rfl
  | .raw _, _ => rfl

theorem outline_joined (m : Markup) : outline (joined m) = joined (outline m) := by
  induction m with
  | nil => rfl
  | cons p rest ih =>
    rw [joined, List.foldr_cons, ← joined, outline_join, ih]
    rfl

end DownloadSite.Html
