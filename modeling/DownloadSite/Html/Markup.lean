import DownloadSite.Html.Escape

/-!
# Markup

A piece of a document is the sequence of tags and texts that it is written with, without any blank
between them. Texts and attribute values are escaped where they are written; `raw` markup is written
as it is.
-/

namespace DownloadSite.Html

inductive Piece where
  /-- A start tag with its attributes in order. -/
  | openTag (name : String) (attributes : List (String × String))
  | closeTag (name : String)
  /-- Text, to be escaped. -/
  | text (content : String)
  /-- Markup in its written form. -/
  | raw (content : String)
  deriving DecidableEq, Repr

abbrev Markup := List Piece

/-- An attribute in its written form, with the blank before it. -/
def attributeChars (entry : String × String) : List Char :=
  ' ' :: entry.1.toList ++ '=' :: '"' :: escape entry.2.toList ++ ['"']

def Piece.chars : Piece → List Char
  | .openTag name attributes => '<' :: name.toList ++ attributes.flatMap attributeChars ++ ['>']
  | .closeTag name => '<' :: '/' :: name.toList ++ ['>']
  | .text content => escape content.toList
  | .raw content => content.toList

def chars (markup : Markup) : List Char := markup.flatMap Piece.chars

def render (markup : Markup) : String := String.ofList (chars markup)

@[simp] theorem chars_nil : chars [] = [] := rfl

@[simp] theorem chars_cons (p : Piece) (m : Markup) : chars (p :: m) = p.chars ++ chars m := rfl

@[simp] theorem chars_append (m n : Markup) : chars (m ++ n) = chars m ++ chars n := by
  simp [chars]

@[simp] theorem toList_render (m : Markup) : (render m).toList = chars m := by
  simp [render]

/-! ### Common markup -/

def text (content : String) : Markup := [.text content]

def raw (content : String) : Markup := [.raw content]

def element (name : String) (attributes : List (String × String)) (content : Markup) : Markup :=
  .openTag name attributes :: content ++ [.closeTag name]

/-- An element that has no content and no end tag. -/
def void (name : String) (attributes : List (String × String)) : Markup :=
  [.openTag name attributes]

def classed (name class_ : String) (content : Markup) : Markup :=
  element name [("class", class_)] content

def anchor (address : String) (label : Markup) : Markup :=
  element "a" [("href", address)] label

end DownloadSite.Html
