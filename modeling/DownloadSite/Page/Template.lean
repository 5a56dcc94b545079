import DownloadSite.Html.Markup
import DownloadSite.Links

/-!
# Templates

The content of a page before it is known where its links lead. Filling a template asks for the address
of each of its targets, in the order of the document.
-/

namespace DownloadSite

open Html

inductive Part where
  | markup (content : Markup)
  /-- A link whose address is still to be asked for. -/
  | link (target : Target) (label : Markup)

abbrev Template := List Part

namespace Part

def targets : Part → List Target
  | .markup _ => []
  | .link target _ => [target]

/-- The markup of a part once its target's address is known. -/
def fill (links : Links) : Part → Markup
  | .markup content => content
  | .link target label => anchor (links target) label

end Part

def Template.element (name : String) (content : Template) : Template :=
  .markup [.openTag name []] :: content ++ [.markup [.closeTag name]]

def Template.targets (template : Template) : List Target := template.flatMap Part.targets

def Template.fill (template : Template) (links : Links) : Markup :=
  template.flatMap (Part.fill links)

end DownloadSite
