/-!
# Heights of expressions

How deep an expression nests. A character or a place has no height; a group, a repetition or a class is
one higher than what it contains, and so is a row of several parts.
-/

namespace DownloadSite.Text.Pattern

/-- The greatest height that an expression may have. -/
def maxHeight : Nat := 250

/-- The height of a row, given those of its parts. A part alone is no row. -/
def rowHeight : List Nat → Nat
  | [] => 0
  | [height] => height
  | heights => heights.foldl max 0 + 1

end DownloadSite.Text.Pattern
