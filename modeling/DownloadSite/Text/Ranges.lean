/-!
# Ranges of characters

A class of characters is given by the ranges of their code points.
-/

namespace DownloadSite.Text

/-- Ranges of code points, each from its first to its last member. -/
abbrev Ranges := List (Nat × Nat)

def Ranges.has (ranges : Ranges) (n : Nat) : Bool :=
  ranges.any fun range => range.1 ≤ n && n ≤ range.2

end DownloadSite.Text
