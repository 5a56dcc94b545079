import DownloadSite.Text.Ranges

/-!
# White space

The characters that count as blank space in all scripts. A text without any of them stays as it is when the
white space around it is cut off (`trim_eq_self`).
-/

namespace DownloadSite.Text

def spaces : Ranges :=
  [(0x9, 0xd), (0x20, 0x20), (0x85, 0x85), (0xa0, 0xa0), (0x1680, 0x1680), (0x2000, 0x200a),
  (0x2028, 0x2029), (0x202f, 0x202f), (0x205f, 0x205f), (0x3000, 0x3000)]

def isSpace (c : Char) : Bool := spaces.has c.toNat

def trimFront (cs : List Char) : List Char := cs.dropWhile isSpace

def trim (cs : List Char) : List Char := (trimFront (trimFront cs).reverse).reverse

theorem trimFront_eq_self {cs : List Char} (h : ∀ c ∈ cs, isSpace c = false) : trimFront cs = cs := by
  cases cs with
  | nil => rfl
  | cons c rest => exact List.dropWhile_cons_of_neg (by simp [h c List.mem_cons_self])

theorem trim_eq_self {cs : List Char} (h : ∀ c ∈ cs, isSpace c = false) : trim cs = cs := by
  rw [trim, trimFront_eq_self h, trimFront_eq_self fun c hc => h c (List.mem_reverse.1 hc), List.reverse_reverse]

end DownloadSite.Text
