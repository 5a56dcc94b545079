/-!
# Escaped text

Text stands in a document between tags and inside double-quoted attribute values. One escaping serves
both places: the four characters with a meaning there stand as entities, every other character as
itself. An escaped text has no angle bracket and no double quote (`not_mem_escape`).
-/

namespace DownloadSite.Html

def escapeChar (c : Char) : List Char :=
  if c = '&' then "&amp;".toList
  else if c = '<' then "&lt;".toList
  else if c = '>' then "&gt;".toList
  else if c = '"' then "&quot;".toList
  else [c]

def escape (cs : List Char) : List Char := cs.flatMap escapeChar

@[simp] theorem escape_nil : escape [] = [] := rfl

@[simp] theorem escape_cons (c : Char) (cs : List Char) :
    escape (c :: cs) = escapeChar c ++ escape cs := rfl

@[simp] theorem escape_append (cs ds : List Char) : escape (cs ++ ds) = escape cs ++ escape ds := by
  simp [escape]

theorem escapeChar_eq_self {c : Char} (h : c ∉ ['&', '<', '>', '"']) : escapeChar c = [c] := by
  simp only [List.mem_cons, List.not_mem_nil, or_false, not_or] at h
  simp [escapeChar, h]

theorem not_mem_escapeChar {d : Char} (hd : d ∈ ['<', '>', '"']) (c : Char) : d ∉ escapeChar c := by
  unfold escapeChar
  simp only [List.mem_cons, List.not_mem_nil, or_false] at hd
  split
  · rcases hd with rfl | rfl | rfl <;> decide
  split
  · rcases hd with rfl | rfl | rfl <;> decide
  split
  · rcases hd with rfl | rfl | rfl <;> decide
  split
  · rcases hd with rfl | rfl | rfl <;> decide
  · rcases hd with rfl | rfl | rfl <;> simp_all [eq_comm]

theorem not_mem_escape {d : Char} (hd : d ∈ ['<', '>', '"']) (cs : List Char) : d ∉ escape cs := by
  simp only [escape, List.mem_flatMap, not_exists, not_and]
  intro c _
  exact not_mem_escapeChar hd c

end DownloadSite.Html
