/-!
# Cutting a text

A distance in a text is counted in the bytes of its UTF-8 form. A text can be cut between two
characters and nowhere else. Behind a first part the cut gives that part (`takeBytes?_append`) and what
follows it (`dropBytes?_append`).
-/

namespace DownloadSite.Text

def byteLength : List Char → Nat
  | [] => 0
  | c :: rest => c.utf8Size + byteLength rest

/-- The characters that fill the given number of bytes. -/
def takeBytes? : Nat → List Char → Option (List Char)
  | 0, _ => some []
  | _ + 1, [] => none
  | n + 1, c :: rest =>
    if c.utf8Size ≤ n + 1 then (takeBytes? (n + 1 - c.utf8Size) rest).map (c :: ·) else none

/-- The characters behind the given number of bytes. -/
def dropBytes? : Nat → List Char → Option (List Char)
  | 0, cs => some cs
  | _ + 1, [] => none
  | n + 1, c :: rest => if c.utf8Size ≤ n + 1 then dropBytes? (n + 1 - c.utf8Size) rest else none

theorem byteLength_append (cs ds : List Char) : byteLength (cs ++ ds) = byteLength cs + byteLength ds := by
  induction cs with
  | nil => exact (Nat.zero_add _).symm
  | cons c rest ih => rw [List.cons_append, byteLength, byteLength, ih, Nat.add_assoc]

/-! ### Cuts behind a part -/

theorem takeBytes?_cons (c : Char) (cs : List Char) (n : Nat) :
    takeBytes? (c.utf8Size + n) (c :: cs) = (takeBytes? n cs).map (c :: ·) := by
  obtain ⟨m, hm⟩ : ∃ m, c.utf8Size + n = m + 1 :=
    ⟨c.utf8Size + n - 1, by have := c.utf8Size_pos; omega⟩
  rw [hm, takeBytes?, if_pos (by omega), show m + 1 - c.utf8Size = n by omega]

theorem dropBytes?_cons (c : Char) (cs : List Char) (n : Nat) :
    dropBytes? (c.utf8Size + n) (c :: cs) = dropBytes? n cs := by
  obtain ⟨m, hm⟩ : ∃ m, c.utf8Size + n = m + 1 :=
    ⟨c.utf8Size + n - 1, by have := c.utf8Size_pos; omega⟩
  rw [hm, dropBytes?, if_pos (by omega), show m + 1 - c.utf8Size = n by omega]

theorem takeBytes?_append (part rest : List Char) :
    takeBytes? (byteLength part) (part ++ rest) = some part := by
  induction part with
  | nil => cases rest <;> rfl
  | cons c part ih => rw [byteLength, List.cons_append, takeBytes?_cons, ih, Option.map_some]

theorem dropBytes?_append (part rest : List Char) :
    dropBytes? (byteLength part) (part ++ rest) = some rest := by
  induction part with
  | nil => cases rest <;> rfl
  | cons c part ih => rw [byteLength, List.cons_append, dropBytes?_cons, ih]

end DownloadSite.Text
