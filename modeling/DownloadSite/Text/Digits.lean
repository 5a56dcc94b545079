/-!
# Digits

A natural number is written with the digits of a radix, the most significant first, letters after
nine in lower case. Reading takes letters of either case and any number of leading zeros. The main
statement is `ofDigits?_toDigits`: what is written reads back.
-/

namespace DownloadSite.Text

def digitChar (d : Nat) : Char :=
  if d < 10 then Char.ofNat (48 + d) else Char.ofNat (87 + d)

def digitValue? (radix : Nat) (c : Char) : Option Nat :=
  let value :=
    if '0' ≤ c ∧ c ≤ '9' then some (c.toNat - 48)
    else if 'a' ≤ c ∧ c ≤ 'z' then some (c.toNat - 87)
    else if 'A' ≤ c ∧ c ≤ 'Z' then some (c.toNat - 55)
    else none
  value.filter (· < radix)

def isDigit (radix : Nat) (c : Char) : Bool := (digitValue? radix c).isSome

/-- Digits of a number, the least significant first; zero has none. The first argument bounds how
many are written. -/
def digitsUpTo (radix : Nat) : Nat → Nat → List Char
  | 0, _ => []
  | fuel + 1, n => if n = 0 then [] else digitChar (n % radix) :: digitsUpTo radix fuel (n / radix)

/-- A number in the given radix, without leading zeros. -/
def toDigits (radix n : Nat) : List Char :=
  if n = 0 then ['0'] else (digitsUpTo radix n n).reverse

/-- Reads further digits behind a number already read. -/
def readDigits? (radix : Nat) : Nat → List Char → Option Nat
  | n, [] => some n
  | n, c :: rest => (digitValue? radix c).bind fun d => readDigits? radix (n * radix + d) rest

/-- The number that a row of digits stands for; an empty row stands for none. -/
def ofDigits? (radix : Nat) (cs : List Char) : Option Nat :=
  if cs.isEmpty then none else readDigits? radix 0 cs

/-! ### What is written reads back -/

theorem digitValue?_digitChar {radix d : Nat} (hr : radix ≤ 16) (hd : d < radix) :
    digitValue? radix (digitChar d) = some d := by
  have h16 : d < 16 := by omega
  have key : ∀ e : Fin 16, digitValue? 16 (digitChar e.val) = some e.val := by decide
  have h := key ⟨d, h16⟩
  simp only [digitValue?, Option.filter_eq_some_iff] at h ⊢
  exact ⟨h.1, by simpa using hd⟩

theorem readDigits?_append (radix : Nat) (cs ds : List Char) (n : Nat) :
    readDigits? radix n (cs ++ ds) = (readDigits? radix n cs).bind fun m => readDigits? radix m ds := by
  induction cs generalizing n with
  | nil => rfl
  | cons c rest ih =>
    simp only [List.cons_append, readDigits?]
    cases digitValue? radix c with
    | none => rfl
    | some d => simpa using ih _

theorem readDigits?_digitsUpTo {radix : Nat} (h2 : 2 ≤ radix) (hr : radix ≤ 16) (fuel n : Nat)
    (h : n ≤ fuel) : readDigits? radix 0 (digitsUpTo radix fuel n).reverse = some n := by
  induction fuel generalizing n with
  | zero => simp [show n = 0 by omega, digitsUpTo, readDigits?]
  | succ fuel ih =>
    unfold digitsUpTo
    split
    · next h0 => simp [h0, readDigits?]
    · next h0 =>
      have hlt : n / radix < n := Nat.div_lt_self (by omega) h2
      have hmod : n % radix < radix := Nat.mod_lt _ (by omega)
      rw [List.reverse_cons, readDigits?_append, ih _ (by omega)]
      simp only [Option.bind_some, readDigits?, digitValue?_digitChar hr hmod]
      rw [Nat.mul_comm, Nat.div_add_mod]

theorem toDigits_ne_nil (radix n : Nat) : toDigits radix n ≠ [] := by
  unfold toDigits
  split
  · simp
  · next h0 =>
    cases n with
    | zero => exact absurd rfl h0
    | succ n => simp [digitsUpTo]

theorem ofDigits?_toDigits {radix : Nat} (h2 : 2 ≤ radix) (hr : radix ≤ 16) (n : Nat) :
    ofDigits? radix (toDigits radix n) = some n := by
  have hne := toDigits_ne_nil radix n
  unfold ofDigits?
  rw [if_neg (by simpa using hne)]
  unfold toDigits
  split
  · next h0 =>
    have hz : digitValue? radix '0' = some 0 := digitValue?_digitChar (d := 0) hr (by omega)
    simp [readDigits?, hz, h0]
  · exact readDigits?_digitsUpTo h2 hr n n (Nat.le_refl n)

end DownloadSite.Text
