import Mathlib.Tactic.SplitIfs
import DownloadSite.Text.Alphanumeric
import DownloadSite.Text.Digits

/-!
# Digits of numbers

The decimal digits that a number is written with are those of the language's own numerals (`toDigits_ten`), and
there is no zero in front of them unless the number is zero. The digits of every radix are characters that
stand in words.
-/

namespace DownloadSite.Text

theorem digitChar_eq {d : Nat} (h : d < 10) : digitChar d = Nat.digitChar d := by
  have hall : ∀ e : Fin 10, digitChar e.val = Nat.digitChar e.val := by decide
  exact hall ⟨d, h⟩

theorem reverse_digitsUpTo_ten {fuel n : Nat} (hpos : n ≠ 0) (h : n ≤ fuel) :
    (digitsUpTo 10 fuel n).reverse = Nat.toDigits 10 n := by
  induction fuel generalizing n with
  | zero => omega
  | succ fuel ih =>
    rw [digitsUpTo, if_neg hpos, List.reverse_cons, digitChar_eq (Nat.mod_lt _ (by omega))]
    by_cases hsmall : n < 10
    · have hzero : n / 10 = 0 := by omega
      have hnone : digitsUpTo 10 fuel 0 = [] := by cases fuel <;> rfl
      rw [hzero, hnone, Nat.toDigits_of_lt_base hsmall, Nat.mod_eq_of_lt hsmall]
      rfl
    · rw [ih (by omega) (by omega)]
      exact (Nat.toDigits_of_base_le (by omega) (by omega)).symm

theorem toDigits_ten (n : Nat) : toDigits 10 n = Nat.toDigits 10 n := by
  rw [toDigits]
  split
  · next hzero =>
    rw [hzero]
    rfl
  · next hpos => exact reverse_digitsUpTo_ten hpos (Nat.le_refl n)

theorem eq_zero_of_head?_toDigits {n : Nat} (h : (toDigits 10 n).head? = some '0') : n = 0 := by
  rw [toDigits_ten] at h
  induction n using Nat.strongRecOn with
  | ind n ih =>
    by_cases hsmall : n < 10
    · have hall : ∀ e : Fin 10, (Nat.toDigits 10 e.val).head? = some '0' → e.val = 0 := by decide
      exact hall ⟨n, hsmall⟩ h
    · obtain ⟨c, rest, hcons⟩ := List.exists_cons_of_ne_nil (Nat.toDigits_ne_nil (n := n / 10) (b := 10))
      rw [Nat.toDigits_of_base_le (by omega) (by omega), hcons] at h
      have hquotient := ih (n / 10) (by omega) (by rw [hcons]; exact h)
      omega

theorem isDigit_of_mem_readDigits? {radix start n : Nat} {cs : List Char}
    (h : readDigits? radix start cs = some n) {c : Char} (hc : c ∈ cs) : isDigit radix c = true := by
  induction cs generalizing start with
  | nil => cases hc
  | cons d rest ih =>
    obtain ⟨value, hvalue, hrest⟩ := Option.bind_eq_some_iff.1 h
    rcases List.mem_cons.1 hc with rfl | hc
    · rw [isDigit, hvalue]
      rfl
    · exact ih hrest hc

theorem isDigit_of_mem_toDigits {radix n : Nat} {c : Char} (h2 : 2 ≤ radix) (hr : radix ≤ 16)
    (h : c ∈ toDigits radix n) : isDigit radix c = true := by
  have hread : ofDigits? radix (toDigits radix n) = some n := ofDigits?_toDigits h2 hr n
  rw [ofDigits?, if_neg (by simpa using toDigits_ne_nil radix n)] at hread
  exact isDigit_of_mem_readDigits? hread h

theorem isAlphanum_of_isDigit {radix : Nat} {c : Char} (h : isDigit radix c = true) :
    c.isAlphanum = true := by
  obtain ⟨value, hvalue⟩ := Option.isSome_iff_exists.1 h
  have hclass := (Option.filter_eq_some_iff.1 hvalue).1
  rw [isAlphanum_iff_toNat]
  split_ifs at hclass with hten hlower hupper
  · exact .inr hten
  · exact .inl (.inr hlower)
  · exact .inl (.inl hupper)

end DownloadSite.Text
