import Keyring.Text.Digits
import Mathlib.Tactic

/-!
# Numbers as digits

The digits of a number, in any base up to sixteen, spell that number.  So no two
numbers have the same digits, and in base ten a number begins with a nought only
if it is one.
-/

namespace Keyring
namespace Text

theorem hexValue?_digitChar {digit : Nat} (hdigit : digit < 16) :
    hexValue? digit.digitChar = some digit := by
  interval_cases digit <;> rfl

section Base

variable {base : Nat} (hbase : 1 < base) (hhex : base ≤ 16)

include hbase hhex

/-- Every digit of a number is a digit of its base. -/
theorem exists_digit_of_mem_toDigits (n : Nat) :
    ∀ c ∈ Nat.toDigits base n, ∃ digit < base, c = digit.digitChar := by
  induction n using Nat.strongRecOn with
  | ind n ih =>
      by_cases hsmall : n < base
      · simp only [Nat.toDigits_of_lt_base hsmall, List.mem_singleton, forall_eq]
        exact ⟨n, hsmall, rfl⟩
      · have hlast : n % base < base := Nat.mod_lt n (by omega)
        have hfront : n / base < n := Nat.div_lt_self (by omega) hbase
        rw [Nat.toDigits_of_base_le hbase (by omega)]
        intro c hc
        rcases List.mem_append.mp hc with hc | hc
        · exact ih _ hfront c hc
        · exact ⟨n % base, hlast, List.mem_singleton.mp hc⟩

theorem digitsValue_toDigits_base (n : Nat) : digitsValue base (Nat.toDigits base n) = n := by
  induction n using Nat.strongRecOn with
  | ind n ih =>
      by_cases hsmall : n < base
      · have hvalue : hexValue? n.digitChar = some n := hexValue?_digitChar (by omega)
        simp [Nat.toDigits_of_lt_base hsmall, digitsValue, digitValue, hvalue]
      · have hlast : n % base < base := Nat.mod_lt n (by omega)
        have hfront : n / base < n := Nat.div_lt_self (by omega) hbase
        have hvalue : hexValue? (n % base).digitChar = some (n % base) :=
          hexValue?_digitChar (by omega)
        rw [Nat.toDigits_of_base_le hbase (by omega), digitsValue_concat, ih _ hfront, digitValue,
          hvalue, Option.getD_some, Nat.div_add_mod]

theorem toDigits_inj {m n : Nat} : Nat.toDigits base m = Nat.toDigits base n ↔ m = n := by
  constructor
  · intro hdigits
    rw [← digitsValue_toDigits_base hbase hhex m, hdigits, digitsValue_toDigits_base hbase hhex n]
  · rintro rfl
    rfl

end Base

theorem isDigit_of_mem_toDigits (n : Nat) : ∀ c ∈ Nat.toDigits 10 n, c.isDigit :=
  fun _ hc => Nat.isDigit_of_mem_toDigits (by decide) (by decide) hc

theorem digitsValue_toDigits (n : Nat) : digitsValue 10 (Nat.toDigits 10 n) = n :=
  digitsValue_toDigits_base (by decide) (by decide) n

theorem toDigits_eq_cons {n : Nat} (hpos : 0 < n) :
    ∃ first rest, Nat.toDigits 10 n = first :: rest ∧ first ≠ '0' := by
  induction n using Nat.strongRecOn with
  | ind n ih =>
      -- A digit more at the end leaves the first one as it is.
      by_cases hsmall : n < 10
      · refine ⟨n.digitChar, [], Nat.toDigits_of_lt_base hsmall, ?_⟩
        interval_cases n <;> decide
      · obtain ⟨first, rest, hdigits, hfirst⟩ := ih (n / 10) (by omega) (by omega)
        refine ⟨first, rest ++ [(n % 10).digitChar], ?_, hfirst⟩
        rw [Nat.toDigits_of_base_le (by decide) (by omega), hdigits, List.cons_append]

end Text
end Keyring
