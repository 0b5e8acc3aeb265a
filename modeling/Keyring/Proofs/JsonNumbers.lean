import Keyring.Json.Numeral
import Keyring.Proofs.DigitTexts
import Mathlib.Tactic

/-!
# Numbers as they are written

The grammar of numbers as a type: whole digits without a leading nought, and
perhaps a fraction and an exponent.  A numeral is read off every number in full,
as long as nothing follows that could continue it.
-/

namespace Keyring
namespace Json

structure DigitRun where
  chars : List Char
  nonempty : chars ≠ []
  digits : ∀ c ∈ chars, c.isDigit = true

structure ExponentText where
  letter : Char
  sign : Option Char
  run : DigitRun
  letter_cases : letter = 'e' ∨ letter = 'E'
  sign_cases : ∀ c ∈ sign, c = '+' ∨ c = '-'

structure NumberText where
  negative : Bool
  whole : DigitRun
  fraction : Option DigitRun
  exponent : Option ExponentText
  /-- A leading nought stands alone. -/
  leading : whole.chars.length = 1 ∨ whole.chars.head? ≠ some '0'

/-- What may follow a number without being taken for a part of it. -/
def EndsNumber (rest : List Char) : Prop :=
  ∀ c ∈ rest.head?, c.isDigit = false ∧ c ≠ '.' ∧ c ≠ 'e' ∧ c ≠ 'E'

namespace DigitRun

variable (run : DigitRun)

theorem exists_cons : ∃ first more, run.chars = first :: more ∧ first.isDigit = true := by
  obtain ⟨first, more, hchars⟩ := List.exists_cons_of_ne_nil run.nonempty
  exact ⟨first, more, hchars, run.digits first (by simp [hchars])⟩

theorem scanDigits_append {rest : List Char} (hrest : ∀ c ∈ rest.head?, c.isDigit = false) :
    scanDigits (run.chars ++ rest) = some (run.chars, rest) := by
  have htake : rest.takeWhile Char.isDigit = [] := by
    cases rest with
    | nil => rfl
    | cons c rest => simp [hrest c rfl]
  have hdrop : rest.dropWhile Char.isDigit = rest := by
    cases rest with
    | nil => rfl
    | cons c rest => simp [hrest c rfl]
  simp [scanDigits, List.takeWhile_append_of_pos run.digits,
    List.dropWhile_append_of_pos run.digits, htake, hdrop, run.nonempty]

end DigitRun

namespace ExponentText

def chars (exponent : ExponentText) : List Char :=
  exponent.letter :: (exponent.sign.toList ++ exponent.run.chars)

def value (exponent : ExponentText) : Int :=
  let size : Int := Text.digitsValue 10 exponent.run.chars
  if exponent.sign = some '-' then -size else size

theorem splitSign_run (run : DigitRun) (rest : List Char) :
    Text.splitSign (run.chars ++ rest) = (false, run.chars ++ rest) := by
  obtain ⟨first, more, hchars, hdigit⟩ := run.exists_cons
  have hsign : first ≠ '-' ∧ first ≠ '+' := by
    constructor <;> (rintro rfl; simp at hdigit)
  simp [hchars, Text.splitSign, hsign]

theorem scanExponent_append (exponent : ExponentText) {rest : List Char}
    (hrest : ∀ c ∈ rest.head?, c.isDigit = false) :
    scanExponent (exponent.sign.toList ++ exponent.run.chars ++ rest) =
      some (exponent.value, rest) := by
  have hrun := exponent.run.scanDigits_append hrest
  have hcases := exponent.sign_cases
  cases hsign : exponent.sign with
  | none => simp [scanExponent, splitSign_run, hrun, value, hsign]
  | some c =>
      rcases hcases c hsign with rfl | rfl
      · simp [scanExponent, Text.splitSign, hrun, value, hsign]
      · simp [scanExponent, Text.splitSign, hrun, value, hsign]

end ExponentText

namespace NumberText

variable (number : NumberText)

def fractionChars : List Char :=
  match number.fraction with
  | some run => '.' :: run.chars
  | none => []

def exponentChars : List Char :=
  match number.exponent with
  | some exponent => exponent.chars
  | none => []

def chars : List Char :=
  (if number.negative then ['-'] else []) ++
    (number.whole.chars ++ (number.fractionChars ++ number.exponentChars))

def numeral : Numeral where
  negative := number.negative
  whole := number.whole.chars
  fraction := (number.fraction.map DigitRun.chars).getD []
  exponent := number.exponent.map ExponentText.value

variable {rest : List Char}

theorem scanPower_append (hrest : EndsNumber rest) :
    scanPower (number.exponentChars ++ rest) =
      some (number.exponent.map ExponentText.value, rest) := by
  cases hexponent : number.exponent with
  | none =>
      cases rest with
      | nil => simp [exponentChars, hexponent, scanPower]
      | cons c rest =>
          have hc := hrest c rfl
          simp [exponentChars, hexponent, scanPower, hc]
  | some exponent =>
      have hscan := exponent.scanExponent_append fun c hc => (hrest c hc).1
      rcases exponent.letter_cases with hletter | hletter
      · simp_all [exponentChars, scanPower, ExponentText.chars]
      · simp_all [exponentChars, scanPower, ExponentText.chars]

/-- Neither an exponent nor what follows a number continues its digits. -/
theorem exponentChars_ends (hrest : EndsNumber rest) :
    ∀ c ∈ (number.exponentChars ++ rest).head?, c.isDigit = false ∧ c ≠ '.' := by
  cases hexponent : number.exponent with
  | none =>
      intro c hc
      have hends := hrest c (by simpa [exponentChars, hexponent] using hc)
      exact ⟨hends.1, hends.2.1⟩
  | some exponent =>
      intro c hc
      have hletter : c = exponent.letter := by
        simpa [exponentChars, hexponent, ExponentText.chars, eq_comm] using hc
      rcases exponent.letter_cases with hcase | hcase <;> simp [hletter, hcase]

theorem scanFraction_append (hrest : EndsNumber rest) :
    scanFraction (number.fractionChars ++ (number.exponentChars ++ rest)) =
      some ((number.fraction.map DigitRun.chars).getD [], number.exponentChars ++ rest) := by
  have hends := number.exponentChars_ends hrest
  cases hfraction : number.fraction with
  | none =>
      cases htail : number.exponentChars ++ rest with
      | nil => simp [fractionChars, hfraction, scanFraction]
      | cons c tail =>
          have hpoint : c ≠ '.' := (hends c (by simp [htail])).2
          simp [fractionChars, hfraction, scanFraction, hpoint]
  | some run =>
      have hscan := run.scanDigits_append fun c hc => (hends c hc).1
      simp [fractionChars, hfraction, scanFraction, hscan]

theorem fractionChars_ends (hrest : EndsNumber rest) :
    ∀ c ∈ (number.fractionChars ++ (number.exponentChars ++ rest)).head?, c.isDigit = false := by
  cases hfraction : number.fraction with
  | none => simpa [fractionChars, hfraction] using fun c hc =>
      (number.exponentChars_ends hrest c (by simpa using hc)).1
  | some run => simp [fractionChars, hfraction]

theorem scanMagnitude_append (negative : Bool) (hrest : EndsNumber rest) :
    scanMagnitude negative
        (number.whole.chars ++ (number.fractionChars ++ (number.exponentChars ++ rest))) =
      some ({ number.numeral with negative }, rest) := by
  have hwhole := number.whole.scanDigits_append (number.fractionChars_ends hrest)
  have hleading := number.leading
  simp [scanMagnitude, hwhole, hleading, number.scanFraction_append hrest,
    number.scanPower_append hrest, numeral, guard]

theorem scanNumeral_append (hrest : EndsNumber rest) :
    scanNumeral (number.chars ++ rest) = some (number.numeral, rest) := by
  have hmagnitude := number.scanMagnitude_append number.negative hrest
  have hsame : { number.numeral with negative := number.negative } = number.numeral := rfl
  rw [hsame] at hmagnitude
  cases hnegative : number.negative with
  | true =>
      rw [hnegative] at hmagnitude
      simpa [scanNumeral, chars, hnegative] using hmagnitude
  | false =>
      rw [hnegative] at hmagnitude
      obtain ⟨first, more, hchars, hdigit⟩ := number.whole.exists_cons
      have hsign : first ≠ '-' := by rintro rfl; simp at hdigit
      simpa [scanNumeral, chars, hnegative, hchars, hsign] using hmagnitude

theorem exists_cons :
    ∃ first more, number.chars = first :: more ∧ (first == '-' || first.isDigit) = true := by
  obtain ⟨first, more, hchars, hdigit⟩ := number.whole.exists_cons
  cases hnegative : number.negative with
  | true =>
      refine ⟨'-', number.whole.chars ++ (number.fractionChars ++ number.exponentChars), ?_, rfl⟩
      simp [chars, hnegative]
  | false =>
      refine ⟨first, more ++ (number.fractionChars ++ number.exponentChars), ?_, by simp [hdigit]⟩
      simp [chars, hnegative, hchars]

def ofNat (n : Nat) : NumberText where
  negative := false
  whole := ⟨Nat.toDigits 10 n, Nat.toDigits_ne_nil, Text.isDigit_of_mem_toDigits n⟩
  fraction := none
  exponent := none
  leading := by
    rcases Nat.eq_zero_or_pos n with rfl | hpos
    · exact .inl rfl
    · obtain ⟨first, more, hdigits, hfirst⟩ := Text.toDigits_eq_cons hpos
      exact .inr (by simpa [hdigits] using hfirst)

theorem chars_ofNat (n : Nat) : (ofNat n).chars = Nat.toDigits 10 n := by
  simp [chars, ofNat, fractionChars, exponentChars]

theorem quantity?_ofNat {n : Nat} (hword : n < 2 ^ 64) :
    (ofNat n).numeral.quantity? = some (.natural n) := by
  have hlimit : Numeral.wordLimit = 2 ^ 64 := rfl
  have hvalue : Text.digitsValue 10 (Nat.toDigits 10 n) = n :=
    Text.digitsValue_toDigits n
  simp [Numeral.quantity?, Numeral.isWhole, numeral, ofNat, hvalue, hlimit]
  omega

end NumberText
end Json
end Keyring
