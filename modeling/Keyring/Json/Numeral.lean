import Keyring.Number.Binary64
import Keyring.Text.Digits

/-!
# Numerals

A numeral is a number as it is written: a sign, whole digits, and perhaps
fraction digits and an exponent.  A numeral without the last two is an integer
as long as it fits a word of 64 bits; every other numeral is floating point,
and is out of range if no finite number is near enough.
-/

namespace Keyring
namespace Json

structure Numeral where
  negative : Bool
  whole : List Char
  fraction : List Char := []
  exponent : Option Int := none
  deriving DecidableEq, Repr

inductive Quantity where
  | natural (value : Nat)
  | negative (value : Int)
  | real (value : Binary64)
  deriving DecidableEq, Repr

/-- The digits at the start of a text, if there are any, and what follows them. -/
def scanDigits (text : List Char) : Option (List Char × List Char) :=
  if (text.takeWhile Char.isDigit).isEmpty then none
  else some (text.takeWhile Char.isDigit, text.dropWhile Char.isDigit)

def scanExponent (text : List Char) : Option (Int × List Char) :=
  match scanDigits (Text.splitSign text).2 with
  | some (digits, rest) =>
    let size : Int := Text.digitsValue 10 digits
    some (if (Text.splitSign text).1 then -size else size, rest)
  | none => none

/-- The fraction after a numeral's whole digits, if a point follows. -/
def scanFraction (text : List Char) : Option (List Char × List Char) :=
  match text with
  | '.' :: rest => scanDigits rest
  | _ => some ([], text)

/-- The exponent after a numeral's digits, if its letter follows. -/
def scanPower (text : List Char) : Option (Option Int × List Char) :=
  match text with
  | 'e' :: rest | 'E' :: rest => (scanExponent rest).map fun (power, rest) => (some power, rest)
  | _ => some (none, text)

/-- Digits without a sign: a leading nought stands alone. -/
def scanMagnitude (negative : Bool) (text : List Char) : Option (Numeral × List Char) := do
  let (whole, rest) ← scanDigits text
  guard (whole.length = 1 ∨ whole.head? ≠ some '0')
  let (fraction, rest) ← scanFraction rest
  let (exponent, rest) ← scanPower rest
  some ({ negative, whole, fraction, exponent }, rest)

def scanNumeral (text : List Char) : Option (Numeral × List Char) :=
  match text with
  | '-' :: rest => scanMagnitude true rest
  | _ => scanMagnitude false text

namespace Numeral

def wordLimit : Nat := Nat.pow 2 64

/-- Appends digits to a number for as long as it fits a word, and gives back
the digits that are left. -/
def absorb (value : Nat) : List Char → Nat × List Char
  | [] => (value, [])
  | digit :: rest =>
    let longer := 10 * value + Text.digitValue digit
    if longer < wordLimit then absorb longer rest else (value, digit :: rest)

/-- Scales a number by a power of ten, with a rounding at every step of at most
`10 ^ 308`.  An infinite result is out of range.  Three steps down lead to zero. -/
def scale (steps : Nat) (x : Binary64) (power : Int) : Option Binary64 :=
  if power.natAbs ≤ 308 then
    let scaled := if 0 ≤ power then x.timesPowerOfTen power.natAbs
      else x.overPowerOfTen power.natAbs
    if scaled.isInfinite then none else some scaled
  else if x.isZero then some x
  else if 0 < power then none
  else
    match steps with
    | 0 => some x
    | steps + 1 => scale steps (x.overPowerOfTen 308) (power + 308)

/-- The floating point value.  Only as many leading digits count as fit a word. -/
def real? (numeral : Numeral) : Option Binary64 :=
  let (value, dropped) := absorb 0 numeral.whole
  let (value, ignored) := absorb value numeral.fraction
  let power : Int := dropped.length - (numeral.fraction.length - ignored.length) +
    numeral.exponent.getD 0
  (scale 4 (.ofRatio false value 1) power).map fun magnitude =>
    if numeral.negative then magnitude.negate else magnitude

def isWhole (numeral : Numeral) : Bool :=
  numeral.fraction.isEmpty && numeral.exponent.isNone

/-- The value, unless it is out of range.  Minus nought is floating point. -/
def quantity? (numeral : Numeral) : Option Quantity :=
  let size := Text.digitsValue 10 numeral.whole
  if numeral.isWhole && !numeral.negative && size < wordLimit then some (.natural size)
  else if numeral.isWhole && numeral.negative && 0 < size && size ≤ wordLimit / 2 then
    some (.negative (-size))
  else numeral.real?.map .real

end Numeral
end Json
end Keyring
