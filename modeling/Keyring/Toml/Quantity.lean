import Keyring.Text.Digits
import Keyring.Toml.Item

/-!
# Numbers, dates and times

Digits of a number may be grouped by single underscores.  Integers fit 64 bits
with a sign, a floating point number must not be too great, and dates and times
of day are those of the calendar and the clock.
-/

namespace Keyring
namespace Toml

/-- Digits that go on a number, each perhaps after an underscore. -/
def scanRun (isDigit : Char → Bool) : List Char → List Char × List Char
  | '_' :: digit :: rest =>
    if isDigit digit then
      ((digit :: (scanRun isDigit rest).1), (scanRun isDigit rest).2)
    else ([], '_' :: digit :: rest)
  | c :: rest =>
    if isDigit c then ((c :: (scanRun isDigit rest).1), (scanRun isDigit rest).2)
    else ([], c :: rest)
  | [] => ([], [])

def scanDigits (isDigit : Char → Bool) (text : List Char) : Option (List Char × List Char) :=
  match text with
  | digit :: rest =>
    if isDigit digit then some (digit :: (scanRun isDigit rest).1, (scanRun isDigit rest).2)
    else none
  | [] => none

/-- The whole part of a decimal number: a leading nought stands alone. -/
def scanWhole (text : List Char) : Option (List Char × List Char) :=
  match text with
  | '0' :: rest => some (['0'], rest)
  | _ => scanDigits Char.isDigit text

/-- The integer of a magnitude and a sign, if it fits. -/
def integer? (negative : Bool) (size : Nat) : Option Int :=
  if negative then
    if size ≤ Nat.pow 2 63 then some (-size) else none
  else if size < Nat.pow 2 63 then some size
  else none

def scanBased (base : Nat) (isDigit : Char → Bool) (text : List Char) :
    Option (Item × List Char) :=
  match scanDigits isDigit text with
  | some (digits, rest) =>
    (integer? false (Text.digitsValue base digits)).map fun value => (.integer value, rest)
  | none => none

def scanExponent (text : List Char) : Option (Int × List Char) :=
  match scanDigits Char.isDigit (Text.splitSign text).2 with
  | some (digits, rest) =>
    let size : Int := Text.digitsValue 10 digits
    some (if (Text.splitSign text).1 then -size else size, rest)
  | none => none

/-- A floating point number from its parts; it must not lie beyond the greatest. -/
def real? (negative : Bool) (whole fraction : List Char) (exponent : Int) : Option Item :=
  let value := Binary64.ofDecimal negative (Text.digitsValue 10 (whole ++ fraction))
    (exponent - fraction.length)
  if value = .infinite false then none else some (.real value)

/-- What may follow the whole digits: a fraction, an exponent, both, or neither. -/
def scanDecimalEnd (negative : Bool) (whole rest : List Char) : Option (Item × List Char) :=
  match rest with
  | '.' :: rest =>
    match scanDigits Char.isDigit rest with
    | none => none
    | some (fraction, 'e' :: rest) | some (fraction, 'E' :: rest) =>
      match scanExponent rest with
      | some (exponent, rest) => (real? negative whole fraction exponent).map (·, rest)
      | none => none
    | some (fraction, rest) => (real? negative whole fraction 0).map (·, rest)
  | 'e' :: rest | 'E' :: rest =>
    match scanExponent rest with
    | some (exponent, rest) => (real? negative whole [] exponent).map (·, rest)
    | none => none
  | rest =>
    (integer? negative (Text.digitsValue 10 whole)).map fun value => (.integer value, rest)

def scanUnsigned (negative : Bool) (text : List Char) : Option (Item × List Char) :=
  match text with
  | 'i' :: 'n' :: 'f' :: rest => some (.real (.infinite negative), rest)
  | 'n' :: 'a' :: 'n' :: rest => some (.real .nan, rest)
  | _ =>
    match scanWhole text with
    | some (whole, rest) => scanDecimalEnd negative whole rest
    | none => none

def scanNumber (text : List Char) : Option (Item × List Char) :=
  match text with
  | '0' :: 'x' :: rest => scanBased 16 Text.isHexDigit rest
  | '0' :: 'o' :: rest => scanBased 8 (fun c => '0' ≤ c && c ≤ '7') rest
  | '0' :: 'b' :: rest => scanBased 2 (fun c => c == '0' || c == '1') rest
  | _ => scanUnsigned (Text.splitSign text).1 (Text.splitSign text).2

def isLeapYear (year : Nat) : Bool :=
  (year % 4 == 0 && year % 100 != 0) || year % 400 == 0

def daysIn (year month : Nat) : Nat :=
  if month = 2 then if isLeapYear year then 29 else 28
  else if month = 4 ∨ month = 6 ∨ month = 9 ∨ month = 11 then 30
  else 31

def scanTwo (least greatest : Nat) : List Char → Option (Nat × List Char)
  | tens :: units :: rest =>
    let value := Text.digitsValue 10 [tens, units]
    if tens.isDigit && units.isDigit && least ≤ value && value ≤ greatest then some (value, rest)
    else none
  | _ => none

def after? (c : Char) : List Char → Option (List Char)
  | first :: rest => if first = c then some rest else none
  | [] => none

def skipDate? (text : List Char) : Option (List Char) := do
  let year := text.take 4
  guard (year.length = 4 ∧ year.all Char.isDigit)
  let (month, rest) ← scanTwo 1 12 (← after? '-' (text.drop 4))
  let (_, rest) ← scanTwo 1 (daysIn (Text.digitsValue 10 year) month) (← after? '-' rest)
  some rest

/-- What is left after fractions of a second, if there are any. -/
def skipFraction (text : List Char) : List Char :=
  match text with
  | '.' :: digit :: rest => if digit.isDigit then rest.dropWhile Char.isDigit else text
  | _ => text

/-- What is left after a time of day; a minute may have a leap second. -/
def skipTime? (text : List Char) : Option (List Char) := do
  let (_, rest) ← scanTwo 0 23 text
  let (_, rest) ← scanTwo 0 59 (← after? ':' rest)
  let (_, rest) ← scanTwo 0 60 (← after? ':' rest)
  some (skipFraction rest)

/-- What is left after the distance from world time, if there is one. -/
def skipOffset? (text : List Char) : Option (List Char) :=
  match text with
  | 'Z' :: rest | 'z' :: rest => some rest
  | '+' :: rest | '-' :: rest => do
    let (_, rest) ← scanTwo 0 23 rest
    let (_, rest) ← scanTwo 0 59 (← after? ':' rest)
    some rest
  | _ => some text

def beginsTime (text : List Char) : Bool :=
  (scanTwo 0 23 text).any fun hour => hour.2.head? == some ':'

def beginsDate (text : List Char) : Bool :=
  (text.take 4).all Char.isDigit && (text.drop 4).head? == some '-'

/-- What is left after a date and the time of day that may follow it. -/
def skipDateTime? (text : List Char) : Option (List Char) := do
  let rest ← skipDate? text
  match rest with
  | 'T' :: time | 't' :: time | ' ' :: time =>
    if beginsTime time then skipOffset? (← skipTime? time) else some rest
  | _ => some rest

def scanMoment (text : List Char) : Option (Item × List Char) :=
  (if beginsDate text then skipDateTime? text else skipTime? text).map fun rest =>
    (.moment (String.ofList (text.take (text.length - rest.length))), rest)

/-- What begins with a digit or a sign. -/
def scanQuantity (text : List Char) : Option (Item × List Char) :=
  if beginsDate text || beginsTime text then scanMoment text else scanNumber text

end Toml
end Keyring
