import Keyring.Number.Binary64

/-!
# Shortest decimal text

The text of a number has the fewest digits that still read back as that
number, and among those the digits nearest to it.  How the digits are laid
out, and where an exact tie goes, is up to a `NumberLayout`.
-/

namespace Keyring

/-- Where a tie between two equally near decimals goes. -/
inductive Tie where
  | up
  | toEven
  deriving DecidableEq, Repr

namespace Binary64

/-- The numbers that round to `mantissa * 2 ^ exponent`, as an interval of
multiples of one unit: its ends, the number between them, and the unit. -/
structure Surroundings where
  low : Nat
  value : Nat
  high : Nat
  closed : Bool
  /-- The unit is the reciprocal of this. -/
  denominator : Nat

/-- Below a power of two numbers lie twice as close as above it. -/
def surroundings (mantissa : Nat) (exponent : Int) : Surroundings :=
  let scale := powerRatio 2 (exponent - 2)
  let below := if mantissa = Nat.pow 2 52 ∧ minExponent < exponent then 1 else 2
  { low := (4 * mantissa - below) * scale.1
    value := 4 * mantissa * scale.1
    high := (4 * mantissa + 2) * scale.1
    closed := mantissa % 2 == 0
    denominator := scale.2 }

namespace Surroundings

/-- Whether `digits * 10 ^ power` lies in the interval. -/
def holds (s : Surroundings) (digits : Nat) (power : Int) : Bool :=
  let scale := powerRatio 10 power
  let point := digits * scale.1 * s.denominator
  let low := s.low * scale.2
  let high := s.high * scale.2
  if s.closed then low ≤ point && point ≤ high else low < point && point < high

/-- The decimal of the grid `10 ^ power` that lies in the interval and is
nearest to the number: one of the number's two neighbours on the grid. -/
def onGrid? (s : Surroundings) (tie : Tie) (power : Int) : Option Nat :=
  let scale := powerRatio 10 power
  let unit := scale.1 * s.denominator
  let floor := s.value * scale.2 / unit
  let rest := 2 * (s.value * scale.2 % unit)
  match s.holds floor power, s.holds (floor + 1) power with
  | true, true =>
    if rest < unit then some floor
    else if unit < rest then some (floor + 1)
    else match tie with
      | .up => some (floor + 1)
      | .toEven => some (floor + floor % 2)
  | true, false => some floor
  | false, true => some (floor + 1)
  | false, false => none

/-- Tries ever finer grids. -/
def search (s : Surroundings) (tie : Tie) : Nat → Int → Option (Nat × Int)
  | 0, _ => none
  | tries + 1, power =>
    match s.onGrid? tie power with
    | some digits => some (digits, power)
    | none => s.search tie tries (power - 1)

end Surroundings

/-- The shortest decimal `digits * 10 ^ power` of a positive number. -/
def shortest (tie : Tie) (mantissa : Nat) (exponent : Int) : Nat × Int :=
  let s := surroundings mantissa exponent
  let size : Int := (Nat.toDigits 10 s.value).length - (Nat.toDigits 10 s.denominator).length
  (s.search tie 24 (size + 1)).getD (0, 0)

end Binary64

structure NumberLayout where
  /-- Where a tie between two shortest decimals goes. -/
  tie : Tie
  /-- The exponents of the leading digit that are written without an exponent;
  `none` writes all numbers so. -/
  positional : Option (Int × Int)

namespace NumberLayout

def zeros (count : Nat) : List Char :=
  List.replicate count '0'

/-- Digits with a point, and a digit on either side of it. -/
def positionalText (digits : List Char) (lead : Int) : List Char :=
  if lead < 0 then
    '0' :: '.' :: zeros (-lead - 1).toNat ++ digits
  else
    let size := lead.toNat + 1
    if digits.length ≤ size then digits ++ zeros (size - digits.length) ++ ['.', '0']
    else digits.take size ++ '.' :: digits.drop size

/-- One digit before the point, and the exponent with its sign. -/
def exponentText (digits : List Char) (lead : Int) : List Char :=
  let fraction := match digits.drop 1 with
    | [] => []
    | rest => '.' :: rest
  let sign := if lead < 0 then '-' else '+'
  digits.take 1 ++ fraction ++ 'e' :: sign :: Nat.toDigits 10 lead.natAbs

/-- A magnitude `digits * 10 ^ power`. -/
def magnitudeText (layout : NumberLayout) (digits : Nat) (power : Int) : List Char :=
  let all := Nat.toDigits 10 digits
  let lead := (all.length : Int) - 1 + power
  let kept := (all.reverse.dropWhile (· == '0')).reverse
  match layout.positional with
  | some (least, greatest) =>
    if least ≤ lead ∧ lead ≤ greatest then positionalText kept lead else exponentText kept lead
  | none => positionalText kept lead

def text (layout : NumberLayout) : Binary64 → String
  | .nan => "NaN"
  | .infinite negative => if negative then "-inf" else "inf"
  | .finite negative mantissa exponent =>
    let magnitude :=
      if mantissa = 0 then ['0', '.', '0']
      else
        let decimal := Binary64.shortest layout.tie mantissa exponent
        layout.magnitudeText decimal.1 decimal.2
    String.ofList (if negative then '-' :: magnitude else magnitude)

end NumberLayout
end Keyring
