/-!
# Binary floating point of 64 bits

Numbers of the form `mantissa * 2 ^ exponent` with a mantissa below `2 ^ 53`
and an exponent from -1074 to 971, with a sign also for zero.  Reading and
arithmetic are exact rational arithmetic followed by one rounding to the
nearest such number; of two that are equally near the one with an even
mantissa is taken.
-/

namespace Keyring

inductive Binary64 where
  | finite (negative : Bool) (mantissa : Nat) (exponent : Int)
  | infinite (negative : Bool)
  | nan
  deriving DecidableEq, Repr

namespace Binary64

def minExponent : Int := -1074

def maxExponent : Int := 971

def mantissaLimit : Nat := Nat.pow 2 53

def zero (negative : Bool) : Binary64 :=
  .finite negative 0 minExponent

/-- The quotient rounded to a whole number, a half to the even neighbour. -/
def roundQuotient (num den : Nat) : Nat :=
  let floor := num / den
  let rest := 2 * (num % den)
  if rest < den then floor
  else if den < rest then floor + 1
  else floor + floor % 2

/-- `base ^ exponent` as a ratio of natural numbers. -/
def powerRatio (base : Nat) (exponent : Int) : Nat × Nat :=
  if 0 ≤ exponent then (base.pow exponent.toNat, 1) else (1, base.pow (-exponent).toNat)

/-- The exponent of the greatest power of two that is not above a positive ratio. -/
def floorLog (num den : Nat) : Int :=
  let guess : Int := (num.log2 : Int) - den.log2
  let power := powerRatio 2 guess
  if den * power.1 ≤ num * power.2 then guess else guess - 1

def ofRatio (negative : Bool) (num den : Nat) : Binary64 :=
  if num = 0 then zero negative
  else
    let exponent := max (floorLog num den - 52) minExponent
    let unit := powerRatio 2 exponent
    let mantissa := roundQuotient (num * unit.2) (den * unit.1)
    let carried := mantissa = mantissaLimit
    let exponent := if carried then exponent + 1 else exponent
    if maxExponent < exponent then .infinite negative
    else .finite negative (if carried then Nat.pow 2 52 else mantissa) exponent

/-- The number nearest to `digits * 10 ^ power`.  Magnitudes far outside the
range are settled by their size alone. -/
def ofDecimal (negative : Bool) (digits : Nat) (power : Int) : Binary64 :=
  let size : Int := (Nat.toDigits 10 digits).length + power
  if digits = 0 ∨ size < -330 then zero negative
  else if 310 < size then .infinite negative
  else
    let scale := powerRatio 10 power
    ofRatio negative (digits * scale.1) scale.2

def isZero : Binary64 → Bool
  | .finite _ mantissa _ => mantissa == 0
  | _ => false

def isInfinite : Binary64 → Bool
  | .infinite _ => true
  | _ => false

def negate : Binary64 → Binary64
  | .finite negative mantissa exponent => .finite (!negative) mantissa exponent
  | .infinite negative => .infinite !negative
  | .nan => .nan

/-- A finite number times the number nearest to `10 ^ power`, rounded. -/
def timesPowerOfTen (x : Binary64) (power : Nat) : Binary64 :=
  match x, ofDecimal false 1 power with
  | .finite negative m p, .finite _ n q =>
    let scale := powerRatio 2 (p + q)
    ofRatio negative (m * n * scale.1) scale.2
  | other, _ => other

/-- A finite number divided by the number nearest to `10 ^ power`, rounded. -/
def overPowerOfTen (x : Binary64) (power : Nat) : Binary64 :=
  match x, ofDecimal false 1 power with
  | .finite negative m p, .finite _ n q =>
    let scale := powerRatio 2 (p - q)
    ofRatio negative (m * scale.1) (n * scale.2)
  | other, _ => other

end Binary64
end Keyring
