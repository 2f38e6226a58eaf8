import Mathlib.Algebra.Group.Nat.Defs
import Mathlib.Data.Nat.Log

/-!
# F64 — double-precision numbers

`F64 F` lists the operations on `f64` that a model may use.  No law is assumed of them, so a
statement over an arbitrary `F` holds of IEEE arithmetic with its rounding and its NaNs, and of
exact arithmetic alike.  `Float` is the instance the code runs on.
-/

namespace ZLayer.Lib

class F64 (F : Type) extends Add F, Sub F, Mul F, Div F, LT F, LE F, OfScientific F where
  decLt : DecidableLT F
  decLe : DecidableLE F
  /-- `f64::from_bits`. -/
  ofBits : UInt64 → F
  /-- `n as f64`: the nearest number. -/
  ofU64 : UInt64 → F
  /-- The text of `{}`. -/
  display : F → String

namespace F64

variable {F : Type} [F64 F]

instance (a b : F) : Decidable (a < b) := decLt a b

instance (a b : F) : Decidable (a ≤ b) := decLe a b

def isNan (a : F) : Prop := ¬a ≤ a

instance (a : F) : Decidable (isNan a) := inferInstanceAs (Decidable (¬a ≤ a))

/-- `f64::max`: a NaN loses against a number. -/
def max (a b : F) : F :=
  if isNan a then b
  else if isNan b then a
  else if a < b then b
  else a

def partialCmp (a b : F) : Option Ordering :=
  match decide (a ≤ b), decide (b ≤ a) with
  | false, false => none
  | false, true => some .gt
  | true, false => some .lt
  | true, true => some .eq

def abs (a : F) : F :=
  if a < 0.0 then 0.0 - a else a

/-- `f64::midpoint`: halve after the addition unless it could overflow, and never halve a number
so small that halving would underflow. -/
def midpoint (a b : F) : F :=
  let lo : F := ofBits 0x0020000000000000
  let hi : F := ofBits 0x7fdfffffffffffff
  if abs a ≤ hi ∧ abs b ≤ hi then (a + b) / 2.0
  else if abs a < lo then a + b / 2.0
  else if abs b < lo then a / 2.0 + b
  else a / 2.0 + b / 2.0

end F64

/-! ## The text of a `Float` -/

namespace Float64

def units (x : Float) : Nat :=
  let exponent := x.toBits.toNat / 2 ^ 52 % 2 ^ 11
  let fraction := x.toBits.toNat % 2 ^ 52
  if exponent = 0 then fraction else (2 ^ 52 + fraction) * 2 ^ (exponent - 1)

/-- `d * 10 ^ p` as a `Float`. -/
def ofDecimal (d : Nat) (p : Int) : Float :=
  OfScientific.ofScientific d (decide (p < 0)) p.natAbs

/-- The exponent of the first decimal digit of `n * 2 ^ (-1074)`. -/
def decimalExponent (n : Nat) : Int :=
  if 2 ^ 1074 ≤ n then Nat.log 10 (n / 2 ^ 1074)
  else -(Nat.clog 10 ((2 ^ 1074 + n - 1) / n) : Nat)

/-- The decimal with last digit at `10 ^ p` that is read back as `x`, the nearer one if two are. -/
def decimalAt (x : Float) (p : Int) : Option Nat :=
  let num := units x * 10 ^ (-p).toNat
  let den := 2 ^ 1074 * 10 ^ p.toNat
  let d := num / den
  let below := ofDecimal d p == x
  let above := ofDecimal (d + 1) p == x
  if below && above then
    some (if 2 * (num % den) ≤ den then d else d + 1)
  else if below then some d
  else if above then some (d + 1)
  else none

/-- The shortest decimal that is read back as the positive number `x`. -/
def shortest (x : Float) : Nat × Int :=
  let e := decimalExponent (units x)
  ((List.range 17).findSome? fun (k : Nat) =>
    (decimalAt x (e - k)).map fun d => (d, e - k)).getD (0, 0)

def positional (d : Nat) (p : Int) : String :=
  if 0 ≤ p then toString (d * 10 ^ p.toNat)
  else
    let places := p.natAbs
    let digits := (toString (d % 10 ^ places)).toList
    toString (d / 10 ^ places) ++ "." ++
      String.ofList (List.replicate (places - digits.length) '0' ++ digits)

def display (x : Float) : String :=
  if x.isNaN then "NaN"
  else
    let sign := if x.toBits.toNat < 2 ^ 63 then "" else "-"
    if x.isInf then sign ++ "inf"
    else if units x = 0 then sign ++ "0"
    else
      let (d, p) := shortest x.abs
      sign ++ positional d p

end Float64

instance : F64 Float where
  decLt := Float.decLt
  decLe := Float.decLe
  ofBits := Float.ofBits
  ofU64 := UInt64.toFloat
  display := Float64.display

end ZLayer.Lib
