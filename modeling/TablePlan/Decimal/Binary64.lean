/-!
# Binary floating-point numbers

A number in the 64-bit binary format, held as its bits, so that two numbers are equal exactly
when all their bits agree.  A finite one is decoded into a sign and `m * 2 ^ q`.
-/

namespace TablePlan

/-- The bits of a 64-bit binary floating-point number. -/
structure Binary64 where
  bits : UInt64
  deriving DecidableEq, Repr

namespace Binary64

/-- The eleven bits of the exponent. -/
def exponentField (x : Binary64) : Nat :=
  ((x.bits >>> 52) &&& 0x7FF).toNat

/-- The fifty-two bits of the fraction. -/
def fractionField (x : Binary64) : Nat :=
  (x.bits &&& 0xFFFFFFFFFFFFF).toNat

/-- Whether the sign bit is set; zero has a sign too. -/
def isNegative (x : Binary64) : Bool :=
  x.bits >>> 63 != 0

/-- Whether the number is neither infinite nor undefined. -/
def isFinite (x : Binary64) : Bool :=
  x.exponentField != 0x7FF

/-- Whether the bits stand for no number at all. -/
def isNaN (x : Binary64) : Bool :=
  x.exponentField == 0x7FF && x.fractionField != 0

/-- The number that a machine float holds. -/
def ofFloat (x : Float) : Binary64 :=
  ⟨x.toBits⟩

/-- The number with its sign turned. -/
def negate (x : Binary64) : Binary64 :=
  ⟨x.bits ^^^ 0x8000000000000000⟩

/-- A finite number without its sign: `m * 2 ^ q`. -/
structure Magnitude where
  m : Nat
  q : Int
  /-- The gap to the number below is half the gap to the number above. -/
  narrowBelow : Bool
  deriving DecidableEq, Repr

/-- The magnitude of a finite number. -/
def magnitude (x : Binary64) : Magnitude :=
  let e := x.exponentField
  let f := x.fractionField
  if e == 0 then ⟨f, -1074, false⟩ else ⟨0x10000000000000 + f, (e : Int) - 1075, f == 0 && e > 1⟩

end Binary64

end TablePlan
