import TablePlan.Decimal.Shortest

/-!
# The text of a number

How the digits of a number are laid out: positionally or with an exponent, with or without a
point after whole numbers.
-/

namespace TablePlan.Decimal

/-- The decisions of one number format. -/
structure Layout where
  /-- Whether a number whose leading digit stands for `10 ^ e` is written without an exponent. -/
  isPositional : Int → Bool
  /-- Whether a whole number ends in `.0`. -/
  pointZero : Bool
  /-- Which of two equally near decimals is written. -/
  tie : Tie

/-- The digits of a natural number. -/
def digits (n : Nat) : List Char :=
  Nat.toDigits 10 n

/-- The digits of an integer after its sign; only a negative one has a sign. -/
def signedDigits (n : Int) : List Char :=
  if n < 0 then '-' :: digits n.natAbs else digits n.natAbs

/-- A decimal without an exponent. -/
def positional (pointZero : Bool) (d : Scaled) : List Char :=
  let ds := digits d.digits
  if d.exponent ≥ 0 then
    ds ++ List.replicate d.exponent.toNat '0' ++ (if pointZero then ['.', '0'] else [])
  else
    let places := (-d.exponent).toNat
    let padded := List.replicate (places + 1 - ds.length) '0' ++ ds
    padded.take (padded.length - places) ++ '.' :: padded.drop (padded.length - places)

/-- A decimal with one digit before the point and an exponent. -/
def withExponent (d : Scaled) : List Char :=
  let ds := digits d.digits
  let leading := d.exponent + ds.length - 1
  ds.take 1 ++ (if ds.length = 1 then [] else '.' :: ds.drop 1) ++ 'e' :: signedDigits leading

/-- The text of a finite number; a negative zero keeps its sign. -/
def Layout.text (layout : Layout) (x : Binary64) : List Char :=
  let d := shortest layout.tie x.magnitude
  let leading := d.exponent + (digits d.digits).length - 1
  (if x.isNegative then ['-'] else []) ++
    (if layout.isPositional leading then positional layout.pointZero d else withExponent d)

end TablePlan.Decimal
