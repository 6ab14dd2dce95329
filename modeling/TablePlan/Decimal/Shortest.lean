import TablePlan.Decimal.Binary64

/-!
# The shortest decimal of a binary number

Among the decimals that read back to a binary number, the one with the fewest digits is chosen,
and of those the nearest.  The choice is made on exact natural numbers: for one digit, two digits
and so on, the two neighbours of the number on that decimal grid are tested against the interval
of reals that round to it.  Main statement: what the search finds reads back
(`readsBack_of_search?`).
-/

namespace TablePlan.Decimal

open Binary64 (Magnitude)

/-- The decimal number `digits * 10 ^ exponent`. -/
structure Scaled where
  digits : Nat
  exponent : Int
  deriving DecidableEq, Repr

/-- Which of two equally near decimals is taken. -/
inductive Tie where
  | toEven
  | away
  deriving DecidableEq, Repr

/-- Compares `a * 10 ^ i` with `n * 2 ^ j`, exactly. -/
def compareScaled (a : Nat) (i : Int) (n : Nat) (j : Int) : Ordering :=
  compare (a * Nat.pow 10 i.toNat * Nat.pow 2 (-j).toNat)
    (n * Nat.pow 2 j.toNat * Nat.pow 10 (-i).toNat)

/-- Whether a decimal lies among the reals that round to the magnitude: from halfway to the
number below up to halfway to the number above, the ends belonging to an even `m`. -/
def readsBack (x : Magnitude) (d : Scaled) : Bool :=
  let low := if x.narrowBelow then 4 * x.m - 1 else 4 * x.m - 2
  let high := 4 * x.m + 2
  let ends := x.m % 2 == 0
  let atLow := compareScaled d.digits d.exponent low (x.q - 2)
  let atHigh := compareScaled d.digits d.exponent high (x.q - 2)
  (atLow == .gt || (ends && atLow == .eq)) && (atHigh == .lt || (ends && atHigh == .eq))

/-- The magnitude as a fraction. -/
def fraction (x : Magnitude) : Nat × Nat :=
  (x.m * Nat.pow 2 x.q.toNat, Nat.pow 2 (-x.q).toNat)

/-- The number of decimal digits. -/
def digitCount (n : Nat) : Nat :=
  (Nat.toDigits 10 n).length

/-- The least `k` with the magnitude below `10 ^ k`; the magnitude is not zero. -/
def scale (x : Magnitude) : Int :=
  let (num, den) := fraction x
  if den ≤ num then digitCount (num / den) else 1 - digitCount ((den - 1) / num)

/-- The grid point `10 ^ exponent * n` at or below the magnitude. -/
def gridBelow (x : Magnitude) (exponent : Int) : Nat :=
  let (num, den) := fraction x
  (num * Nat.pow 10 (-exponent).toNat) / (den * Nat.pow 10 exponent.toNat)

/-- Which of a grid point and the next one is nearer to the magnitude: `lt` for the lower. -/
def nearer (x : Magnitude) (lower : Nat) (exponent : Int) : Ordering :=
  let (num, den) := fraction x
  compare (2 * num * Nat.pow 10 (-exponent).toNat)
    ((2 * lower + 1) * den * Nat.pow 10 exponent.toNat)

/-- The decimal on one grid that reads back, the nearer one if both neighbours do. -/
def onGrid? (tie : Tie) (x : Magnitude) (exponent : Int) : Option Scaled :=
  let lower := gridBelow x exponent
  let below : Scaled := ⟨lower, exponent⟩
  let above : Scaled := ⟨lower + 1, exponent⟩
  match readsBack x below, readsBack x above with
  | false, false => none
  | true, false => some below
  | false, true => some above
  | true, true =>
    match nearer x lower exponent, tie with
    | .lt, _ => some below
    | .gt, _ => some above
    | .eq, .away => some above
    | .eq, .toEven => if lower % 2 == 0 then some below else some above

/-- The first grid of one, two, … seventeen digits that has such a decimal. -/
def search? (tie : Tie) (x : Magnitude) : Option Scaled :=
  (List.range 17).findSome? fun (n : Nat) => onGrid? tie x (scale x - 1 - n)

/-- The exact value, as a decimal. -/
def exact (x : Magnitude) : Scaled :=
  if x.q < 0 then ⟨x.m * Nat.pow 5 (-x.q).toNat, x.q⟩ else ⟨x.m * Nat.pow 2 x.q.toNat, 0⟩

/-- Moves trailing zeros of the digits into the exponent, at most `fuel` of them. -/
def stripZeros : (fuel : Nat) → Scaled → Scaled
  | 0, d => d
  | fuel + 1, d =>
    if d.digits != 0 && d.digits % 10 == 0 then stripZeros fuel ⟨d.digits / 10, d.exponent + 1⟩
    else d

/-- The shortest decimal of a magnitude. -/
def shortest (tie : Tie) (x : Magnitude) : Scaled :=
  if x.m == 0 then ⟨0, 0⟩
  else
    let found := (search? tie x).getD (exact x)
    stripZeros (digitCount found.digits) found

theorem readsBack_of_onGrid? {tie : Tie} {x : Magnitude} {exponent : Int} {d : Scaled}
    (found : onGrid? tie x exponent = some d) : readsBack x d = true := by
  simp only [onGrid?] at found
  split at found
  · simp at found
  · simp_all
  · simp_all
  · split at found
    · simp_all
    · simp_all
    · simp_all
    · split at found <;> simp_all

/-- What the search finds is a decimal that reads back. -/
theorem readsBack_of_search? {tie : Tie} {x : Magnitude} {d : Scaled}
    (found : search? tie x = some d) : readsBack x d = true := by
  obtain ⟨n, _, hit⟩ := List.exists_of_findSome?_eq_some found
  exact readsBack_of_onGrid? hit

end TablePlan.Decimal
