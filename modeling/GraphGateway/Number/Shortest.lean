import GraphGateway.Number.Binary64

/-!
# Shortest decimal text of a number

A binary floating-point number is written with the fewest decimal digits
that read back as it. `Binary64.shortest` finds them: it walks through
the decimal grids of one, two, three digits and takes the first grid
that has a point among the reals that round to the number, and of two
such points the nearer.

Where the point goes and when an exponent is used is a decision of the
format that writes the number, a `Notation`.
-/

namespace GraphGateway

/-- **Decimal digits**: the value `digits * 10 ^ exponent`. -/
structure DecimalDigits where
  /-- The digits, read as one natural number. -/
  digits : Nat
  /-- The power of ten they are scaled by. -/
  exponent : Int
  deriving DecidableEq, Repr

namespace Binary64

/-- The greatest `k` with `10 ^ k ≤ num / den`, for a ratio of at least
`10 ^ (-400)`. -/
def floorLog10 (num den : Nat) : Int :=
  ((Nat.toDigits 10 (num * Nat.pow 10 400 / den)).length : Int) - 401

/-- `num / den` in units of `10 ^ k`, rounded down. -/
def decimalFloor (num den : Nat) (k : Int) : Nat :=
  if 0 ≤ k then num / (den * Nat.pow 10 k.toNat) else num * Nat.pow 10 (-k).toNat / den

/-- `c * 10 ^ k` compared with `num / den`. -/
def compareDecimal (c : Nat) (k : Int) (num den : Nat) : Ordering :=
  if 0 ≤ k then compare (c * Nat.pow 10 k.toNat * den) num
  else compare (c * den) (num * Nat.pow 10 (-k).toNat)

/-- The reals that round to a number, as ratios with the common
denominator of the third component, and whether the ends belong to them. -/
def roundingInterval (x : Binary64) : Nat × Nat × Nat × Bool :=
  let m := x.significand
  let low := if m == Nat.pow 2 52 && x.exponent > leastExponent then 4 * m - 1 else 4 * m - 2
  let high := 4 * m + 2
  let e := x.exponent - 2
  if 0 ≤ e then (low * Nat.pow 2 e.toNat, high * Nat.pow 2 e.toNat, 1, m % 2 == 0)
  else (low, high, Nat.pow 2 (-e).toNat, m % 2 == 0)

/-- Whether the point `c * 10 ^ k` rounds to the number. -/
def roundsTo (x : Binary64) (c : Nat) (k : Int) : Bool :=
  let (low, high, den, closed) := x.roundingInterval
  let above := compareDecimal c k low den
  let below := compareDecimal c k high den
  (above == .gt || (closed && above == .eq)) && (below == .lt || (closed && below == .eq))

/-- The point of the grid `10 ^ k` to write the number with, if one of
the number's two neighbours on that grid reads back as the number. -/
def onGrid (x : Binary64) (k : Int) : Option Nat :=
  let (num, den) := x.ratio
  let c := decimalFloor num den k
  match x.roundsTo c k && c != 0, x.roundsTo (c + 1) k with
  | false, false => none
  | true, false => some c
  | false, true => some (c + 1)
  | true, true =>
    -- the midpoint of the two neighbours, in half units of the grid
    match compareDecimal (2 * c + 1) k (2 * num) den with
    | .gt => some c
    | .lt => some (c + 1)
    | .eq => if c % 2 == 0 then some c else some (c + 1)

/-- The first of the grids of `width`, `width + 1`, … digits with a hit;
`fuel` grids are tried. -/
def shortestFrom (x : Binary64) (log : Int) (width : Nat) : Nat → DecimalDigits
  | 0 => ⟨decimalFloor x.ratio.1 x.ratio.2 (log - width + 1), log - width + 1⟩
  | fuel + 1 =>
    let k := log - width + 1
    match x.onGrid k with
    | some c => ⟨c, k⟩
    | none => shortestFrom x log (width + 1) fuel

/-- **The shortest digits** that read back as the number. -/
def shortest (x : Binary64) : DecimalDigits :=
  if x.isZero then ⟨0, 0⟩ else shortestFrom x (floorLog10 x.ratio.1 x.ratio.2) 1 17

end Binary64

/-- **A notation**: the decisions of a format that writes numbers. A
number whose leading digit stands for `10 ^ e` is written with a point
and no exponent when `least ≤ e < beyond`. -/
structure Notation where
  /-- The least exponent of the leading digit that needs no exponent. -/
  least : Int
  /-- The first exponent of the leading digit that needs one. -/
  beyond : Int

/-- The digits without the zeros at their end. -/
def dropTrailingZeros (ds : List Char) : List Char := (ds.reverse.dropWhile (· == '0')).reverse

/-- The digits written with a point and no exponent, at least one digit
on either side of the point. -/
def positionalDigits (ds : List Char) (lead : Int) : List Char :=
  if lead < 0 then '0' :: '.' :: List.replicate (-lead - 1).toNat '0' ++ ds
  else
    let whole := lead.toNat + 1
    if ds.length ≤ whole then ds ++ List.replicate (whole - ds.length) '0' ++ ['.', '0']
    else ds.take whole ++ '.' :: ds.drop whole

/-- The digits written with an exponent that carries its sign. -/
def scientificDigits (ds : List Char) (lead : Int) : List Char :=
  let fraction := if ds.length ≤ 1 then [] else '.' :: ds.drop 1
  let sign := if lead < 0 then '-' else '+'
  ds.take 1 ++ fraction ++ 'e' :: sign :: (Nat.toDigits 10 lead.natAbs)

/-- **The text of a number** in a notation. -/
def Notation.write (style : Notation) (x : Binary64) : String :=
  let sign := if x.negative then ['-'] else []
  if x.isZero then String.ofList (sign ++ ['0', '.', '0'])
  else
    let d := x.shortest
    let all := Nat.toDigits 10 d.digits
    let lead := d.exponent + all.length - 1
    let ds := dropTrailingZeros all
    let body :=
      if style.least ≤ lead && lead < style.beyond then positionalDigits ds lead
      else scientificDigits ds lead
    String.ofList (sign ++ body)

end GraphGateway
