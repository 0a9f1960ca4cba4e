import Narrative.Text.Numeral

/-!
# Shortest decimals

The decimal with the fewest digits that reads back as a given binary fraction, and its text.  All
arithmetic is exact: a finite double is `significand · 2 ^ exponent`, and the reals that read back
as it form an interval whose ends count when the significand is even.
-/

namespace Narrative.Decimal

/-- A positive double, taken apart. -/
structure Binary where
  significand : Nat
  exponent : Int
  /-- The interval below is half as wide at a power of two. -/
  narrowBelow : Bool

/-- The significand of the least normal double: fifty-two bits follow its leading one. -/
def leadingOne : Nat := 0x10000000000000

/-- The parts of a positive finite double. -/
def Binary.ofFloat (x : Float) : Binary :=
  let bits := x.toBits.toNat
  let fraction : Nat := bits % leadingOne
  let biased : Nat := bits / leadingOne % 0x800
  if biased = 0 then ⟨fraction, -1074, false⟩
  else ⟨fraction + leadingOne, (biased : Int) - 1075, fraction == 0 && 1 < biased⟩

/-- `digits · 10 ^ exponent`. -/
structure Digits where
  digits : Nat
  exponent : Int

/-- A power of the base for a positive `e`, else one. -/
def posPower (base : Nat) (e : Int) : Nat := Nat.pow base e.toNat

/-- The point of the grid `10 ^ k` that reads back as `b` and is nearest to it, if there is one. -/
def onGrid? (b : Binary) (k : Int) : Option Nat :=
  let binaryScale := b.exponent - 2
  let mul := posPower 10 (-k) * posPower 2 binaryScale
  let div := posPower 10 k * posPower 2 (-binaryScale)
  let value := 4 * b.significand * mul
  let low := (4 * b.significand - if b.narrowBelow then 1 else 2) * mul
  let high := (4 * b.significand + 2) * mul
  let ends := b.significand % 2 == 0
  let readsBack (n : Nat) : Bool :=
    let x := n * div
    (low < x && x < high) || (ends && (x == low || x == high))
  let below := value / div
  let above := below + 1
  match readsBack below, readsBack above with
  | true, true =>
    let down := value - below * div
    let up := above * div - value
    some (if down < up || (down == up && below % 2 == 0) then below else above)
  | true, false => some below
  | false, true => some above
  | false, false => none

/-- The exponent of the leading decimal digit: no double is below `10 ^ (-330)`. -/
def leading (b : Binary) : Int :=
  let n := b.significand * posPower 2 b.exponent * Nat.pow 10 330 / posPower 2 (-b.exponent)
  (Nat.toDigits 10 n).length - 331

/-- The first grid, from one digit to seventeen, that holds a point which reads back. -/
def shortest (b : Binary) : Digits :=
  let start := leading b
  let grids := (List.range 17).map fun (n : Nat) => start - n
  match grids.findSome? fun k => (onGrid? b k).map (Digits.mk · k) with
  | some d => d
  | none => ⟨0, 0⟩

/-- The text of a decimal: positional from `10 ^ (-5)` up to `10 ^ 16`, always with a point; else
one digit before the point and an exponent with its sign. -/
def Digits.text (d : Digits) : String :=
  let ds := ((Nat.toDigits 10 d.digits).reverse.dropWhile (· = '0')).reverse
  let lead : Int := d.exponent + (Nat.toDigits 10 d.digits).length - 1
  if -5 ≤ lead ∧ lead ≤ 15 then
    if lead < 0 then
      "0." ++ String.ofList (List.replicate (-lead - 1).toNat '0' ++ ds)
    else
      let whole := lead.toNat + 1
      let before := ds.take whole ++ List.replicate (whole - ds.length) '0'
      let after := ds.drop whole
      String.ofList before ++ "." ++ if after.isEmpty then "0" else String.ofList after
  else
    String.ofList (ds.take 1) ++ (if ds.length ≤ 1 then "" else "." ++ String.ofList (ds.drop 1)) ++
      "e" ++ (if lead < 0 then "-" else "+") ++ Text.decimal lead.natAbs

-- The last decimals that are written positionally, and the first with an exponent.
example :
    (Digits.mk 1 (-5)).text = "0.00001" ∧ (Digits.mk 999999 (-11)).text = "9.99999e-6" ∧
      (Digits.mk 9 15).text = "9000000000000000.0" ∧ (Digits.mk 1 16).text = "1e+16" := by
  decide +kernel

/-- The shortest text of a finite double. -/
def text (x : Float) : String :=
  let sign := if x.toBits.toNat < 0x8000000000000000 then "" else "-"
  let size := x.abs
  sign ++ if size == 0 then "0.0" else (shortest (Binary.ofFloat size)).text

end Narrative.Decimal
