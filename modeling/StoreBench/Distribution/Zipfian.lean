import StoreBench.Config.Error
import StoreBench.Crash
import StoreBench.Random.Sample

namespace StoreBench

/-! Zipfian popularity over consecutive numbers: the first is the most popular,
the next one less, and so on, with a skew `theta`.

The normalising constant `zeta` is a sum with one term for each item. A draw may
ask for another number of items than the one before. For more items the sum goes
on where it stopped; for fewer it starts again. Terms are always added in the same
order, so both ways lead to the same sum, bit for bit. -/

namespace Zipfian

def defaultTheta : Float := 0.99

/-- The least number of items that is no longer supported. -/
def itemLimit : UInt64 := 1099511627776

def extendZeta (theta : Float) : Nat → UInt64 → Float → Float
  | 0, _, sum => sum
  | count + 1, covered, sum =>
      extendZeta theta count (covered + 1) (sum + 1 / (covered + 1).toFloat.pow theta)

def zeta (covered items : UInt64) (theta sum : Float) : Float :=
  extendZeta theta (items.toNat - covered.toNat) covered sum

theorem extendZeta_add (theta : Float) (first second : Nat) (covered : UInt64)
    (sum : Float) :
    extendZeta theta (first + second) covered sum =
      extendZeta theta second (covered + UInt64.ofNat first)
        (extendZeta theta first covered sum) := by
  induction first generalizing covered sum with
  | zero => simp [extendZeta]
  | succ first induction =>
      rw [Nat.succ_add, extendZeta, induction, extendZeta]
      congr 1
      apply UInt64.toNat_inj.mp
      simp [UInt64.toNat_add]
      omega

def etaOf (items : UInt64) (theta zeta2 zetaN : Float) : Float :=
  (1 - (2 / items.toFloat).pow (1 - theta)) / (1 - zeta2 / zetaN)

def supported (items : UInt64) : Bool := 2 ≤ items && items < itemLimit

def checkItems (items : UInt64) : Except ConfigError Unit :=
  if supported items then .ok ()
  else .error (.outOfBounds "zipfian item count" items 2 (itemLimit - 1))

/-- How many numbers lie between two bounds: none if they are out of order, and
the largest word if there are more than that. -/
def itemsBetween (lower upper : UInt64) : UInt64 :=
  if lower ≤ upper then
    if upper - lower = 18446744073709551615 then 18446744073709551615
    else upper - lower + 1
  else 0

end Zipfian

structure Zipfian where
  items : UInt64
  base : UInt64
  theta : Float
  alpha : Float
  zeta2 : Float
  /-- The number of items that `zetaN` and `eta` belong to. -/
  zetaItems : UInt64
  zetaN : Float
  eta : Float
  last : UInt64

namespace Zipfian

def withTheta (lower upper : UInt64) (theta : Float) : Except ConfigError Zipfian := do
  let items := itemsBetween lower upper
  checkItems items
  let zeta2 := zeta 0 2 theta 0
  let zetaN := zeta 0 items theta 0
  return {
    items, base := lower, theta, alpha := 1 / (1 - theta), zeta2
    zetaItems := items, zetaN, eta := etaOf items theta zeta2 zetaN
    last := lower }

def between (lower upper : UInt64) : Except ConfigError Zipfian :=
  withTheta lower upper defaultTheta

def below (items : UInt64) : Except ConfigError Zipfian := do
  checkItems items
  between 0 (items - 1)

def resize (zipfian : Zipfian) (items : UInt64) : Zipfian :=
  if zipfian.zetaItems < items then
    let zetaN := zeta zipfian.zetaItems items zipfian.theta zipfian.zetaN
    { zipfian with
      zetaItems := items, zetaN, eta := etaOf items zipfian.theta zipfian.zeta2 zetaN }
  else if items < zipfian.zetaItems then
    let zetaN := zeta 0 items zipfian.theta 0
    { zipfian with
      zetaItems := items, zetaN, eta := etaOf items zipfian.theta zipfian.zeta2 zetaN }
  else zipfian

/-- The number that a fraction of one selects among `items` items. Past the two
most popular numbers it is found by the power law and kept below `items`. -/
def select (zipfian : Zipfian) (items : UInt64) (fraction : Float) :
    Except Crash UInt64 :=
  let weight := fraction * zipfian.zetaN
  if weight < 1 then .ok zipfian.base
  else if weight < 1 + (0.5 : Float).pow zipfian.theta then checkedAdd zipfian.base 1
  else
    let offset := (items.toFloat *
      (zipfian.eta * fraction - zipfian.eta + 1).pow zipfian.alpha).toUInt64
    checkedAdd zipfian.base (if items - 1 < offset then items - 1 else offset)

def drawAmong {σ : Type} [WordSource σ] (zipfian : Zipfian) (items : UInt64)
    (source : σ) : Except Crash (UInt64 × Zipfian × σ) := do
  if !supported items then throw .unsupportedItemCount
  let zipfian := zipfian.resize items
  let (fraction, source) := drawFraction source
  let value ← zipfian.select items fraction
  return (value, { zipfian with last := value }, source)

def draw {σ : Type} [WordSource σ] (zipfian : Zipfian) (source : σ) :
    Except Crash (UInt64 × Zipfian × σ) :=
  zipfian.drawAmong zipfian.items source

end Zipfian
end StoreBench
