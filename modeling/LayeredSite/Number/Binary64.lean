namespace LayeredSite.Binary64

def pow2 (n : Nat) : Nat := Nat.pow 2 n

def pow10 (n : Nat) : Nat := Nat.pow 10 n

/-- The quotient rounded to nearest, a half going to the even neighbour. -/
def divNearest (num den : Nat) : Nat :=
  let q := num / den
  let r := num % den
  if 2 * r < den then q else if den < 2 * r then q + 1 else q + q % 2

/-- `num / den` lies in the half-open binade from `2 ^ log2Ratio num den`. -/
def log2Ratio (num den : Nat) : Int :=
  let k : Int := (num.log2 : Int) - den.log2
  let below := if k < 0 then num * pow2 k.natAbs < den else num < den * pow2 k.natAbs
  if below then k - 1 else k

def notFinite : Nat := 2047 * pow2 52

/-- The sign bit and the 63 bits of the double nearest to a positive ratio. -/
def bitsOfRatio (num den : Nat) : Nat :=
  let q : Int := max (log2Ratio num den - 52) (-1074)
  let m :=
    if q < 0 then divNearest (num * pow2 q.natAbs) den else divNearest num (den * pow2 q.natAbs)
  min (m + (q + 1074).toNat * pow2 52) notFinite

def ofBits (negative : Bool) (bits : Nat) : Float :=
  Float.ofBits (UInt64.ofNat (if negative then pow2 63 + bits else bits))

def infinity (negative : Bool) : Float := ofBits negative notFinite

def nan (negative : Bool) : Float := ofBits negative (notFinite + pow2 51)

/-- The double nearest to `n * 10 ^ e`; beyond the range it is infinite or zero. -/
def ofDecimal (negative : Bool) (n : Nat) (e : Int) : Float :=
  let top : Int := e + (Nat.toDigits 10 n).length
  let bits :=
    if n = 0 then 0
    else if 310 < top then notFinite
    else if top < -330 then 0
    else if e < 0 then bitsOfRatio n (pow10 e.natAbs)
    else bitsOfRatio (n * pow10 e.natAbs) 1
  ofBits negative bits

inductive Parts
  | nan
  | infinite (negative : Bool)
  /-- The number `m * 2 ^ q`, where `m` is below `2 ^ 53`. -/
  | finite (negative : Bool) (m : Nat) (q : Int)

def parts (f : Float) : Parts :=
  let bits := f.toBits.toNat
  let negative : Bool := pow2 63 ≤ bits
  let expo : Nat := bits / pow2 52 % pow2 11
  let frac : Nat := bits % pow2 52
  if expo = 2047 then (if frac = 0 then .infinite negative else .nan)
  else if expo = 0 then .finite negative frac (-1074)
  else .finite negative (pow2 52 + frac) ((expo : Int) - 1075)

def scaled (num den : Nat) (k : Int) : Nat × Nat :=
  if k < 0 then (num * pow10 k.natAbs, den) else (num, den * pow10 k.natAbs)

/-- The interval of reals that round to `m * 2 ^ q`, as numerators over one denominator. -/
structure Interval where
  low : Nat
  value : Nat
  high : Nat
  den : Nat
  closed : Bool

/-- The lower neighbour is nearer when the significand is the least of its binade. -/
def interval (m : Nat) (q : Int) : Interval :=
  let up := if q < 0 then 1 else pow2 q.natAbs
  let den := if q < 0 then 4 * pow2 q.natAbs else 4
  let gap := if m = pow2 52 ∧ -1074 < q then 1 else 2
  ⟨(4 * m - gap) * up, 4 * m * up, (4 * m + 2) * up, den, m % 2 == 0⟩

def Interval.holds (i : Interval) (d : Nat) (k : Int) : Bool :=
  let (num, den) := if k < 0 then (d * i.den, pow10 k.natAbs) else (d * i.den * pow10 k.natAbs, 1)
  if i.closed then i.low * den ≤ num && num ≤ i.high * den
  else i.low * den < num && num < i.high * den

/-- The multiple of `10 ^ k` nearest to the value that lies in the interval; a tie goes up. -/
def Interval.onGrid (i : Interval) (k : Int) : Option Nat :=
  let (num, den) := scaled i.value i.den k
  let below := num / den
  let lowHit := i.holds below k && below != 0
  let highHit := i.holds (below + 1) k
  if lowHit && highHit then some (if 2 * (num % den) < den then below else below + 1)
  else if lowHit then some below
  else if highHit then some (below + 1)
  else none

/-- Tries the grids `10 ^ k`, `10 ^ (k - 1)`, … and takes the first with a hit. -/
def Interval.search (i : Interval) : Nat → Int → Nat × Int
  | 0, k => (0, k)
  | fuel + 1, k => match i.onGrid k with
    | some d => (d, k)
    | none => i.search fuel (k - 1)

/-- The shortest decimal `d * 10 ^ k` that rounds to `m * 2 ^ q`, for positive `m`. -/
def shortest (m : Nat) (q : Int) : Nat × Int :=
  let i := interval m q
  let top : Int := ((log2Ratio i.high i.den + 1) * 30103) / 100000 + 1
  i.search 24 top

/-- Digits in positional notation, never with an exponent and never ending in `.0`. -/
def positional (d : Nat) (k : Int) : String :=
  let digits := Nat.toDigits 10 d
  if 0 ≤ k then String.ofList (digits ++ List.replicate k.toNat '0')
  else
    let places := k.natAbs
    let padded := List.replicate (places + 1 - digits.length) '0' ++ digits
    let cut := padded.length - places
    String.ofList (padded.take cut) ++ "." ++ String.ofList (padded.drop cut)

/-- The text of a double: the shortest digits that read back, written positionally. -/
def text (f : Float) : String :=
  match parts f with
  | .nan => "NaN"
  | .infinite negative => if negative then "-inf" else "inf"
  | .finite negative m q =>
    let body := if m = 0 then "0" else
      let (d, k) := shortest m q
      positional d k
    if negative then "-" ++ body else body

end LayeredSite.Binary64
