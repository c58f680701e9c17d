import LayeredSite.Number.Binary64

namespace LayeredSite.Number

def isDigit (c : Char) : Bool := '0' ≤ c && c ≤ '9'

def digitValue (c : Char) : Nat := c.toNat - '0'.toNat

def ofDigits (cs : List Char) : Nat := cs.foldl (fun n c => 10 * n + digitValue c) 0

def splitSign : List Char → Bool × List Char
  | '-' :: rest => (true, rest)
  | '+' :: rest => (false, rest)
  | cs => (false, cs)

def integer? (cs : List Char) : Option Int :=
  let (negative, digits) := splitSign cs
  if digits.isEmpty || !digits.all isDigit then none
  else some (if negative then -(ofDigits digits : Int) else ofDigits digits)

def int64? (i : Int) : Option Int64 :=
  if Int64.minValue.toInt ≤ i ∧ i ≤ Int64.maxValue.toInt then some (Int64.ofInt i) else none

def parseInt64 (cs : List Char) : Option Int64 := integer? cs >>= int64?

structure Scientific where
  whole : List Char
  fraction : List Char
  exponent : Int

/-- Digits, an optional point with digits, and an optional exponent; one digit at least. -/
def scientific? (cs : List Char) : Option Scientific :=
  let whole := cs.takeWhile isDigit
  let afterWhole := cs.dropWhile isDigit
  let (fraction, afterFraction) := match afterWhole with
    | '.' :: rest => (rest.takeWhile isDigit, rest.dropWhile isDigit)
    | rest => ([], rest)
  if whole.isEmpty && fraction.isEmpty then none
  else match afterFraction with
    | [] => some ⟨whole, fraction, 0⟩
    | c :: rest =>
      if c = 'e' || c = 'E' then (integer? rest).map fun e => ⟨whole, fraction, e⟩
      else none

def Scientific.toFloat (negative : Bool) (s : Scientific) : Float :=
  Binary64.ofDecimal negative (ofDigits (s.whole ++ s.fraction)) (s.exponent - s.fraction.length)

/-- A floating-point literal; `inf`, `infinity` and `nan` are read in any case. -/
def parseFloat (cs : List Char) : Option Float :=
  let (negative, body) := splitSign cs
  let word := String.ofList (body.map Char.toLower)
  if word = "inf" || word = "infinity" then some (Binary64.infinity negative)
  else if word = "nan" then some (Binary64.nan negative)
  else (scientific? body).map (·.toFloat negative)

theorem int64?_toInt {i : Int} {n : Int64} (h : int64? i = some n) : n.toInt = i := by
  unfold int64? at h
  split at h
  · rename_i hr
    rw [← Option.some.inj h]
    exact Int64.toInt_ofInt_of_le (by simpa using hr.1) (Int.lt_of_le_sub_one hr.2)
  · simp at h

end LayeredSite.Number
