import LayeredSite.Date.Calendar
import LayeredSite.Number.Literal
import LayeredSite.Text.Blank

namespace LayeredSite.Date

/-- Decimal digits, with zeros in front up to a width. -/
def padded (width n : Nat) : List Char :=
  let digits := Nat.toDigits 10 n
  List.replicate (width - digits.length) '0' ++ digits

/-- Years above 9999 and below 0 have a sign. -/
def yearText (year : Int) : List Char :=
  if year < 0 then '-' :: padded 4 year.natAbs
  else if 9999 < year then '+' :: padded 4 year.natAbs
  else padded 4 year.natAbs

def formatChars (d : Date) : List Char :=
  yearText d.year ++ '-' :: (padded 2 d.month ++ '-' :: padded 2 d.day)

/-- `YYYY-MM-DD`. -/
def format (d : Date) : String := String.ofList d.formatChars

/-- Between one and `max` digits, as many as there are. -/
def digits? (max : Nat) (cs : List Char) : Option (Nat × List Char) :=
  let ds := (cs.take max).takeWhile Number.isDigit
  if ds.isEmpty then none else some (Number.ofDigits ds, cs.drop ds.length)

def year? (cs : List Char) : Option (Int × List Char) :=
  match Text.trimStart cs with
  | '-' :: rest => (digits? rest.length rest).map fun (n, r) => (-(n : Int), r)
  | '+' :: rest => (digits? rest.length rest).map fun (n, r) => ((n : Int), r)
  | rest => (digits? 4 rest).map fun (n, r) => ((n : Int), r)

def dash? : List Char → Option (List Char)
  | '-' :: rest => some rest
  | _ => none

def field? (cs : List Char) : Option (Nat × List Char) := digits? 2 (Text.trimStart cs)

def parseChars (cs : List Char) : Option Date := do
  let (year, r) ← year? cs
  let (month, r) ← field? (← dash? r)
  let (day, r) ← field? (← dash? r)
  if r.isEmpty then of? year month day else none

def fixed? (width : Nat) (cs : List Char) : Option (Nat × List Char) :=
  let ds := cs.take width
  if ds.length = width ∧ ds.all Number.isDigit then some (Number.ofDigits ds, cs.drop width)
  else none

/-- The date in front of a stem and the text behind it, which is not empty and has no newline. -/
def dated? (cs : List Char) : Option (Date × List Char) := do
  let (year, r) ← fixed? 4 cs
  let (month, r) ← fixed? 2 (← dash? r)
  let (day, r) ← fixed? 2 (← dash? r)
  let rest ← dash? r
  let d ← of? year month day
  if rest.isEmpty || rest.contains '\n' then none else some (d, rest)

/-- A stem without a date is its own rest. -/
def splitStem (stem : String) : Option Date × String :=
  match dated? stem.toList with
  | some (d, rest) => (some d, String.ofList rest)
  | none => (none, stem)

end LayeredSite.Date
