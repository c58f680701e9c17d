import LayeredSite.Date.Text

namespace LayeredSite.Toml.Datetime

open LayeredSite.Date (padded)

def digits? (width : Nat) (cs : List Char) : Option (Nat × List Char) :=
  let ds := cs.take width
  if ds.length = width ∧ ds.all Number.isDigit then some (Number.ofDigits ds, cs.drop width)
  else none

def char? (c : Char) : List Char → Option (List Char)
  | d :: rest => if d = c then some rest else none
  | [] => none

def date? (cs : List Char) : Option (List Char × List Char) := do
  let (y, r) ← digits? 4 cs
  let (m, r) ← digits? 2 (← char? '-' r)
  let (d, r) ← digits? 2 (← char? '-' r)
  if Calendar.isDate y m d then
    some (padded 4 y ++ '-' :: (padded 2 m ++ '-' :: padded 2 d), r)
  else none

/-- The decimal places of a second, of which nine count. -/
def fraction (cs : List Char) : List Char × List Char :=
  match cs with
  | '.' :: rest =>
    let ds := rest.takeWhile Number.isDigit
    if ds.isEmpty then ([], cs)
    else
      let kept := ((ds.take 9).reverse.dropWhile (· == '0')).reverse
      (if kept.isEmpty then [] else '.' :: kept, rest.drop ds.length)
  | _ => ([], cs)

def time? (cs : List Char) : Option (List Char × List Char) := do
  let (h, r) ← digits? 2 cs
  let (m, r) ← digits? 2 (← char? ':' r)
  let (s, r) ← digits? 2 (← char? ':' r)
  if 23 < h || 59 < m || 60 < s then none
  else
    let (f, r) := fraction r
    some (padded 2 h ++ ':' :: (padded 2 m ++ ':' :: (padded 2 s ++ f)), r)

/-- `Z`, or hours and minutes with a sign; no offset is written as `+00:00`. -/
def offset? (cs : List Char) : Option (List Char × List Char) :=
  match cs with
  | 'Z' :: rest => some (['Z'], rest)
  | 'z' :: rest => some (['Z'], rest)
  | sign :: rest =>
    if sign = '+' || sign = '-' then do
      let (h, r) ← digits? 2 rest
      let (m, r) ← digits? 2 (← char? ':' r)
      if 23 < h || 59 < m then none
      else
        let sign := if h = 0 && m = 0 then '+' else sign
        some (sign :: (padded 2 h ++ ':' :: padded 2 m), r)
    else none
  | [] => none

/-- The time behind a date, after a `T` or a blank. -/
def timeBehind? (cs : List Char) : Option (List Char × List Char) :=
  match cs with
  | c :: rest =>
    if c = 'T' || c = 't' || c = ' ' then do
      let (t, r) ← time? rest
      match offset? r with
      | some (o, r) => some ('T' :: (t ++ o), r)
      | none => some ('T' :: t, r)
    else none
  | [] => none

def read? (cs : List Char) : Option (String × List Char) :=
  match date? cs with
  | some (d, r) => match timeBehind? r with
    | some (t, r) => some (String.ofList (d ++ t), r)
    | none => some (String.ofList d, r)
  | none => (time? cs).map fun (t, r) => (String.ofList t, r)

end LayeredSite.Toml.Datetime
