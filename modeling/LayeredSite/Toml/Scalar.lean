import LayeredSite.Number.Literal

namespace LayeredSite.Toml

abbrev Reader (α : Type) := List Char → Option (α × List Char)

def isSpace (c : Char) : Bool := c == ' ' || c == '\t'

def skipSpace (cs : List Char) : List Char := cs.dropWhile isSpace

def newline? : List Char → Option (List Char)
  | '\n' :: rest => some rest
  | '\r' :: '\n' :: rest => some rest
  | _ => none

def isPlain (c : Char) : Bool := c == '\t' || (0x20 ≤ c.toNat && c.toNat != 0x7F)

def hexValue? (c : Char) : Option Nat :=
  if '0' ≤ c && c ≤ '9' then some (c.toNat - '0'.toNat)
  else if 'a' ≤ c && c ≤ 'f' then some (c.toNat - 'a'.toNat + 10)
  else if 'A' ≤ c && c ≤ 'F' then some (c.toNat - 'A'.toNat + 10)
  else none

def ofBase? (base : Nat) (cs : List Char) : Option Nat :=
  cs.foldlM (fun n c => do
    let d ← hexValue? c
    if d < base then some (base * n + d) else none) 0

def scalar? (width : Nat) (cs : List Char) : Option (Char × List Char) := do
  if (cs.take width).length = width then
    let n ← ofBase? 16 (cs.take width)
    if h : n.isValidChar then some (Char.ofNatAux n h, cs.drop width) else none
  else none

def escape? : Reader Char
  | 'b' :: rest => some ('\x08', rest)
  | 't' :: rest => some ('\t', rest)
  | 'n' :: rest => some ('\n', rest)
  | 'f' :: rest => some ('\x0c', rest)
  | 'r' :: rest => some ('\r', rest)
  | '"' :: rest => some ('"', rest)
  | '\\' :: rest => some ('\\', rest)
  | 'u' :: rest => scalar? 4 rest
  | 'U' :: rest => scalar? 8 rest
  | _ => none

def basicBody : Nat → List Char → Reader String
  | 0, _, _ => none
  | n + 1, acc, cs => match cs with
    | '"' :: rest => some (String.ofList acc.reverse, rest)
    | '\\' :: rest => do
      let (c, r) ← escape? rest
      basicBody n (c :: acc) r
    | c :: rest => if isPlain c then basicBody n (c :: acc) rest else none
    | [] => none

def literalBody (cs : List Char) : Option (String × List Char) :=
  let s := cs.takeWhile (fun c => c != '\'' && isPlain c)
  match cs.drop s.length with
  | '\'' :: rest => some (String.ofList s, rest)
  | _ => none

def skipLines : Nat → List Char → List Char
  | 0, cs => cs
  | n + 1, cs => match newline? (skipSpace cs) with
    | some rest => skipLines n rest
    | none => skipSpace cs

/-- A closing run of three to five quotes: those beyond three belong to the string. -/
def closing? (quote : Char) (cs : List Char) : Option (List Char × List Char) :=
  let n := (cs.takeWhile (· == quote)).length
  if 3 ≤ n then
    if n ≤ 5 then some (List.replicate (n - 3) quote, cs.drop n) else none
  else none

def multiBody (quote : Char) : Nat → List Char → Reader String
  | 0, _, _ => none
  | n + 1, acc, cs => match closing? quote cs with
    | some (extra, rest) => some (String.ofList (extra ++ acc).reverse, rest)
    | none => match newline? cs with
      | some rest => multiBody quote n ('\n' :: acc) rest
      | none => match cs with
        | '\\' :: rest =>
          if quote = '"' then
            match newline? (skipSpace rest) with
            | some r => multiBody quote n acc (skipLines n r)
            | none => do
              let (c, r) ← escape? rest
              multiBody quote n (c :: acc) r
          else multiBody quote n ('\\' :: acc) rest
        | c :: rest =>
          if isPlain c && !(3 ≤ (cs.takeWhile (· == quote)).length) then
            multiBody quote n (c :: acc) rest
          else none
        | [] => none

def multi (quote : Char) (cs : List Char) : Option (String × List Char) :=
  multiBody quote (cs.length + 1) [] ((newline? cs).getD cs)

def string? (cs : List Char) : Option (String × List Char) :=
  match cs with
  | '"' :: '"' :: '"' :: rest => multi '"' rest
  | '\'' :: '\'' :: '\'' :: rest => multi '\'' rest
  | '"' :: rest => basicBody (rest.length + 1) [] rest
  | '\'' :: rest => literalBody rest
  | _ => none

def isBare (c : Char) : Bool :=
  ('a' ≤ c && c ≤ 'z') || ('A' ≤ c && c ≤ 'Z') || ('0' ≤ c && c ≤ '9') || c == '_' || c == '-'

def keyPart? (cs : List Char) : Option (String × List Char) :=
  match cs with
  | '"' :: rest => basicBody (rest.length + 1) [] rest
  | '\'' :: rest => literalBody rest
  | _ =>
    let k := cs.takeWhile isBare
    if k.isEmpty then none else some (String.ofList k, cs.drop k.length)

/-- Key parts with dots between them; blanks around the dots do not count. -/
def keyWithin : Nat → Reader (List String)
  | 0, _ => none
  | n + 1, cs => do
    let (k, r) ← keyPart? (skipSpace cs)
    match skipSpace r with
    | '.' :: rest => do
      let (ks, r) ← keyWithin n rest
      some (k :: ks, r)
    | r => some ([k], r)

def key? (cs : List Char) : Option (List String × List Char) := keyWithin (cs.length + 1) cs

/-- Digits with single underscores between them, which do not count. -/
def digitRun (isDigit : Char → Bool) : List Char → Option (List Char × List Char)
  | '_' :: c :: rest =>
    if isDigit c then (digitRun isDigit rest).map fun (ds, r) => (c :: ds, r) else none
  | '_' :: [] => none
  | c :: rest =>
    if isDigit c then (digitRun isDigit rest).map fun (ds, r) => (c :: ds, r)
    else some ([], c :: rest)
  | [] => some ([], [])

def digits? (isDigit : Char → Bool) (cs : List Char) : Option (List Char × List Char) :=
  match cs with
  | c :: rest =>
    if isDigit c then (digitRun isDigit rest).map fun (ds, r) => (c :: ds, r) else none
  | [] => none

def wholeDigits? (cs : List Char) : Option (List Char × List Char) :=
  match cs with
  | '0' :: rest => some (['0'], rest)
  | cs => digits? Number.isDigit cs

def baseOf? : Char → Option Nat
  | 'x' => some 16
  | 'o' => some 8
  | 'b' => some 2
  | _ => none

def inBase (base : Nat) (c : Char) : Bool :=
  match hexValue? c with
  | some d => d < base
  | none => false

def integer? (cs : List Char) : Option (Int64 × List Char) :=
  let decimal : Option (Int64 × List Char) := do
    let (negative, rest) := Number.splitSign cs
    let (ds, r) ← wholeDigits? rest
    let n : Int := Number.ofDigits ds
    return (← Number.int64? (if negative then -n else n), r)
  match cs with
  | '0' :: c :: rest => match baseOf? c with
    | some base => do
      let (ds, r) ← digits? (inBase base) rest
      let n ← ofBase? base ds
      return (← Number.int64? n, r)
    | none => decimal
  | _ => decimal

def exponent? (cs : List Char) : Option (Int × List Char) :=
  match cs with
  | c :: rest =>
    if c = 'e' || c = 'E' then do
      let (negative, r) := Number.splitSign rest
      let (ds, r) ← digits? Number.isDigit r
      let n : Int := Number.ofDigits ds
      return (if negative then -n else n, r)
    else none
  | [] => none

def fraction? (cs : List Char) : Option (List Char × List Char) :=
  match cs with
  | '.' :: rest => digits? Number.isDigit rest
  | _ => none

def special? (negative : Bool) (cs : List Char) : Option (Float × List Char) :=
  match cs with
  | 'i' :: 'n' :: 'f' :: rest => some (Binary64.infinity negative, rest)
  | 'n' :: 'a' :: 'n' :: rest => some (Binary64.nan negative, rest)
  | _ => none

/-- A number with a point or an exponent, which must not be too large, or a special one. -/
def float? (cs : List Char) : Option (Float × List Char) :=
  let (negative, body) := Number.splitSign cs
  match special? negative body with
  | some r => some r
  | none => do
    let (whole, r) ← wholeDigits? body
    let make (fraction : List Char) (e : Int) (r : List Char) : Option (Float × List Char) :=
      let f := Number.Scientific.toFloat negative ⟨whole, fraction, e⟩
      if Binary64.text f == "inf" then none else some (f, r)
    match fraction? r with
    | some (fraction, r) => match exponent? r with
      | some (e, r) => make fraction e r
      | none => make fraction 0 r
    | none => do
      let (e, r) ← exponent? r
      make [] e r

end LayeredSite.Toml
