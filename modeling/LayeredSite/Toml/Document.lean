import LayeredSite.Toml.Datetime
import LayeredSite.Toml.Scalar
import LayeredSite.Toml.Table

namespace LayeredSite.Toml

def skipComment (cs : List Char) : List Char :=
  match cs with
  | '#' :: rest => rest.dropWhile isPlain
  | cs => cs

def skipFiller : Nat → List Char → List Char
  | 0, cs => cs
  | n + 1, cs =>
    let r := skipComment (skipSpace cs)
    match newline? r with
    | some rest => skipFiller n rest
    | none => r

def number? (cs : List Char) : Option (Value × List Char) :=
  match Datetime.read? cs with
  | some (t, r) => some (.datetime t, r)
  | none => match float? cs with
    | some (f, r) => some (.float f, r)
    | none => (integer? cs).map fun (n, r) => (.integer n, r)

def scalarValue? (cs : List Char) : Option (Value × List Char) :=
  match cs with
  | 't' :: 'r' :: 'u' :: 'e' :: rest => some (.boolean true, rest)
  | 'f' :: 'a' :: 'l' :: 's' :: 'e' :: rest => some (.boolean false, rest)
  | '"' :: _ => (string? cs).map fun (s, r) => (.string s, r)
  | '\'' :: _ => (string? cs).map fun (s, r) => (.string s, r)
  | _ => number? cs

mutual

/-- A value in at most `n` steps. -/
def valueWithin : Nat → Reader Value
  | 0, _ => none
  | n + 1, cs => match cs with
    | '[' :: rest => itemsWithin n [] rest
    | '{' :: rest => match skipSpace rest with
      | '}' :: r => some (.table [], r)
      | r => pairsWithin n [] r
    | _ => scalarValue? cs

def itemsWithin : Nat → List Value → Reader Value
  | 0, _, _ => none
  | n + 1, acc, cs => match skipFiller n cs with
    | ']' :: rest => some (.array acc.reverse, rest)
    | r => do
      let (v, r) ← valueWithin n r
      match skipFiller n r with
      | ',' :: rest => itemsWithin n (v :: acc) rest
      | ']' :: rest => some (.array (v :: acc).reverse, rest)
      | _ => none

def pairsWithin : Nat → Draft.Entries → Reader Value
  | 0, _, _ => none
  | n + 1, acc, cs => do
    let (path, r) ← key? cs
    match r with
    | '=' :: rest => do
      let (v, r) ← valueWithin n (skipSpace rest)
      let acc ← Draft.setKey v path true acc
      match skipSpace r with
      | ',' :: rest => pairsWithin n acc rest
      | '}' :: rest => some (.table (Draft.entriesToValue acc), rest)
      | _ => none
    | _ => none

end

def lineEnd? (cs : List Char) : Option (List Char) :=
  match skipComment (skipSpace cs) with
  | [] => some []
  | r => newline? r

structure State where
  root : Draft.Entries
  current : List String

def State.header (s : State) (path : List String) (element : Bool) : Option State := do
  let last ← path.getLast?
  let f := if element then Draft.openElement last else Draft.openTable last
  let root ← Draft.atPath f path.dropLast s.root
  return ⟨root, path⟩

def State.set (s : State) (path : List String) (v : Value) : Option State := do
  let root ← Draft.atPath (Draft.setKey v path true) s.current s.root
  return ⟨root, s.current⟩

def headerPath? (element : Bool) (cs : List Char) : Option (List String × List Char) := do
  let (path, r) ← key? cs
  match element, r with
  | true, ']' :: ']' :: rest => some (path, rest)
  | false, ']' :: rest => some (path, rest)
  | _, _ => none

def statement (s : State) (cs : List Char) : Option (State × List Char) :=
  match skipSpace cs with
  | '[' :: '[' :: rest => do
    let (path, r) ← headerPath? true rest
    return (← s.header path true, r)
  | '[' :: rest => do
    let (path, r) ← headerPath? false rest
    return (← s.header path false, r)
  | r =>
    if (newline? (skipComment r)).isSome || (skipComment r).isEmpty then some (s, r)
    else do
      let (path, r) ← key? r
      match r with
      | '=' :: rest => do
        let (v, r) ← valueWithin (rest.length + 1) (skipSpace rest)
        return (← s.set path v, r)
      | _ => none

def statements : Nat → State → List Char → Option State
  | 0, _, _ => none
  | n + 1, s, cs => do
    let (s, r) ← statement s cs
    match ← lineEnd? r with
    | [] => some s
    | rest => statements n s rest

/-- The table of a document; `none` if it is malformed or defines something twice. -/
def parse (text : String) : Option (Fields Value) := do
  let cs := match text.toList with
    | c :: rest => if c.toNat = 0xFEFF then rest else c :: rest
    | [] => []
  let s ← statements (cs.length + 1) ⟨[], []⟩ cs
  return Draft.entriesToValue s.root

end LayeredSite.Toml
