import LayeredSite.Markdown.Entity.Names

namespace LayeredSite.Markdown.Entity

def digit? (base : Nat) (c : Char) : Option Nat :=
  let n := c.toNat
  let value := if '0' ≤ c && c ≤ '9' then n - 48
    else if 'a' ≤ c && c ≤ 'f' then n - 87
    else if 'A' ≤ c && c ≤ 'F' then n - 55
    else base
  if value < base then some value else none

def number (base : Nat) (digits : List Char) : Nat :=
  digits.foldl (fun n c => base * n + (digit? base c).getD 0) 0

/-- The character with a number; zero stands for the replacement character. -/
def charOf? (n : Nat) : Option Char :=
  if n = 0 then some '\ufffd' else if n.isValidChar then some (Char.ofNat n) else none

def codes (text : String) : List Char :=
  (text.splitOn ".").map fun t => Char.ofNat (number 16 t.toList)

def pairs : List String → List (String × List Char)
  | name :: value :: rest => (name, codes value) :: pairs rest
  | _ => []

def table : List (String × List Char) := lines.flatMap fun l => pairs (l.splitOn " ")

def isNameChar (c : Char) : Bool := c.isAlpha || c.isDigit

/-- A number in front of a semicolon, with its length and that of the mark before it. -/
def scanNumber (base mark : Nat) (cs : List Char) : Option (List Char × Nat) :=
  let digits := cs.takeWhile fun c => (digit? base c).isSome
  if digits.isEmpty || cs[digits.length]? != some ';' then none
  else (charOf? (number base digits)).map fun c => ([c], mark + digits.length + 1)

/-- The characters that a reference stands for and its length, both without the ampersand. -/
def scan (cs : List Char) : Option (List Char × Nat) :=
  match cs with
  | '#' :: 'x' :: rest => scanNumber 16 2 rest
  | '#' :: 'X' :: rest => scanNumber 16 2 rest
  | '#' :: rest => scanNumber 10 1 rest
  | cs =>
    let name := cs.takeWhile isNameChar
    if name.isEmpty || cs[name.length]? != some ';' then none
    else (table.lookup (String.ofList name)).map fun value => (value, name.length + 1)

end LayeredSite.Markdown.Entity
