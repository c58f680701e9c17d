import LayeredSite.Template.Error
import LayeredSite.Number.Literal

namespace LayeredSite

inductive Literal
  | nil
  | bool (b : Bool)
  | int (n : Int64)
  | float (f : Float)
  | str (s : String)
  | keyword (name : String)

def Literal.toValue : Literal → Value
  | nil => .nil
  | bool b => .bool b
  | int n => .int n
  | float f => .float f
  | str s => .str s
  | keyword name => .keyword name

inductive Form
  | literal (p : Position) (l : Literal)
  | symbol (p : Position) (name : String)
  | call (p : Position) (items : List Form)
  | vector (p : Position) (items : List Form)
  | map (p : Position) (pairs : List (Form × Form))
deriving Inhabited

def Form.position : Form → Position
  | literal p _ => p
  | symbol p _ => p
  | call p _ => p
  | vector p _ => p
  | map p _ => p

inductive Leaf
  | literal (l : Literal)
  | symbol (name : String)

def Leaf.toForm (p : Position) : Leaf → Form
  | literal l => .literal p l
  | symbol name => .symbol p name

def startsNumber : List Char → Bool
  | c :: d :: _ => Number.isDigit c || ((c == '-' || c == '+') && Number.isDigit d)
  | [c] => Number.isDigit c
  | [] => false

def number? (cs : List Char) : Option Literal :=
  if startsNumber cs then
    match Number.parseInt64 cs with
    | some n => some (.int n)
    | none => (Number.parseFloat cs).map .float
  else none

/-- The meaning of an atom: a number, `nil`, `true`, `false`, or else a symbol. -/
def Leaf.ofSpelling (cs : List Char) : Leaf :=
  match number? cs with
  | some l => .literal l
  | none =>
    let name := String.ofList cs
    if name = "nil" then .literal .nil
    else if name = "true" then .literal (.bool true)
    else if name = "false" then .literal (.bool false)
    else .symbol name

end LayeredSite
