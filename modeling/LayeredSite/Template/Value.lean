import LayeredSite.Fields
import LayeredSite.Number.Binary64

namespace LayeredSite

abbrev CellId := Nat

inductive Value
  | nil
  | bool (b : Bool)
  | int (n : Int64)
  | float (f : Float)
  | str (s : String)
  | keyword (s : String)
  /-- Finished markup, written without escaping. -/
  | raw (s : String)
  | list (items : List Value)
  | map (fields : List (String × Value))
  | node (tag : String) (attrs : List (String × Value)) (children : List Value)
  | deferred (cell : CellId)
deriving Inhabited

/-- The kinds of values, as error messages name them. -/
inductive Kind
  | nil | boolean | integer | float | string | keyword | raw | list | map | node | deferred
deriving DecidableEq, Repr

def Kind.name : Kind → String
  | .nil => "nil"
  | .boolean => "boolean"
  | .integer => "integer"
  | .float => "float"
  | .string => "string"
  | .keyword => "keyword"
  | .raw => "raw"
  | .list => "list"
  | .map => "map"
  | .node => "node"
  | .deferred => "deferred"

structure Node where
  tag : String
  attrs : Fields Value
  children : List Value

def Node.toValue (n : Node) : Value := .node n.tag n.attrs n.children

namespace Value

def kind : Value → Kind
  | nil => .nil
  | bool _ => .boolean
  | int _ => .integer
  | float _ => .float
  | str _ => .string
  | keyword _ => .keyword
  | raw _ => .raw
  | list _ => .list
  | map _ => .map
  | node _ _ _ => .node
  | deferred _ => .deferred

/-- Everything but nil and false. -/
def truthy : Value → Bool
  | nil => false
  | bool b => b
  | _ => true

def string? : Value → Option String
  | str s => some s
  | keyword s => some s
  | raw s => some s
  | _ => none

def ofString? : Option String → Value
  | none => nil
  | some s => str s

def record (entries : List (String × Value)) : Value := map (Fields.ofList entries)

mutual

/-- Numbers compare as numbers of their own kind, deferred values by their cell. -/
def equal : Value → Value → Bool
  | nil, nil => true
  | bool a, bool b => a == b
  | int a, int b => a == b
  | float a, float b => a == b
  | str a, str b => a == b
  | keyword a, keyword b => a == b
  | raw a, raw b => a == b
  | list a, list b => equalAll a b
  | map a, map b => equalFields a b
  | node t a c, node t' a' c' => t == t' && equalFields a a' && equalAll c c'
  | deferred a, deferred b => a == b
  | _, _ => false

def equalAll : List Value → List Value → Bool
  | [], [] => true
  | a :: as, b :: bs => equal a b && equalAll as bs
  | _, _ => false

def equalFields : List (String × Value) → List (String × Value) → Bool
  | [], [] => true
  | (k, a) :: as, (k', b) :: bs => k == k' && equal a b && equalFields as bs
  | _, _ => false

end

/-- The entry under a key: maps by name, nodes by attribute, lists by index. -/
def entry : Value → Value → Value
  | map fields, str k => (Fields.get? fields k).getD nil
  | map fields, keyword k => (Fields.get? fields k).getD nil
  | node _ attrs _, str k => (Fields.get? attrs k).getD nil
  | node _ attrs _, keyword k => (Fields.get? attrs k).getD nil
  | list items, int i => if i.toInt < 0 then nil else items[i.toInt.toNat]?.getD nil
  | _, _ => nil

section
variable {m : Type → Type} [Monad m]

mutual

/-- The plain text of a value, a deferred one being read by `cell`. A list or node is the text
of its parts; a map shows its entries. -/
def textWith (cell : CellId → m String) : Value → m String
  | nil => pure ""
  | bool b => pure (if b then "true" else "false")
  | int n => pure (toString n.toInt)
  | float f => pure (Binary64.text f)
  | str s => pure s
  | keyword s => pure s
  | raw s => pure s
  | list items => textAll cell items
  | map fields => do
    return "\x7b" ++ ", ".intercalate (← textEntries cell fields) ++ "\x7d"
  | node _ _ children => textAll cell children
  | deferred c => cell c

def textAll (cell : CellId → m String) : List Value → m String
  | [] => pure ""
  | v :: rest => do
    let t ← textWith cell v
    return t ++ (← textAll cell rest)

def textEntries (cell : CellId → m String) : List (String × Value) → m (List String)
  | [] => pure []
  | (k, v) :: rest => do
    let t ← textWith cell v
    return (":" ++ k ++ " " ++ t) :: (← textEntries cell rest)

end

mutual

/-- Replaces every node bottom-up, the children first; maps and deferred values stay. -/
def mapNodes (f : Node → m Value) : Value → m Value
  | list items => do return list (← mapNodesAll f items)
  | node tag attrs children => do f ⟨tag, attrs, ← mapNodesAll f children⟩
  | v => pure v

def mapNodesAll (f : Node → m Value) : List Value → m (List Value)
  | [] => pure []
  | v :: rest => do
    let w ← mapNodes f v
    return w :: (← mapNodesAll f rest)

end
end

end Value
end LayeredSite
