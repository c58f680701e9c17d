import LayeredSite.Fields

namespace LayeredSite.Toml

inductive Value
  | string (s : String)
  | integer (n : Int64)
  | float (f : Float)
  | boolean (b : Bool)
  /-- A date, a time or both, in its canonical text. -/
  | datetime (text : String)
  | array (items : List Value)
  | table (entries : List (String × Value))
deriving Inhabited

inductive Origin
  /-- Only named on the way to another table. -/
  | implied
  | header
  | dotted
deriving DecidableEq

inductive Draft
  | leaf (v : Value)
  | table (origin : Origin) (entries : List (String × Draft))
  | tables (items : List (List (String × Draft)))
deriving Inhabited

namespace Draft

abbrev Entries := List (String × Draft)

mutual

def toValue : Draft → Value
  | leaf v => v
  | table _ entries => .table (entriesToValue entries)
  | tables items => .array (itemsToValue items)

def entriesToValue : List (String × Draft) → List (String × Value)
  | [] => []
  | (k, d) :: rest => Fields.insert k d.toValue (entriesToValue rest)

def itemsToValue : List (List (String × Draft)) → List Value
  | [] => []
  | entries :: rest => .table (entriesToValue entries) :: itemsToValue rest

end

def replace (entries : Entries) (k : String) (d : Draft) : Entries :=
  if (entries.lookup k).isSome then entries.map fun (k', d') => if k' = k then (k, d) else (k', d')
  else entries ++ [(k, d)]

def onLast (f : Entries → Option Entries) : List Entries → Option (List Entries)
  | [] => none
  | [e] => (f e).map ([·])
  | e :: rest => (onLast f rest).map (e :: ·)

def atPath (f : Entries → Option Entries) : List String → Entries → Option Entries
  | [], entries => f entries
  | k :: path, entries => match entries.lookup k with
    | none => (atPath f path []).map fun e => replace entries k (table .implied e)
    | some (table origin e) => (atPath f path e).map fun e' => replace entries k (table origin e')
    | some (tables items) =>
      (onLast (atPath f path) items).map fun i => replace entries k (tables i)
    | some (leaf _) => none

def openTable (k : String) (entries : Entries) : Option Entries :=
  match entries.lookup k with
  | none => some (replace entries k (table .header []))
  | some (table .implied e) => some (replace entries k (table .header e))
  | some _ => none

def openElement (k : String) (entries : Entries) : Option Entries :=
  match entries.lookup k with
  | none => some (replace entries k (tables [[]]))
  | some (tables items) => some (replace entries k (tables (items ++ [[]])))
  | some _ => none

/-- Sets a dotted key. It may pass through tables that no header has defined, and its last table
must be one that dotted keys have made. -/
def setKey (v : Value) : List String → Bool → Entries → Option Entries
  | [], _, _ => none
  | [k], mine, entries =>
    if mine && (entries.lookup k).isNone then some (replace entries k (leaf v)) else none
  | k :: path, _, entries => match entries.lookup k with
    | none => (setKey v path true []).map fun e => replace entries k (table .dotted e)
    | some (table .header _) => none
    | some (table origin e) =>
      (setKey v path (origin == .dotted) e).map fun e' => replace entries k (table origin e')
    | some (tables items) =>
      (onLast (setKey v path false) items).map fun i => replace entries k (tables i)
    | some (leaf _) => none

end Draft
end LayeredSite.Toml
