import LayeredSite.Markup.Event
import LayeredSite.Markup.Shorthand

namespace LayeredSite.Markup

def refuse {α : Type} (fault : MarkupFault) : Rendering α := throw (.markup fault)

/-- An attribute; nil and false leave it out. -/
def attributeOf (key : String) : Value → Reading (Option Attribute)
  | .nil => pure none
  | .bool b => pure (if b then some (.flag key) else none)
  | v => do return some (.pair key (← v.text))

def attributesOf (element : String) : Fields Value → Rendering (List Attribute)
  | [] => pure []
  | (key, v) :: rest => do
    if !isName key then refuse (.invalidAttribute key element)
    let a ← attributeOf key v
    return a.toList ++ (← attributesOf element rest)

def opening (tag : String) (attrs : Fields Value) : Rendering (String × List Attribute) := do
  let s := Shorthand.ofTag tag
  let merged ← s.attributes attrs
  if !isName s.name then refuse (.invalidTag tag)
  return (s.name, ← attributesOf s.name merged)

def element (name : String) (attributes : List Attribute) (childless : Bool)
    (inner : List Event) : List Event :=
  if childless && isVoid name then [.empty name attributes]
  else .start name attributes :: inner ++ [.stop name]

mutual

def eventsWith (cell : CellId → Rendering (List Event)) : Value → Rendering (List Event)
  | .nil => pure []
  | .raw s => pure [.raw s]
  | .list items => eventsAll cell items
  | .map _ => refuse .mapInMarkup
  | .deferred c => cell c
  | .node tag attrs children => do
    let (name, attributes) ← opening tag attrs
    let inner ← eventsAll cell children
    return element name attributes children.isEmpty inner
  | .bool b => return [.text (← (Value.bool b).text)]
  | .int n => return [.text (← (Value.int n).text)]
  | .float f => return [.text (← (Value.float f).text)]
  | .str s => pure [.text s]
  | .keyword s => pure [.text s]

def eventsAll (cell : CellId → Rendering (List Event)) : List Value → Rendering (List Event)
  | [] => pure []
  | v :: rest => do
    let first ← eventsWith cell v
    return first ++ (← eventsAll cell rest)

end

def cellEventsWithin : Nat → CellId → Rendering (List Event)
  | 0, _ => liftM (m := Reading) .endless
  | n + 1, c => do
    let v ← ExceptT.mk (force c)
    eventsWith (cellEventsWithin n) v

def events (tree : Value) : Rendering (List Event) := do
  let depth := (← get).depth
  eventsWith (cellEventsWithin depth) tree

/-- The text of a tree in a format, or without one as bare markup. -/
def serialize (format : Option Dialect) (tree : Value) : Rendering String :=
  return write format (← events tree)

end LayeredSite.Markup
