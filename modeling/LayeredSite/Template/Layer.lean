import LayeredSite.Template.Eval
import LayeredSite.Template.Header
import LayeredSite.Template.Source

namespace LayeredSite

structure Body where
  name : String
  forms : List Form

namespace Body

def compile (name text : String) (firstLine : Nat) : Except TemplateError Body :=
  match Form.readAll text firstLine with
  | .ok forms => .ok ⟨name, forms⟩
  | .error e => .error (.malformed name e)

def render (b : Body) (site : Value) (content : List Value) : Rendering Value := fun cells =>
  (evalEach b.forms (Scope.ofSite site content) cells).map fun ((r, _), cells') =>
    match r with
    | .ok values => (.ok (.list values), cells')
    | .error e => (.error (.evaluation b.name e.position e.fault), cells')

end Body

structure Layer where
  options : DocumentOptions
  body : Body

namespace Layer

def firstLine (raw : List Char) : Nat := (Header.headerChars raw).count '\n' + 1

/-- Compiles a whole text, the lines of its body being counted from its beginning. -/
def compile (name raw : String) : Except TemplateError Layer := do
  let (options, text) := Header.parse raw
  let body ← Body.compile name text (firstLine raw.toList)
  return ⟨options, body⟩

/-- The layers from a layout outwards, within `n` steps; the names visited so far are `seen`. -/
def chainWithin (layouts : Source) : Nat → List String → String → Except TemplateError (List Layer)
  | 0, seen, name => .error (.layoutCycle (seen ++ [name]))
  | n + 1, seen, name =>
    if name ∈ seen then .error (.layoutCycle (seen ++ [name]))
    else do
      let raw ← layouts.readLayout name
      let layer ← compile name raw
      match layer.options.layout with
      | none => return [layer]
      | some next => return layer :: (← chainWithin layouts n (seen ++ [name]) next)

/-- The layers from a layout outwards. Two layers of a chain differ in their texts, since a text
decides what comes after it, so one step more than there are texts is enough. -/
def chain (layouts : Source) (start : String) : Except TemplateError (List Layer) :=
  chainWithin layouts (layouts.texts.length + 2) [] start

def names (layers : List Layer) : List String := layers.map fun l => l.body.name

/-- The format of the outermost layer that declares one. -/
def format? (layers : List Layer) : Option Dialect :=
  layers.foldl (fun acc l => l.options.format.or acc) none

def wrap (layers : List Layer) (site inner : Value) : Rendering Value :=
  layers.foldlM (fun acc l => l.body.render site [acc]) inner

/-- Renders a chain; the first layer gets the content as it is. -/
def renderChain (layers : List Layer) (site : Value) (content : List Value) : Rendering Value :=
  match layers with
  | [] => pure (.list content)
  | first :: rest => do
    let inner ← first.body.render site content
    wrap rest site inner

end Layer
end LayeredSite
