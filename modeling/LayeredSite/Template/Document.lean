import LayeredSite.Template.Layer
import LayeredSite.Markup.Serialize

namespace LayeredSite

structure Document where
  options : DocumentOptions
  body : Body
  layers : List Layer

/-- Entries replace those of a map; nil counts as an empty map, and other values stay. -/
def mergeSite (site : Value) (fields : Fields Value) : Value :=
  if fields.isEmpty then site
  else match site with
    | .map entries => .map (Fields.merge entries fields)
    | .nil => .map fields
    | other => other

namespace Document

def compile (layouts : Source) (name raw : String) (withLayouts : Bool) :
    Except TemplateError Document := do
  let layer ← Layer.compile name raw
  let layers ← match layer.options.layout with
    | some start => if withLayouts then Layer.chain layouts start else pure []
    | none => pure []
  return ⟨layer.options, layer.body, layers⟩

def ofTemplate (templates layouts : Source) (name : String) (withLayouts : Bool) :
    Except TemplateError Document := do
  let raw ← templates.read name
  compile layouts name raw withLayouts

def ofLayout (layouts : Source) (name : String) : Except TemplateError Document := do
  let raw ← layouts.readLayout name
  compile layouts name raw true

/-- The outermost declared format, that of the document itself being the innermost. -/
def format? (d : Document) : Option Dialect := (Layer.format? d.layers).or d.options.format

def render (d : Document) (site : Value) (content : List Value) : Rendering Value := do
  let s := mergeSite site d.options.toFields
  let inner ← d.body.render s content
  Layer.wrap d.layers s inner

end Document
end LayeredSite
