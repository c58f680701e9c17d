import LayeredSite.Template.Layer

namespace LayeredSite

abbrev Transformer := Value → Reading Value

abbrev Pipeline := List Transformer

def Pipeline.transform (pipeline : Pipeline) (v : Value) : Reading Value :=
  pipeline.foldlM (fun acc f => f acc) v

namespace Markdown

/-- Replaces a node tagged `markdown` by the markup of the text of its children. -/
def renderNode (render : String → String) (n : Node) : Reading Value :=
  if n.tag = "markdown" then do
    return .raw (render (← (Value.list n.children).text))
  else pure n.toValue

def transformer (render : String → String) : Transformer := Value.mapNodes (renderNode render)

end Markdown

def expressionName : String := "<expr>"

/-- Reads a text that must hold exactly one form. -/
def Body.ofExpression (text : String) : Except TemplateError Body := do
  let body ← Body.compile expressionName text 1
  if body.forms.length = 1 then return body
  else throw (.malformed expressionName ⟨⟨1, 1⟩, .notOneForm body.forms.length⟩)

end LayeredSite
