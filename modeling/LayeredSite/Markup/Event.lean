import LayeredSite.Markup.Dialect
import LayeredSite.Text.Escape
import LayeredSite.Text.Blank

namespace LayeredSite.Markup

/-- A flag is an attribute without a value of its own. -/
inductive Attribute
  | flag (key : String)
  | pair (key value : String)
deriving DecidableEq, Repr

inductive Event
  | start (name : String) (attributes : List Attribute)
  /-- A void element without children. -/
  | empty (name : String) (attributes : List Attribute)
  | stop (name : String)
  | text (s : String)
  /-- Finished markup. -/
  | raw (s : String)
deriving DecidableEq, Repr

/-- The characters that could end a tag or begin another attribute. -/
def breaksName (c : Char) : Bool :=
  Text.isBlank c || Text.isControl c || c == '"' || c == '\'' || c == '=' || c == '<' ||
    c == '>' || c == '/'

/-- Names are written unescaped, so they are not empty and have no character that breaks them. -/
def isName (name : String) : Bool := !name.isEmpty && !name.toList.any breaksName

def voidElements : List String :=
  ["area", "base", "br", "col", "embed", "hr", "img", "input", "link", "meta", "param", "source",
    "track", "wbr"]

def isVoid (name : String) : Bool := voidElements.contains name

def valued (key value : String) : String := " " ++ key ++ "=\"" ++ value ++ "\""

def Attribute.write (xhtml : Bool) : Attribute → String
  | flag key => if xhtml then valued key key else " " ++ key
  | pair key value => valued key (Text.escape value)

def writeAttributes (xhtml : Bool) (attributes : List Attribute) : String :=
  String.join (attributes.map (·.write xhtml))

def Event.write (xhtml : Bool) : Event → String
  | start name attributes => "<" ++ name ++ writeAttributes xhtml attributes ++ ">"
  | empty name attributes =>
    "<" ++ name ++ writeAttributes xhtml attributes ++ (if xhtml then " />" else ">")
  | stop name => "</" ++ name ++ ">"
  | text s => Text.escape s
  | raw s => s

def write (format : Option Dialect) (events : List Event) : String :=
  Dialect.prologue format ++ String.join (events.map (·.write (format == some .xhtml)))

end LayeredSite.Markup
