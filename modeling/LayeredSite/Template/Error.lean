import LayeredSite.Template.Value

namespace LayeredSite

/-- A place in a text, counted from one; the column counts characters. -/
structure Position where
  line : Nat
  column : Nat
deriving DecidableEq, Repr, Inhabited

def Position.after (p : Position) (c : Char) : Position :=
  if c = '\n' then ⟨p.line + 1, 1⟩ else ⟨p.line, p.column + 1⟩

/-- `name:line:column`. -/
def Position.within (p : Position) (name : String) : String :=
  name ++ ":" ++ toString p.line ++ ":" ++ toString p.column

inductive Bracket
  | round | square | curly
deriving DecidableEq, Repr

def Bracket.opening : Bracket → Char
  | .round => '('
  | .square => '['
  | .curly => '{'

def Bracket.closing : Bracket → Char
  | .round => ')'
  | .square => ']'
  | .curly => '}'

def quoted (s : String) : String := "`" ++ s ++ "`"

inductive ReadFault
  | unclosed (b : Bracket)
  | unexpected (b : Bracket)
  | unterminatedString
  | unknownEscape (c : Char)
  | emptyKeyword
  | oddMap
  | notOneForm (count : Nat)
deriving DecidableEq, Repr

def ReadFault.message : ReadFault → String
  | .unclosed b => "unclosed delimiter, expected " ++ quoted (String.singleton b.closing)
  | .unexpected b => "unexpected " ++ quoted (String.singleton b.closing)
  | .unterminatedString => "unterminated string"
  | .unknownEscape c => "unknown escape " ++ quoted ("\\" ++ String.singleton c)
  | .emptyKeyword => "empty keyword"
  | .oddMap => "map literal needs an even number of forms"
  | .notOneForm count => "expected exactly one expression, found " ++ toString count

structure ReadError where
  position : Position
  fault : ReadFault
deriving DecidableEq, Repr

inductive MarkupFault
  | invalidTag (tag : String)
  | invalidAttribute (key element : String)
  | mapInMarkup
  | other (message : String)
deriving DecidableEq, Repr

def MarkupFault.message : MarkupFault → String
  | .invalidTag tag => "invalid tag " ++ quoted tag
  | .invalidAttribute key element =>
    "invalid attribute name " ++ quoted key ++ " on <" ++ element ++ ">"
  | .mapInMarkup => "a map cannot be rendered as markup"
  | .other message => message

inductive Builtin
  | add | mul | sub | div | eq | not | lt | gt | le | ge | str | raw | escape | get | count
  | first | rest | take | list | vector | concat | join
deriving DecidableEq, Repr

def Builtin.ofName? : String → Option Builtin
  | "+" => some .add
  | "*" => some .mul
  | "-" => some .sub
  | "/" => some .div
  | "=" => some .eq
  | "not" => some .not
  | "<" => some .lt
  | ">" => some .gt
  | "<=" => some .le
  | ">=" => some .ge
  | "str" => some .str
  | "raw" => some .raw
  | "escape" => some .escape
  | "get" => some .get
  | "count" => some .count
  | "first" => some .first
  | "rest" => some .rest
  | "take" => some .take
  | "list" => some .list
  | "vector" => some .vector
  | "concat" => some .concat
  | "join" => some .join
  | _ => none

/-- What a function takes, for those that refuse some argument lists. -/
def Builtin.usage : Builtin → String
  | .sub => "`-` needs at least one argument"
  | .div => "`/` needs at least two arguments"
  | .eq => "`=` needs at least one argument"
  | .not => "`not` takes one argument"
  | .get => "`get` takes a collection, a key and an optional default"
  | .count => "`count` takes one argument"
  | .first => "`first` takes one list"
  | .rest => "`rest` takes one list"
  | .take => "`take` takes a count and a list"
  | .join => "`join` takes a separator and a list"
  | _ => "wrong arguments"

mutual

inductive EvalFault
  | unbound (name : String)
  | mapKey (kind : Kind)
  | notCallable
  | keywordArity
  | ifArity
  | whenArity
  | letWithoutBindings
  | letNotVector
  | letOdd
  | letNotSymbol
  | forWithoutBinding
  | forNotVector
  | forShape
  | cannotIterate (kind : Kind)
  | applyWithoutFunction
  | applyWithoutCollection
  | applyNotList (kind : Kind)
  | applySpecial (name : String)
  | applyKeywordArity
  | applyNotName
  | notNumber (kind : Kind)
  | overflow
  | divisionByZero
  | usage (function : Builtin)
  | cannotCount (kind : Kind)
  | unknownFunction (name : String)
  /-- A deferred value that was read has failed. -/
  | failed (error : TemplateError)

inductive TemplateError
  | missingLayout (name : String)
  | layoutCycle (chain : List String)
  | malformed (template : String) (error : ReadError)
  | evaluation (template : String) (position : Position) (fault : EvalFault)
  /-- A deferred value was read by its own computation. -/
  | readWhileComputing
  | missingTemplate (path : String)
  | unreadable (path : String) (reason : String)
  | markup (fault : MarkupFault)
  /-- Deferred values refer to each other in a circle. -/
  | endless

end

def EvalFault.wording (text : TemplateError → String) : EvalFault → String
  | .unbound name => "unbound symbol " ++ quoted name
  | .mapKey kind => "map key must be a keyword, got " ++ kind.name
  | .notCallable => "only symbols and keywords can be called"
  | .keywordArity => "keyword lookup takes a map and an optional default"
  | .ifArity => "`if` takes a condition, a branch and an optional else"
  | .whenArity => "`when` needs a condition"
  | .letWithoutBindings => "`let` needs a binding vector"
  | .letNotVector => "`let` bindings must be a vector"
  | .letOdd => "`let` bindings need an even number of forms"
  | .letNotSymbol => "`let` can only bind symbols"
  | .forWithoutBinding => "`for` needs a binding vector"
  | .forNotVector => "`for` binding must be a vector"
  | .forShape => "`for` binding must be `[name collection]`"
  | .cannotIterate kind => "cannot iterate over " ++ kind.name
  | .applyWithoutFunction => "`apply` needs a function"
  | .applyWithoutCollection => "`apply` needs a collection"
  | .applyNotList kind => "`apply` expects a list, got " ++ kind.name
  | .applySpecial name => "cannot apply special form " ++ quoted name
  | .applyKeywordArity => "keyword lookup takes exactly one map"
  | .applyNotName => "`apply` needs a function name"
  | .notNumber kind => "expected a number, got " ++ kind.name
  | .overflow => "integer overflow"
  | .divisionByZero => "division by zero"
  | .usage function => function.usage
  | .cannotCount kind => "cannot count " ++ kind.name
  | .unknownFunction name => "unknown function " ++ quoted name
  | .failed error => text error

mutual

def EvalFault.message : EvalFault → String
  | .failed error => TemplateError.message error
  | fault => fault.wording fun _ => ""

def TemplateError.message : TemplateError → String
  | .missingLayout name => "layout " ++ quoted name ++ " not found"
  | .layoutCycle chain => "layout cycle detected: " ++ " -> ".intercalate chain
  | .malformed template error => error.position.within template ++ ": " ++ error.fault.message
  | .evaluation template position fault =>
    position.within template ++ ": " ++ EvalFault.message fault
  | .readWhileComputing => "<deferred>: deferred value read while it was being computed"
  | .missingTemplate path => "template file not found: " ++ quoted path
  | .unreadable path reason => "IO error when reading " ++ quoted path ++ ": " ++ reason
  | .markup fault => "serialization failed: " ++ fault.message
  | .endless => "deferred values refer to each other without end"

end

structure EvalError where
  position : Position
  fault : EvalFault

end LayeredSite
