import LayeredSite.Template.Token

namespace LayeredSite

namespace Form

def pairUp : List Form → Option (List (Form × Form))
  | [] => some []
  | k :: v :: rest => (pairUp rest).map ((k, v) :: ·)
  | [_] => none

def enclose (b : Bracket) (p : Position) (items : List Form) : Except ReadError Form :=
  match b with
  | .round => .ok (.call p items)
  | .square => .ok (.vector p items)
  | .curly => match pairUp items with
    | some pairs => .ok (.map p pairs)
    | none => .error ⟨p, .oddMap⟩

/-- An opener without its closer, and the forms before it, in reverse, on its own level. -/
structure Frame where
  bracket : Bracket
  position : Position
  before : List Form

/-- Reads tokens, given the finished forms of the level, in reverse, and the levels around it. -/
def assemble (fault : Option ReadError) (level : List Form) (outer : List Frame) :
    List Token → Except ReadError (List Form)
  | [] => match fault, outer with
    | some e, _ => .error e
    | none, frame :: _ => .error ⟨frame.position, .unclosed frame.bracket⟩
    | none, [] => .ok level.reverse
  | t :: rest => match t.lexeme with
    | .leaf l => assemble fault (l.toForm t.position :: level) outer rest
    | .opener b => assemble fault [] (⟨b, t.position, level⟩ :: outer) rest
    | .closer b => match outer with
      | [] => .error ⟨t.position, .unexpected b⟩
      | frame :: outer =>
        if frame.bracket = b then do
          let form ← enclose b frame.position level.reverse
          assemble fault (form :: frame.before) outer rest
        else .error ⟨t.position, .unexpected b⟩

def readFrom (p : Position) (cs : List Char) : Except ReadError (List Form) :=
  let s := Token.scan p cs
  assemble s.fault [] [] s.tokens

/-- Every form of a text that begins at the given line. -/
def readAll (text : String) (firstLine : Nat) : Except ReadError (List Form) :=
  readFrom ⟨firstLine, 1⟩ text.toList

end Form
end LayeredSite
