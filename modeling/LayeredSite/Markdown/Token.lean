import LayeredSite.Markdown.Entity
import LayeredSite.Markdown.Place
import LayeredSite.Markdown.Punctuation
import LayeredSite.Text.Blank

namespace LayeredSite.Markdown

structure Run where
  mark : Char
  count : Nat
  canOpen : Bool
  canClose : Bool
deriving DecidableEq, Repr

namespace Run

def both (r : Run) : Bool := r.canOpen && r.canClose

def isSpace (c : Option Char) : Bool := c.all Text.isBlank

def isPunct (c : Option Char) : Bool := c.any isPunctuation

/-- Runs of `*` and `~~` may stand inside a word. -/
def insideWord (mark : Char) (count : Nat) : Bool := mark = '*' || (mark = '~' && 1 < count)

/-- A run between two characters, `none` standing for the end of the text. -/
def between (before after : Option Char) (mark : Char) (count : Nat) : Run where
  mark := mark
  count := count
  canOpen := !isSpace after &&
    (isSpace before || isPunct before || (insideWord mark count && !isPunct after))
  canClose := !isSpace before &&
    (isSpace after || isPunct after || (insideWord mark count && !isPunct before))

/-- At most two tildes strike text through. -/
def isValid (r : Run) : Bool := (r.canOpen || r.canClose) && (r.mark != '~' || r.count ≤ 2)

end Run

inductive Token
  | text
  /-- Characters that are not those of the source. -/
  | given (cs : List Char)
  /-- A line of HTML. -/
  | html
  | lineBreak (hard : Bool)
  | run (r : Run)
  /-- Backticks in a row. Where they begin code, a backslash in front makes the first literal. -/
  | backticks (count : Nat) (escaped : Bool)
  | less
  /-- An opening bracket, behind an exclamation mark for an image. -/
  | opening (isImage : Bool)
  /-- A closing bracket, which may turn out to end no label. -/
  | closing (mayRefer : Bool)
deriving DecidableEq, Repr

namespace Token

def isLineBreak : Token → Bool
  | lineBreak _ => true
  | _ => false

/-- A line of tokens, the break behind it, and the place of the next line. In the cell of a table
the line ends in front of a bar or the end of the line. -/
structure Line where
  tokens : List (Spanned Token)
  ending : Option (Spanned Token)
  next : Place

structure Scanner where
  /-- The latest first. -/
  tokens : List (Spanned Token) := []
  /-- Where the text begins that is no token yet. -/
  begun : Place
  /-- How many characters are read already. -/
  skip : Nat := 0

namespace Scanner

def upTo (s : Scanner) (stop : Nat) : List (Spanned Token) :=
  if s.begun.offset < stop then ⟨s.begun, stop, .text⟩ :: s.tokens else s.tokens

def token (s : Scanner) (p : Place) (length : Nat) (t : Token) : Scanner where
  tokens := ⟨p, p.offset + length, t⟩ :: s.upTo p.offset
  begun := p.advance length
  skip := length - 1

def pass (s : Scanner) (length : Nat) : Scanner := { s with skip := length - 1 }

/-- A backslash, which is left out in front of punctuation. -/
def escape (s : Scanner) (p : Place) (rest : List Char) : Scanner :=
  match rest with
  | [] => s
  | c :: _ =>
    if c = '\x60' then
      let n := span (· = '\x60') rest
      let marks := ⟨p.next, p.next.offset + n, .backticks n true⟩
      { tokens := marks :: s.upTo p.offset, begun := p.next.advance n, skip := n }
    else if isAsciiPunctuation c then { tokens := s.upTo p.offset, begun := p.next, skip := 1 }
    else s

def step (s : Scanner) (p : Place) (c : Char) (rest : List Char) : Scanner :=
  let count := 1 + span (· = c) rest
  if c = '\\' then s.escape p rest
  else if c = '*' || c = '_' || c = '~' then
    let run := Run.between p.before.head? rest[count - 1]? c count
    if run.isValid then s.token p count (.run run) else s.pass count
  else if c = '\x60' then s.token p count (.backticks count false)
  else if c = '<' then s.token p 1 .less
  else if c = '!' && rest.head? = some '[' then s.token p 2 (.opening true)
  else if c = '[' then s.token p 1 (.opening false)
  else if c = ']' then s.token p 1 (.closing true)
  else if c = '&' then
    match Entity.scan rest with
    | some (value, n) => s.token p (n + 1) (.given value)
    | none => s
  else s

/-- The end of a line: a backslash or two blanks make the break hard, unless the backslash stands
at the end of the text. -/
def lineBreak (s : Scanner) (p : Place) (length : Nat) : Line :=
  let next := p.advance length
  let backslashes := span (· = '\\') p.before
  let blanks := span isSpace p.before
  let broken (n : Nat) (hard : Bool) : Line :=
    let place := p.back n
    ⟨(s.upTo place.offset).reverse, some ⟨place, next.offset, .lineBreak hard⟩, next⟩
  if backslashes % 2 = 1 && !next.atEnd then broken 1 true
  else if 2 ≤ blanks then broken blanks true
  else broken 0 false

end Scanner

def scan (inCell : Bool) (s : Scanner) (p : Place) : List Char → Line
  | [] => ⟨(s.upTo p.offset).reverse, none, p⟩
  | c :: rest => match s.skip with
    | n + 1 => scan inCell { s with skip := n } p.next rest
    | 0 =>
      let ends := if c = '\n' || c = '\r' then lineEnd? (c :: rest) else none
      match ends with
      | some length =>
        if inCell then ⟨(s.upTo p.offset).reverse, none, p⟩ else s.lineBreak p length
      | none =>
        if inCell && c = '|' then ⟨(s.upTo p.offset).reverse, none, p⟩
        else scan inCell (s.step p c rest) p.next rest

def line (p : Place) : Line := scan false { begun := p } p p.rest

def cell (p : Place) : Line := scan true { begun := p } p p.rest

end Token
end LayeredSite.Markdown
