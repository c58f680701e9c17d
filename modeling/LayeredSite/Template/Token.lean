import LayeredSite.Template.Form
import LayeredSite.Text.Blank

namespace LayeredSite

inductive Lexeme
  | opener (b : Bracket)
  | closer (b : Bracket)
  | leaf (l : Leaf)

structure Token where
  position : Position
  lexeme : Lexeme

namespace Token

def isDelimiter (c : Char) : Bool :=
  Text.isBlank c || c == '(' || c == ')' || c == '[' || c == ']' || c == '{' || c == '}' ||
    c == '"' || c == ';' || c == ','

/-- What the scanner is in the middle of; texts so far are kept in reverse. -/
inductive Mode
  | between
  | comment
  | string (start : Position) (reversed : List Char)
  | escape (start backslash : Position) (reversed : List Char)
  | atom (start : Position) (reversed : List Char)
  | keyword (start : Position) (reversed : List Char)

structure Scan where
  tokens : List Token
  fault : Option ReadError

def Scan.push (t : Token) (s : Scan) : Scan := { s with tokens := t :: s.tokens }

def atomToken (start : Position) (reversed : List Char) : Token :=
  ⟨start, .leaf (.ofSpelling reversed.reverse)⟩

def keywordToken (start : Position) (reversed : List Char) : Token :=
  ⟨start, .leaf (.literal (.keyword (String.ofList reversed.reverse)))⟩

def stringToken (start : Position) (reversed : List Char) : Token :=
  ⟨start, .leaf (.literal (.str (String.ofList reversed.reverse)))⟩

def begin (p : Position) (c : Char) : Option Token × Mode :=
  match c with
  | '(' => (some ⟨p, .opener .round⟩, .between)
  | '[' => (some ⟨p, .opener .square⟩, .between)
  | '{' => (some ⟨p, .opener .curly⟩, .between)
  | ')' => (some ⟨p, .closer .round⟩, .between)
  | ']' => (some ⟨p, .closer .square⟩, .between)
  | '}' => (some ⟨p, .closer .curly⟩, .between)
  | ';' => (none, .comment)
  | ',' => (none, .between)
  | '"' => (none, .string p [])
  | ':' => (none, .keyword p [])
  | c => (none, if Text.isBlank c then .between else .atom p [c])

def unescape? : Char → Option Char
  | 'n' => some '\n'
  | 't' => some '\t'
  | '"' => some '"'
  | '\\' => some '\\'
  | _ => none

/-- One character: the tokens it completes and the mode after it, or a fault. -/
def step (p : Position) (c : Char) : Mode → Except ReadError (List Token × Mode)
  | .between => let (t, mode) := begin p c; .ok (t.toList, mode)
  | .comment => .ok ([], if c = '\n' then .between else .comment)
  | .string start reversed =>
    if c = '"' then .ok ([stringToken start reversed], .between)
    else if c = '\\' then .ok ([], .escape start p reversed)
    else .ok ([], .string start (c :: reversed))
  | .escape start backslash reversed =>
    match unescape? c with
    | some d => .ok ([], .string start (d :: reversed))
    | none => .error ⟨backslash, .unknownEscape c⟩
  | .atom start reversed =>
    if isDelimiter c then
      let (t, mode) := begin p c
      .ok (atomToken start reversed :: t.toList, mode)
    else .ok ([], .atom start (c :: reversed))
  | .keyword start reversed =>
    if isDelimiter c then
      if reversed.isEmpty then .error ⟨start, .emptyKeyword⟩
      else
        let (t, mode) := begin p c
        .ok (keywordToken start reversed :: t.toList, mode)
    else .ok ([], .keyword start (c :: reversed))

def finish : Mode → Scan
  | .between => ⟨[], none⟩
  | .comment => ⟨[], none⟩
  | .string start _ => ⟨[], some ⟨start, .unterminatedString⟩⟩
  | .escape start _ _ => ⟨[], some ⟨start, .unterminatedString⟩⟩
  | .atom start reversed => ⟨[atomToken start reversed], none⟩
  | .keyword start reversed =>
    if reversed.isEmpty then ⟨[], some ⟨start, .emptyKeyword⟩⟩
    else ⟨[keywordToken start reversed], none⟩

def scanFrom (mode : Mode) (p : Position) : List Char → Scan
  | [] => finish mode
  | c :: rest =>
    match step p c mode with
    | .error e => ⟨[], some e⟩
    | .ok (tokens, mode') =>
      let later := scanFrom mode' (p.after c) rest
      ⟨tokens ++ later.tokens, later.fault⟩

def scan (p : Position) (cs : List Char) : Scan := scanFrom .between p cs

end Token
end LayeredSite
