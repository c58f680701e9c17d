namespace LayeredSite.Markdown

/-- A place between the characters before it, the nearest first, and the rest of a text. -/
structure Place where
  before : List Char
  rest : List Char
  offset : Nat
  offset_eq : offset = before.length

namespace Place

def start (cs : List Char) : Place := ⟨[], cs, 0, rfl⟩

def next (p : Place) : Place :=
  match p.rest with
  | [] => p
  | c :: rest => ⟨c :: p.before, rest, p.offset + 1, by simp [p.offset_eq]⟩

def advance (p : Place) : Nat → Place
  | 0 => p
  | n + 1 => p.next.advance n

def previous (p : Place) : Place :=
  match h : p.before with
  | [] => p
  | c :: before => ⟨before, c :: p.rest, p.offset - 1, by simp [p.offset_eq, h]⟩

def back (p : Place) : Nat → Place
  | 0 => p
  | n + 1 => p.previous.back n

def atEnd (p : Place) : Bool := p.rest.isEmpty

def between (p : Place) (first stop : Nat) : List Char :=
  (p.rest.drop (first - p.offset)).take (stop - first)

end Place

structure Spanned (α : Type) where
  place : Place
  stop : Nat
  value : α

namespace Spanned

variable {α β : Type}

def map (f : α → β) (s : Spanned α) : Spanned β := ⟨s.place, s.stop, f s.value⟩

def start (s : Spanned α) : Nat := s.place.offset

def text (s : Spanned α) : List Char := s.place.between s.start s.stop

def startingAt (s : Spanned α) (offset : Nat) : Spanned α :=
  { s with place := s.place.advance (offset - s.start) }

end Spanned

/-- A blank that ends no line. -/
def isSpace (c : Char) : Bool := c = ' ' || c = '\t' || c = '\x0b' || c = '\x0c'

def isSpaceOrNewline (c : Char) : Bool := isSpace c || c = '\n' || c = '\r'

def isAlnum (c : Char) : Bool := c.isAlpha || c.isDigit

def span (p : Char → Bool) (cs : List Char) : Nat := (cs.takeWhile p).length

def dropEnd (p : Char → Bool) (cs : List Char) : List Char := (cs.reverse.dropWhile p).reverse

def through (mark : List Char) : List Char → Option Nat
  | [] => if mark.isEmpty then some 0 else none
  | c :: rest =>
    if mark.isPrefixOf (c :: rest) then some mark.length
    else (through mark rest).map (· + 1)

/-- The length of what ends a line here, which is nothing at the end of the text. -/
def lineEnd? : List Char → Option Nat
  | [] => some 0
  | '\n' :: _ => some 1
  | '\r' :: '\n' :: _ => some 2
  | '\r' :: _ => some 1
  | _ => none

def blankLine? (cs : List Char) : Option Nat :=
  (lineEnd? (cs.drop (span isSpace cs))).map (span isSpace cs + ·)

def lineLength : List Char → Nat
  | [] => 0
  | c :: rest => if c = '\n' then 1 else lineLength rest + 1

end LayeredSite.Markdown
