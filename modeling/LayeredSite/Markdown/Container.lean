import LayeredSite.Markdown.Cursor

namespace LayeredSite.Markdown

inductive Container
  | quote
  /-- In a tight list the items' own paragraphs are not marked up. -/
  | list (mark : Char) (number : Nat) (tight : Bool)
  | item (indent : Nat)
  | footnote (label : List Char)
deriving DecidableEq, Repr

namespace Container

def isList : Container → Bool
  | list _ _ _ => true
  | _ => false

def isFootnote : Container → Bool
  | footnote _ => true
  | _ => false

def isTight : Container → Bool
  | list _ _ tight => tight
  | _ => false

def loosened : Container → Container
  | list mark number _ => list mark number false
  | c => c

/-- Reads what continues a container on a line, which a list and a footnote do not need. -/
def continue? (c : Cursor) : Container → Option Cursor
  | quote => c.quote?
  | item indent =>
    let (taken, further) := c.spaces indent
    if taken = indent || further.atLineEnd then some further else none
  | _ => some c

/-- How many containers, the outermost first, a line continues, and the place behind their marks. -/
def continued : List Container → Cursor → Nat × Cursor
  | [], c => (0, c)
  | container :: inner, c => match container.continue? c with
    | some place =>
      let (n, place) := continued inner place
      (n + 1, place)
    | none => (0, c)

def inside? (containers : List Container) (p : Place) : Option Cursor :=
  let (n, c) := continued containers (.start p)
  if n = containers.length then some c else none

def margin (containers : List Container) (line : List Char) : Nat :=
  (continued containers (.start (.start line))).2.place.offset

end Container
end LayeredSite.Markdown
