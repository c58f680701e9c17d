import LayeredSite.Markdown.Block
import LayeredSite.Markdown.Opening
import LayeredSite.Markdown.Target

namespace LayeredSite.Markdown.Verbatim

/-- A line without the carriage return in front of its last character. -/
def unreturned (line : List Char) : List Char :=
  match line.reverse with
  | c :: '\r' :: rest => (c :: rest).reverse
  | _ => line

def lineText (pending : Nat) (p : Place) : List Char :=
  List.replicate pending ' ' ++ unreturned (p.rest.take (lineLength p.rest))

structure Line where
  text : List Char
  isBlank : Bool
  next : Place

/-- The lines of indented code from a place in the first one on, and the place behind them. -/
def indentedLines (containers : List Container) (pending : Nat) (p : Place) : List Line × Place :=
  let next := p.advance (lineLength p.rest)
  let line : Line := ⟨lineText pending p, (blankLine? p.rest).isSome, next⟩
  match Container.inside? containers next with
  | none => ([line], next)
  | some c =>
    let (indent, further) := c.spaces 4
    if (indent < 4 && !further.atLineEnd) || further.place.atEnd then ([line], next)
    else if _h : further.rest.length < p.rest.length then
      let (more, stop) := indentedLines containers further.pending further.place
      (line :: more, stop)
    else ([line], next)
termination_by p.rest.length

/-- The text of indented code without the blank lines at its end, the offset at which it ends, and
the place behind the blank lines. -/
def indented (containers : List Container) (c : Cursor) : List Char × Nat × Place :=
  let (lines, stop) := indentedLines containers c.pending c.place
  let shown := (lines.reverse.dropWhile Line.isBlank).reverse
  let offset := (shown.getLast?.map fun l => l.next.offset).getD c.place.offset
  (shown.flatMap Line.text, offset, stop)

def fencedLines (containers : List Container) (fence : Fence) (indent : Nat) (p : Place) :
    List Char × Place :=
  match Container.inside? containers p with
  | none => ([], p)
  | some c =>
    let begun := (c.spaces indent).2
    let (n, further) := begun.spaces 4
    match if n < 4 then fence.closing? further.rest else none with
    | some length => ([], further.place.advance length)
    | none =>
      let next := begun.place.advance (lineLength begun.rest)
      let text := lineText begun.pending begun.place
      if _h : next.rest.length < p.rest.length then
        let (more, stop) := fencedLines containers fence indent next
        (text ++ more, stop)
      else (text, next)
termination_by p.rest.length

def info (behind : List Char) : List Char :=
  let line := (behind.drop (span isSpace behind))
  unescape (dropEnd isSpaceOrNewline (line.take (lineLength line)))

def htmlLine (pending : Nat) (p : Place) : List (Spanned Token) :=
  let n := lineLength p.rest
  let stop := p.offset + n
  let spaces := if pending = 0 then [] else [⟨p, p.offset, .given (List.replicate pending ' ')⟩]
  if 2 ≤ n && p.rest[n - 2]? = some '\r' then
    spaces ++ [⟨p, stop - 2, .html⟩, ⟨p.advance (n - 1), stop, .html⟩]
  else spaces ++ [⟨p, stop, .html⟩]

def htmlLines (containers : List Container) (stop : RawHtml.BlockEnd) (pending : Nat) (p : Place) :
    List (Spanned Token) × Place :=
  let n := lineLength p.rest
  let next := p.advance n
  let line := htmlLine pending p
  match Container.inside? containers next with
  | none => (line, next)
  | some c =>
    let ended := match stop with
      | .mark mark => (through mark (p.rest.take n)).isSome
      | .blank => c.isBlank
    if ended || c.place.atEnd then (line, next)
    else if _h : c.rest.length < p.rest.length then
      let (more, further) := htmlLines containers stop c.pending c.place
      (line ++ more, further)
    else (line, next)
termination_by p.rest.length

end LayeredSite.Markdown.Verbatim
