import LayeredSite.Markdown.Block
import LayeredSite.Markdown.Opening

namespace LayeredSite.Markdown.Table

/-- The bars of a line, the text behind the latest of them, and what ends the line. -/
structure Bars where
  count : Nat
  behind : List Char
  ending : List Char

def bars (escaped : Bool) (found : Nat) (behind : List Char) : List Char → Bars
  | [] => ⟨found, behind, []⟩
  | c :: rest =>
    if c = '\n' || c = '\r' then ⟨found, behind, c :: rest⟩
    else if escaped then bars false found behind rest
    else if c = '\\' then bars (rest.head?.any isAsciiPunctuation) found behind rest
    else if c = '|' then bars false (found + 1) rest rest
    else bars false found behind rest

def headColumns (head : List Char) (b : Bars) : Nat :=
  let inner := if (head.drop (span isSpace head)).head? = some '|' then b.count - 1 else b.count
  if (blankLine? b.behind).isSome then inner else inner + 1

structure Column where
  begun : Bool := false
  alignment : Alignment := .none

def Column.colon (c : Column) : Column where
  begun := true
  alignment := match c.begun, c.alignment with
    | false, .none => .left
    | true, .left => .center
    | true, .none => .right
    | _, a => a

def alignments (found : List Alignment) (column : Column) : List Char → List Alignment × Nat
  | [] => (finish, 0)
  | c :: rest =>
    let further (found : List Alignment) (column : Column) :=
      let (all, n) := alignments found column rest
      (all, n + 1)
    match lineEnd? (c :: rest) with
    | some n => (finish, n)
    | none =>
      if c = ' ' then further found column
      else if c = ':' then further found column.colon
      else if c = '-' then further found { column with begun := true }
      else if c = '|' then further (found ++ [column.alignment]) {}
      else ([], 0)
where
  finish : List Alignment := if column.begun then found ++ [column.alignment] else found

/-- The alignments in the line under the head, and its length. Before the line's first bar at most
three spaces are allowed, and if there are any, the bar ends a column. -/
def underHead? (cs : List Char) : Option (List Alignment × Nat) :=
  let blanks := cs.takeWhile fun c => c = ' ' || c = '\t'
  if 3 < blanks.length || blanks.contains '\t' then none
  else
    let skipped := match cs with
      | '|' :: _ => 1
      | _ => blanks.length - 1
    let (found, n) := alignments [] {} (cs.drop skipped)
    if skipped + n = 0 then none else some (found, skipped + n)

/-- The rows begin where the line of hyphens and colons ends, which is in the middle of a line if
other characters stand there. -/
def begins? (containers : List Container) (p : Place) : Option (List Alignment × Place) := do
  let b := bars false 0 [] p.rest
  if b.count = 0 || b.ending.isEmpty then none
  else
    let line := p.advance (p.rest.length - b.ending.length + (lineEnd? b.ending).getD 0)
    let c ← Container.inside? containers line
    let (found, n) ← underHead? c.rest
    if found.length = headColumns p.rest b then return (found, c.place.advance n) else none

def trimmed (line : Token.Line) : Cell :=
  let blanks := span isSpace line.next.before
  let tokens := match line.tokens.reverse with
    | [] => []
    | last :: before => ({ last with stop := last.stop - blanks } :: before).reverse
  ⟨tokens, line.next.offset⟩

def lineCells (p : Place) : List Cell × Place :=
  let bar := if p.rest.head? = some '|' then p.next else p
  let begun := bar.advance (span isSpace bar.rest)
  match lineEnd? begun.rest with
  | some n => ([], begun.advance n)
  | none =>
    let line := Token.cell begun
    if _h : line.next.rest.length < p.rest.length then
      let (more, next) := lineCells line.next
      (trimmed line :: more, next)
    else ([trimmed line], line.next)
termination_by p.rest.length

/-- As many cells as there are columns. Where there are no columns, no cell is left out. -/
def fit (columns : Nat) (cells : List Cell) (stop : Nat) : List Cell :=
  if columns = 0 then cells
  else cells.take columns ++ List.replicate (columns - cells.length) ⟨[], stop⟩

def rows (containers : List Container) (columns : Nat) (p : Place) : List (List Cell) × Place :=
  match Container.inside? containers p with
  | none => ([], p)
  | some c =>
    let place := c.skipSpaces.place
    if interruptsParagraph place.rest true then ([], p)
    else
      let (cells, next) := lineCells place
      let row := fit columns cells next.offset
      if _h : next.rest.length < p.rest.length then
        let (more, stop) := rows containers columns next
        (row :: more, stop)
      else ([row], next)
termination_by p.rest.length

end LayeredSite.Markdown.Table
