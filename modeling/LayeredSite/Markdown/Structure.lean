import LayeredSite.Markdown.Paragraph
import LayeredSite.Markdown.Table
import LayeredSite.Markdown.Verbatim

namespace LayeredSite.Markdown

/-- An open container with the blocks in it, latest first. -/
structure OpenBlock where
  place : Place
  container : Container
  blocks : List Block := []

def OpenBlock.close (o : OpenBlock) (stop : Nat) : Block :=
  .within o.place stop o.container o.blocks.reverse

structure Reader where
  /-- The innermost first. -/
  opened : List OpenBlock := []
  /-- Finished blocks outside all containers, latest first. -/
  blocks : List Block := []
  definitions : Definitions := []
  /-- The last line was blank, which makes a list loose if it goes on. -/
  lastBlank : Bool := false
  /-- No text stands behind the latest marker of an item, so that a blank line ends the innermost
  container. -/
  bareMarker : Bool := false

namespace Reader

def containers (r : Reader) : List Container := (r.opened.map OpenBlock.container).reverse

def add (r : Reader) (b : Block) : Reader :=
  match r.opened with
  | [] => { r with blocks := b :: r.blocks }
  | o :: outer => { r with opened := { o with blocks := b :: o.blocks } :: outer }

def push (r : Reader) (place : Place) (c : Container) : Reader :=
  { r with opened := ⟨place, c, []⟩ :: r.opened }

def pop (r : Reader) (stop : Nat) : Reader :=
  match r.opened with
  | [] => r
  | o :: outer => { r with opened := outer }.add (o.close stop)

def popTo (r : Reader) (n stop : Nat) : Reader :=
  (List.range (r.opened.length - n)).foldl (fun r _ => r.pop stop) r

def innermost? (r : Reader) : Option Container := r.opened.head?.map OpenBlock.container

def inFootnote (r : Reader) : Bool := r.innermost?.any Container.isFootnote

def loosen (o : OpenBlock) : OpenBlock := { o with container := o.container.loosened }

/-- Closes a list that does not go on. A block behind a blank line makes the list of its item
loose. -/
def finishList (r : Reader) (stop : Nat) : Reader :=
  let r := if r.innermost?.any Container.isList then r.pop stop else r
  if !r.lastBlank then r
  else match r.opened with
    | o :: p :: outer => { r with opened := o :: loosen p :: outer, lastBlank := false }
    | _ => { r with lastBlank := false }

/-- Goes on with a list of the same mark, or begins a new one. -/
def continueList (r : Reader) (place : Place) (m : Marker) : Reader :=
  let start (r : Reader) : Reader :=
    { r.push place (.list m.mark m.number true) with lastBlank := false }
  match r.opened with
  | o :: outer => match o.container with
    | .list mark _ _ =>
      if mark = m.mark then
        if r.lastBlank then { r with opened := loosen o :: outer, lastBlank := false } else r
      else start (r.finishList place.offset)
    | _ => start (r.finishList place.offset)
  | [] => start r

/-- Opens containers, at most `n`: the cursor behind their marks, or the place of the next line if
the line ends with a marker. A list that does not go on ends at `begun`. -/
def openContainers (begun : Nat) : Nat → Reader → Cursor → Reader × (Place ⊕ Cursor)
  | 0, r, c => (r, .inr c)
  | n + 1, r, c => match Marker.scan? c with
    | some (m, further) =>
      let r := (r.continueList c.place m).push c.place (.item m.indent)
      match blankLine? further.rest with
      | some length => ({ r with bareMarker := true }, .inl (further.place.advance length))
      | none => openContainers begun n r further
    | none => match c.quote? with
      | some further => openContainers begun n ((r.finishList begun).push c.place .quote) further
      | none => (r, .inr c)

/-- A blank line, which a quotation does not notice. -/
def blankLine (r : Reader) (stop : Nat) : Reader :=
  match r.innermost? with
  | none => r
  | some .quote => r
  | some _ => { if r.bareMarker then r.pop stop else r with lastBlank := true }

def prose (r : Reader) (p : Place) : Reader × Place :=
  let marked := (footnoteMark? r.containers p.rest).isSome
  match if marked then none else Table.begins? r.containers p with
  | some (alignments, body) =>
    let columns := alignments.length
    let (head, next) := Table.lineCells p
    let (rows, stop) := Table.rows r.containers columns body
    let head := Table.fit columns head next.offset
    (r.add (.leaf p stop.offset (.table alignments head rows)), stop)
  | none =>
    let text := Paragraph.read r.containers p
    (r.add (.leaf p text.next.offset text.leaf), text.next)

def html? (r : Reader) (pending : Nat) (p : Place) : Option (Reader × Place) :=
  match p.rest with
  | '<' :: behind => (RawHtml.blockEnd? behind).map fun stop =>
    let (pieces, next) := Verbatim.htmlLines r.containers stop pending p
    (pieces.foldl (fun r t => r.add (.leaf t.place t.stop (.html t.value))) r, next)
  | _ => none

/-- A definition, which takes the rest of its line if that is blank. -/
def definition? (r : Reader) (p : Place) : Option (Reader × Place) :=
  (Definition.scan? r.containers p.rest).map fun (key, target, n) =>
    let stop := p.advance n
    ({ r with definitions := r.definitions ++ [(key, target)] },
      stop.advance ((blankLine? stop.rest).getD 0))

def fenced (r : Reader) (fence : Fence) (indent : Nat) (p : Place) : Reader × Place :=
  let behind := p.advance fence.length
  let info := Verbatim.info behind.rest
  let line := behind.advance (span isSpace behind.rest)
  let (text, stop) :=
    Verbatim.fencedLines r.containers fence indent (line.advance (lineLength line.rest))
  (r.add (.leaf p stop.offset (.code info text)), stop.advance ((blankLine? stop.rest).getD 0))

def leaf (r : Reader) (c : Cursor) : Reader × Place :=
  let (indent, begun) := c.spaces 4
  let p := begun.place
  if indent = 4 then
    let (text, stop, next) := Verbatim.indented r.containers begun
    (r.add (.leaf p stop (.code [] text)), next)
  else match r.html? c.pending p with
    | some result => result
    | none => match sectionBreak? p.rest with
      | some n => (r.add (.leaf p (p.offset + n) .rule), p.advance n)
      | none => match headingLevel? p.rest with
        | some level =>
          let (tokens, next) := headingLine (p.advance level)
          (r.add (.leaf p next.offset (.heading level tokens)), next)
        | none => match r.definition? p with
          | some result => result
          | none => match fence? p.rest with
            | some fence => r.fenced fence indent p
            | none => r.prose p

/-- Begins a footnote where its mark stands, and passes over the rest of the line if it is blank. -/
def footnote? (r : Reader) (c : Cursor) : Option (Reader × Cursor) :=
  (footnoteMark? r.containers c.rest).map fun (label, n) =>
    let r := r.finishList c.place.offset
    let r := if r.inFootnote then r.pop c.place.offset else r
    let stop := c.place.advance n
    (r.push c.place (.footnote label),
      .start (stop.advance ((blankLine? stop.rest).getD 0)))

/-- Reads a block behind the marks that its line begins with. Containers that do not go on end at
`begun`. -/
def content (r : Reader) (begun : Nat) (c : Cursor) : Reader × Place :=
  match r.openContainers begun (c.rest.length + 1) c with
  | (r, .inl next) => (r, next)
  | (r, .inr c) =>
    match blankLine? c.rest with
    | some length => (r.blankLine begun, c.place.advance length)
    | none => ({ r with bareMarker := false }.finishList begun).leaf c

def block (r : Reader) (p : Place) : Reader × Place :=
  let (n, c) := Container.continued r.containers (.start p)
  let r := r.popTo n p.offset
  let r := if r.inFootnote && r.lastBlank then r.pop p.offset else r
  match r.footnote? c with
  | some (r, c) => r.content c.place.offset c
  | none => r.content p.offset c

def run (r : Reader) (p : Place) : Reader :=
  if p.atEnd then r.popTo 0 p.offset
  else
    let (further, next) := r.block p
    if _h : next.rest.length < p.rest.length then further.run next
    else further.popTo 0 next.offset
termination_by p.rest.length

end Reader

def readBlocks (source : List Char) : List Block × Definitions :=
  let r := Reader.run {} (.start source)
  (r.blocks.reverse, r.definitions)

end LayeredSite.Markdown
