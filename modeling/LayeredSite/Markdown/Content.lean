import LayeredSite.Markdown.Autolink
import LayeredSite.Markdown.Definition
import LayeredSite.Markdown.Emphasis

namespace LayeredSite.Markdown

inductive Piece
  | token (t : Token)
  | element (e : Element)

namespace Piece

def isLineBreak : Piece → Bool
  | token t => t.isLineBreak
  | element _ => false

end Piece

namespace Content

/-- The pieces that end behind an offset; the first of them does not begin in front of it. -/
def behind (offset : Nat) (pieces : List (Spanned Piece)) : List (Spanned Piece) :=
  match pieces.dropWhile fun p => p.stop ≤ offset with
  | [] => []
  | p :: rest => p.startingAt offset :: rest

/-- The element or run that a piece is if nothing begins or ends with it. -/
def strand (p : Spanned Piece) : Strand :=
  match p.value with
  | .element e => .element e
  | .token t => match t with
    | .given cs => .element (.text cs)
    | .html => .element (.html p.text)
    | .lineBreak hard => .element (if hard then .hardBreak else .softBreak)
    | .run r => .run r (p.text.drop r.count)
    | _ => .element (.text p.text)

def closesCode (count : Nat) (p : Spanned Piece) : Bool :=
  match p.value with
  | .token (.backticks n _) => n = count
  | _ => false

/-- Text from the source up to an offset with its lines joined, once there is a line break. The text
begins at `first`; `joined` is what is read so far. A break at the end is left out if blanks at the
ends are. -/
def joinLines (source : Place) (first stop : Nat) (trims : Bool) :
    Option (List Char) → List (Spanned Piece) → List Char
  | joined, [] => joined.getD (source.between first stop)
  | joined, p :: rest =>
    if p.value.isLineBreak then
      if trims && rest.isEmpty then joined.getD (source.between first stop)
      else
        let blanks := span (fun c => c != '\n' && c != '\r') p.place.rest
        let line := match joined with
          | some cs => cs ++ p.place.rest.take blanks
          | none => source.between first (p.start + blanks)
        joinLines source first stop trims (some (line ++ [' '])) rest
    else
      let part := source.between p.start (if rest.isEmpty then stop else p.stop)
      joinLines source first stop trims (joined.map (· ++ part)) rest

/-- The text of code between backticks. A blank or a line break at both ends is left out, unless all
is blank. -/
def codeText (opening closing : Spanned Piece) (inside : List (Spanned Piece)) : List Char :=
  let source := opening.place
  let text := source.between opening.stop closing.start
  let isEdge (c : Option Char) : Bool := c.any fun c => c = ' ' || c = '\n' || c = '\r'
  if text.all (· = ' ') then text
  else
    let trims := isEdge text.head? && isEdge text.getLast?
    if !trims then joinLines source opening.stop closing.start false none inside
    else
      let first := opening.stop + 1
      let stop := if first < closing.start then closing.start - 1 else closing.start
      match inside with
      | [] => source.between first stop
      | p :: rest =>
        if p.value.isLineBreak then
          let next := match rest with
            | q :: _ => q.start
            | [] => closing.start
          joinLines source (min stop next) stop true none rest
        else joinLines source first stop true none inside

/-- A title behind its opening quote, from an offset on, and the offset behind it. Each line of it
begins where the first piece of the line does. -/
def titleFrom (opening closing : Char) (pieces : List (Spanned Piece)) (offset skip : Nat) :
    List Char → Option (List Char × Nat)
  | [] => none
  | c :: rest => match skip with
    | n + 1 => titleFrom opening closing pieces (offset + 1) n rest
    | 0 =>
      let literal (skip : Nat) (cs : List Char) :=
        (titleFrom opening closing pieces (offset + 1) skip rest).map fun (title, stop) =>
          (cs ++ title, stop)
      if c = closing then some ([], offset + 1)
      else if c = opening then none
      else match nextLine c with
        | some start => literal (start - (offset + 1)) ['\n']
        | none =>
          if c = '&' then
            match Entity.scan rest with
            | some (value, n) => literal n value
            | none => literal 0 [c]
          else if c = '\\' then
            match rest with
            | d :: _ => if isAsciiPunctuation d then literal 1 [d] else literal 0 [c]
            | [] => none
          else literal 0 [c]
where
  /-- The beginning of the first piece that ends behind a line end here. -/
  nextLine (c : Char) : Option Nat :=
    if c = '\n' || c = '\r' then
      ((pieces.find? fun p => offset + 1 < p.stop).map Spanned.start).filter (offset < ·)
    else none

def titleAt (pieces : List (Spanned Piece)) (offset : Nat) (cs : List Char) :
    Option (List Char × Nat) :=
  match cs with
  | '"' :: rest => titleFrom '"' '"' pieces (offset + 1) 0 rest
  | '\'' :: rest => titleFrom '\'' '\'' pieces (offset + 1) 0 rest
  | '(' :: rest => titleFrom '(' ')' pieces (offset + 1) 0 rest
  | _ => none

def targetAt (pieces : List (Spanned Piece)) (offset : Nat) (cs : List Char) :
    Option (Target × Nat) :=
  let blanks := span isSpaceOrNewline
  match cs with
  | '(' :: rest => do
    let start := 1 + blanks rest
    let (destination, length) ← scanDestination linkNesting (cs.drop start)
    let gap := start + length + blanks (cs.drop (start + length))
    let (title, stop) := match titleAt pieces (offset + gap) (cs.drop gap) with
      | some (title, stop) =>
        let n := stop - offset
        (title, n + blanks (cs.drop n))
      | none => ([], gap)
    if cs[stop]? = some ')' then return (⟨destination, title⟩, offset + stop + 1) else none
  | _ => none

structure Bracket where
  piece : Spanned Piece
  isImage : Bool
  /-- It may still begin a link. -/
  active : Bool
  /-- What stands in front of it, latest first. -/
  before : List Strand

structure Scanner where
  /-- Open brackets, latest first. -/
  brackets : List Bracket := []
  /-- What stands behind the latest bracket, latest first. -/
  strands : List Strand := []

namespace Scanner

def put (s : Scanner) (e : Element) : Scanner := { s with strands := .element e :: s.strands }

def literal (s : Scanner) (p : Spanned Piece) : Scanner :=
  { s with strands := strand p :: s.strands }

def openBracket (s : Scanner) (p : Spanned Piece) (isImage : Bool) : Scanner :=
  { brackets := ⟨p, isImage, true, s.strands⟩ :: s.brackets, strands := [] }

def dropBracket (s : Scanner) : Scanner :=
  match s.brackets with
  | [] => s
  | b :: outer => ⟨outer, s.strands ++ strand b.piece :: b.before⟩

def dropBrackets (s : Scanner) : Scanner := s.brackets.foldl (fun s _ => s.dropBracket) s

def closeLink (s : Scanner) (b : Bracket) (t : Target) : Scanner :=
  let content := emphasize s.strands.reverse
  let outer := s.brackets.drop 1
  if b.isImage then ⟨outer, .element (.image t.destination t.title content) :: b.before⟩
  else
    ⟨outer.map fun o => { o with active := o.active && o.isImage },
      .element (.link t.destination t.title content) :: b.before⟩

/-- Code that begins with backticks, or else the backticks themselves. -/
def code (s : Scanner) (p : Spanned Piece) (count : Nat) (escaped : Bool)
    (rest : List (Spanned Piece)) : Scanner × List (Spanned Piece) :=
  let count := if escaped then count - 1 else count
  let inside := rest.takeWhile fun q => !closesCode count q
  match if count = 0 then [] else rest.drop inside.length with
  | [] => (s.literal p, rest)
  | closing :: more =>
    let s := if escaped then s.put (.text ['\x60']) else s
    (s.put (.code (codeText p closing inside)), more)

end Scanner

structure Setting where
  definitions : Definitions
  containers : List Container
  stop : Nat

namespace Setting

variable (e : Setting)

def textAt (p : Place) : List Char := p.between p.offset e.stop

def margin : Label.Margin := fun line => some (Container.margin e.containers line)

/-- An address or raw HTML behind a `<`: the element and the offset behind it. -/
def pointed? (p : Spanned Piece) (next : Spanned Piece) : Option (Element × Nat) :=
  let cs := e.textAt next.place
  match Autolink.scan cs with
  | some (n, href) =>
    let stop := next.start + n
    some (.link href [] [.text (p.place.between (p.start + 1) stop)], stop + 1)
  | none => match RawHtml.markedLength cs with
    | some n => some (.html (p.place.between p.start (next.start + n)), next.start + n)
    | none =>
      (RawHtml.spreadTag? (Container.margin e.containers) cs).map fun (tag, n) =>
        let stop := next.start + n
        (.html (if tag.length = n then p.place.between p.start stop
          else next.place.before.take 1 ++ tag), stop)

/-- A label at a place: whether it names a footnote, the label itself and the offset behind it. -/
def labelAt (p : Place) (stop : Nat) : Option (Bool × List Char × Nat) :=
  match p.between p.offset stop with
  | '[' :: '^' :: rest => (Label.scan e.margin rest).map fun (l, n) => (true, l, p.offset + 2 + n)
  | '[' :: rest => (Label.scan e.margin rest).map fun (l, n) => (false, l, p.offset + 1 + n)
  | _ => none

/-- What may stand behind a closing bracket to say which definition it means, with the pieces behind
that. -/
inductive Reference
  /-- A label in brackets, with the pieces behind these, and the pieces to go on with if nothing is
  defined for the label. Their closing bracket ends no label then. -/
  | label (l : List Char) (behind : List (Spanned Piece)) (retry : List (Spanned Piece))
  /-- The label is the text of the bracket itself. -/
  | own (behind : List (Spanned Piece))

def reference (rest : List (Spanned Piece)) : Reference :=
  match rest with
  | [] => .own rest
  | next :: _ =>
    if ['[', ']'].isPrefixOf (e.textAt next.place) then .own (rest.drop 2)
    else match e.labelAt next.place e.stop with
      | some (false, label, stop) =>
        let inside := rest.takeWhile fun p => p.stop < stop
        match rest.drop inside.length with
        | [] => .own rest
        | closing :: more =>
          .label label more (inside ++ { closing with value := .token (.closing false) } :: more)
      | _ => .own rest

def ownLabel? (b : Bracket) (closing : Spanned Piece) : Option (Bool × List Char) := do
  let (isFootnote, label, stop) ←
    e.labelAt (b.piece.place.advance (if b.isImage then 1 else 0)) closing.stop
  if stop = closing.stop then return (isFootnote, label) else none

def target? (label : List Char) : Option Target := e.definitions.lookup (labelKey label)

def close (s : Scanner) (closing : Spanned Piece) (mayRefer : Bool) (rest : List (Spanned Piece)) :
    Scanner × List (Spanned Piece) :=
  let literal (rest : List (Spanned Piece)) := (s.dropBracket.literal closing, rest)
  match s.brackets with
  | [] => literal rest
  | b :: _ =>
    let after := closing.place.advance (closing.stop - closing.start)
    if !b.active then literal rest
    else match targetAt rest closing.stop (e.textAt after) with
      | some (target, stop) => (s.closeLink b target, behind stop rest)
      | none => match e.reference rest with
        | .label label more retry => match e.target? label with
          | some target => (s.closeLink b target, more)
          | none => literal retry
        | .own more =>
          if !mayRefer then literal rest
          else match e.ownLabel? b closing with
            | some (true, label) =>
              (({ s with brackets := s.brackets.drop 1, strands := b.before } : Scanner)
                |>.dropBrackets.put (.reference label), more)
            | some (false, label) => match e.target? label with
              | some target => (s.closeLink b target, more)
              | none => literal rest
            | none => literal rest

def step (s : Scanner) (p : Spanned Piece) (rest : List (Spanned Piece)) :
    Scanner × List (Spanned Piece) :=
  match p.value with
  | .token .less => match rest.head?.bind (e.pointed? p) with
    | some (element, stop) => (s.put element, behind stop rest)
    | none => (s.literal p, rest)
  | .token (.backticks count escaped) => s.code p count escaped rest
  | .token (.opening isImage) => (s.openBracket p isImage, rest)
  | .token (.closing mayRefer) => e.close s p mayRefer rest
  | _ => (s.literal p, rest)

/-- Reads pieces one after another. No step leaves more of them than there were. -/
def run (s : Scanner) : List (Spanned Piece) → Scanner
  | [] => s
  | p :: rest =>
    let (s, more) := e.step s p rest
    if _h : more.length ≤ rest.length then run s more else s
termination_by pieces => pieces.length
decreasing_by
  simp only [List.length_cons]
  omega

def read (pieces : List (Spanned Piece)) : List Element :=
  emphasize (e.run {} pieces).dropBrackets.strands.reverse

end Setting
end Content
end LayeredSite.Markdown
