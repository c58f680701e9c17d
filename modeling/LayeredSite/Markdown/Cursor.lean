import LayeredSite.Markdown.Place

namespace LayeredSite.Markdown

structure Cursor where
  place : Place
  /-- Characters since the latest tab. -/
  column : Nat
  /-- Spaces left of a tab. -/
  pending : Nat

namespace Cursor

def start (p : Place) : Cursor := ⟨p, 0, 0⟩

def rest (c : Cursor) : List Char := c.place.rest

def atLineEnd (c : Cursor) : Bool := (lineEnd? c.rest).isSome

def isBlank (c : Cursor) : Bool := (blankLine? c.rest).isSome

/-- Takes up to `n` spaces behind a column: how many are missing, and the place behind them. -/
def takeSpaces : Nat → Nat → Place → Nat × Cursor
  | 0, column, p => (0, ⟨p, column, 0⟩)
  | n + 1, column, p =>
    match p.rest with
    | ' ' :: _ => takeSpaces n (column + 1) p.next
    | '\t' :: _ =>
      let width := 4 - column % 4
      if width ≤ n + 1 then takeSpaces (n + 1 - width) 0 p.next
      else (0, ⟨p.next, 0, width - (n + 1)⟩)
    | _ => (n + 1, ⟨p, column, 0⟩)
termination_by n => n
decreasing_by
  · omega
  · have : column % 4 < 4 := Nat.mod_lt _ (by decide)
    omega

/-- Takes up to `n` spaces and says how many were taken. -/
def spaces (c : Cursor) (n : Nat) : Nat × Cursor :=
  if n ≤ c.pending then (n, { c with pending := c.pending - n })
  else
    let (missing, further) := takeSpaces (n - c.pending) c.column c.place
    (n - missing, further)

def spaces? (c : Cursor) (n : Nat) : Option Cursor :=
  let (taken, further) := c.spaces n
  if taken = n then some further else none

/-- Passes over `n` characters that are no tabs. -/
def skip (c : Cursor) (n : Nat) : Cursor :=
  { c with place := c.place.advance n, column := c.column + n }

def skipSpaces (c : Cursor) : Cursor :=
  let n := span (fun x => x = ' ' || x = '\t') c.rest
  { c with place := c.place.advance n, pending := 0 }

def quote? (c : Cursor) : Option Cursor :=
  let further := (c.spaces 3).2
  match further.rest with
  | '>' :: _ => some ((further.skip 1).spaces 1).2
  | _ => none

end Cursor

/-- The length of a line that is a break between sections, with its end. -/
def sectionBreak? (cs : List Char) : Option Nat :=
  match cs with
  | [] => none
  | c :: _ =>
    let marks := cs.takeWhile fun x => x = c || x = ' ' || x = '\t'
    if (c = '*' || c = '-' || c = '_') && 3 ≤ marks.count c then
      (lineEnd? (cs.drop marks.length)).map (marks.length + ·)
    else none

structure Marker where
  mark : Char
  /-- The number of an ordered item. -/
  number : Nat
  /-- How far the content of the item is indented. -/
  indent : Nat
deriving DecidableEq, Repr

namespace Marker

def isBullet (c : Char) : Bool := c = '-' || c = '+' || c = '*'

def isNumberMark (c : Char) : Bool := c = '.' || c = ')'

def digitsValue (cs : List Char) : Nat := cs.foldl (fun n c => 10 * n + (c.toNat - 48)) 0

/-- A marker and the spaces behind it that belong to it, which are less than four. -/
def finish (m : Marker) (c : Cursor) : Marker × Cursor :=
  if c.isBlank then (m, c)
  else
    let (more, further) := c.spaces 4
    if more < 4 then ({ m with indent := m.indent + more }, further) else (m, c)

/-- The marker of a list item. A number and its mark are as wide as they are, with the space behind
them if there is one; a bullet is two columns wide. -/
def scan? (c : Cursor) : Option (Marker × Cursor) :=
  let (indent, place) := c.spaces 4
  match if indent < 4 then place.rest else [] with
  | [] => none
  | x :: _ =>
    if isBullet x then
      if (sectionBreak? place.rest).isSome then none
      else
        let behind := place.skip 1
        match behind.spaces? 1 with
        | some further => some (finish ⟨x, 0, indent + 2⟩ further)
        | none => if behind.atLineEnd then some (finish ⟨x, 0, indent + 2⟩ behind) else none
    else
      let digits := place.rest.takeWhile Char.isDigit
      let width := digits.length + 1
      match place.rest.drop digits.length with
      | [] => none
      | mark :: _ =>
        if 2 ≤ width && width ≤ 10 && isNumberMark mark then
          let m : Marker := ⟨mark, digitsValue digits, indent + width⟩
          let behind := place.skip width
          match behind.spaces? 1 with
          | some further => some (finish { m with indent := m.indent + 1 } further)
          | none => if behind.atLineEnd then some (finish m behind) else none
        else none

end Marker
end LayeredSite.Markdown
