import LayeredSite.Markdown.Block
import LayeredSite.Markdown.Definition

namespace LayeredSite.Markdown

structure Paragraph where
  tokens : List (Spanned Token)
  /-- The place behind it. -/
  next : Place
  /-- The level if it is a heading. -/
  level : Option Nat := none

namespace Paragraph

/-- The tokens over an underline. A backslash at the end is literal there, and else a blank at the
end is left out. -/
def titleTokens (tokens : List (Spanned Token)) (ending : Option (Spanned Token)) :
    List (Spanned Token) :=
  let backslash := ending.filter fun e => e.place.rest.head? = some '\\'
  match tokens.reverse, backslash with
  | [], none => []
  | last :: before, none =>
    let blanks := span isSpace (last.text.reverse)
    ({ last with stop := last.stop - blanks } :: before).reverse
  | _, some e => tokens ++ [⟨e.place, e.place.offset + 1, .text⟩]

/-- Reads on from the beginning of a line's text. The mark of a footnote ends a paragraph even in
front of its first token. -/
def readFrom (containers : List Container) (tokens : List (Spanned Token)) (p : Place) :
    Paragraph :=
  if (footnoteMark? containers p.rest).isSome then ⟨tokens, p, none⟩
  else
    let line := Token.line p
    let tokens := tokens ++ line.tokens
    let (n, c) := Container.continued containers (.start line.next)
    let inContainer := n = containers.length
    let (indent, begun) := c.spaces 4
    match if indent < 4 && inContainer then underline? begun.rest else none with
    | some (level, length) =>
      ⟨titleTokens tokens line.ending, begun.place.advance length, some level⟩
    | none =>
      let text := c.skipSpaces
      if (indent < 4 && interruptsParagraph begun.rest inContainer) || text.atLineEnd then
        ⟨tokens, line.next, none⟩
      else if _h : text.rest.length < p.rest.length then
        readFrom containers (tokens ++ line.ending.toList) text.place
      else ⟨tokens, line.next, none⟩
termination_by p.rest.length

def read (containers : List Container) (p : Place) : Paragraph := readFrom containers [] p

def leaf (p : Paragraph) : Leaf :=
  match p.level with
  | some level => .heading level p.tokens
  | none => .paragraph p.tokens

end Paragraph

/-- The offset at which the text of a heading ends, in front of the marks that close it. -/
def headingStop (begun : Nat) (text : List Char) : Nat :=
  let shown := dropEnd (fun c => c = '\n' || c = '\r' || c = ' ') text
  let opened := dropEnd (· = '#') shown
  let inner := dropEnd (· = ' ') opened
  begun + if opened.isEmpty then 0
    else if inner.length < opened.length then inner.length else shown.length

/-- A heading behind marks: its tokens, the last of which ends where the text does, and the place
of the next line. -/
def headingLine (marks : Place) : List (Spanned Token) × Place :=
  match lineEnd? marks.rest with
  | some n => ([], marks.advance n)
  | none =>
    let begun := marks.advance (span isSpace marks.rest)
    let line := Token.line begun
    let stop := headingStop begun.offset (begun.between begun.offset line.next.offset)
    let tokens := match line.tokens.reverse with
      | [] => []
      | last :: before => ({ last with stop := stop } :: before).reverse
    (tokens, line.next)

end LayeredSite.Markdown
