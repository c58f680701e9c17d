import LayeredSite.Markdown.Block

namespace LayeredSite.Markdown

inductive Emphasis
  | emphasis
  | strong
  | strikethrough
deriving DecidableEq, Repr

inductive Element
  | text (cs : List Char)
  | code (cs : List Char)
  | html (cs : List Char)
  | softBreak
  | hardBreak
  | emphasized (kind : Emphasis) (content : List Element)
  | link (href : List Char) (title : List Char) (content : List Element)
  | image (source : List Char) (title : List Char) (content : List Element)
  /-- A mention of a footnote. -/
  | reference (label : List Char)
  | paragraph (content : List Element)
  | heading (level : Nat) (content : List Element)
  | rule
  | codeBlock (info : List Char) (text : List Char)
  /-- The lines of cells, the head first. -/
  | table (alignments : List Alignment) (head : List (List Element))
      (rows : List (List (List Element)))
  | quote (content : List Element)
  /-- A list that is ordered from a number on, or not ordered. -/
  | list (start : Option Nat) (items : List Element)
  | item (content : List Element)
  | footnote (label : List Char) (content : List Element)
deriving Inhabited

def Container.element : Container → List Element → Element
  | quote, content => .quote content
  | list mark number _, items =>
    .list (if Marker.isNumberMark mark then some number else none) items
  | item _, content => .item content
  | footnote label, content => .footnote label content

end LayeredSite.Markdown
