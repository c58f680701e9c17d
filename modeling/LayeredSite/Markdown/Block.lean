import LayeredSite.Markdown.Container
import LayeredSite.Markdown.Token

namespace LayeredSite.Markdown

inductive Alignment
  | none
  | left
  | center
  | right
deriving DecidableEq, Repr

structure Cell where
  tokens : List (Spanned Token)
  stop : Nat

inductive Leaf
  | paragraph (tokens : List (Spanned Token))
  | heading (level : Nat) (tokens : List (Spanned Token))
  | rule
  /-- Code with the words behind its fence. -/
  | code (info : List Char) (text : List Char)
  /-- A piece of a line of HTML. -/
  | html (token : Token)
  | table (alignments : List Alignment) (head : List Cell) (rows : List (List Cell))

inductive Block
  | leaf (place : Place) (stop : Nat) (leaf : Leaf)
  | within (place : Place) (stop : Nat) (container : Container) (blocks : List Block)

end LayeredSite.Markdown
