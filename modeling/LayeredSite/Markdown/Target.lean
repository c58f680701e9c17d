import LayeredSite.Markdown.Entity
import LayeredSite.Markdown.Place
import LayeredSite.Markdown.Punctuation

namespace LayeredSite.Markdown

structure Target where
  destination : List Char
  title : List Char
deriving DecidableEq, Repr

def unescape (cs : List Char) : List Char :=
  let rec go (skip : Nat) : List Char → List Char
    | [] => []
    | c :: rest =>
      match skip with
      | n + 1 => go n rest
      | 0 =>
        if c = '\\' then
          match rest with
          | d :: _ => if isAsciiPunctuation d then d :: go 1 rest else c :: go 0 rest
          | [] => [c]
        else if c = '&' then
          match Entity.scan rest with
          | some (value, n) => value ++ go n rest
          | none => c :: go 0 rest
        else if c = '\r' then go 0 rest
        else c :: go 0 rest
  go 0 cs

def pointedEnd : List Char → Option Nat
  | [] => none
  | '>' :: _ => some 0
  | '<' :: _ => none
  | '\n' :: _ => none
  | '\r' :: _ => none
  | '\\' :: d :: rest =>
    if isAsciiPunctuation d then (pointedEnd rest).map (· + 2)
    else (pointedEnd (d :: rest)).map (· + 1)
  | _ :: rest => (pointedEnd rest).map (· + 1)

/-- The length of a bare destination, in which at most `limit` more parentheses may be nested. -/
def bareEnd (limit : Nat) : Nat → List Char → Option Nat
  | _, [] => some 0
  | nest, '\\' :: d :: rest =>
    if isAsciiPunctuation d then (bareEnd limit nest rest).map (· + 2)
    else (bareEnd limit nest (d :: rest)).map (· + 1)
  | nest, c :: rest =>
    if c ≤ ' ' then some 0
    else if c = '(' then
      if limit < nest then none else (bareEnd limit (nest + 1) rest).map (· + 1)
    else if c = ')' then
      if nest = 0 then some 0 else (bareEnd limit (nest - 1) rest).map (· + 1)
    else (bareEnd limit nest rest).map (· + 1)

def scanDestination (limit : Nat) (cs : List Char) : Option (List Char × Nat) :=
  match cs with
  | '<' :: rest => (pointedEnd rest).map fun n => (unescape (rest.take n), n + 2)
  | cs => (bareEnd limit 0 cs).map fun n => (unescape (cs.take n), n)

def linkNesting : Nat := 5

def definitionNesting : Nat := 1

end LayeredSite.Markdown
