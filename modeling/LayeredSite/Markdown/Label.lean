import LayeredSite.Markdown.Place
import LayeredSite.Text.CaseFold

namespace LayeredSite.Markdown

/-- What labels of links are compared by. -/
def labelKey (label : List Char) : List Char := label.flatMap Text.foldCase

namespace Label

/-- How many characters to pass over at the beginning of a line, unless it must not be reached. -/
abbrev Margin := List Char → Option Nat

/-- The length of the blanks here, with at most one line break and the margin behind it. -/
def blanks (margin : Margin) (broken : Bool) (skip : Nat) : List Char → Option Nat
  | [] => some 0
  | c :: rest => match skip with
    | n + 1 => (blanks margin broken n rest).map (· + 1)
    | 0 =>
      if isSpace c then (blanks margin broken 0 rest).map (· + 1)
      else match if isSpaceOrNewline c then lineEnd? (c :: rest) else none with
        | none => some 0
        | some n =>
          if broken then none
          else do
            let length := (n - 1) + (← margin (rest.drop (n - 1)))
            return 1 + (← blanks margin true length rest)

def limit : Nat := 1000

/-- A character costs as many bytes as it has, and ASCII characters are free. -/
def cost (c : Char) : Nat := if c.utf8Size = 1 then 0 else c.utf8Size

/-- An escaped character costs two bytes, and the further ones that it has. -/
def escapedCost (c : Char) : Nat := 1 + c.utf8Size

/-- A label with its blanks as single spaces, and the length with the closing bracket, behind
characters to pass over. What is read so far has a price, and something in it may be visible. -/
def read (margin : Margin) : Nat → Nat → Bool → List Char → Option (List Char × Nat)
  | _, _, _, [] => none
  | n + 1, price, visible, _ :: rest =>
    (read margin n price visible rest).map fun (label, length) => (label, length + 1)
  | 0, price, visible, c :: rest =>
    if limit ≤ price then none
    else if c = '[' then none
    else if c = ']' then if visible then some ([], 1) else none
    else if c = '\\' then
      match rest with
      | [] => none
      | d :: rest =>
        (read margin 0 (price + escapedCost d) true rest).map fun (label, length) =>
          ('\\' :: d :: label, length + 2)
    else if isSpaceOrNewline c then do
      let n ← blanks margin false 0 (c :: rest)
      let (label, length) ← read margin (n - 1) (price + n) visible rest
      return (' ' :: label, length + 1)
    else
      (read margin 0 (price + cost c) true rest).map fun (label, length) =>
        (c :: label, length + 1)

def scan (margin : Margin) (cs : List Char) : Option (List Char × Nat) := read margin 0 0 false cs

def scanFootnote (margin : Margin) (cs : List Char) : Option (List Char × Nat) :=
  match cs with
  | '^' :: rest => (scan margin rest).map fun (label, length) => (label, length + 1)
  | _ => none

end Label
end LayeredSite.Markdown
