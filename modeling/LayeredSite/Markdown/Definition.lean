import LayeredSite.Markdown.Label
import LayeredSite.Markdown.Opening
import LayeredSite.Markdown.Target

namespace LayeredSite.Markdown

/-- The targets that labels are defined for; the first definition of a label counts. -/
abbrev Definitions := List (List Char × Target)

/-- Inside a label of a definition a line must not interrupt a paragraph. -/
def Definition.margin (containers : List Container) : Label.Margin := fun line =>
  let (n, c) := Container.continued containers (.start (.start line))
  if interruptsParagraph c.rest (n = containers.length) then none else some c.place.offset

def footnoteMark? (containers : List Container) (cs : List Char) : Option (List Char × Nat) :=
  match cs with
  | '[' :: rest => do
    let (label, n) ← Label.scanFootnote (Definition.margin containers) rest
    if rest[n]? = some ':' then return (label, n + 2) else none
  | _ => none

namespace Definition

/-- Blanks between the parts of a definition, and whether a line ends in them. -/
def gap? (containers : List Container) (cs : List Char) : Option (Nat × Bool) := do
  let before := span isSpace cs
  match lineEnd? (cs.drop before) with
  | none => return (before, false)
  | some n =>
    let line := cs.drop (before + n)
    let c ← Container.inside? containers (.start line)
    let begun := before + n + c.place.offset + span isSpace c.rest
    if (lineEnd? (cs.drop begun)).isSome then none else return (begun, true)

/-- The length of a title behind its opening mark, with the closing one. No line of it is blank. -/
def titleEnd (closing : Char) (skip : Nat) : List Char → Option Nat
  | [] => none
  | c :: rest => match skip with
    | n + 1 => (titleEnd closing n rest).map (· + 1)
    | 0 =>
      if c = '\n' then
        let blanks := span isSpace rest
        match rest.drop blanks with
        | [] => none
        | d :: _ => if d = '\n' then none else (titleEnd closing blanks rest).map (· + 1)
      else if c = '\\' then (titleEnd closing 1 rest).map (· + 1)
      else if c = closing then some 1
      else (titleEnd closing 0 rest).map (· + 1)

def title? (cs : List Char) : Option (List Char × Nat) :=
  let scan (closing : Char) (rest : List Char) : Option (List Char × Nat) :=
    (titleEnd closing 0 rest).map fun n => (unescape (rest.take (n - 1)), n + 1)
  match cs with
  | '"' :: rest => scan '"' rest
  | '\'' :: rest => scan '\'' rest
  | '(' :: rest => scan ')' rest
  | _ => none

/-- The definition of a link: the key of its label, its target and its length. Where other text
stands behind a title on a line of its own, the definition ends in front of this line. -/
def scan? (containers : List Container) (cs : List Char) :
    Option (List Char × Target × Nat) := do
  match cs with
  | '[' :: rest =>
    let (label, n) ← Label.scan (margin containers) rest
    if rest[n]? != some ':' then none
    else
      let colon := n + 2
      let (before, _) ← gap? containers (cs.drop colon)
      let start := colon + before
      let (destination, length) ← scanDestination definitionNesting (cs.drop start)
      if length = 0 then none
      else
        let stop := start + length
        let plain := (labelKey label, Target.mk destination [], stop)
        match gap? containers (cs.drop stop) with
        | none => return plain
        | some (gap, newline) =>
          if gap = 0 then none
          else match title? (cs.drop (stop + gap)) with
            | none => if newline then return plain else none
            | some (title, m) =>
              let behind := stop + gap + m
              match blankLine? (cs.drop behind) with
              | some m => return (labelKey label, ⟨destination, title⟩, behind + m)
              | none =>
                if newline then return (labelKey label, ⟨destination, title⟩, stop) else none
  | _ => none

end Definition
end LayeredSite.Markdown
