import LayeredSite.Markdown.Place

namespace LayeredSite.Markdown.RawHtml

def nameLength (cs : List Char) : Option Nat :=
  match cs with
  | c :: rest => if c.isAlpha then some (1 + span (fun c => isAlnum c || c = '-') rest) else none
  | [] => none

def attributeNameLength (cs : List Char) : Option Nat :=
  match cs with
  | c :: rest =>
    if c.isAlpha || c = '_' || c = ':' then
      some (1 + span (fun c => isAlnum c || ['_', '.', ':', '-'].contains c) rest)
    else none
  | [] => none

def isBareValue (c : Char) : Bool :=
  !([' ', '\n', '\r', '"', '\'', '=', '>', '<', '\x60'].contains c)

def attributeValueLength (cs : List Char) : Option Nat :=
  match cs with
  | '"' :: rest => (through ['"'] rest).map (· + 1)
  | '\'' :: rest => (through ['\''] rest).map (· + 1)
  | cs => if span isBareValue cs = 0 then none else some (span isBareValue cs)

/-- An attribute with what stands before its value, but without blanks behind it. -/
def attributeLength (cs : List Char) : Option Nat := do
  let name ← attributeNameLength cs
  let gap := span isSpaceOrNewline (cs.drop name)
  match cs.drop (name + gap) with
  | '=' :: rest =>
    let before := span isSpaceOrNewline rest
    let value ← attributeValueLength (rest.drop before)
    return name + gap + 1 + before + value
  | _ => return name

def tagEnd : Nat → List Char → Option Nat
  | 0, _ => none
  | n + 1, cs =>
    let gap := span isSpaceOrNewline cs
    match cs.drop gap with
    | '>' :: _ => some (gap + 1)
    | '/' :: '>' :: _ => some (gap + 2)
    | rest => do
      if gap = 0 then none
      else
        let length ← attributeLength rest
        return gap + length + (← tagEnd n (rest.drop length))

def tagLength (cs : List Char) : Option Nat :=
  match cs with
  | '/' :: rest => do
    let name ← nameLength rest
    let gap := span isSpace (rest.drop name)
    match rest.drop (name + gap) with
    | '>' :: _ => return 1 + name + gap + 1
    | _ => none
  | cs => do
    let name ← nameLength cs
    return name + (← tagEnd (cs.length + 1) (cs.drop name))

/-- A comment behind `<!`: its text has no two hyphens in a row. -/
def commentLength (cs : List Char) : Option Nat :=
  let dashes := span (· = '-') cs
  let text := cs.drop dashes
  if dashes < 2 || text.head? == some '>' then none
  else do
    let length ← through ['-', '-'] text
    if text[length]? = some '>' then return dashes + length + 1 else none

def declarationLength (cs : List Char) : Option Nat := do
  let name := span (fun c => 'A' ≤ c && c ≤ 'Z') cs
  let gap := span isSpaceOrNewline (cs.drop name)
  if name = 0 || gap = 0 then none
  else return name + gap + (← through ['>'] (cs.drop (name + gap)))

/-- A CDATA section behind `<![`, which the first closing brackets end. -/
def cdataLength (cs : List Char) : Option Nat :=
  if "CDATA[".toList.isPrefixOf cs then
    let text := 6 + span (· != ']') (cs.drop 6)
    let brackets := span (· = ']') (cs.drop text)
    if brackets != 0 && cs[text + brackets]? = some '>' then some (text + brackets + 1) else none
  else none

def markedLength (cs : List Char) : Option Nat :=
  match cs with
  | '!' :: '-' :: rest => (commentLength ('-' :: rest)).map (· + 1)
  | '!' :: '[' :: rest => (cdataLength rest).map (· + 2)
  | '!' :: rest => (declarationLength rest).map (· + 1)
  | '?' :: rest => (through "?>".toList rest).map (· + 1)
  | _ => none

/-- A text without the margins of its lines, each character with the length of what is read when
it is. -/
def withoutMargins (margin : List Char → Nat) (cs : List Char) : List (Char × Nat) :=
  let rec go (taken skip : Nat) : List Char → List (Char × Nat)
    | [] => []
    | c :: rest => match skip with
      | n + 1 => go (taken + 1) n rest
      | 0 =>
        let ends := c = '\n' || (c = '\r' && rest.head? != some '\n')
        (c, taken + 1) :: go (taken + 1) (if ends then margin rest else 0) rest
  go 0 0 cs

/-- A tag behind a `<` that may go on over lines: its text without margins, and its length. -/
def spreadTag? (margin : List Char → Nat) (cs : List Char) : Option (List Char × Nat) := do
  let read := withoutMargins margin cs
  let n ← tagLength (read.map Prod.fst)
  let taken := read.take n
  return (taken.map Prod.fst, (taken.getLast?.map Prod.snd).getD 0)

/-- How a block of HTML ends: in the line with a mark, or before a blank line. -/
inductive BlockEnd
  | mark (text : List Char)
  | blank
deriving DecidableEq, Repr

def verbatimTags : List String := ["pre", "style", "script", "textarea"]

def blockTags : List String :=
  ["address", "article", "aside", "base", "basefont", "blockquote", "body", "caption", "center",
    "col", "colgroup", "dd", "details", "dialog", "dir", "div", "dl", "dt", "fieldset",
    "figcaption", "figure", "footer", "form", "frame", "frameset", "h1", "h2", "h3", "h4", "h5",
    "h6", "head", "header", "hr", "html", "iframe", "legend", "li", "link", "main", "menu",
    "menuitem", "nav", "noframes", "ol", "optgroup", "option", "p", "param", "section", "source",
    "summary", "table", "tbody", "td", "tfoot", "th", "thead", "title", "tr", "track", "ul"]

def lowerCase (cs : List Char) : List Char := cs.map Char.toLower

def verbatimEnd? (cs : List Char) : Option (List Char) :=
  verbatimTags.findSome? fun tag =>
    let name := tag.toList
    let behind := cs.drop name.length
    if lowerCase (cs.take name.length) = name &&
        (behind.isEmpty || behind.head?.any fun c => isSpaceOrNewline c || c = '>') then
      some ('<' :: '/' :: name ++ ['>'])
    else none

def endMark? (cs : List Char) : Option (List Char) :=
  (verbatimEnd? cs).or <|
    if "!--".toList.isPrefixOf cs then some "-->".toList
    else match cs with
      | '?' :: _ => some "?>".toList
      | '!' :: c :: rest =>
        if "[CDATA[".toList.isPrefixOf (c :: rest) then some "]]>".toList
        else if 'A' ≤ c && c ≤ 'Z' then some ['>']
        else none
      | _ => none

def startsBlockTag (cs : List Char) : Bool :=
  let tail := match cs with
    | '/' :: rest => rest
    | _ => cs
  let length := span isAlnum tail
  let behind := tail.drop length
  blockTags.contains (String.ofList (lowerCase (tail.take length))) &&
    (behind.isEmpty || ['/', '>'].isPrefixOf behind ||
      behind.head?.any fun c => [' ', '\t', '\n', '\r', '>'].contains c)

def interrupts (cs : List Char) : Bool := (endMark? cs).isSome || startsBlockTag cs

/-- The end of the block that a `<` in front of this text begins. A line that holds nothing but one
tag begins a block too. -/
def blockEnd? (cs : List Char) : Option BlockEnd :=
  match endMark? cs with
  | some mark => some (.mark mark)
  | none =>
    if startsBlockTag cs then some .blank
    else
      let line := cs.takeWhile fun c => c != '\n' && c != '\r'
      match tagLength line with
      | some n => if (line.drop n).all isSpace then some .blank else none
      | none => none

end LayeredSite.Markdown.RawHtml
