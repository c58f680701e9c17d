import LayeredSite.Markup.Event

namespace LayeredSite.Markup.Page

inductive Item
  | opening (name : String) (attributes : List (String × Option String))
  | closing (name : String)
  | comment
  | doctype (text : String)
  /-- A processing instruction or other declaration. -/
  | other (text : String)
  | text (s : List Char)

def isSpace (c : Char) : Bool := c == ' ' || c == '\n' || c == '\t' || c == '\r' || c == '\x0c'

def lower (cs : List Char) : String := String.ofList (cs.map Char.toLower)

def upTo (terminator : List Char) : List Char → List Char × List Char
  | [] => ([], [])
  | c :: rest =>
    if terminator.isPrefixOf (c :: rest) then ([], (c :: rest).drop terminator.length)
    else
      let (a, b) := upTo terminator rest
      (c :: a, b)

def isNameEnd (c : Char) : Bool := isSpace c || c == '>' || c == '/' || c == '='

def attributeValue (cs : List Char) : String × List Char :=
  match cs with
  | '"' :: rest =>
    let (v, r) := upTo ['"'] rest
    (Text.unescape (String.ofList v), r)
  | '\'' :: rest =>
    let (v, r) := upTo ['\''] rest
    (Text.unescape (String.ofList v), r)
  | _ =>
    let v := cs.takeWhile fun c => !isSpace c && c != '>'
    (Text.unescape (String.ofList v), cs.drop v.length)

def attributesWithin : Nat → List Char → List (String × Option String) × List Char
  | 0, cs => ([], cs)
  | n + 1, cs => match cs.dropWhile isSpace with
    | [] => ([], [])
    | '>' :: rest => ([], rest)
    | '/' :: rest => attributesWithin n rest
    | c :: rest =>
      let name := c :: rest.takeWhile fun d => !isNameEnd d
      let behind := ((c :: rest).drop name.length).dropWhile isSpace
      match behind with
      | '=' :: r =>
        let (v, r) := attributeValue (r.dropWhile isSpace)
        let (more, r) := attributesWithin n r
        ((lower name, some v) :: more, r)
      | r =>
        let (more, r) := attributesWithin n r
        ((lower name, none) :: more, r)

def isRawText (name : String) : Bool := ["script", "style", "textarea", "title"].contains name

def isLetter (c : Char) : Bool := ('a' ≤ c.toLower && c.toLower ≤ 'z')

def itemsWithin : Nat → List Char → List Item
  | 0, cs => [.text cs]
  | n + 1, cs => match cs with
    | [] => []
    | '<' :: '!' :: '-' :: '-' :: rest => .comment :: itemsWithin n (upTo ['-', '-', '>'] rest).2
    | '<' :: '!' :: rest =>
      let (body, r) := upTo ['>'] rest
      if lower (body.take 7) == "doctype" then
        .doctype (String.ofList ((body.drop 7).dropWhile isSpace)) :: itemsWithin n r
      else .other ("<!" ++ String.ofList body ++ ">") :: itemsWithin n r
    | '<' :: '?' :: rest =>
      let (body, r) := upTo ['?', '>'] rest
      .other ("<?" ++ String.ofList body ++ "?>") :: itemsWithin n r
    | '<' :: '/' :: rest =>
      let (body, r) := upTo ['>'] rest
      .closing (lower (body.takeWhile fun c => !isSpace c)) :: itemsWithin n r
    | c :: rest =>
      if c == '<' && (rest.head?.map isLetter).getD false then
        let name := rest.takeWhile fun d => !isNameEnd d
        let (attributes, r) := attributesWithin rest.length (rest.drop name.length)
        let open_ := Item.opening (lower name) attributes
        if isRawText (lower name) then
          let raw := (upTo ("</".toList ++ name) r).1
          open_ :: .text raw :: itemsWithin n (r.drop raw.length)
        else open_ :: itemsWithin n r
      else
        let t := c :: rest.takeWhile (· != '<')
        .text t :: itemsWithin n ((c :: rest).drop t.length)

def joinTexts : List Item → List Item
  | [] => []
  | .comment :: rest => joinTexts rest
  | .text s :: rest => match joinTexts rest with
    | .text t :: more => .text (s ++ t) :: more
    | more => .text s :: more
  | item :: rest => item :: joinTexts rest

def items (cs : List Char) : List Item := joinTexts (itemsWithin (cs.length + 1) cs)

structure Blanks where
  /-- Runs shrink to one space. -/
  collapse : Bool
  /-- Texts of blanks only vanish. -/
  destroy : Bool
  /-- The ends of the content lose their blanks. -/
  trim : Bool

def keptElements : List String := ["pre", "code", "textarea", "script", "style"]

def contentElements : List String :=
  ["address", "audio", "button", "canvas", "caption", "dd", "dt", "figcaption", "h1", "h2", "h3",
    "h4", "h5", "h6", "label", "legend", "li", "meter", "object", "option", "output", "p",
    "progress", "summary", "td", "th", "title", "video"]

def layoutElements : List String :=
  ["", "article", "aside", "blockquote", "body", "colgroup", "datalist", "details", "dialog", "div",
    "dl", "fieldset", "figure", "footer", "form", "head", "header", "hgroup", "html", "main", "map",
    "menu", "nav", "ol", "optgroup", "picture", "section", "select", "table", "tbody", "tfoot",
    "thead", "tr", "ul"]

def blanksIn (path : List String) : Blanks :=
  if path.any keptElements.contains then ⟨false, false, false⟩
  else
    let element := path.head?.getD ""
    if contentElements.contains element then ⟨true, false, true⟩
    else if layoutElements.contains element then ⟨true, true, true⟩
    else ⟨true, false, false⟩

def collapse : List Char → List Char
  | [] => []
  | c :: rest =>
    if isSpace c then match rest with
      | d :: _ => if isSpace d then collapse rest else ' ' :: collapse rest
      | [] => [' ']
    else c :: collapse rest

def compactText (b : Blanks) (isFirst isLast : Bool) (s : List Char) : List Char :=
  if b.destroy && s.all isSpace then []
  else
    let s := if b.trim && isFirst then s.dropWhile isSpace else s
    let s := if b.trim && isLast then (s.reverse.dropWhile isSpace).reverse else s
    if b.collapse then collapse s else s

/-- Text is escaped no more than it needs to be. -/
def textChars : List Char → List Char
  | [] => []
  | '<' :: rest => "&lt;".toList ++ textChars rest
  | '&' :: rest =>
    let escaped := (rest.head?.map fun c => isLetter c || c == '#').getD false
    (if escaped then "&amp;".toList else ['&']) ++ textChars rest
  | c :: rest => c :: textChars rest

def bareValue (v : String) : Bool :=
  !v.isEmpty && !v.toList.any fun c => isSpace c || c == '"' || c == '\'' || c == '=' || c == '<' ||
    c == '>' || c == '\x60'

def attributeText (key : String) (value : Option String) : String :=
  match value with
  | none => key
  | some v =>
    if v.isEmpty then key
    else if bareValue v then key ++ "=" ++ String.ofList (textChars v.toList)
    else if v.toList.contains '"' && !v.toList.contains '\'' then key ++ "='" ++ v ++ "'"
    else key ++ "=\"" ++ v.replace "\"" "&quot;" ++ "\""

def emptyMatters (key : String) : Bool := !(["class", "id", "style", "title"].contains key)

def tagText (name : String) (attributes : List (String × Option String)) : String :=
  let kept := attributes.filter fun (k, v) => v != some "" || emptyMatters k
  let isQuoted (a : String × Option String) : Bool :=
    match a.2 with
    | some v => !v.isEmpty && !bareValue v
    | none => false
  let ordered := kept.filter isQuoted ++ kept.filter fun a => !isQuoted a
  "<" ++ name ++ String.join (ordered.map fun (k, v) => " " ++ attributeText k v) ++ ">"

def endsParent : List Item → Bool
  | [] => true
  | .closing _ :: _ => true
  | _ => false

/-- Writes the items; `path` has the elements around them, and `isFirst` says that their parent has
had no text or element yet. -/
def writeFrom (path : List String) (isFirst : Bool) : List Item → List Char
  | [] => []
  | .opening name attributes :: rest =>
    (tagText name attributes).toList ++
      (if isVoid name then writeFrom path false rest else writeFrom (name :: path) true rest)
  | .closing name :: rest => ("</" ++ name ++ ">").toList ++ writeFrom path.tail false rest
  | .comment :: rest => writeFrom path isFirst rest
  | .doctype t :: rest => ("<!doctype " ++ t ++ ">").toList ++ writeFrom path isFirst rest
  | .other t :: rest => t.toList ++ writeFrom path isFirst rest
  | .text s :: rest =>
    let decoded := if path.any isRawText then s else Text.unescapeChars s
    let compacted := compactText (blanksIn path) isFirst (endsParent rest) decoded
    (if path.any isRawText then compacted else textChars compacted) ++ writeFrom path false rest

def compact (cs : List Char) : List Char := writeFrom [] true (items cs)

end LayeredSite.Markup.Page
