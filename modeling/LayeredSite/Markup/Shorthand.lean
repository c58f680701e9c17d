import LayeredSite.Template.Cells
import LayeredSite.Text.Cut

namespace LayeredSite.Markup

def isMarker (c : Char) : Bool := c == '#' || c == '.'

structure Part where
  marker : Char
  text : String
deriving DecidableEq, Repr

structure Shorthand where
  name : String
  parts : List Part
deriving DecidableEq, Repr

namespace Shorthand

def split : List Char → List Char × List Part
  | [] => ([], [])
  | c :: rest =>
    let (text, parts) := split rest
    if isMarker c then ([], ⟨c, String.ofList text⟩ :: parts) else (c :: text, parts)

def ofTag (tag : String) : Shorthand :=
  let (name, parts) := split tag.toList
  ⟨String.ofList name, parts⟩

def toTag (s : Shorthand) : String :=
  s.name ++ String.join (s.parts.map fun p => String.singleton p.marker ++ p.text)

def texts (marker : Char) (s : Shorthand) : List String :=
  (s.parts.filter fun p => p.marker == marker && !p.text.isEmpty).map Part.text

/-- The last id counts. -/
def id? (s : Shorthand) : Option String := (s.texts '#').getLast?

def classes (s : Shorthand) : List String := s.texts '.'

/-- An explicit id wins over that of the tag. -/
def withId (s : Shorthand) (attrs : Fields Value) : Fields Value :=
  match s.id?, Fields.get? attrs "id" with
  | some id, none => Fields.insert "id" (.str id) attrs
  | _, _ => attrs

def joinClasses (classes : List String) (explicit : String) : String :=
  " ".intercalate (classes ++ if explicit.isEmpty then [] else [explicit])

/-- The attributes of an element; an explicit class follows those of the tag. -/
def attributes (s : Shorthand) (attrs : Fields Value) : Reading (Fields Value) := do
  let attrs := s.withId attrs
  if s.classes.isEmpty then return attrs
  let explicit ← match Fields.get? attrs "class" with
    | some v => v.text
    | none => pure ""
  return Fields.insert "class" (.str (joinClasses s.classes explicit)) attrs

/-- Where the first marker stands in bytes, or else the end. -/
def markerOffset (cs : List Char) : Nat := Text.byteCount (cs.takeWhile fun c => !isMarker c)

def firstByte? (cs : List Char) : Option UInt8 := (cs.flatMap String.utf8EncodeChar).head?

/-- The byte of a marker, the text behind it and what follows that text; none if an offset is no
place to cut. -/
def part? (cs : List Char) : Option (UInt8 × List Char × List Char) := do
  let marker ← firstByte? cs
  let (_, body) ← Text.splitAtByte? 1 cs
  let (text, rest) ← Text.splitAtByte? (markerOffset body) body
  return (marker, text, rest)

theorem length_of_part? {cs text rest : List Char} {marker : UInt8}
    (h : part? cs = some (marker, text, rest)) : rest.length < cs.length := by
  obtain ⟨_, -, h⟩ := Option.bind_eq_some_iff.mp h
  obtain ⟨⟨front, body⟩, hbody, h⟩ := Option.bind_eq_some_iff.mp h
  obtain ⟨⟨text, rest⟩, hrest, h⟩ := Option.bind_eq_some_iff.mp h
  cases h
  obtain ⟨rfl, hcount⟩ := Text.splitAtByte?_eq_some_iff.mp hbody
  obtain ⟨rfl, -⟩ := Text.splitAtByte?_eq_some_iff.mp hrest
  have hfront : front ≠ [] := by rintro rfl; cases hcount
  have hpos := List.length_pos_iff.mpr hfront
  simp only [List.length_append]
  omega

def gather? (id : Option String) (classes : List String) (cs : List Char) :
    Option (Option String × List String) :=
  if cs.isEmpty then some (id, classes)
  else
    match _ : part? cs with
    | none => none
    | some (marker, text, rest) =>
      if text.isEmpty then gather? id classes rest
      else if marker = '#'.toUInt8 then gather? (some (String.ofList text)) classes rest
      else gather? id (classes ++ [String.ofList text]) rest
termination_by cs.length
decreasing_by all_goals exact length_of_part? ‹_›

def scan? (tag : String) : Option (String × Option String × List String) := do
  let (name, rest) ← Text.splitAtByte? (markerOffset tag.toList) tag.toList
  let (id, classes) ← gather? none [] rest
  return (String.ofList name, id, classes)

end Shorthand
end LayeredSite.Markup
