import LayeredSite.Fields

namespace LayeredSite.Path

inductive Component
  | root
  | current
  | parent
  | name (s : String)
deriving DecidableEq, Repr

def Component.text : Component → String
  | root => "/"
  | current => "."
  | parent => ".."
  | name s => s

def segments : List Char → List (List Char)
  | [] => [[]]
  | c :: rest =>
    if c = '/' then [] :: segments rest
    else match segments rest with
      | [] => [[c]]
      | s :: more => (c :: s) :: more

def component? (s : List Char) : Option Component :=
  if s = [] ∨ s = ['.'] then none
  else if s = ['.', '.'] then some .parent
  else some (.name (String.ofList s))

def isAbsolute (path : String) : Bool := path.toList.head? == some '/'

def componentsOf (cs : List Char) : List Component :=
  let segs := segments cs
  match cs, segs with
  | '/' :: _, _ => .root :: segs.filterMap component?
  | _, ['.'] :: rest => .current :: rest.filterMap component?
  | _, _ => segs.filterMap component?

def components (path : String) : List Component := componentsOf path.toList

/-- Puts a path behind a directory; an absolute path stands for itself. -/
def join (dir path : String) : String :=
  if isAbsolute path then path
  else if dir.isEmpty || dir.toList.getLast? == some '/' then dir ++ path
  else dir ++ "/" ++ path

def ofTexts (texts : List String) : String := texts.foldl join ""

/-- The last component, if it is a name. -/
def fileName? (path : String) : Option String :=
  match (components path).getLast? with
  | some (.name s) => some s
  | _ => none

/-- The texts before and after the last dot; a dot in front does not count. -/
def splitName (name : String) : String × Option String :=
  let behind := (name.toList.reverse.takeWhile (· != '.')).reverse
  let before := (name.toList.reverse.dropWhile (· != '.')).reverse.dropLast
  if before.isEmpty then (name, none) else (String.ofList before, some (String.ofList behind))

def stem? (path : String) : Option String := (fileName? path).map fun n => (splitName n).1

def stem (path : String) : String := (stem? path).getD ""

def extension? (path : String) : Option String := (fileName? path).bind fun n => (splitName n).2

def dropSlashes (reversed : List Char) : List Char :=
  match reversed with
  | '/' :: rest => dropSlashes rest
  | '.' :: '/' :: rest => dropSlashes ('/' :: rest)
  | cs => cs
termination_by reversed.length

/-- The text of a path without slashes and `.` behind its last name. -/
def trimEnd (cs : List Char) : List Char := (dropSlashes cs.reverse).reverse

def withExtension (path extension : String) : String :=
  match fileName? path with
  | none => path
  | some name =>
    let text := trimEnd path.toList
    let kept := String.ofList (text.take (text.length - name.length)) ++ (splitName name).1
    if extension.isEmpty then kept else kept ++ "." ++ extension

def parent? (path : String) : Option String :=
  match (components path).getLast? with
  | none => none
  | some .root => none
  | some last =>
    let whole := trimEnd path.toList
    let kept := whole.take (whole.length - last.text.length)
    let text := trimEnd kept
    some (if text.isEmpty && !kept.isEmpty then "/" else String.ofList text)

def startsWith (path base : String) : Bool := (components base).isPrefixOf (components path)

def same (a b : String) : Bool := components a == components b

def skipBlank : List Char → List Char
  | '/' :: rest => skipBlank rest
  | ['.'] => []
  | '.' :: '/' :: rest => skipBlank rest
  | cs => cs

def skipComponents : Nat → List Char → List Char
  | 0, cs => skipBlank cs
  | n + 1, cs => skipComponents n ((skipBlank cs).dropWhile (· != '/'))

def relativeTo? (path base : String) : Option String :=
  if !startsWith path base then none
  else
    let depth := ((components base).filter fun c => c != .root && c != .current).length
    let text := if (components base).isEmpty then path.toList
      else skipComponents depth path.toList
    some (String.ofList (trimEnd text))

end LayeredSite.Path
