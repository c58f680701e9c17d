import LayeredSite.Fields
import LayeredSite.Path.Basic

namespace LayeredSite

namespace Disk

inductive Fault
  | notFound
  | notDirectory
  | isDirectory
  | alreadyExists
  | nameTooLong
  | nulInPath
deriving DecidableEq, Repr

def Fault.message : Fault → String
  | .notFound => "No such file or directory (os error 2)"
  | .notDirectory => "Not a directory (os error 20)"
  | .isDirectory => "Is a directory (os error 21)"
  | .alreadyExists => "File exists (os error 17)"
  | .nameTooLong => "File name too long (os error 36)"
  | .nulInPath => "file name contained an unexpected NUL byte"

inductive Node
  /-- A file with its time of modification, in seconds since 1970. -/
  | file (text : String) (modified : Int)
  | dir (entries : List (String × Node))
deriving Inhabited

namespace Node

def isDir : Node → Bool
  | dir _ => true
  | file _ _ => false

def get : Node → List String → Except Fault Node
  | n, [] => .ok n
  | dir entries, name :: rest => match Fields.get? entries name with
    | some child => child.get rest
    | none => .error .notFound
  | file _ _, _ :: _ => .error .notDirectory
termination_by structural _ names => names

/-- The tree with a node put at a path; parents that are not there are made. -/
def put : Node → List String → Node → Node
  | _, [], new => new
  | dir entries, name :: rest, new =>
    dir (Fields.insert name (put ((Fields.get? entries name).getD (dir [])) rest new) entries)
  | file _ _, name :: rest, new => dir [(name, put (dir []) rest new)]
termination_by structural _ names => names

def erase : Node → List String → Node
  | n, [] => n
  | dir entries, [name] => dir (entries.filter fun e => e.1 != name)
  | dir entries, name :: rest => match Fields.get? entries name with
    | some child => dir (Fields.insert name (child.erase rest) entries)
    | none => dir entries
  | file t m, _ :: _ => file t m
termination_by structural _ names => names

mutual

def files : Node → List String → List (List String × String)
  | file text _, names => [(names, text)]
  | dir entries, names => filesOf entries names

def filesOf : List (String × Node) → List String → List (List String × String)
  | [], _ => []
  | (name, n) :: rest, names => n.files (names ++ [name]) ++ filesOf rest names

end

end Node
end Disk

structure Disk where
  root : Disk.Node
  /-- The names of the current directory. -/
  current : List String

namespace Disk

/-- The names of a path step by step, a slash at the end being a step to the directory itself. -/
def steps (path : String) : List String :=
  let segs := (Path.segments path.toList).map String.ofList
  let named := segs.filter (!·.isEmpty)
  if segs.getLast? == some "" && !named.isEmpty then named ++ ["."] else named

/-- Takes steps through directories, which must be there, all but the last one. -/
def follow (root : Node) (names : List String) : List String → Except Fault (List String)
  | [] => .ok names
  | s :: rest =>
    match root.get names with
    | .error e => .error e
    | .ok (.file _ _) => .error .notDirectory
    | .ok (.dir _) =>
      if 255 < s.utf8ByteSize then .error .nameTooLong
      else follow root
        (if s = "." then names else if s = ".." then names.dropLast else names ++ [s]) rest

/-- The names from the root that a path leads to; the last of them need not be there. -/
def locate (d : Disk) (path : String) : Except Fault (List String) :=
  if path.isEmpty then .error .notFound
  else if path.toList.contains '\x00' then .error .nulInPath
  else follow d.root (if Path.isAbsolute path then [] else d.current) (steps path)

def node (d : Disk) (path : String) : Except Fault Node := do d.root.get (← d.locate path)

def exists_ (d : Disk) (path : String) : Bool := (d.node path).toOption.isSome

def isDir (d : Disk) (path : String) : Bool :=
  match d.node path with
  | .ok n => n.isDir
  | .error _ => false

def read (d : Disk) (path : String) : Except Fault String :=
  match d.node path with
  | .ok (.file text _) => .ok text
  | .ok (.dir _) => .error .isDirectory
  | .error e => .error e

def modified? (d : Disk) (path : String) : Option Int :=
  match d.node path with
  | .ok (.file _ m) => some m
  | _ => none

def absolute (names : List String) : String := "/" ++ "/".intercalate names

def currentPath (d : Disk) : String := absolute d.current

/-- The absolute path without `.` and `..` of something that is there. -/
def canonical? (d : Disk) (path : String) : Option String :=
  match d.locate path with
  | .ok names => if (d.root.get names).toOption.isSome then some (absolute names) else none
  | .error _ => none

def makeDir (d : Disk) (path : String) : Except Fault Disk := do
  let names ← d.locate path
  match d.root.get names with
  | .ok _ => .error .alreadyExists
  | .error .notFound => .ok { d with root := d.root.put names (.dir []) }
  | .error e => .error e

/-- Makes a directory and those above it that are missing, within `n` levels. -/
def makeDirsWithin : Nat → Disk → String → Except Fault Disk
  | 0, _, _ => .error .notFound
  | n + 1, d, path =>
    if path.isEmpty then .ok d
    else match d.makeDir path with
      | .ok d => .ok d
      | .error .notFound => do
        let above ← match Path.parent? path with
          | some p => makeDirsWithin n d p
          | none => .error .notFound
        match above.makeDir path with
        | .ok d => .ok d
        | .error e => if above.isDir path then .ok above else .error e
      | .error e => if d.isDir path then .ok d else .error e

def makeDirs (d : Disk) (path : String) : Except Fault Disk :=
  makeDirsWithin (path.length + 2) d path

/-- The disk after `makeDirsWithin`: where that fails, it is as making those above has left it. -/
def leftWithin : Nat → Disk → String → Disk
  | 0, d, _ => d
  | n + 1, d, path =>
    match makeDirsWithin (n + 1) d path, d.makeDir path, Path.parent? path with
    | .ok made, _, _ => made
    | .error _, .error .notFound, some parent => leftWithin n d parent
    | .error _, _, _ => d

def leftByDirs (d : Disk) (path : String) : Disk := leftWithin (path.length + 2) d path

def write (d : Disk) (path text : String) (time : Int) : Except Fault Disk := do
  let names ← d.locate path
  match d.root.get names with
  | .ok (.dir _) => .error .isDirectory
  | .error .notFound => .ok { d with root := d.root.put names (.file text time) }
  | .ok (.file _ _) => .ok { d with root := d.root.put names (.file text time) }
  | .error e => .error e

def removeDir (d : Disk) (path : String) : Except Fault Disk := do
  let names ← d.locate path
  match ← d.root.get names with
  | .dir _ => .ok { d with root := d.root.erase names }
  | .file _ _ => .error .notDirectory

def texts (d : Disk) : List String := (d.root.files []).map Prod.snd

def filesBelow (d : Disk) (path : String) : List (String × String) :=
  match d.node path with
  | .ok n => (n.files []).map fun (names, text) => ("/".intercalate names, text)
  | .error _ => []

mutual

/-- The paths of the files below a node, directories with a leading underscore left out if asked. -/
def walk (skip : Bool) : Node → String → List String
  | .file _ _, path => [path]
  | .dir entries, path => walkAll skip entries path

def walkAll (skip : Bool) : List (String × Node) → String → List String
  | [], _ => []
  | (name, n) :: rest, path =>
    (if skip && n.isDir && name.toList.head? == some '_' then []
      else walk skip n (Path.join path name)) ++ walkAll skip rest path

end

/-- The files under a directory with an extension, in the order of their paths; a directory that
is not there has none. -/
def listFiles (d : Disk) (dir extension : String) (skip : Bool) : List String :=
  match d.node dir with
  | .ok n => (walk skip n dir).filter fun p => Path.extension? p == some extension
  | .error _ => []

theorem Node.files_subset_filesOf {entries : List (String × Node)} {name : String} {child : Node}
    (below : List String) (h : Fields.get? entries name = some child) :
    ∃ b, ∀ e ∈ child.files b, e ∈ Node.filesOf entries below := by
  induction entries with
  | nil => simp [Fields.get?] at h
  | cons e rest ih =>
    obtain ⟨k, n⟩ := e
    simp only [Fields.get?, List.lookup_cons] at h ih
    split at h
    · cases h
      exact ⟨below ++ [k], fun e he => by simp [Node.filesOf, he]⟩
    · obtain ⟨b, hb⟩ := ih h
      exact ⟨b, fun e he => by simp [Node.filesOf, hb e he]⟩

theorem Node.mem_files_of_get {names : List String} {n : Node} {text : String} {time : Int}
    (h : n.get names = .ok (.file text time)) (below : List String) :
    text ∈ (n.files below).map Prod.snd := by
  induction names generalizing n below with
  | nil =>
    have hn : n = .file text time := by simpa [Node.get] using h
    simp [hn, Node.files]
  | cons name rest ih =>
    cases n with
    | file t m => simp [Node.get] at h
    | dir entries =>
      simp only [Node.get] at h
      split at h
      · rename_i child hc
        obtain ⟨b, hb⟩ := Node.files_subset_filesOf below hc
        obtain ⟨e, he, rfl⟩ := List.mem_map.mp (ih h b)
        exact List.mem_map.mpr ⟨e, by simpa [Node.files] using hb e he, rfl⟩
      · simp at h

theorem mem_texts_of_read {d : Disk} {path text : String} (h : d.read path = .ok text) :
    text ∈ d.texts := by
  unfold read at h
  split at h
  · rename_i t m hn
    cases h
    unfold node at hn
    cases hl : d.locate path with
    | error e => simp [hl, bind, Except.bind] at hn
    | ok names =>
      simp only [hl, bind, Except.bind] at hn
      exact Node.mem_files_of_get hn []
  · simp at h
  · simp at h

end Disk
end LayeredSite
