import LayeredSite.Markdown.Element

namespace LayeredSite.Markdown

inductive Strand
  | element (e : Element)
  /-- A run, with characters that belong to the text of its last delimiter. -/
  | run (r : Run) (tail : List Char)

/-- An opening run, and what stands in front of it, latest first. -/
structure Opener where
  run : Run
  tail : List Char
  before : List Element

inductive RunClass
  | underscore (both : Bool)
  | star (residue : Nat)
  /-- Stars that only close. -/
  | closingStar
  | tilde
deriving DecidableEq, Repr

/-- For a class of runs, the number of outermost openers that none of them matches. -/
abbrev Bounds := List (RunClass × Nat)

namespace Bounds

def get (b : Bounds) (c : RunClass) : Nat := (b.lookup c).getD 0

def put (b : Bounds) (c : RunClass) (n : Nat) : Bounds := (c, n) :: b

def within (b : Bounds) (n : Nat) : Bounds := b.map fun (c, k) => (c, min k n)

def of (b : Bounds) (r : Run) : Nat :=
  if r.mark = '_' then b.get (.underscore r.both)
  else if r.mark = '*' then
    let bound := b.get (.star (r.count % 3))
    if r.both then bound else min bound (b.get .closingStar)
  else b.get .tilde

/-- Sets the bound for runs like one that matched nothing. -/
def set (b : Bounds) (r : Run) (n : Nat) : Bounds :=
  if r.mark = '_' then b.put (.underscore r.both) n
  else if r.mark = '*' then
    let b := b.put (.star (r.count % 3)) n
    if r.both then b else b.put .closingStar n
  else b.put .tilde n

end Bounds

namespace Opener

/-- Whether a closing run ends what an opening one began. If one of them may do both, the sum of
the lengths is no multiple of three unless the closing one's length is. -/
def matched (opener closer : Run) : Bool :=
  opener.mark = closer.mark &&
    ((!closer.both && !opener.both) || (closer.count + opener.count) % 3 != 0 ||
      closer.count % 3 = 0)

def literal (o : Opener) : Element := .text (List.replicate o.run.count o.run.mark ++ o.tail)

def flatten (o : Opener) (content : List Element) : List Element :=
  content ++ o.literal :: o.before

/-- The nearest of the innermost `n` openers for a closing run, with the content behind it and the
openers before it. -/
def find? (closer : Run) :
    Nat → List Opener → List Element → Option (Opener × List Element × List Opener)
  | n + 1, o :: rest, content =>
    if matched o.run closer then some (o, content, rest)
    else find? closer n rest (o.flatten content)
  | _, _, _ => none

/-- Content inside `n` delimiters, the innermost pair being strong. -/
def wrap (mark : Char) : Nat → List Element → List Element
  | 0, content => content
  | 1, content => [.emphasized (if mark = '~' then .strikethrough else .emphasis) content]
  | n + 2, content =>
    wrap mark n [.emphasized (if mark = '~' then .strikethrough else .strong) content]

end Opener

/-- Emphasis so far: the open runs and the content behind the latest, both latest first. -/
structure Emphasizing where
  openers : List Opener := []
  content : List Element := []
  bounds : Bounds := []

namespace Emphasizing

def close : Nat → Emphasizing → Run → Emphasizing × Run
  | 0, s, r => (s, r)
  | n + 1, s, r =>
    if r.count = 0 then (s, r)
    else
      let depth := s.openers.length
      match Opener.find? r (depth - s.bounds.of r) s.openers s.content with
      | none => ({ s with bounds := s.bounds.set r depth }, r)
      | some (o, inner, rest) =>
        let used := min r.count o.run.count
        let wrapped := (Opener.wrap r.mark used inner.reverse).reverse
        let left := { r with count := r.count - used }
        let bounds := s.bounds.within rest.length
        if used < o.run.count then
          let run : Run := ⟨o.run.mark, o.run.count - used, r.canOpen, r.canClose⟩
          close n ⟨⟨run, [], o.before⟩ :: rest, wrapped, bounds⟩ left
        else close n ⟨rest, wrapped ++ o.before, bounds⟩ left

def addRun (s : Emphasizing) (r : Run) (tail : List Char) : Emphasizing :=
  let (s, r) := if r.canClose then close r.count s r else (s, r)
  if r.count = 0 then s
  else
    let opener : Opener := ⟨r, tail, s.content⟩
    if r.canOpen then { s with openers := opener :: s.openers, content := [] }
    else { s with content := opener.literal :: s.content }

def add (s : Emphasizing) : Strand → Emphasizing
  | .element e => { s with content := e :: s.content }
  | .run r tail => s.addRun r tail

/-- What is left open is literal. -/
def finish (s : Emphasizing) : List Element :=
  (s.openers.foldl (fun content o => o.flatten content) s.content).reverse

end Emphasizing

def emphasize (strands : List Strand) : List Element :=
  (strands.foldl Emphasizing.add {}).finish

end LayeredSite.Markdown
