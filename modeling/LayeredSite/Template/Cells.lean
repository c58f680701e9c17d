import LayeredSite.Template.Error

namespace LayeredSite

abbrev Outcome := Except TemplateError Value

inductive Recipe
  | outcome (o : Outcome)
  /-- The outcome of another cell. -/
  | force (cell : CellId)
  /-- The text of another cell. -/
  | text (cell : CellId)
  /-- Another cell itself, not read. -/
  | same (cell : CellId)
  /-- Goes on with what another recipe gives, so that a recipe can read cell after cell, each
  chosen by what it has read before. -/
  | andThen (first : Recipe) (next : Outcome → Recipe)

def Recipe.follow {m : Type → Type} [Monad m] (force : CellId → m Outcome)
    (text : CellId → m String) : Recipe → m Outcome
  | outcome o => pure o
  | .force c => force c
  | .text c => do return .ok (.str (← text c))
  | same c => pure (.ok (.deferred c))
  | andThen first next => do (next (← first.follow force text)).follow force text

/-- A recipe that comes back to its own cell finds it running, and so fails and does not go on
forever. -/
inductive CellState
  | pending (recipe : Recipe)
  | running
  | done (outcome : Outcome)

structure Cell where
  state : CellState
  /-- How often the recipe was started. -/
  runs : Nat

abbrev Cells := List Cell

namespace Cells

def add (cells : Cells) (state : CellState) : CellId × Cells :=
  (cells.length, cells ++ [⟨state, 0⟩])

def state? (cells : Cells) (c : CellId) : Option CellState := cells[c]?.map Cell.state

def start (cells : Cells) (c : CellId) : Cells :=
  cells.modify c fun cell => ⟨.running, cell.runs + 1⟩

def finish (cells : Cells) (c : CellId) (o : Outcome) : Cells :=
  cells.modify c fun cell => ⟨.done o, cell.runs⟩

/-- More nested reads than a walk over these cells can make if it ends: between two starts of
recipes, of which there is one per cell, it meets no cell twice. -/
def depth (cells : Cells) : Nat := (cells.length + 2) * (cells.length + 2)

end Cells

/-- A computation that reads cells, and so may fill them; `none` if it never ends. -/
abbrev Reading (α : Type) := StateT Cells Option α

def Reading.endless {α : Type} : Reading α := fun _ => none

mutual

def forceWithin : Nat → CellId → Reading Outcome
  | 0, _ => .endless
  | n + 1, c => do
    match (← get).state? c with
    | some (.done o) => pure o
    | some (.pending recipe) =>
      modify (·.start c)
      let o ← recipe.follow (forceWithin n) (cellTextWithin n)
      modify (·.finish c o)
      pure o
    | _ => pure (.error .readWhileComputing)

/-- The text of a cell, in at most `n` nested reads; an error has no text. -/
def cellTextWithin : Nat → CellId → Reading String
  | 0, _ => .endless
  | n + 1, c => do
    match ← forceWithin n c with
    | .ok v => v.textWith (cellTextWithin n)
    | .error _ => pure ""

end

def force (c : CellId) : Reading Outcome := do forceWithin (← get).depth c

abbrev Rendering (α : Type) := ExceptT TemplateError Reading α

/-- Runs a computation; one that never ends counts as failed and leaves the cells as they are. -/
def Rendering.settle {α : Type} (x : Rendering α) (cells : Cells) :
    Except TemplateError α × Cells :=
  match x cells with
  | some r => r
  | none => (.error .endless, cells)

namespace Value

/-- The plain text of a value; a deferred one is read, and is empty if it fails. -/
def text (v : Value) : Reading String := do
  let depth := (← get).depth
  v.textWith (cellTextWithin depth)

/-- Reads a deferred value once; every other value is itself. -/
def resolve : Value → Reading Outcome
  | deferred c => force c
  | v => pure (.ok v)

def fieldWithin (key : Value) : Nat → Value → Reading Outcome
  | 0, _ => .endless
  | n + 1, deferred c => do
    match ← force c with
    | .ok v => fieldWithin key n v
    | .error e => pure (.error e)
  | _ + 1, v => (v.entry key).resolve

/-- The entry under a key, through deferred values on the way, and read if it is deferred. -/
def field (v key : Value) : Reading Outcome := do
  let depth := (← get).depth
  fieldWithin key depth v

end Value
end LayeredSite
