import LayeredSite.Template.Cells

namespace LayeredSite

/-- Bindings, the innermost first. -/
abbrev Scope := List (String × Value)

def Scope.lookup? (scope : Scope) (name : String) : Option Value := scope.lookup name

def Scope.ofSite (site : Value) (content : List Value) : Scope :=
  [("content", .list content), ("site", site)]

abbrev Eval (α : Type) := ExceptT EvalError (StateT Scope Reading) α

namespace Eval

variable {α : Type}

def fail (p : Position) (fault : EvalFault) : Eval α := throw ⟨p, fault⟩

def reading (x : Reading α) : Eval α := liftM (m := StateT Scope Reading) (liftM x)

def lookup? (name : String) : Eval (Option Value) := do return (← get).lookup? name

def bind (name : String) (v : Value) : Eval Unit := modify ((name, v) :: ·)

/-- Leaves other bindings behind a computation, whether it succeeds or fails. They may depend on
those in front of it and on those that it left. -/
def leaving (scopeOf : Scope → Scope → Scope) (x : Eval α) : Eval α := fun scope cells =>
  (x scope cells).map fun ((r, scope'), cells') => ((r, scopeOf scope scope'), cells')

/-- Drops the bindings by which a computation has made the scope deeper. -/
def restoring (x : Eval α) : Eval α :=
  leaving (fun before after => after.drop (after.length - before.length)) x

def popping (x : Eval α) : Eval α := leaving (fun _ after => after.tail) x

/-- Reads a value, the error of a deferred one being reported at a position. -/
def reported (p : Position) (x : Reading Outcome) : Eval Value := do
  match ← reading x with
  | .ok v => pure v
  | .error e => fail p (.failed e)

def resolve (v : Value) (p : Position) : Eval Value := reported p v.resolve

def resolveAll (vs : List Value) (p : Position) : Eval (List Value) :=
  vs.mapM fun v => resolve v p

end Eval
end LayeredSite
