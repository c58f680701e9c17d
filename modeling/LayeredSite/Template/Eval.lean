import LayeredSite.Template.Builtins
import LayeredSite.Template.Reader

namespace LayeredSite

inductive Special
  | ifForm | whenForm | doForm | letForm | forForm | applyForm
deriving DecidableEq, Repr

def Special.ofName? : String → Option Special
  | "if" => some .ifForm
  | "when" => some .whenForm
  | "do" => some .doForm
  | "let" => some .letForm
  | "for" => some .forForm
  | "apply" => some .applyForm
  | _ => none

/-- A vector that starts with a keyword is a node, its second item being the attributes if it
is a map. Any other vector is a list. -/
def Value.ofVector : List Value → Value
  | .keyword tag :: .map attrs :: children => .node tag attrs children
  | .keyword tag :: children => .node tag [] children
  | items => .list items

/-- What a loop keeps for one item: the value of a single body form, or the list of several. -/
def Value.ofLoopBody : List Value → Value
  | [v] => v
  | vs => .list vs

namespace Eval

def mapKey (p : Position) : Value → Eval String
  | .keyword k => pure k
  | .str k => pure k
  | v => fail p (.mapKey v.kind)

def applyForm (p : Position) (values : List Value) : Form → Eval Value
  | .symbol q name =>
    if (Special.ofName? name).isSome then fail q (.applySpecial name)
    else Call.callNamed name values p
  | .literal _ (.keyword k) =>
    match values with
    | [target] => reported p (target.field (.keyword k))
    | _ => fail p .applyKeywordArity
  | f => fail f.position .applyNotName

def spreadItems (p : Position) : Value → Eval (List Value)
  | .list items => pure items
  | .nil => pure []
  | v => fail p (.applyNotList v.kind)

def loopItems (p : Position) : Value → Eval (List Value)
  | .list items => pure items
  | .nil => pure []
  | v => fail p (.cannotIterate v.kind)

end Eval

open Eval

mutual

def eval : Form → Eval Value
  | .literal _ l => pure l.toValue
  | .symbol p name => do
    match ← lookup? name with
    | some v => pure v
    | none => fail p (.unbound name)
  | .vector _ items => return .ofVector (← evalEach items)
  | .map _ pairs => return .map (← evalPairs pairs [])
  | .call p items => evalCall p items

def evalEach : List Form → Eval (List Value)
  | [] => pure []
  | f :: rest => do
    let v ← eval f
    return v :: (← evalEach rest)

/-- The entries of a map literal; the last of equal keys wins. -/
def evalPairs : List (Form × Form) → Fields Value → Eval (Fields Value)
  | [], fields => pure fields
  | (k, v) :: rest, fields => do
    let key ← mapKey k.position (← eval k)
    let value ← eval v
    evalPairs rest (fields.insert key value)

def evalBody : List Form → Eval Value
  | [] => pure .nil
  | [f] => eval f
  | f :: rest => do
    let _ ← eval f
    evalBody rest

def evalCall (p : Position) : List Form → Eval Value
  | [] => pure .nil
  | .literal _ (.keyword k) :: args => evalKeyword p k args
  | .symbol _ name :: args =>
    match Special.ofName? name with
    | none => do Call.callNamed name (← evalEach args) p
    | some .ifForm => evalIf p args
    | some .whenForm => evalWhen p args
    | some .doForm => evalBody args
    | some .letForm => evalLet p args
    | some .forForm => evalFor p args
    | some .applyForm => evalApply p args
  | f :: _ => fail f.position .notCallable

/-- A keyword in head position looks itself up; the default is for nil. -/
def evalKeyword (p : Position) (k : String) : List Form → Eval Value
  | [target] => do
    let v ← eval target
    reported p (v.field (.keyword k))
  | [target, default] => do
    let v ← eval target
    match ← reported p (v.field (.keyword k)) with
    | .nil => eval default
    | found => pure found
  | _ => fail p .keywordArity

def evalIf (p : Position) : List Form → Eval Value
  | [c, t] => do
    if (← eval c).truthy then eval t else pure .nil
  | [c, t, e] => do
    if (← eval c).truthy then eval t else eval e
  | _ => fail p .ifArity

def evalWhen (p : Position) : List Form → Eval Value
  | [] => fail p .whenArity
  | c :: body => do
    if (← eval c).truthy then evalBody body else pure .nil

/-- Binds names one after another, each expression seeing the names before it. -/
def evalBindings : List Form → Eval Unit
  | .symbol _ name :: f :: rest => do
    let v ← eval f
    bind name v
    evalBindings rest
  | f :: _ :: _ => fail f.position .letNotSymbol
  | _ => pure ()

def evalLet (p : Position) : List Form → Eval Value
  | [] => fail p .letWithoutBindings
  | .vector q pairs :: body =>
    if pairs.length % 2 = 1 then fail q .letOdd
    else restoring do
      evalBindings pairs
      evalBody body
  | f :: _ => fail f.position .letNotVector

/-- One result per item; several body forms give a list for each. -/
def evalFor (p : Position) : List Form → Eval Value
  | [] => fail p .forWithoutBinding
  | .vector _ [.symbol _ name, coll] :: body => do
    let v ← eval coll
    let items ← loopItems coll.position (← resolve v coll.position)
    return .list (← items.mapM fun item => do
      bind name item
      popping do return .ofLoopBody (← evalEach body))
  | .vector q _ :: _ => fail q .forShape
  | f :: _ => fail f.position .forNotVector

def evalApply (p : Position) : List Form → Eval Value
  | [] => fail p .applyWithoutFunction
  | f :: args =>
    if args.isEmpty then fail p .applyWithoutCollection
    else do
      let values ← evalArguments args
      applyForm p values f

def evalArguments : List Form → Eval (List Value)
  | [] => pure []
  | [last] => do
    let v ← eval last
    spreadItems last.position (← resolve v last.position)
  | f :: rest => do
    let v ← eval f
    return v :: (← evalArguments rest)

end

end LayeredSite
