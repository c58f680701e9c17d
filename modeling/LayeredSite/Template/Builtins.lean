import LayeredSite.Template.Scope
import LayeredSite.Text.Escape
import LayeredSite.Number.Literal

namespace LayeredSite

inductive Num
  | int (n : Int64)
  | float (f : Float)

namespace Num

def ofValue? : Value → Option Num
  | .int n => some (int n)
  | .float f => some (float f)
  | _ => none

def toFloat : Num → Float
  | int n => n.toFloat
  | float f => f

def toValue : Num → Value
  | int n => .int n
  | float f => .float f

def exact (i : Int) : Except EvalFault Num :=
  match Number.int64? i with
  | some n => .ok (int n)
  | none => .error .overflow

def add : Num → Num → Except EvalFault Num
  | int a, int b => exact (a.toInt + b.toInt)
  | a, b => .ok (float (a.toFloat + b.toFloat))

def mul : Num → Num → Except EvalFault Num
  | int a, int b => exact (a.toInt * b.toInt)
  | a, b => .ok (float (a.toFloat * b.toFloat))

def sub : Num → Num → Except EvalFault Num
  | int a, int b => exact (a.toInt - b.toInt)
  | a, b => .ok (float (a.toFloat - b.toFloat))

/-- A quotient of integers is an integer if it is exact, and a float otherwise. -/
def div : Num → Num → Except EvalFault Num
  | a, int b =>
    if b = 0 then .error .divisionByZero
    else match a with
      | int a =>
        if a.toInt.tmod b.toInt = 0 then exact (a.toInt.tdiv b.toInt)
        else .ok (float (a.toFloat / b.toFloat))
      | float f => .ok (float (f / b.toFloat))
  | a, float f => .ok (float (a.toFloat / f))

/-- Less, equal or greater; a NaN is none of them. -/
def compare? : Num → Num → Option Ordering
  | int a, int b => some (compare a.toInt b.toInt)
  | a, b =>
    let x := a.toFloat
    let y := b.toFloat
    if x < y then some .lt else if x == y then some .eq else if y < x then some .gt else none

def holds (f : Builtin) (o : Option Ordering) : Bool :=
  match f, o with
  | .lt, some .lt => true
  | .gt, some .gt => true
  | .le, some .lt => true
  | .le, some .eq => true
  | .ge, some .gt => true
  | .ge, some .eq => true
  | _, _ => false

def chain (f : Builtin) : List Num → Bool
  | a :: b :: rest => holds f (compare? a b) && chain f (b :: rest)
  | _ => true

end Num

namespace Call

def number (p : Position) (v : Value) : Eval Num :=
  match Num.ofValue? v with
  | some n => pure n
  | none => Eval.fail p (.notNumber v.kind)

def arithmetic (p : Position) (r : Except EvalFault Num) : Eval Num :=
  match r with
  | .ok n => pure n
  | .error fault => Eval.fail p fault

def fold (p : Position) (op : Num → Num → Except EvalFault Num) (acc : Num) :
    List Value → Eval Num
  | [] => pure acc
  | v :: rest => do
    let n ← number p v
    let acc' ← arithmetic p (op acc n)
    fold p op acc' rest

def itemTexts (items : List Value) : Reading (List String) := items.mapM Value.text

/-- Lists are spliced and nils dropped; other values stand for themselves. -/
def splice : List Value → List Value
  | [] => []
  | .list items :: rest => items ++ splice rest
  | .nil :: rest => splice rest
  | v :: rest => v :: splice rest

/-- The value of a function at arguments that are not deferred. -/
def apply (f : Builtin) (args : List Value) (p : Position) : Eval Value :=
  match f, args with
  | .add, args => Num.toValue <$> fold p Num.add (.int 0) args
  | .mul, args => Num.toValue <$> fold p Num.mul (.int 1) args
  | .sub, [v] => do
    let n ← number p v
    Num.toValue <$> arithmetic p (Num.sub (.int 0) n)
  | .sub, v :: w :: rest => do
    let n ← number p v
    Num.toValue <$> fold p Num.sub n (w :: rest)
  | .div, v :: w :: rest => do
    let n ← number p v
    Num.toValue <$> fold p Num.div n (w :: rest)
  | .eq, v :: rest => pure (.bool (rest.all fun w => w.equal v))
  | .not, [v] => pure (.bool !v.truthy)
  | .lt, args => return .bool (Num.chain .lt (← args.mapM (number p)))
  | .gt, args => return .bool (Num.chain .gt (← args.mapM (number p)))
  | .le, args => return .bool (Num.chain .le (← args.mapM (number p)))
  | .ge, args => return .bool (Num.chain .ge (← args.mapM (number p)))
  | .str, args => return .str (← Eval.reading (Value.list args).text)
  | .raw, args => return .raw (← Eval.reading (Value.list args).text)
  | .escape, args => return .str (Text.escape (← Eval.reading (Value.list args).text))
  | .get, [target, key] => Eval.reported p (target.field key)
  | .get, [target, key, default] => do
    match ← Eval.reported p (target.field key) with
    | .nil => pure default
    | found => pure found
  | .count, [.list items] => pure (.int (Int64.ofNat items.length))
  | .count, [.map fields] => pure (.int (Int64.ofNat fields.length))
  | .count, [.str s] => pure (.int (Int64.ofNat s.length))
  | .count, [.nil] => pure (.int 0)
  | .count, [v] => Eval.fail p (.cannotCount v.kind)
  | .first, [.list items] => pure (items.head?.getD .nil)
  | .first, [.nil] => pure .nil
  | .rest, [.list items] => pure (.list items.tail)
  | .rest, [.nil] => pure (.list [])
  | .take, [.int n, .list items] => pure (.list (items.take n.toInt.toNat))
  | .take, [.int _, .nil] => pure (.list [])
  | .list, args => pure (.list args)
  | .vector, args => pure (.list args)
  | .concat, args => pure (.list (splice args))
  | .join, [separator, .list items] => do
    let parts ← Eval.reading (itemTexts items)
    let sep ← Eval.reading separator.text
    return .str (sep.intercalate parts)
  | .join, [_, .nil] => pure (.str "")
  | f, _ => Eval.fail p (.usage f)

/-- Calls a function by its name; deferred arguments are read from the left before that. -/
def callNamed (name : String) (args : List Value) (p : Position) : Eval Value := do
  let args ← Eval.resolveAll args p
  match Builtin.ofName? name with
  | some f => apply f args p
  | none => Eval.fail p (.unknownFunction name)

end Call
end LayeredSite
