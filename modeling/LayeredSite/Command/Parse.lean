import LayeredSite.Command.Line
import LayeredSite.Text.Blank

namespace LayeredSite.Command

inductive Flag
  | root | config | output | templates | clean | minify | help | version
deriving DecidableEq, Repr

/-- Where an argument stands: in front of the command's name or behind it. -/
inductive Level
  | top
  | init | build | template | tag | eval
deriving DecidableEq, Repr

def Level.ofName? : String → Option Level
  | "init" => some .init
  | "build" => some .build
  | "template" => some .template
  | "tag" => some .tag
  | "eval" => some .eval
  | _ => none

def Level.hasOperand : Level → Bool
  | .top => false
  | .build => false
  | _ => true

def Flag.atLevel (level : Level) : Flag → Bool
  | clean => level == .build
  | minify => level == .build
  | version => level == .top
  | _ => true

def Flag.named? : String → Option Flag
  | "root" => some root
  | "config" => some config
  | "output" => some output
  | "templates" => some templates
  | "clean" => some clean
  | "minify" => some minify
  | "help" => some help
  | "version" => some version
  | _ => none

def Flag.lettered? : Char → Option Flag
  | 'r' => some root
  | 'C' => some config
  | 'o' => some output
  | 't' => some templates
  | 'm' => some minify
  | 'h' => some help
  | 'V' => some version
  | _ => none

def Flag.takesValue : Flag → Bool
  | clean => false
  | help => false
  | version => false
  | _ => true

/-- An option or operand whose value is not checked before the next one begins, so that an unknown
argument is reported first. -/
inductive Pending
  | flag (f : Flag) (value : Option String)
  | operand (value : String)

structure State where
  found : List (Flag × String) := []
  operand : Option String := none
  pending : Option Pending := none
  /-- The pending option may take the next argument. -/
  waiting : Bool := false
  /-- Only operands follow. -/
  trailing : Bool := false

/-- Records a value, which an option has only once; paths are not empty. -/
def State.record (s : State) (f : Flag) (value : String) : Except UsageError State :=
  if (s.found.lookup f).isSome then .error .repeated
  else if f = .minify && value != "true" && value != "false" then .error .invalidValue
  else if f != .minify && value.isEmpty then .error .invalidValue
  else .ok { s with found := s.found ++ [(f, value)] }

def State.settle (level : Level) (s : State) : Except UsageError State :=
  let s' := { s with pending := none, waiting := false }
  match s.pending with
  | none => .ok s'
  | some (.flag f (some v)) => s'.record f v
  | some (.flag f none) => if f = .minify then s'.record f "true" else .error .invalidValue
  | some (.operand v) =>
    if v.isEmpty && (level = .init || level = .template) then .error .invalidValue
    else .ok { s' with operand := some v }

def State.raise (level : Level) (s : State) (f : Flag) : Except UsageError State := do
  let s ← s.settle level
  match f with
  | .help => throw .displayHelp
  | .version => throw .displayVersion
  | f => s.record f "true"

def State.take (level : Level) (s : State) (f : Flag) (attached : Option String) :
    Except UsageError State := do
  let s ← s.settle level
  match attached with
  | some v => s.record f v
  | none => return { s with pending := some (.flag f none), waiting := true }

def State.long (level : Level) (s : State) (name : String) (attached : Option String) :
    Except UsageError State :=
  match (Flag.named? name).filter (Flag.atLevel level) with
  | none => .error .unknownArgument
  | some f =>
    if f.takesValue then s.take level f attached
    else if attached.isSome then .error .unwantedValue
    else s.raise level f

/-- A cluster of letters, of which the first with a value takes the rest. -/
def State.letters (level : Level) (s : State) : List Char → Except UsageError State
  | [] => .ok s
  | c :: rest => match (Flag.lettered? c).filter (Flag.atLevel level) with
    | none => .error .unknownArgument
    | some f =>
      if f.takesValue then
        s.take level f <| match rest with
          | [] => none
          | '=' :: v => some (String.ofList v)
          | v => some (String.ofList v)
      else do (← s.raise level f).letters level rest

def State.word (level : Level) (s : State) (arg : String) : Except UsageError State := do
  if s.waiting && !s.trailing then
    match s.pending with
    | some (.flag f _) =>
      return { s with pending := some (.flag f (some arg)), waiting := false }
    | _ => return s
  let used := s.operand.isSome || (match s.pending with
    | some (.operand _) => true
    | _ => false)
  if level.hasOperand && !used then
    return { (← s.settle level) with pending := some (.operand arg) }
  if level = .top && !(s.trailing && (Level.ofName? arg).isSome) then throw .invalidCommand
  throw .unknownArgument

def State.step (level : Level) (s : State) (arg : String) : Except UsageError State :=
  if s.trailing then s.word level arg
  else match arg.toList with
    | ['-', '-'] => .ok { s with trailing := true }
    | '-' :: '-' :: body => match Text.splitAtFirst '=' body with
      | some (name, v) => s.long level (String.ofList name) (some (String.ofList v))
      | none => s.long level (String.ofList body) none
    | '-' :: c :: rest => s.letters level (c :: rest)
    | _ => s.word level arg

def parseLevel (level : Level) (args : List String) : Except UsageError State := do
  let s ← args.foldlM (State.step level) {}
  let s ← s.settle level
  if s.operand.isNone && (level = .template || level = .tag || level = .eval) then
    throw .missingArgument
  return s

def flagValue (found : List (Flag × String)) (f : Flag) : Option String := found.lookup f

def commandOf (level : Level) (s : State) : Command :=
  match level with
  | .init => .init s.operand
  | .template => .template (s.operand.getD "")
  | .tag => .tag (s.operand.getD "")
  | .eval => .eval (s.operand.getD "")
  | _ => .build (flagValue s.found .clean).isSome ((flagValue s.found .minify).map (· == "true"))

/-- The arguments of the `help` command, which name another command or `help` itself. -/
def helpOn : List String → UsageError
  | [] => .displayHelp
  | ["help"] => .displayHelp
  | [name] => if (Level.ofName? name).isSome then .displayHelp else .invalidCommand
  | _ => .invalidCommand

def parseTop (s : State) : List String → Except UsageError CommandLine
  | [] => do
    let s ← s.settle .top
    throw (if s.found.isEmpty then .nothingGiven else .missingCommand)
  | arg :: rest =>
    if !s.trailing && !s.waiting && arg = "help" then .error (helpOn rest)
    else
      let level? := if s.trailing || s.waiting then none else Level.ofName? arg
      match level? with
      | some level => do
        let inner ← parseLevel level rest
        let outer ← s.settle .top
        let value (f : Flag) := (flagValue inner.found f).or (flagValue outer.found f)
        return ⟨value .root, (value .config).getD defaultConfigName, value .output,
          value .templates, commandOf level inner⟩
      | none => do parseTop (← s.step .top arg) rest

def parse (args : List String) : Except UsageError CommandLine := parseTop {} args

end LayeredSite.Command
