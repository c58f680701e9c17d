namespace LayeredSite

inductive Command
  | init (name : Option String)
  | build (clean : Bool) (minify : Option Bool)
  | template (path : String)
  | tag (name : String)
  | eval (expression : String)
deriving DecidableEq, Repr

def Command.isInit : Command → Bool
  | init _ => true
  | _ => false

def defaultConfigName : String := "kasane.toml"

structure CommandLine where
  root : Option String := none
  config : String := defaultConfigName
  output : Option String := none
  templates : Option String := none
  command : Command
deriving DecidableEq, Repr

/-- Why arguments are no command line, or ask for information only. -/
inductive UsageError
  | displayHelp
  | displayVersion
  /-- Nothing was given at all. -/
  | nothingGiven
  | missingCommand
  | invalidCommand
  | unknownArgument
  | invalidValue
  /-- An option was given twice. -/
  | repeated
  /-- A flag was given a value. -/
  | unwantedValue
  | missingArgument
deriving DecidableEq, Repr

end LayeredSite
