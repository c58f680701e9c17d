import LayeredSite.Build.Basic
import LayeredSite.Build.Starter
import LayeredSite.Command.Parse
import LayeredSite.Config.Resolve
import LayeredSite.Markdown.Render
import LayeredSite.Markup.Page
import LayeredSite.Slug.Basic

namespace LayeredSite.Program

instance toolkit : Toolkit where
  slugify := Slug.ofText
  markdown := Markdown.render
  compactPage html := String.ofList (Markup.Page.compact html.toList)

def name : String := "kasane"

def version : String := "0.1.0"

structure Run where
  disk : Disk
  exitCode : Nat
  /-- The lines on standard output. -/
  output : List String
  /-- The lines on standard error. -/
  error : List String

def usageLines : List String :=
  ["Usage: " ++ name ++ " [OPTIONS] <COMMAND>", "",
    "Commands: init, build, template, tag, eval, help",
    "Options: --root <ROOT>, --config <CONFIG>, --output <OUTPUT>, --templates <TEMPLATES>"]

def refused (disk : Disk) : UsageError → Run
  | .displayHelp => ⟨disk, 0, usageLines, []⟩
  | .displayVersion => ⟨disk, 0, [name ++ " " ++ version], []⟩
  | _ => ⟨disk, 2, [], usageLines⟩

def failureLines (message : String) : Option String → List String
  | none => ["Error: " ++ message]
  | some cause => ["Error: " ++ message, "", "Caused by:", "    " ++ cause]

def failed (disk : Disk) (log : List LogLine) (message : String) (cause : Option String) : Run :=
  ⟨disk, 1, log.map LogLine.text, failureLines message cause⟩

def finished (w : Workshop) (ok : Bool) (output : List String) : Run :=
  ⟨w.disk, if ok then 0 else 1, w.log.map LogLine.text ++ output, []⟩

def ended {α : Type} (show_ : α → Bool × List String) (r : Except BuildError α × Workshop) : Run :=
  match r with
  | (.ok a, w) => finished w (show_ a).1 (show_ a).2
  | (.error e, w) => failed w.disk w.log e.message e.cause?

def makeSite (disk : Disk) (clock : Clock) (config : SiteConfig) (named : Bool) : Run :=
  match Starter.make config named clock disk with
  | (.ok (), disk) => ⟨disk, 0, [(Starter.createdLine config).text], []⟩
  | (.error e, disk) => failed disk [] e.message e.cause?

def perform (disk : Disk) (clock : Clock) (config : SiteConfig) (command : Command) : Run :=
  let builder := Builder.standard config clock
  let start : Workshop := ⟨disk, [], []⟩
  let plain (x : Building Bool) : Run :=
    let (ok, w) := x.run start
    finished w ok []
  match command with
  | .init name => makeSite disk clock config name.isSome
  | .build _ _ => ended (fun ok => (ok, [])) (builder.build.run start)
  | .template path => plain (builder.compileTemplate path)
  | .tag name => plain (builder.compileTag name)
  | .eval text => ended (fun out => (true, [out])) ((builder.evaluate text).run start)

def run (disk : Disk) (clock : Clock) (args : List String) : Run :=
  match Command.parse args with
  | .error e => refused disk e
  | .ok line => match SiteConfig.forCommand disk line with
    | .error e => failed disk [] e.message none
    | .ok config => perform disk clock config line.command

end LayeredSite.Program
