import LayeredSite.Command.Line
import LayeredSite.Config.Basic
import LayeredSite.Config.Error
import LayeredSite.Disk.Basic
import LayeredSite.Text.Blank

namespace LayeredSite.SiteConfig

def load (disk : Disk) (path : String) : Except ConfigError SiteConfig :=
  match disk.read path with
  | .error _ => .error (.unreadable path)
  | .ok text => match parse? text with
    | some c => .ok c
    | none => .error .malformed

/-- The absolute path of a path; `.` and `..` vanish if there is something at it. -/
def normalize (disk : Disk) (path : String) : String :=
  match disk.canonical? path with
  | some p => p
  | none => if Path.isAbsolute path then path else Path.join disk.currentPath path

def rooted (c : SiteConfig) (disk : Disk) (root configName : String) : SiteConfig :=
  let root := normalize disk root
  { c with
    configPath := normalize disk (Path.join root configName)
    build := { c.build with
      root := some root
      templates := normalize disk (Path.join root c.build.templates)
      output := normalize disk (Path.join root c.build.output) } }

def rootFor (c : SiteConfig) (line : CommandLine) : String :=
  let base := line.root.getD c.root
  match line.command with
  | .init (some name) => Path.join base name
  | _ => base

def withOptions (c : SiteConfig) (line : CommandLine) : SiteConfig :=
  let build := { c.build with
    templates := line.templates.getD c.build.templates
    output := line.output.getD c.build.output }
  { c with build := match line.command with
    | .build clean minify =>
      { build with minify := minify.getD build.minify, clean := build.clean || clean }
    | _ => build }

def resolve (c : SiteConfig) (disk : Disk) (line : CommandLine) : SiteConfig :=
  (c.withOptions line).rooted disk (c.rootFor line) line.config

/-- Checks that do not depend on the disk; the first that fails is reported. -/
def validateSettings (c : SiteConfig) : Except ConfigError Unit :=
  if c.build.extension.isEmpty || c.build.extension.toList.contains '.' then .error .badExtension
  else if !Text.hasPlaceholder c.build.postUrl "slug" then .error .badPostUrl
  else if !Text.hasPlaceholder c.build.tagUrl "tag" then .error .badTagUrl
  else match c.base.url with
    | some url => if "http".toList.isPrefixOf url.toList then .ok () else .error .badBaseUrl
    | none => .ok ()

def validate (c : SiteConfig) (disk : Disk) (line : CommandLine) : Except ConfigError Unit := do
  c.validateSettings
  if line.command.isInit then
    if disk.exists_ (Path.join c.root line.config) then throw .alreadyThere
  else if !disk.exists_ c.configPath then throw .notThere
  else if !disk.isDir c.build.templates then throw (.noTemplates c.build.templates)

/-- The configuration for a command line; a new site starts from the defaults. -/
def forCommand (disk : Disk) (line : CommandLine) : Except ConfigError SiteConfig := do
  let path := Path.join (line.root.getD "./") line.config
  let c ← if line.command.isInit then pure {}
    else if disk.exists_ path then load disk path
    else throw (.missing path)
  let c := c.resolve disk line
  c.validate disk line
  return c

end LayeredSite.SiteConfig
