import LayeredSite.Program

namespace LayeredSite.Executable

/-- What is at a path, with everything below it. A file that is no text counts as empty. -/
partial def readNode (path : String) : IO (Option Disk.Node) := do
  try
    let real ← IO.FS.realPath path
    let about ← real.metadata
    match about.type with
    | .dir =>
      let mut tree := Disk.Node.dir []
      for entry in ← real.readDir do
        if let some child ← readNode entry.path.toString then
          tree := tree.put [entry.fileName] child
      return some tree
    | .file =>
      let text ← try IO.FS.readFile real catch _ => pure ""
      return some (.file text about.modified.sec)
    | _ => return none
  catch _ => return none

def namesOf (path : String) : List String :=
  ((Path.segments path.toList).map String.ofList).filter (!·.isEmpty)

def copyIn (disk : Disk) (path : String) : IO Disk := do
  match ← readNode path with
  | some node =>
    return { disk with root := disk.root.put (namesOf (← IO.FS.realPath path).toString) node }
  | none => return disk

def configPath (line : CommandLine) : String := Path.join (line.root.getD "./") line.config

/-- What a command reads and writes besides its configuration file. -/
def reach (disk : Disk) (line : CommandLine) : List String :=
  if line.command.isInit then [(SiteConfig.resolve {} disk line).root]
  else match SiteConfig.load disk (configPath line) with
    | .error _ => []
    | .ok c =>
      let c := c.resolve disk line
      [c.build.templates, c.layoutsDir, c.postsDir, c.build.output] ++
        match line.command with
        | .template path => [Path.join c.build.templates path]
        | _ => []

def snapshot (args : List String) : IO Disk := do
  let here := namesOf (← IO.currentDir).toString
  let disk : Disk := ⟨(Disk.Node.dir []).put here (.dir []), here⟩
  match Command.parse args with
  | .error _ => return disk
  | .ok line =>
    let disk ← copyIn disk (configPath line)
    (reach disk line).foldlM copyIn disk

/-- Brings what is at a path from one state to another. -/
partial def update (path : String) : Option Disk.Node → Option Disk.Node → IO Unit
  | some (.file text time), some (.file text' time') => do
    if text != text' || time != time' then IO.FS.writeFile path text'
  | _, some (.file text _) => IO.FS.writeFile path text
  | old, some (.dir entries) => do
    let before ← match old with
      | some (.dir before) => pure before
      | _ => do
        IO.FS.createDirAll path
        pure []
    for name in (Fields.keys before ++ Fields.keys entries).eraseDups do
      update (path ++ "/" ++ name) (Fields.get? before name) (Fields.get? entries name)
  | some (.dir _), none => IO.FS.removeDirAll path
  | some (.file _ _), none => IO.FS.removeFile path
  | none, none => pure ()

/-- The time now, which is that of a fresh file. -/
def clock : IO Clock := do
  let (_, path) ← IO.FS.createTempFile
  let about ← path.metadata
  IO.FS.removeFile path
  return Clock.ofUnixTime about.modified.sec

end LayeredSite.Executable

open LayeredSite in
def main (args : List String) : IO UInt32 := do
  let disk ← Executable.snapshot args
  let run := Program.run disk (← Executable.clock) args
  Executable.update "" (some disk.root) (some run.disk.root)
  run.output.forM IO.println
  run.error.forM IO.eprintln
  return run.exitCode.toUInt32
