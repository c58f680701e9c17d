import LayeredSite.Build.Error

namespace LayeredSite.Output

def write (disk : Disk) (path text : String) (time : Int) : Except BuildError Disk := do
  let disk ← match Path.parent? path with
    | none => pure disk
    | some parent => match disk.makeDirs parent with
      | .ok d => pure d
      | .error fault => throw (.createDir parent fault)
  match disk.write path text time with
  | .ok d => return d
  | .error fault => throw (.write path fault)

/-- The disk when a file could not be written; the directories above it may have been made. -/
def left (disk : Disk) (path : String) : Disk :=
  match Path.parent? path with
  | none => disk
  | some parent => disk.leftByDirs parent

/-- Writes a file; directories that were made for it stay if it cannot be written. -/
def put (disk : Disk) (path text : String) (time : Int) : Except BuildError Unit × Disk :=
  match write disk path text time with
  | .ok d => (.ok (), d)
  | .error e => (.error e, left disk path)

def clear (disk : Disk) (path : String) : Except BuildError Disk :=
  if disk.exists_ path then
    match disk.removeDir path with
    | .ok d => .ok d
    | .error fault => .error (.clear path fault)
  else .ok disk

end LayeredSite.Output
