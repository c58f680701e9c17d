import LayeredSite.Disk.Basic
import LayeredSite.Template.Error

namespace LayeredSite

inductive BuildError
  | template (error : TemplateError)
  | outsideTemplates (path : String)
  | unknownTag (name : String)
  | createDir (path : String) (fault : Disk.Fault)
  | write (path : String) (fault : Disk.Fault)
  | clear (path : String) (fault : Disk.Fault)

namespace BuildError

def message : BuildError → String
  | template error => error.message
  | outsideTemplates path => "not inside the template directory: " ++ path
  | unknownTag name => "no post is tagged " ++ quoted name
  | createDir path _ => "Failed to create directory: " ++ path
  | write path _ => "Failed to write: " ++ path
  | clear path _ => "Failed to clear output directory: " ++ path

def cause? : BuildError → Option String
  | outsideTemplates _ => some "prefix not found"
  | createDir _ fault => some fault.message
  | write _ fault => some fault.message
  | clear _ fault => some fault.message
  | _ => none

def report (e : BuildError) : String :=
  match e.cause? with
  | some c => e.message ++ ": " ++ c
  | none => e.message

end BuildError
end LayeredSite
