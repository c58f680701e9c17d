import LayeredSite.Date.Text
import LayeredSite.Disk.Basic
import LayeredSite.Template.Source

namespace LayeredSite.Disk

def readTemplate (d : Disk) (path : String) : Except TemplateError String :=
  match d.read path with
  | .ok text => .ok text
  | .error .notFound => .error (.missingTemplate path)
  | .error fault => .error (.unreadable path fault.message)

def templatePath (dir extension name : String) : String :=
  let suffix := "." ++ extension
  if suffix.toList.isSuffixOf name.toList then Path.join dir name
  else Path.join dir (name ++ suffix)

theorem mem_texts_of_readTemplate {d : Disk} {path text : String}
    (h : d.readTemplate path = .ok text) : text ∈ d.texts := by
  unfold readTemplate at h
  split at h
  · cases h
    exact mem_texts_of_read (by assumption)
  · simp at h
  · simp at h

def source (d : Disk) (dir extension : String) : Source where
  read name := d.readTemplate (templatePath dir extension name)
  texts := d.texts
  mem_texts _ _ h := mem_texts_of_readTemplate h

/-- The date of a document: the one it declares, or that of its file name, or the day on which its
file was last changed. -/
def dateOf (d : Disk) (today : Date) (path : String) (declared : Option Date) : Date :=
  match declared with
  | some date => date
  | none => match (Date.splitStem (Path.stem path)).1 with
    | some date => date
    | none => ((d.modified? path).bind Date.ofUnixTime).getD today

end LayeredSite.Disk
