namespace LayeredSite

inductive Dialect
  | html5 | xhtml | html4
deriving DecidableEq, Repr

namespace Dialect

def name : Dialect → String
  | html5 => "html5"
  | xhtml => "xhtml"
  | html4 => "html4"

def ofName? : String → Option Dialect
  | "html5" => some html5
  | "xhtml" => some xhtml
  | "html4" => some html4
  | _ => none

def prologue : Option Dialect → String
  | some html5 => "<!DOCTYPE html>\n"
  | some xhtml =>
    "<?xml version=\"1.0\" encoding=\"UTF-8\"?>\n" ++
    "<!DOCTYPE html PUBLIC \"-//W3C//DTD XHTML 1.0 Strict//EN\" " ++
    "\"http://www.w3.org/TR/xhtml1/DTD/xhtml1-strict.dtd\">\n"
  | some html4 =>
    "<!DOCTYPE html PUBLIC \"-//W3C//DTD HTML 4.01//EN\" " ++
    "\"http://www.w3.org/TR/html4/strict.dtd\">\n"
  | none => ""

theorem ofName?_of_ne {s : String} (h : ∀ f : Dialect, s ≠ f.name) : ofName? s = none := by
  unfold ofName?
  split
  · exact absurd rfl (h .html5)
  · exact absurd rfl (h .xhtml)
  · exact absurd rfl (h .html4)
  · rfl

end Dialect
end LayeredSite
