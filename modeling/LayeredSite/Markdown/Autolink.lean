import LayeredSite.Markdown.Punctuation
import LayeredSite.Markdown.Place
import LayeredSite.Text.Blank

namespace LayeredSite.Markdown.Autolink

def isSchemeChar (c : Char) : Bool := isAlnum c || ['.', '-', '+'].contains c

def addressLength (cs : List Char) : Option Nat := do
  let scheme := span isSchemeChar cs
  if !(cs.head?.any Char.isAlpha) || scheme < 2 || 32 < scheme || cs[scheme]? != some ':' then none
  else
    let length := span (fun c => ' ' < c && c != '<' && c != '>') (cs.drop (scheme + 1))
    if cs[scheme + 1 + length]? = some '>' then return scheme + 1 + length else none

def isMailChar (c : Char) : Bool :=
  isAlnum c || (isAsciiPunctuation c && !(['"', '(', ')', ',', ':', ';', '<', '>', '@',
    '[', '\\', ']'].contains c))

def isDomainLabel (cs : List Char) : Bool :=
  !cs.isEmpty && cs.length ≤ 63 && cs.head? != some '-' && cs.getLast? != some '-'

def mailLength (cs : List Char) : Option Nat := do
  let name := span isMailChar cs
  if name = 0 || cs[name]? != some '@' then none
  else
    let domain := (cs.drop (name + 1)).takeWhile fun c => isAlnum c || c = '-' || c = '.'
    let length := name + 1 + domain.length
    if (Text.splitOn (· = '.') domain).all isDomainLabel && cs[length]? = some '>' then
      return length
    else none

def scan (cs : List Char) : Option (Nat × List Char) :=
  match addressLength cs with
  | some n => some (n, cs.take n)
  | none => (mailLength cs).map fun n => (n, "mailto:".toList ++ cs.take n)

end LayeredSite.Markdown.Autolink
