import LayeredSite.Markdown.Container
import LayeredSite.Markdown.RawHtml

namespace LayeredSite.Markdown

def headingLevel? (cs : List Char) : Option Nat :=
  let n := span (· = '#') cs
  if 1 ≤ n && n ≤ 6 && (cs.drop n).head?.all isSpaceOrNewline then some n else none

def underline? (cs : List Char) : Option (Nat × Nat) :=
  match cs with
  | [] => none
  | c :: _ =>
    if c = '=' || c = '-' then
      let n := span (· = c) cs
      (blankLine? (cs.drop n)).map fun length => (if c = '=' then 1 else 2, n + length)
    else none

structure Fence where
  mark : Char
  length : Nat
deriving DecidableEq, Repr

def fence? (cs : List Char) : Option Fence :=
  match cs with
  | [] => none
  | c :: _ =>
    let n := span (· = c) cs
    let behind := cs.drop n
    if (c = '\x60' || c = '~') && 3 ≤ n &&
        !(c = '\x60' && (behind.take (lineLength behind)).contains '\x60') then
      some ⟨c, n⟩
    else none

/-- The length of the fence behind code, for which the end of the text counts too. -/
def Fence.closing? (f : Fence) (cs : List Char) : Option Nat :=
  let marks := span (· = f.mark) cs
  let length := marks + span (· = ' ') (cs.drop marks)
  if cs.isEmpty then some 0
  else if f.length ≤ marks && (lineEnd? (cs.drop length)).isSome then some length
  else none

/-- Numbers of items that interrupt a paragraph are below this limit. -/
def itemNumberLimit : Nat := 18446744073709551616

/-- Whether a text is nothing but two blank lines, or one at the end. -/
def isBlankTwice (cs : List Char) : Bool :=
  match blankLine? cs with
  | some n => (blankLine? (cs.drop n)).isSome
  | none => false

/-- Whether a line begins a list item behind a paragraph. In the container of the paragraph the
item has some content, and the first number. -/
def startsItem (cs : List Char) (inContainer : Bool) : Bool :=
  let allowed (first : Bool) (behind : List Char) : Bool :=
    (behind.head?.all fun c => [' ', '\t', '\n', '\r'].contains c) &&
      (!inContainer || (first && !isBlankTwice behind))
  match cs with
  | [] => false
  | c :: rest =>
    if Marker.isBullet c then allowed true rest
    else
      let digits := cs.takeWhile Char.isDigit
      let number := Marker.digitsValue digits
      match cs.drop digits.length with
      | [] => false
      | mark :: behind =>
        !digits.isEmpty && number < itemNumberLimit && Marker.isNumberMark mark &&
          allowed (number = 1) behind

def interruptsParagraph (cs : List Char) (inContainer : Bool) : Bool :=
  (lineEnd? cs).isSome || (sectionBreak? cs).isSome || (headingLevel? cs).isSome ||
    (fence? cs).isSome || ['>', ' '].isPrefixOf cs || startsItem cs inContainer ||
    (match cs with
      | '<' :: rest => RawHtml.interrupts rest
      | _ => false)

end LayeredSite.Markdown
