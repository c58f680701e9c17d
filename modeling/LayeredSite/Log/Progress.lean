import LayeredSite.Log.Line

namespace LayeredSite.Progress

def minWidth : Nat := 10

def maxWidth : Nat := 40

def filled (current total width : Nat) : Nat :=
  if 0 < total then min current total * width / total else 0

def bar (current total width : Nat) : List Char :=
  List.replicate (filled current total width) '█' ++
    List.replicate (width - filled current total width) '░'

/-- What is left of a line of `columns` beside the channel, the count and their separators. -/
def barWidth (columns : Nat) (channel count : String) : Nat :=
  max minWidth (min maxWidth (columns - (LogLine.headWidth channel + count.utf8ByteSize + 4)))

def clear : String := "\x1b[2K\r"

def display (columns : Nat) (channel : String) (current total : Nat) : String :=
  let count := toString current ++ "/" ++ toString total
  clear ++ LogLine.head channel ++ " [" ++
    String.ofList (bar current total (barWidth columns channel count)) ++ "] " ++ count

/-- A progress of one step or none is not drawn. -/
def drawn (total : Nat) : Bool := 1 < total

def run (channel : String) (total steps : Nat) : List String :=
  if drawn total then
    (List.range steps).map (fun i => display LogLine.width channel (i + 1) total) ++ [clear]
  else List.replicate (steps + 1) ""

end LayeredSite.Progress
