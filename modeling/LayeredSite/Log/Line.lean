import LayeredSite.Text.Cut

namespace LayeredSite

structure LogLine where
  channel : String
  message : String
deriving DecidableEq, Repr

namespace LogLine

/-- The columns of an output that is no terminal. -/
def width : Nat := 120

def head (channel : String) : String := "[" ++ channel ++ "]"

/-- The bytes in front of a message: the channel, its brackets and a blank. -/
def headWidth (channel : String) : Nat := channel.utf8ByteSize + 3

def body (l : LogLine) : String :=
  if l.message.toList.contains '\n' then l.message
  else Text.cut (width - headWidth l.channel) l.message

def text (l : LogLine) : String := head l.channel ++ " " ++ l.body

def colour (channel : String) : String :=
  match channel.map Char.toLower with
  | "error" => "91"
  | "compile" => "94"
  | "init" => "92"
  | _ => "93"

def colouredHead (channel : String) : String :=
  "\x1b[1;" ++ colour channel ++ "m" ++ head channel ++ "\x1b[0m"

/-- Everything that is printed for a line: the rest of the terminal line is cleared first. -/
def printed (coloured : Bool) (l : LogLine) : String :=
  "\x1b[K" ++ (if coloured then colouredHead l.channel else head l.channel) ++ " " ++ l.body ++ "\n"

end LogLine
end LayeredSite
