import LayeredSite.Slug.Emoji
import LayeredSite.Slug.Han
import LayeredSite.Slug.Hangul
import LayeredSite.Slug.Letters

namespace LayeredSite.Slug

def spellingIn? (table : List (String × String)) (c : Char) : Option String :=
  (table.find? (·.2.contains c)).map (·.1)

/-- Ranges of characters that leave nothing: accents, joiners, marks of direction and the like. -/
def silentRanges : List (Nat × Nat) :=
  [(0x80, 0x9F), (0xAD, 0xAD), (0x300, 0x36F), (0x483, 0x487), (0x1AB0, 0x1AFF), (0x1DC0, 0x1DFF),
    (0x200B, 0x200F), (0x202A, 0x202E), (0x2060, 0x2064), (0x20D0, 0x20FF), (0x30FB, 0x30FC),
    (0xFE00, 0xFE0F), (0xFEFF, 0xFEFF), (0xE0100, 0xE01EF)]

def isSilent (c : Char) : Bool :=
  silentRanges.any fun (low, high) => low ≤ c.toNat && c.toNat ≤ high

/-- A reading or a name is a word of its own, so a blank ends it. -/
def word? (table : List (String × String)) (c : Char) : Option String :=
  (spellingIn? table c).map (· ++ " ")

def spelling? (c : Char) : Option String :=
  if isSilent c then some ""
  else
    spellingIn? letters c <|> Hangul.spelling? c <|> word? readings c <|> word? pictographs c

end LayeredSite.Slug
