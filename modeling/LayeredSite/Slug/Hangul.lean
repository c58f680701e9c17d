namespace LayeredSite.Slug.Hangul

def initials : List String :=
  ["g", "gg", "n", "d", "dd", "r", "m", "b", "bb", "s", "ss", "", "j", "jj", "c", "k", "t", "p",
    "h"]

def vowels : List String :=
  ["a", "ae", "ya", "yae", "eo", "e", "yeo", "ye", "o", "wa", "wae", "oe", "yo", "u", "weo", "we",
    "wi", "yu", "eu", "yi", "i"]

def finals : List String :=
  ["", "g", "gg", "gs", "n", "nj", "nh", "d", "l", "lg", "lm", "lb", "ls", "lt", "lp", "lh", "m",
    "b", "bs", "s", "ss", "ng", "j", "c", "k", "t", "p", "h"]

def first : Nat := 0xAC00

def part (names : List String) (n : Nat) : String := (names[n]?).getD ""

def syllable (n : Nat) : String :=
  let afterInitial := vowels.length * finals.length
  part initials (n / afterInitial) ++ part vowels (n % afterInitial / finals.length)
    ++ part finals (n % finals.length)

def spelling? (c : Char) : Option String :=
  if first ≤ c.toNat ∧ c.toNat < first + initials.length * vowels.length * finals.length then
    some (syllable (c.toNat - first))
  else none

end LayeredSite.Slug.Hangul
