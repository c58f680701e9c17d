namespace LayeredSite.Text

/-- A character of the Unicode property `White_Space`. -/
def isBlank (c : Char) : Bool :=
  let n := c.toNat
  (9 ≤ n && n ≤ 13) || n == 0x20 || n == 0x85 || n == 0xA0 || n == 0x1680 ||
    (0x2000 ≤ n && n ≤ 0x200A) || n == 0x2028 || n == 0x2029 || n == 0x202F ||
    n == 0x205F || n == 0x3000

/-- A character of the general category `Cc`. -/
def isControl (c : Char) : Bool :=
  c.toNat < 0x20 || (0x7F ≤ c.toNat && c.toNat ≤ 0x9F)

def trimStart (cs : List Char) : List Char := cs.dropWhile isBlank

def trimEnd (cs : List Char) : List Char := (cs.reverse.dropWhile isBlank).reverse

def trim (cs : List Char) : List Char := trimEnd (trimStart cs)

/-- Cuts after every newline, so the pieces append to the text and none is empty. -/
def lines : List Char → List (List Char)
  | [] => []
  | c :: rest =>
    if c = '\n' then [c] :: lines rest
    else match lines rest with
      | [] => [[c]]
      | line :: more => (c :: line) :: more

/-- The text of a line without its newline and the carriage return before it. -/
def lineText (line : List Char) : List Char :=
  match line.reverse with
  | '\n' :: '\r' :: rest => rest.reverse
  | '\n' :: rest => rest.reverse
  | _ => line

/-- Cuts at every character of the class, which belongs to no piece. -/
def splitOn (p : Char → Bool) : List Char → List (List Char)
  | [] => [[]]
  | c :: rest =>
    if p c then [] :: splitOn p rest
    else match splitOn p rest with
      | [] => [[c]]
      | piece :: more => (c :: piece) :: more

def splitAtFirst (c : Char) (cs : List Char) : Option (List Char × List Char) :=
  match cs.dropWhile (· != c) with
  | [] => none
  | _ :: rest => some (cs.takeWhile (· != c), rest)

def contains (pattern : List Char) : List Char → Bool
  | [] => pattern.isEmpty
  | c :: rest => pattern.isPrefixOf (c :: rest) || contains pattern rest

/-- Replaces every occurrence of a non-empty needle, from the left and without overlaps; `skip`
characters of the text belong to an occurrence that was replaced. -/
def replaceFrom (needle by_ : List Char) : Nat → List Char → List Char
  | _, [] => []
  | skip + 1, _ :: rest => replaceFrom needle by_ skip rest
  | 0, c :: rest =>
    if needle.isPrefixOf (c :: rest) then by_ ++ replaceFrom needle by_ (needle.length - 1) rest
    else c :: replaceFrom needle by_ 0 rest

def replaceAll (needle by_ cs : List Char) : List Char := replaceFrom needle by_ 0 cs

def placeholder (name : String) : List Char := '{' :: name.toList ++ ['}']

def expand (pattern : String) (values : List (String × String)) : String :=
  String.ofList <| values.foldl
    (fun cs (name, value) => replaceAll (placeholder name) value.toList cs) pattern.toList

def hasPlaceholder (pattern name : String) : Bool :=
  contains (placeholder name) pattern.toList

theorem isBlank_of_isWhitespace {c : Char} (h : c.isWhitespace) : isBlank c := by
  simp only [Char.isWhitespace, Bool.or_eq_true, decide_eq_true_eq] at h
  rcases h with ((rfl | rfl) | rfl) | rfl <;> decide

theorem lines_flatten (cs : List Char) : (lines cs).flatten = cs := by
  induction cs with
  | nil => rfl
  | cons c rest ih =>
    unfold lines
    split
    · simp [ih]
    · split
      · simp_all
      · rename_i h
        simp_all

theorem splitAtFirst_append {c : Char} {cs a b : List Char}
    (h : splitAtFirst c cs = some (a, b)) : cs = a ++ c :: b := by
  unfold splitAtFirst at h
  have happ := List.takeWhile_append_dropWhile (p := (· != c)) (l := cs)
  have hhead := List.head?_dropWhile_not (· != c) cs
  split at h
  · simp at h
  · rename_i d rest hd
    simp only [Option.some.injEq, Prod.mk.injEq] at h
    obtain ⟨rfl, rfl⟩ := h
    rw [hd] at happ hhead
    have hdc : d = c := by simpa using hhead
    exact hdc ▸ happ.symm

theorem splitAtFirst_append_cons {c : Char} {cs : List Char} (h : c ∉ cs) (rest : List Char) :
    splitAtFirst c (cs ++ c :: rest) = some (cs, rest) := by
  have hall : ∀ d ∈ cs, (d != c) = true := by
    intro d hd
    simpa using fun he : d = c => h (he ▸ hd)
  unfold splitAtFirst
  rw [List.dropWhile_append_of_pos hall, List.takeWhile_append_of_pos hall]
  simp

end LayeredSite.Text
