namespace LayeredSite.Text

/-- The special characters with their entities, in the order in which they are replaced. -/
def entities : List (Char × String) :=
  [('&', "&amp;"), ('"', "&quot;"), ('<', "&lt;"), ('>', "&gt;")]

def isSpecial (c : Char) : Bool := entities.any fun e => e.1 == c

def replaceChar (c : Char) (by_ : List Char) (cs : List Char) : List Char :=
  cs.flatMap fun d => if d = c then by_ else [d]

/-- Replaces the characters of a table, those of each entry after those of the one before. -/
def replaceEach : List (Char × String) → List Char → List Char
  | [], cs => cs
  | (c, by_) :: rest, cs => replaceEach rest (replaceChar c by_.toList cs)

def escapeChars (cs : List Char) : List Char :=
  if cs.any isSpecial then replaceEach entities cs else cs

def escape (s : String) : String := String.ofList (escapeChars s.toList)

def entityOf (c : Char) : List Char :=
  match c with
  | '&' => "&amp;".toList
  | '"' => "&quot;".toList
  | '<' => "&lt;".toList
  | '>' => "&gt;".toList
  | c => [c]

/-- Reads the four entities back in one pass; any other text stands for itself. -/
def unescapeChars : List Char → List Char
  | '&' :: 'a' :: 'm' :: 'p' :: ';' :: rest => '&' :: unescapeChars rest
  | '&' :: 'q' :: 'u' :: 'o' :: 't' :: ';' :: rest => '"' :: unescapeChars rest
  | '&' :: 'l' :: 't' :: ';' :: rest => '<' :: unescapeChars rest
  | '&' :: 'g' :: 't' :: ';' :: rest => '>' :: unescapeChars rest
  | c :: rest => c :: unescapeChars rest
  | [] => []

def unescape (s : String) : String := String.ofList (unescapeChars s.toList)

theorem toList_escape (s : String) : (escape s).toList = escapeChars s.toList := by
  simp [escape]

theorem replaceChar_append (c : Char) (by_ a b : List Char) :
    replaceChar c by_ (a ++ b) = replaceChar c by_ a ++ replaceChar c by_ b := by
  simp [replaceChar]

theorem replaceEach_append (table : List (Char × String)) (a b : List Char) :
    replaceEach table (a ++ b) = replaceEach table a ++ replaceEach table b := by
  induction table generalizing a b with
  | nil => rfl
  | cons e rest ih => simp only [replaceEach, replaceChar_append, ih]

theorem replaceEach_entities_singleton (c : Char) : replaceEach entities [c] = entityOf c := by
  unfold entityOf
  split
  · decide
  · decide
  · decide
  · decide
  · rename_i hamp hquot hlt hgt
    have hkeep (d : Char) (by_ : List Char) (h : c ≠ d) : replaceChar d by_ [c] = [c] := by
      rw [replaceChar, List.flatMap_singleton, if_neg h]
    rw [entities, replaceEach, hkeep _ _ hamp, replaceEach, hkeep _ _ hquot, replaceEach,
      hkeep _ _ hlt, replaceEach, hkeep _ _ hgt, replaceEach]

theorem replaceEach_entities (cs : List Char) : replaceEach entities cs = cs.flatMap entityOf := by
  induction cs with
  | nil => rfl
  | cons c rest ih =>
    rw [← List.singleton_append, replaceEach_append, replaceEach_entities_singleton, ih]
    rfl

theorem entityOf_of_not_special {c : Char} (h : isSpecial c = false) : entityOf c = [c] := by
  unfold entityOf
  split <;> simp_all [isSpecial, entities]

theorem escapeChars_eq_flatMap (cs : List Char) : escapeChars cs = cs.flatMap entityOf := by
  unfold escapeChars
  split
  · exact replaceEach_entities cs
  · rename_i h
    induction cs with
    | nil => rfl
    | cons c rest ih =>
      simp only [List.any_cons, Bool.or_eq_true, not_or, Bool.not_eq_true] at h
      rw [List.flatMap_cons, entityOf_of_not_special h.1, ← ih (by simpa using h.2)]
      rfl

theorem escapeChars_append (a b : List Char) :
    escapeChars (a ++ b) = escapeChars a ++ escapeChars b := by
  simp only [escapeChars_eq_flatMap, List.flatMap_append]

end LayeredSite.Text
