import LayeredSite.Markup.Event
import LayeredSite.Proofs.Markup.Escaping

namespace LayeredSite.Markup

inductive Token
  | start (name : String) (attributes : List Attribute)
  | stop (name : String)
  | text (s : String)
deriving DecidableEq, Repr

def endsName (c : Char) : Bool :=
  c.isWhitespace || c == '"' || c == '=' || c == '<' || c == '>' || c == '/'

def name? (cs : List Char) : Option (String × List Char) :=
  match cs.takeWhile (!endsName ·) with
  | [] => none
  | name => some (String.ofList name, cs.dropWhile (!endsName ·))

def value? : List Char → Option (String × List Char)
  | '=' :: '"' :: rest =>
    (Text.splitAtFirst '"' rest).map fun (value, rest) => (String.ofList value, rest)
  | _ => none

/-- A key is a flag unless a value stands behind it. -/
def attribute? (cs : List Char) : Option (Attribute × List Char) :=
  match name? cs with
  | none => none
  | some (key, rest) =>
    match value? rest with
    | none => some (.flag key, rest)
    | some (value, rest) => some (.pair key (Text.unescape value), rest)

theorem name?_length {cs rest : List Char} {name : String} (h : name? cs = some (name, rest)) :
    rest.length < cs.length := by
  unfold name? at h
  split at h
  · contradiction
  · rename_i hne
    obtain ⟨-, rfl⟩ := Prod.mk.inj (Option.some.inj h)
    have happ := List.takeWhile_append_dropWhile (p := (!endsName ·)) (l := cs)
    have hlen := congrArg List.length happ
    have hpos := List.length_pos_iff.mpr hne
    rw [List.length_append] at hlen
    omega

theorem value?_length {cs rest : List Char} {value : String}
    (h : value? cs = some (value, rest)) : rest.length < cs.length := by
  unfold value? at h
  split at h
  · obtain ⟨⟨v, rest'⟩, hsplit, hv⟩ := Option.map_eq_some_iff.mp h
    obtain ⟨-, rfl⟩ := Prod.mk.inj hv
    rw [Text.splitAtFirst_append hsplit]
    simp only [List.length_cons, List.length_append]
    omega
  · contradiction

theorem attribute?_length {cs rest : List Char} {a : Attribute}
    (h : attribute? cs = some (a, rest)) : rest.length < cs.length := by
  unfold attribute? at h
  split at h
  · contradiction
  · rename_i hname
    have hkey := name?_length hname
    split at h
    · obtain ⟨-, rfl⟩ := Prod.mk.inj (Option.some.inj h)
      exact hkey
    · rename_i hvalue
      obtain ⟨-, rfl⟩ := Prod.mk.inj (Option.some.inj h)
      exact Nat.lt_trans (value?_length hvalue) hkey

def attributes? (cs : List Char) : Option (List Attribute × List Char) :=
  match cs with
  | '>' :: rest => some ([], rest)
  | ' ' :: rest =>
    match _ : attribute? rest with
    | none => none
    | some (a, rest') => (attributes? rest').map fun (as, last) => (a :: as, last)
  | _ => none
termination_by cs.length
decreasing_by
  have hlen := attribute?_length ‹_›
  rw [List.length_cons]
  omega

theorem attributes?_length {cs rest : List Char} {as : List Attribute}
    (h : attributes? cs = some (as, rest)) : rest.length < cs.length := by
  induction cs using attributes?.induct generalizing as with
  | case1 rest' =>
    rw [attributes?] at h
    obtain ⟨-, rfl⟩ := Prod.mk.inj (Option.some.inj h)
    simp
  | case2 rest' hnone =>
    rw [attributes?, hnone] at h
    contradiction
  | case3 rest' a last ha ih =>
    rw [attributes?, ha] at h
    obtain ⟨⟨as', last'⟩, has, he⟩ := Option.map_eq_some_iff.mp h
    obtain ⟨-, rfl⟩ := Prod.mk.inj he
    have hfirst := attribute?_length ha
    have hothers := ih has
    rw [List.length_cons]
    omega
  | case4 cs hgt hblank =>
    rw [attributes?.eq_def] at h
    split at h
    · exact absurd rfl (hgt _)
    · exact absurd rfl (hblank _)
    · contradiction

def tag? : List Char → Option (Token × List Char)
  | '<' :: '/' :: rest =>
    match name? rest with
    | some (name, '>' :: rest) => some (.stop name, rest)
    | _ => none
  | '<' :: rest =>
    match name? rest with
    | none => none
    | some (name, rest) => (attributes? rest).map fun (as, rest) => (.start name as, rest)
  | _ => none

theorem tag?_length {cs rest : List Char} {t : Token} (h : tag? cs = some (t, rest)) :
    rest.length < cs.length := by
  unfold tag? at h
  split at h
  · split at h
    · rename_i hname
      obtain ⟨-, rfl⟩ := Prod.mk.inj (Option.some.inj h)
      have hlen := name?_length hname
      simp only [List.length_cons] at hlen ⊢
      omega
    · contradiction
  · split at h
    · contradiction
    · rename_i hname
      obtain ⟨⟨as, last⟩, has, he⟩ := Option.map_eq_some_iff.mp h
      obtain ⟨-, rfl⟩ := Prod.mk.inj he
      have hlen := name?_length hname
      have hattrs := attributes?_length has
      rw [List.length_cons]
      omega
  · contradiction

/-- A text in front of tokens joins the text that they begin with; an empty one is nothing. -/
def pushText (s : String) : List Token → List Token
  | .text t :: rest => .text (s ++ t) :: rest
  | rest => if s = "" then rest else .text s :: rest

/-- The tags of a text, and the texts between them as they are written. -/
def pieces (cs : List Char) : List Token :=
  match cs with
  | [] => []
  | c :: rest =>
    match _ : tag? (c :: rest) with
    | some (tag, rest') => tag :: pieces rest'
    | none => pushText (String.singleton c) (pieces rest)
termination_by cs.length
-- A tag is never empty, and what is no tag goes by one character.
decreasing_by
  · exact tag?_length ‹_›
  · exact Nat.lt_succ_self _

def Token.decode : Token → Token
  | .text s => .text (Text.unescape s)
  | t => t

def tokenize (s : String) : List Token := (pieces s.toList).map Token.decode

end LayeredSite.Markup
