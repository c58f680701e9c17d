import LayeredSite.Proofs.Markup.Tokens
import Mathlib.Data.List.Forall2
import Mathlib.Data.List.Infix

namespace LayeredSite.Markup

def Attribute.key : Attribute → String
  | .flag key => key
  | .pair key _ => key

/-- The token that a reader sees for an event, if the event is written with sound names. -/
inductive Event.Shows : Event → Token → Prop
  | start {name : String} {as : List Attribute} : isName name = true →
      (∀ a ∈ as, isName a.key = true) → Shows (.start name as) (.start name as)
  | empty {name : String} {as : List Attribute} : isName name = true →
      (∀ a ∈ as, isName a.key = true) → Shows (.empty name as) (.start name as)
  | stop {name : String} : isName name = true → Shows (.stop name) (.stop name)
  | text (s : String) : Shows (.text s) (.text s)

def push : Token → List Token → List Token
  | .text s => pushText s
  | t => (t :: ·)

/-- Joins adjacent texts, and leaves empty ones out. -/
def mergeTexts (tokens : List Token) : List Token := tokens.foldr push []

section Names

variable {name : String} {rest : List Char}

theorem isName_iff : isName name = true ↔
    name.toList ≠ [] ∧ ∀ c ∈ name.toList, breaksName c = false := by
  simp [isName]

theorem breaksName_of_endsName {c : Char} (h : endsName c = true) : breaksName c = true := by
  simp only [endsName, Bool.or_eq_true] at h
  simp only [breaksName, Bool.or_eq_true]
  rcases h with ((((h | h) | h) | h) | h) | h
  · simp [Text.isBlank_of_isWhitespace h]
  all_goals simp [h]

theorem not_endsName_of_mem (h : isName name = true) {c : Char} (hc : c ∈ name.toList) :
    endsName c = false := by
  by_contra hends
  have hbreaks := breaksName_of_endsName (Bool.not_eq_false _ ▸ hends)
  rw [(isName_iff.mp h).2 c hc] at hbreaks
  contradiction

theorem name?_append (h : isName name = true) (hrest : ∀ c ∈ rest.head?, endsName c = true) :
    name? (name.toList ++ rest) = some (name, rest) := by
  have hall : ∀ c ∈ name.toList, (!endsName c) = true := by
    intro c hc
    rw [not_endsName_of_mem h hc]
    rfl
  -- What stands behind the name adds nothing to it and is left whole.
  have hfront : rest.takeWhile (!endsName ·) = [] ∧ rest.dropWhile (!endsName ·) = rest := by
    cases rest with
    | nil => exact ⟨rfl, rfl⟩
    | cons c cs => simp [hrest c rfl]
  unfold name?
  rw [List.takeWhile_append_of_pos hall, List.dropWhile_append_of_pos hall, hfront.1, hfront.2,
    List.append_nil]
  split
  · rename_i hnil
    exact absurd hnil (isName_iff.mp h).1
  · rw [String.ofList_toList]

end Names

theorem angle_notMem_escape (s : String) : '<' ∉ (Text.escape s).toList := by
  rw [Text.toList_escape]
  exact fun hmem => (Text.mem_escapeChars hmem).1 rfl

theorem quote_notMem_escape (s : String) : '"' ∉ (Text.escape s).toList := by
  rw [Text.toList_escape]
  exact fun hmem => (Text.mem_escapeChars hmem).2.2 rfl

theorem value?_append {value : String} (h : '"' ∉ value.toList) (rest : List Char) :
    value? ('=' :: '"' :: (value.toList ++ '"' :: rest)) = some (value, rest) := by
  rw [value?, Text.splitAtFirst_append_cons h]
  simp only [Option.map_some, String.ofList_toList]

theorem unescape_escape (s : String) : Text.unescape (Text.escape s) = s := by
  rw [Text.unescape, Text.toList_escape, Text.unescapeChars_escapeChars, String.ofList_toList]

/-- What stands behind an attribute begins the next one or ends the tag. -/
def BeginsGap (cs : List Char) : Prop := cs.head? = some ' ' ∨ cs.head? = some '>'

theorem BeginsGap.endsName {cs : List Char} (h : BeginsGap cs) :
    ∀ c ∈ cs.head?, endsName c = true := by
  intro c hc
  rcases h with h | h
  · obtain rfl := Option.some.inj (h.symm.trans hc)
    rfl
  · obtain rfl := Option.some.inj (h.symm.trans hc)
    rfl

theorem BeginsGap.value?_eq_none {cs : List Char} (h : BeginsGap cs) : value? cs = none := by
  unfold value?
  split
  · rcases h with h | h <;> simp at h
  · rfl

theorem attribute?_write_append {a : Attribute} (h : isName a.key = true) {rest : List Char}
    (hgap : BeginsGap rest) :
    ∃ cs, (a.write false).toList ++ rest = ' ' :: cs ∧ attribute? cs = some (a, rest) := by
  cases a with
  | flag key =>
    have hkey : isName key = true := h
    refine ⟨key.toList ++ rest, by simp [Attribute.write], ?_⟩
    rw [attribute?, name?_append hkey hgap.endsName]
    simp only [hgap.value?_eq_none]
  | pair key value =>
    have hkey : isName key = true := h
    refine ⟨key.toList ++ '=' :: '"' :: ((Text.escape value).toList ++ '"' :: rest),
      by simp [Attribute.write, valued], ?_⟩
    have hequals : ∀ c ∈ ('=' :: '"' :: ((Text.escape value).toList ++ '"' :: rest)).head?,
        Markup.endsName c = true := by
      intro c hc
      obtain rfl := Option.some.inj hc
      rfl
    rw [attribute?, name?_append hkey hequals]
    simp only [value?_append (quote_notMem_escape value), unescape_escape]

theorem attributes?_blank {cs rest : List Char} {a : Attribute}
    (h : attribute? cs = some (a, rest)) :
    attributes? (' ' :: cs) = (attributes? rest).map fun (as, last) => (a :: as, last) := by
  rw [attributes?]
  split
  · rename_i hnone
    rw [h] at hnone
    contradiction
  · rename_i hsome
    obtain ⟨rfl, rfl⟩ := Prod.mk.inj (Option.some.inj (h.symm.trans hsome))
    rfl

theorem beginsGap_writeAttributes (as : List Attribute) (rest : List Char) :
    BeginsGap ((writeAttributes false as).toList ++ '>' :: rest) := by
  cases as with
  | nil => exact .inr (by simp [writeAttributes])
  | cons a as => cases a <;> exact .inl (by simp [writeAttributes, Attribute.write, valued])

theorem attributes?_writeAttributes_append {as : List Attribute}
    (h : ∀ a ∈ as, isName a.key = true) (rest : List Char) :
    attributes? ((writeAttributes false as).toList ++ '>' :: rest) = some (as, rest) := by
  induction as with
  | nil => simp [writeAttributes, attributes?]
  | cons a as ih =>
    obtain ⟨ha, has⟩ := List.forall_mem_cons.mp h
    obtain ⟨cs, hcs, hread⟩ := attribute?_write_append ha (beginsGap_writeAttributes as rest)
    have hsplit : (writeAttributes false (a :: as)).toList ++ '>' :: rest =
        (a.write false).toList ++ ((writeAttributes false as).toList ++ '>' :: rest) := by
      simp [writeAttributes]
    rw [hsplit, hcs, attributes?_blank hread, ih has]
    rfl

theorem tag?_start {name : String} {as : List Attribute} (hname : isName name = true)
    (has : ∀ a ∈ as, isName a.key = true) (rest : List Char) :
    tag? ('<' :: (name.toList ++ ((writeAttributes false as).toList ++ '>' :: rest))) =
      some (.start name as, rest) := by
  have hread := name?_append hname (beginsGap_writeAttributes as rest).endsName
  obtain ⟨c, cs, hcs⟩ := List.exists_cons_of_ne_nil (isName_iff.mp hname).1
  -- A name does not begin with a slash, so the tag is no end tag.
  have hslash : c ≠ '/' := by
    rintro rfl
    have hmem : '/' ∈ name.toList := hcs ▸ List.mem_cons_self
    exact absurd (not_endsName_of_mem hname hmem) (by decide)
  rw [hcs] at hread ⊢
  rw [List.cons_append] at hread ⊢
  unfold tag?
  split
  · rename_i heq
    exact absurd (List.cons.inj (List.cons.inj heq).2).1 hslash
  · rename_i heq
    obtain rfl := (List.cons.inj heq).2
    rw [hread]
    simp only [attributes?_writeAttributes_append has, Option.map_some]
  · rename_i hno
    exact absurd rfl (hno _)

theorem tag?_stop {name : String} (hname : isName name = true) (rest : List Char) :
    tag? ('<' :: '/' :: (name.toList ++ '>' :: rest)) = some (.stop name, rest) := by
  have hends : ∀ c ∈ ('>' :: rest).head?, endsName c = true := by
    intro c hc
    obtain rfl := Option.some.inj hc
    rfl
  rw [tag?, name?_append hname hends]
  rfl

theorem tag?_cons_of_ne {c : Char} (h : c ≠ '<') (rest : List Char) : tag? (c :: rest) = none := by
  unfold tag?
  split
  · rename_i heq
    exact absurd (List.cons.inj heq).1 h
  · rename_i heq
    exact absurd (List.cons.inj heq).1 h
  · rfl

theorem pieces_of_tag {cs rest : List Char} {t : Token} (h : tag? cs = some (t, rest)) :
    pieces cs = t :: pieces rest := by
  cases cs with
  | nil => contradiction
  | cons c cs =>
    rw [pieces]
    split
    · rename_i hsome
      obtain ⟨rfl, rfl⟩ := Prod.mk.inj (Option.some.inj (h.symm.trans hsome))
      rfl
    · rename_i hnone
      rw [h] at hnone
      contradiction

theorem pieces_cons_of_ne {c : Char} (h : c ≠ '<') (rest : List Char) :
    pieces (c :: rest) = pushText (String.singleton c) (pieces rest) := by
  rw [pieces]
  split
  · rename_i hsome
    rw [tag?_cons_of_ne h] at hsome
    contradiction
  · rfl

theorem pushText_append (a b : String) (tokens : List Token) :
    pushText (a ++ b) tokens = pushText a (pushText b tokens) := by
  cases tokens with
  | nil => by_cases hb : b = "" <;> simp [pushText, hb]
  | cons t rest =>
    cases t with
    | text s => simp [pushText, String.append_assoc]
    | start name as => by_cases hb : b = "" <;> simp [pushText, hb]
    | stop name => by_cases hb : b = "" <;> simp [pushText, hb]

theorem pushText_empty (tokens : List Token) : pushText "" tokens = tokens := by
  cases tokens with
  | nil => rfl
  | cons t rest => cases t <;> simp [pushText]

/-- Text without an opening angle bracket is read as text. -/
theorem pieces_append_of_not_mem {cs : List Char} (h : '<' ∉ cs) (rest : List Char) :
    pieces (cs ++ rest) = pushText (String.ofList cs) (pieces rest) := by
  induction cs with
  | nil => rw [List.nil_append, String.ofList_nil, pushText_empty]
  | cons c cs ih =>
    rw [List.mem_cons, not_or] at h
    have hcons : String.ofList (c :: cs) = String.singleton c ++ String.ofList cs := by
      rw [← List.singleton_append, String.ofList_append]
      rfl
    rw [List.cons_append, pieces_cons_of_ne (Ne.symm h.1), ih h.2, hcons, pushText_append]

theorem unescape_escape_append (s t : String) :
    Text.unescape (Text.escape s ++ t) = s ++ Text.unescape t := by
  rw [Text.unescape, String.toList_append, Text.toList_escape,
    Text.unescapeChars_escapeChars_append, String.ofList_append, String.ofList_toList]
  rfl

theorem escape_eq_empty_iff {s : String} : Text.escape s = "" ↔ s = "" := by
  constructor
  · intro h
    rw [← unescape_escape s, h]
    rfl
  · rintro rfl
    rfl

/-- Reading the entities of a joined text reads those of the part in front and keeps the rest. -/
theorem map_decode_pushText (s : String) (tokens : List Token) :
    (pushText (Text.escape s) tokens).map Token.decode =
      pushText s (tokens.map Token.decode) := by
  cases tokens with
  | nil => by_cases hs : s = "" <;>
      simp [pushText, hs, escape_eq_empty_iff, Token.decode, unescape_escape]
  | cons t rest =>
    cases t with
    | text t => simp [pushText, Token.decode, unescape_escape_append]
    | start name as => by_cases hs : s = "" <;>
        simp [pushText, hs, escape_eq_empty_iff, Token.decode, unescape_escape]
    | stop name => by_cases hs : s = "" <;>
        simp [pushText, hs, escape_eq_empty_iff, Token.decode, unescape_escape]

theorem pieces_start {name : String} {as : List Attribute} (hname : isName name = true)
    (has : ∀ a ∈ as, isName a.key = true) (rest : List Char) :
    pieces (("<" ++ name ++ writeAttributes false as ++ ">").toList ++ rest) =
      .start name as :: pieces rest := by
  have hwrite : ("<" ++ name ++ writeAttributes false as ++ ">").toList ++ rest =
      '<' :: (name.toList ++ ((writeAttributes false as).toList ++ '>' :: rest)) := by simp
  rw [hwrite, pieces_of_tag (tag?_start hname has rest)]

theorem pieces_stop {name : String} (hname : isName name = true) (rest : List Char) :
    pieces (("</" ++ name ++ ">").toList ++ rest) = .stop name :: pieces rest := by
  have hwrite : ("</" ++ name ++ ">").toList ++ rest =
      '<' :: '/' :: (name.toList ++ '>' :: rest) := by simp
  rw [hwrite, pieces_of_tag (tag?_stop hname rest)]

theorem pieces_escape (s : String) (rest : List Char) :
    pieces ((Text.escape s).toList ++ rest) = pushText (Text.escape s) (pieces rest) := by
  rw [pieces_append_of_not_mem (angle_notMem_escape s), String.ofList_toList]

/-- One step of the reader, whatever stands behind the event. -/
theorem Event.Shows.read_append {e : Event} {t : Token} (h : e.Shows t) (rest : List Char) :
    (pieces ((e.write false).toList ++ rest)).map Token.decode =
      push t ((pieces rest).map Token.decode) := by
  cases h with
  | start hname has =>
    rw [Event.write, pieces_start hname has]
    rfl
  -- Outside XHTML an empty element has no mark of its own, only no end tag.
  | empty hname has =>
    rw [Event.write, if_neg Bool.false_ne_true, pieces_start hname has]
    rfl
  | stop hname =>
    rw [Event.write, pieces_stop hname]
    rfl
  | text s =>
    rw [Event.write, pieces_escape, map_decode_pushText]
    rfl

/-- The reader of written events sees their tokens, with adjacent texts joined. -/
theorem tokenize_write {events : List Event} {tokens : List Token}
    (h : List.Forall₂ Event.Shows events tokens) :
    tokenize (String.join (events.map (·.write false))) = mergeTexts tokens := by
  unfold tokenize
  -- From the front: the text behind the first event is that of the others.
  induction h with
  | nil => simp [pieces, mergeTexts]
  | @cons e t events tokens he hrest ih =>
    rw [List.map_cons, String.join_cons, String.toList_append, he.read_append, ih]
    rfl

end LayeredSite.Markup
