import LayeredSite.Proofs.Markup.ReadBack

namespace LayeredSite.Markup

inductive XhtmlTag
  | start (name : String) (attributes : List (String × String))
  | empty (name : String) (attributes : List (String × String))
  | stop (name : String)
deriving DecidableEq, Repr

inductive XhtmlToken
  | tag (t : XhtmlTag)
  | text (s : String)
deriving DecidableEq, Repr

def pair? : List Char → Option ((String × String) × List Char)
  | ' ' :: rest =>
    match attribute? rest with
    | some (.pair key value, rest) => some ((key, value), rest)
    | _ => none
  | _ => none

theorem pair?_length {cs rest : List Char} {a : String × String}
    (h : pair? cs = some (a, rest)) : rest.length < cs.length := by
  unfold pair? at h
  split at h
  · split at h
    · rename_i ha
      obtain ⟨-, rfl⟩ := Prod.mk.inj (Option.some.inj h)
      exact Nat.lt_succ_of_lt (attribute?_length ha)
    · contradiction
  · contradiction

def pairs (cs : List Char) : List (String × String) × List Char :=
  match _ : pair? cs with
  | none => ([], cs)
  | some (a, rest) => (a :: (pairs rest).1, (pairs rest).2)
termination_by cs.length
decreasing_by all_goals exact pair?_length ‹_›

theorem pairs_of_none {cs : List Char} (h : pair? cs = none) : pairs cs = ([], cs) := by
  rw [pairs]
  split
  · rfl
  · rename_i hsome
    rw [h] at hsome
    contradiction

theorem pairs_of_some {cs rest : List Char} {a : String × String}
    (h : pair? cs = some (a, rest)) : pairs cs = (a :: (pairs rest).1, (pairs rest).2) := by
  rw [pairs]
  split
  · rename_i hnone
    rw [h] at hnone
    contradiction
  · rename_i hsome
    obtain ⟨rfl, rfl⟩ := Prod.mk.inj (Option.some.inj (h.symm.trans hsome))
    rfl

theorem pairs_length (cs : List Char) : (pairs cs).2.length ≤ cs.length := by
  induction cs using pairs.induct with
  | case1 cs h => rw [pairs_of_none h]
  | case2 cs a rest h ih =>
    rw [pairs_of_some h]
    exact Nat.le_of_lt (Nat.lt_of_le_of_lt ih (pair?_length h))

def xhtmlTag? : List Char → Option (XhtmlTag × List Char)
  | '/' :: rest =>
    match name? rest with
    | some (name, '>' :: rest) => some (.stop name, rest)
    | _ => none
  | cs =>
    match name? cs with
    | none => none
    | some (name, rest) =>
      match pairs rest with
      | (as, '>' :: rest) => some (.start name as, rest)
      | (as, ' ' :: '/' :: '>' :: rest) => some (.empty name as, rest)
      | _ => none

theorem xhtmlTag?_length {cs rest : List Char} {t : XhtmlTag}
    (h : xhtmlTag? cs = some (t, rest)) : rest.length < cs.length := by
  unfold xhtmlTag? at h
  split at h
  · split at h
    · rename_i hname
      obtain ⟨-, rfl⟩ := Prod.mk.inj (Option.some.inj h)
      have hlen := name?_length hname
      simp only [List.length_cons] at hlen ⊢
      omega
    · contradiction
  · split at h
    · contradiction
    · rename_i rest' hname
      have hlen := name?_length hname
      have hpairs := pairs_length rest'
      split at h
      · rename_i he
        obtain ⟨-, rfl⟩ := Prod.mk.inj (Option.some.inj h)
        rw [he, List.length_cons] at hpairs
        omega
      · rename_i he
        obtain ⟨-, rfl⟩ := Prod.mk.inj (Option.some.inj h)
        simp only [he, List.length_cons] at hpairs
        omega
      · contradiction

/-- The tokens of a text; none if something in it is not as the reader wants it. -/
def readXhtml (cs : List Char) : Option (List XhtmlToken) :=
  match cs with
  | [] => some []
  | c :: rest =>
    if c = '<' then
      match _ : xhtmlTag? rest with
      | none => none
      | some (t, rest') => (readXhtml rest').map (.tag t :: ·)
    else
      let s := Text.unescape (String.ofList (c :: rest.takeWhile (· != '<')))
      (readXhtml (rest.dropWhile (· != '<'))).map (.text s :: ·)
termination_by cs.length
decreasing_by
  · exact Nat.lt_succ_of_lt (xhtmlTag?_length ‹_›)
  · exact Nat.lt_succ_of_le (List.dropWhile_sublist _).length_le

theorem readXhtml_angle (cs : List Char) :
    readXhtml ('<' :: cs) =
      (xhtmlTag? cs).bind fun r => (readXhtml r.2).map (.tag r.1 :: ·) := by
  rw [readXhtml, if_pos rfl]
  split
  · rename_i hnone
    rw [hnone]
    rfl
  · rename_i hsome
    rw [hsome]
    rfl

theorem readXhtml_tag {cs rest : List Char} {t : XhtmlTag} (h : xhtmlTag? cs = some (t, rest)) :
    readXhtml ('<' :: cs) = (readXhtml rest).map (.tag t :: ·) := by
  rw [readXhtml_angle, h]
  rfl

theorem readXhtml_text {c : Char} (h : c ≠ '<') (rest : List Char) :
    readXhtml (c :: rest) = (readXhtml (rest.dropWhile (· != '<'))).map
      (.text (Text.unescape (String.ofList (c :: rest.takeWhile (· != '<')))) :: ·) := by
  rw [readXhtml, if_neg h]

def XhtmlToken.pushText (s : String) : List XhtmlToken → List XhtmlToken
  | .text t :: rest => .text (s ++ t) :: rest
  | rest => if s = "" then rest else .text s :: rest

def XhtmlToken.push : XhtmlToken → List XhtmlToken → List XhtmlToken
  | .text s => pushText s
  | t => (t :: ·)

/-- An attribute as it is read: the entities in the value of a flag are read too. -/
def Attribute.read : Attribute → String × String
  | .flag key => (key, Text.unescape key)
  | .pair key value => (key, value)

def Event.xhtml : Event → XhtmlToken
  | .start name as => .tag (.start name (as.map Attribute.read))
  | .empty name as => .tag (.empty name (as.map Attribute.read))
  | .stop name => .tag (.stop name)
  | .text s => .text s
  | .raw s => .text s

section Attributes

variable {rest : List Char}

theorem pair?_valued {key value : String} (hkey : isName key = true) (h : '"' ∉ value.toList) :
    pair? ((valued key value).toList ++ rest) = some ((key, Text.unescape value), rest) := by
  have hwrite : (valued key value).toList ++ rest =
      ' ' :: (key.toList ++ '=' :: '"' :: (value.toList ++ '"' :: rest)) := by simp [valued]
  have hequals : ∀ c ∈ ('=' :: '"' :: (value.toList ++ '"' :: rest)).head?, endsName c = true := by
    intro c hc
    obtain rfl := Option.some.inj hc
    rfl
  rw [hwrite, pair?, attribute?, name?_append hkey hequals]
  simp only [value?_append h rest]

theorem pair?_write {a : Attribute} (h : isName a.key = true) :
    pair? ((a.write true).toList ++ rest) = some (a.read, rest) := by
  cases a with
  | flag key =>
    have hquote : '"' ∉ key.toList := by
      intro hq
      have hbreaks := (isName_iff.mp h).2 _ hq
      simp [breaksName] at hbreaks
    exact pair?_valued h hquote
  | pair key value =>
    have hread : pair? ((valued key (Text.escape value)).toList ++ rest) = _ :=
      pair?_valued h (quote_notMem_escape value)
    rwa [unescape_escape] at hread

theorem pairs_writeAttributes {as : List Attribute} (h : ∀ a ∈ as, isName a.key = true)
    (hrest : pair? rest = none) :
    pairs ((writeAttributes true as).toList ++ rest) = (as.map Attribute.read, rest) := by
  induction as with
  | nil => simpa [writeAttributes] using pairs_of_none hrest
  | cons a as ih =>
    obtain ⟨ha, has⟩ := List.forall_mem_cons.mp h
    have hsplit : (writeAttributes true (a :: as)).toList ++ rest =
        (a.write true).toList ++ ((writeAttributes true as).toList ++ rest) := by
      simp [writeAttributes]
    rw [hsplit, pairs_of_some (pair?_write ha), ih has]
    rfl

/-- Attributes with a value are written behind a blank. -/
theorem endsName_writeAttributes (as : List Attribute) (hrest : ∀ c ∈ rest.head?, endsName c) :
    ∀ c ∈ ((writeAttributes true as).toList ++ rest).head?, endsName c = true := by
  cases as with
  | nil => simpa [writeAttributes] using hrest
  | cons a as =>
    intro c hc
    cases a <;>
    · simp [writeAttributes, Attribute.write, valued] at hc
      subst hc
      rfl

end Attributes

section Tags

variable {name : String} {as : List Attribute} {rest : List Char}

/-- A name does not begin with a slash, so a tag with a name is no end tag. -/
theorem xhtmlTag?_of_name (h : isName name = true) {cs : List Char} :
    xhtmlTag? (name.toList ++ cs) =
      match name? (name.toList ++ cs) with
      | none => none
      | some (name, rest) =>
        match pairs rest with
        | (as, '>' :: rest) => some (.start name as, rest)
        | (as, ' ' :: '/' :: '>' :: rest) => some (.empty name as, rest)
        | _ => none := by
  obtain ⟨c, rest, hcs⟩ := List.exists_cons_of_ne_nil (isName_iff.mp h).1
  have hslash : c ≠ '/' := by
    rintro rfl
    have hmem : '/' ∈ name.toList := hcs ▸ List.mem_cons_self
    exact absurd (not_endsName_of_mem h hmem) (by decide)
  rw [hcs, List.cons_append, xhtmlTag?]
  intro rest' heq
  exact hslash (List.cons.inj heq).1

theorem xhtmlTag?_start (hname : isName name = true) (has : ∀ a ∈ as, isName a.key = true) :
    xhtmlTag? (name.toList ++ ((writeAttributes true as).toList ++ '>' :: rest)) =
      some (.start name (as.map Attribute.read), rest) := by
  have hends : ∀ c ∈ ('>' :: rest).head?, endsName c = true := by
    intro c hc
    obtain rfl := Option.some.inj hc
    rfl
  have hread := name?_append hname (endsName_writeAttributes as hends)
  have hend : pair? ('>' :: rest) = none := rfl
  have hpairs := pairs_writeAttributes has hend
  rw [xhtmlTag?_of_name hname, hread]
  simp only [hpairs]

theorem xhtmlTag?_empty (hname : isName name = true) (has : ∀ a ∈ as, isName a.key = true) :
    xhtmlTag? (name.toList ++ ((writeAttributes true as).toList ++ ' ' :: '/' :: '>' :: rest)) =
      some (.empty name (as.map Attribute.read), rest) := by
  have hends : ∀ c ∈ (' ' :: '/' :: '>' :: rest).head?, endsName c = true := by
    intro c hc
    obtain rfl := Option.some.inj hc
    rfl
  have hread := name?_append hname (endsName_writeAttributes as hends)
  have hend : pair? (' ' :: '/' :: '>' :: rest) = none := rfl
  have hpairs := pairs_writeAttributes has hend
  rw [xhtmlTag?_of_name hname, hread]
  simp only [hpairs]

theorem xhtmlTag?_stop (hname : isName name = true) :
    xhtmlTag? ('/' :: (name.toList ++ '>' :: rest)) = some (.stop name, rest) := by
  have hends : ∀ c ∈ ('>' :: rest).head?, endsName c = true := by
    intro c hc
    obtain rfl := Option.some.inj hc
    rfl
  rw [xhtmlTag?, name?_append hname hends]
  rfl

end Tags

theorem readXhtml_text_append {cs : List Char} (h : '<' ∉ cs) (hne : cs ≠ [])
    (rest : List Char) :
    readXhtml (cs ++ rest) = (readXhtml (rest.dropWhile (· != '<'))).map
      (.text (Text.unescape (String.ofList (cs ++ rest.takeWhile (· != '<')))) :: ·) := by
  obtain ⟨c, cs, rfl⟩ := List.exists_cons_of_ne_nil hne
  rw [List.mem_cons, not_or] at h
  have hall : ∀ d ∈ cs, (d != '<') = true := by
    intro d hd
    simpa using fun he : d = '<' => h.2 (he ▸ hd)
  rw [List.cons_append, readXhtml_text (Ne.symm h.1), List.takeWhile_append_of_pos hall,
    List.dropWhile_append_of_pos hall, List.cons_append]

theorem XhtmlToken.pushText_empty (tokens : List XhtmlToken) : pushText "" tokens = tokens := by
  cases tokens with
  | nil => rfl
  | cons t rest => cases t <;> simp [pushText]

/-- An escaped text is read as text, together with the text behind it. -/
theorem readXhtml_escape_append (s : String) (rest : List Char) :
    readXhtml ((Text.escape s).toList ++ rest) =
      (readXhtml rest).map (XhtmlToken.pushText s) := by
  by_cases hs : s = ""
  · subst hs
    have hid : XhtmlToken.pushText "" = id := funext XhtmlToken.pushText_empty
    rw [hid, Option.map_id]
    rfl
  · have hne : (Text.escape s).toList ≠ [] := by
      simpa [String.toList_eq_nil_iff, escape_eq_empty_iff] using hs
    have hjoin (cs : List Char) :
        Text.unescape (String.ofList ((Text.escape s).toList ++ cs)) =
          s ++ Text.unescape (String.ofList cs) := by
      rw [String.ofList_append, String.ofList_toList, unescape_escape_append]
    rw [readXhtml_text_append (angle_notMem_escape s) hne, hjoin]
    cases rest with
    | nil => simp [readXhtml, XhtmlToken.pushText, hs, Text.unescape, Text.unescapeChars]
    | cons d rest =>
      by_cases hd : d = '<'
      -- A tag stands behind the text, so no other text joins it.
      · subst hd
        have hdrop : ('<' :: rest).dropWhile (· != '<') = '<' :: rest := by simp
        rw [hdrop, readXhtml_angle]
        rcases xhtmlTag? rest with _ | ⟨t, last⟩
        · rfl
        · simp [XhtmlToken.pushText, hs, Text.unescape, Text.unescapeChars, Function.comp_def]
      · simp [readXhtml_text hd, hd, XhtmlToken.pushText, Function.comp_def]

/-- One step of the reader, whatever stands behind the event. -/
theorem Event.Shows.readXhtml_append {e : Event} {t : Token} (h : e.Shows t)
    (rest : List Char) :
    readXhtml ((e.write true).toList ++ rest) =
      (readXhtml rest).map (XhtmlToken.push e.xhtml) := by
  cases h with
  | @start name as hname has =>
    have hwrite : (Event.write true (.start name as)).toList ++ rest =
        '<' :: (name.toList ++ ((writeAttributes true as).toList ++ '>' :: rest)) := by
      simp [Event.write]
    rw [hwrite, readXhtml_tag (xhtmlTag?_start hname has)]
    rfl
  | @empty name as hname has =>
    have hwrite : (Event.write true (.empty name as)).toList ++ rest =
        '<' :: (name.toList ++
          ((writeAttributes true as).toList ++ ' ' :: '/' :: '>' :: rest)) := by
      simp [Event.write]
    rw [hwrite, readXhtml_tag (xhtmlTag?_empty hname has)]
    rfl
  | @stop name hname =>
    have hwrite : (Event.write true (.stop name)).toList ++ rest =
        '<' :: '/' :: (name.toList ++ '>' :: rest) := by simp [Event.write]
    rw [hwrite, readXhtml_tag (xhtmlTag?_stop hname)]
    rfl
  | text s => exact readXhtml_escape_append s rest

/-- The strict reader sees the tokens of written events, with adjacent texts joined. -/
theorem readXhtml_write {events : List Event} (h : ∀ e ∈ events, ∃ t, e.Shows t) :
    readXhtml (String.join (events.map (·.write true))).toList =
      some ((events.map Event.xhtml).foldr XhtmlToken.push []) := by
  induction events with
  | nil => simp [readXhtml]
  | cons e rest ih =>
    obtain ⟨⟨t, he⟩, hrest⟩ := List.forall_mem_cons.mp h
    rw [List.map_cons, String.join_cons, String.toList_append, he.readXhtml_append, ih hrest]
    rfl

end LayeredSite.Markup
