import LayeredSite.Proofs.Reader.Grammar

namespace LayeredSite.Form

theorem lexemesAll_append (a b : List Form) :
    lexemesAll (a ++ b) = lexemesAll a ++ lexemesAll b := by
  induction a with
  | nil => rfl
  | cons f a ih => rw [List.cons_append, lexemesAll, lexemesAll, ih, List.append_assoc]

def unpair : List (Form × Form) → List Form
  | [] => []
  | (k, v) :: rest => k :: v :: unpair rest

theorem lexemesPairs_eq (pairs : List (Form × Form)) :
    lexemesPairs pairs = lexemesAll (unpair pairs) := by
  induction pairs with
  | nil => rfl
  | cons e pairs ih => rw [lexemesPairs, unpair, lexemesAll, lexemesAll, ih]

theorem pairUp_unpair (pairs : List (Form × Form)) : pairUp (unpair pairs) = some pairs := by
  induction pairs with
  | nil => rfl
  | cons e pairs ih => rw [unpair, pairUp, ih, Option.map_some]

theorem unpair_of_pairUp {items : List Form} {pairs : List (Form × Form)}
    (h : pairUp items = some pairs) : unpair pairs = items := by
  fun_induction pairUp items generalizing pairs with
  | case1 => exact Option.some.inj h ▸ rfl
  | case2 k v rest ih =>
    obtain ⟨more, hm, rfl⟩ := Option.map_eq_some_iff.mp h
    rw [unpair, ih hm]
  | case3 => simp at h

mutual

theorem lexemes_bare : (f : Form) → (bare f).lexemes = f.lexemes
  | .literal _ _ => rfl
  | .symbol _ _ => rfl
  | .call _ items => by rw [bare, lexemes, lexemesAll_bare items, lexemes]
  | .vector _ items => by rw [bare, lexemes, lexemesAll_bare items, lexemes]
  | .map _ pairs => by rw [bare, lexemes, lexemesPairs_bare pairs, lexemes]

theorem lexemesAll_bare : (fs : List Form) → lexemesAll (bareAll fs) = lexemesAll fs
  | [] => rfl
  | f :: rest => by rw [bareAll, lexemesAll, lexemes_bare f, lexemesAll_bare rest, lexemesAll]

theorem lexemesPairs_bare :
    (pairs : List (Form × Form)) → lexemesPairs (barePairs pairs) = lexemesPairs pairs
  | [] => rfl
  | (k, v) :: rest => by
    rw [barePairs, lexemesPairs, lexemes_bare k, lexemes_bare v, lexemesPairs_bare rest,
      lexemesPairs]

end

theorem lexemes_enclose {b : Bracket} {p : Position} {items : List Form} {form : Form}
    (h : enclose b p items = .ok form) :
    form.lexemes = .opener b :: (lexemesAll items ++ [.closer b]) := by
  unfold enclose at h
  split at h
  · exact Except.ok.inj h ▸ rfl
  · exact Except.ok.inj h ▸ rfl
  · split at h
    · rename_i pairs hp
      obtain rfl := Except.ok.inj h
      rw [lexemes, lexemesPairs_eq, unpair_of_pairUp hp]
    · simp at h

/-- The lexemes that have led to a level and the levels around it. -/
def context : List Form → List Frame → List Lexeme
  | level, [] => lexemesAll level.reverse
  | level, frame :: outer =>
    context frame.before outer ++ .opener frame.bracket :: lexemesAll level.reverse

theorem context_cons (f : Form) (level : List Form) (outer : List Frame) :
    context (f :: level) outer = context level outer ++ f.lexemes := by
  have hlevel : lexemesAll (f :: level).reverse = lexemesAll level.reverse ++ f.lexemes := by
    rw [List.reverse_cons, lexemesAll_append, lexemesAll, lexemesAll, List.append_nil]
  cases outer with
  | nil => exact hlevel
  | cons frame outer => rw [context, hlevel, context, List.append_assoc, List.cons_append]

/-- Assembled forms have the lexemes that they were assembled from. -/
theorem lexemes_of_assemble {fault : Option ReadError} {ts : List Token} {level : List Form}
    {outer : List Frame} {forms : List Form} (h : assemble fault level outer ts = .ok forms) :
    fault = none ∧ lexemesAll forms = context level outer ++ ts.map Token.lexeme := by
  -- The lexemes of the tokens that are gone are those of the level and the levels around it.
  induction ts generalizing level outer with
  | nil =>
    unfold assemble at h
    split at h
    · simp at h
    · simp at h
    · refine ⟨rfl, ?_⟩
      rw [← Except.ok.inj h, context, List.map_nil, List.append_nil]
  | cons t ts ih =>
    rw [assemble] at h
    rw [List.map_cons, ← List.singleton_append, ← List.append_assoc]
    split at h
    · rename_i l hl
      obtain ⟨hf, he⟩ := ih h
      refine ⟨hf, ?_⟩
      rw [he, context_cons, hl]
      cases l <;> rfl
    · rename_i b hb
      obtain ⟨hf, he⟩ := ih h
      refine ⟨hf, ?_⟩
      rw [he, context, hb, List.reverse_nil, lexemesAll]
    · rename_i b hb
      split at h
      · simp at h
      · rename_i frame outer
        -- Only the closing bracket of the innermost level goes on.
        split at h
        · rename_i hbracket
          cases hform : enclose b frame.position level.reverse with
          | error e => simp [hform, bind, Except.bind] at h
          | ok form =>
            rw [hform] at h
            obtain ⟨hf, he⟩ := ih h
            refine ⟨hf, ?_⟩
            rw [he, context_cons, lexemes_enclose hform, context, hbracket, hb]
            simp
        · simp at h

theorem assemble_opener {t : Token} {b : Bracket} (h : t.lexeme = .opener b)
    (fault : Option ReadError) (level : List Form) (outer : List Frame) (ts : List Token) :
    assemble fault level outer (t :: ts) =
      assemble fault [] (⟨b, t.position, level⟩ :: outer) ts := by
  rw [assemble, h]

theorem assemble_closer {t : Token} {b : Bracket} (h : t.lexeme = .closer b)
    (fault : Option ReadError) (level : List Form) (before : List Form) (p : Position)
    (outer : List Frame) (ts : List Token) {form : Form}
    (he : enclose b p level.reverse = .ok form) :
    assemble fault level (⟨b, p, before⟩ :: outer) (t :: ts) =
      assemble fault (form :: before) outer ts := by
  rw [assemble, h]
  simp only [he, if_true]
  rfl

/-- The first tokens are assembled into forms that come on the level, the last first. -/
def Assembles (ts : List Token) (forms : List Form) (rest : List Token) : Prop :=
  ∀ fault level outer,
    assemble fault level outer ts = assemble fault (forms.reverse ++ level) outer rest

theorem Assembles.append {a b c : List Token} {fs gs : List Form} (h : Assembles a fs b)
    (h' : Assembles b gs c) : Assembles a (fs ++ gs) c := by
  intro fault level outer
  rw [h, h', List.reverse_append, List.append_assoc]

/-- A bracket, the tokens of forms and the other bracket are assembled into one form. -/
theorem Assembles.enclose {b : Bracket} {opener closer : Token} {ts rest : List Token}
    {items : List Form} {form : Form} (ho : opener.lexeme = .opener b)
    (hc : closer.lexeme = .closer b) (h : Assembles ts items (closer :: rest))
    (he : Form.enclose b opener.position items = .ok form) :
    Assembles (opener :: ts) [form] rest := by
  intro fault level outer
  rw [assemble_opener ho, h, List.append_nil,
    assemble_closer hc _ _ _ _ _ _ (by rw [List.reverse_reverse]; exact he)]
  rfl

/-- Tokens that begin with the lexemes of some forms are assembled into these forms, up to
positions, and the tokens of the lexemes behind them are left. -/
def Yields (ts : List Token) (forms : List Form) (ls : List Lexeme) : Prop :=
  ∃ read rest, bareAll read = bareAll forms ∧ rest.map Token.lexeme = ls ∧ Assembles ts read rest

theorem Yields.append {ts : List Token} {fs gs : List Form} {ls ls' : List Lexeme}
    (h : Yields ts fs ls) (h' : ∀ rest, rest.map Token.lexeme = ls → Yields rest gs ls') :
    Yields ts (fs ++ gs) ls' := by
  have happ (a b : List Form) : bareAll (a ++ b) = bareAll a ++ bareAll b := by
    induction a with
    | nil => rfl
    | cons f a ih => rw [List.cons_append, bareAll, bareAll, ih, List.cons_append]
  obtain ⟨read, rest, hread, hrest, ha⟩ := h
  obtain ⟨read', rest', hread', hrest', ha'⟩ := h' rest hrest
  exact ⟨read ++ read', rest', by rw [happ, happ, hread, hread'], hrest', ha.append ha'⟩

theorem yields_leaf {ts : List Token} {l : Leaf} {ls : List Lexeme} {f : Form}
    (h : ts.map Token.lexeme = .leaf l :: ls) (hf : ∀ p, bare (l.toForm p) = bare f) :
    Yields ts [f] ls := by
  obtain ⟨t, rest, rfl, ht, hrest⟩ := List.map_eq_cons_iff.mp h
  refine ⟨[l.toForm t.position], rest, ?_, hrest, ?_⟩
  · rw [bareAll, hf, bareAll, bareAll, bareAll]
  · intro fault level outer
    rw [assemble, ht]
    rfl

theorem yields_bracketed {b : Bracket} {ts : List Token} {items : List Form} {inner : List Lexeme}
    {ls : List Lexeme} {f : Form}
    (h : ts.map Token.lexeme = .opener b :: (inner ++ [.closer b]) ++ ls)
    (hi : ∀ rest, rest.map Token.lexeme = inner ++ .closer b :: ls →
      Yields rest items (.closer b :: ls))
    (hf : ∀ p read, bareAll read = bareAll items → ∃ form, enclose b p read = .ok form ∧
      bare form = bare f) :
    Yields ts [f] ls := by
  rw [List.cons_append, List.append_assoc, List.singleton_append] at h
  obtain ⟨opener, rest, rfl, ho, hrest⟩ := List.map_eq_cons_iff.mp h
  obtain ⟨read, rest', hread, hrest', ha⟩ := hi rest hrest
  obtain ⟨closer, rest'', rfl, hc, hrest''⟩ := List.map_eq_cons_iff.mp hrest'
  obtain ⟨form, he, hform⟩ := hf opener.position read hread
  refine ⟨[form], rest'', ?_, hrest'', ha.enclose ho hc he⟩
  rw [bareAll, hform, bareAll, bareAll, bareAll]

theorem exists_pairs {read : List Form} {pairs : List (Form × Form)}
    (h : bareAll read = bareAll (unpair pairs)) :
    ∃ read', read = unpair read' ∧ barePairs read' = barePairs pairs := by
  induction pairs generalizing read with
  | nil =>
    cases read with
    | nil => exact ⟨[], rfl, rfl⟩
    | cons f read => simp [bareAll, unpair] at h
  | cons e pairs ih =>
    obtain ⟨k, v⟩ := e
    match read, h with
    | [], h => simp [bareAll, unpair] at h
    | [f], h => simp [bareAll, unpair] at h
    | k' :: v' :: read, h =>
      simp only [bareAll, unpair, List.cons.injEq] at h
      obtain ⟨read', rfl, hb⟩ := ih h.2.2
      exact ⟨(k', v') :: read', rfl, by rw [barePairs, barePairs, h.1, h.2.1, hb]⟩

mutual

theorem yields_form : (f : Form) → ∀ {ts : List Token} {ls : List Lexeme},
    ts.map Token.lexeme = f.lexemes ++ ls → Yields ts [f] ls
  | .literal _ _, _, _, h => yields_leaf h fun _ => rfl
  | .symbol _ _, _, _, h => yields_leaf h fun _ => rfl
  | .call _ items, _, _, h => by
    refine yields_bracketed h (fun rest hr => yields_forms items hr) ?_
    intro p read hread
    exact ⟨.call p read, rfl, by rw [bare, bare, hread]⟩
  | .vector _ items, _, _, h => by
    refine yields_bracketed h (fun rest hr => yields_forms items hr) ?_
    intro p read hread
    exact ⟨.vector p read, rfl, by rw [bare, bare, hread]⟩
  | .map _ pairs, _, _, h => by
    refine yields_bracketed h (fun rest hr => yields_pairs pairs hr) ?_
    intro p read hread
    obtain ⟨read', rfl, hb⟩ := exists_pairs hread
    exact ⟨.map p read', by rw [enclose, pairUp_unpair], by rw [bare, bare, hb]⟩

theorem yields_forms : (fs : List Form) → ∀ {ts : List Token} {ls : List Lexeme},
    ts.map Token.lexeme = lexemesAll fs ++ ls → Yields ts fs ls
  | [], ts, _, h => ⟨[], ts, rfl, h, fun _ _ _ => rfl⟩
  | f :: rest, _, _, h => by
    rw [lexemesAll, List.append_assoc] at h
    exact (yields_form f h).append fun ts hts => yields_forms rest hts

theorem yields_pairs : (pairs : List (Form × Form)) → ∀ {ts : List Token} {ls : List Lexeme},
    ts.map Token.lexeme = lexemesPairs pairs ++ ls → Yields ts (unpair pairs) ls
  | [], ts, _, h => ⟨[], ts, rfl, h, fun _ _ _ => rfl⟩
  | (k, v) :: rest, _, _, h => by
    rw [lexemesPairs, List.append_assoc, List.append_assoc] at h
    refine (yields_form k h).append fun ts hts => ?_
    exact (yields_form v hts).append fun ts' hts' => yields_pairs rest hts'

end

/-- Forms are assembled from their lexemes. -/
theorem exists_assemble {ts : List Token} {forms : List Form}
    (h : ts.map Token.lexeme = lexemesAll forms) :
    ∃ read, assemble none [] [] ts = .ok read ∧ bareAll read = bareAll forms := by
  obtain ⟨read, rest, hread, hrest, ha⟩ := yields_forms forms (h.trans (List.append_nil _).symm)
  obtain rfl := List.map_eq_nil_iff.mp hrest
  refine ⟨read, ?_, hread⟩
  rw [ha, List.append_nil]
  simp [assemble]

end LayeredSite.Form
