import LayeredSite.Proofs.Cells.Stored
import LayeredSite.Proofs.Markup.Filling

namespace LayeredSite.Markup

/-- A name that can neither end a tag nor begin another attribute. -/
structure Writable (name : String) : Prop where
  nonempty : name ≠ ""
  free : ∀ c ∈ name.toList, ¬ Text.isBlank c ∧ ¬ Text.isControl c ∧
    c ∉ ['"', '\'', '=', '<', '>', '/']

structure Named (tag : String) (attrs : Fields Value) : Prop where
  element : Writable (Shorthand.ofTag tag).name
  keys : ∀ key ∈ attrs.keys, Writable key

/-- The first name of an element that cannot be written: its own, or that of an attribute. -/
inductive NameFault (tag : String) (attrs : Fields Value) : TemplateError → Prop
  | element : ¬ Writable (Shorthand.ofTag tag).name →
      NameFault tag attrs (.markup (.invalidTag tag))
  | key {before after : List String} {key : String} : Writable (Shorthand.ofTag tag).name →
      attrs.keys = before ++ key :: after → (∀ k ∈ before, Writable k) → ¬ Writable key →
      NameFault tag attrs (.markup (.invalidAttribute key (Shorthand.ofTag tag).name))

def isLeaf : Value → Bool
  | .list _ => false
  | .map _ => false
  | .node _ _ _ => false
  | .deferred _ => false
  | _ => true

variable {G G' : CellId → Outcome → Prop}

/-- A value without fault where deferred values give certain outcomes. -/
inductive Sound (G : CellId → Outcome → Prop) : Value → Prop
  | leaf {v : Value} : isLeaf v → Sound G v
  | list {items : List Value} : (∀ v ∈ items, Sound G v) → Sound G (.list items)
  | node {tag : String} {attrs : Fields Value} {children : List Value} : Named tag attrs →
      Sound G (.list children) → Sound G (.node tag attrs children)
  | deferred {c : CellId} {v : Value} : G c (.ok v) → Sound G v → Sound G (.deferred c)

/-- The error of the first fault of a value, in document order. -/
inductive FirstFault (G : CellId → Outcome → Prop) : Value → TemplateError → Prop
  | map {fields : Fields Value} : FirstFault G (.map fields) (.markup .mapInMarkup)
  | name {tag : String} {attrs : Fields Value} {children : List Value} {e : TemplateError} :
      NameFault tag attrs e → FirstFault G (.node tag attrs children) e
  | inside {tag : String} {attrs : Fields Value} {children : List Value} {e : TemplateError} :
      Named tag attrs → FirstFault G (.list children) e → FirstFault G (.node tag attrs children) e
  | here {v : Value} {rest : List Value} {e : TemplateError} : FirstFault G v e →
      FirstFault G (.list (v :: rest)) e
  | later {v : Value} {rest : List Value} {e : TemplateError} : Sound G v →
      FirstFault G (.list rest) e → FirstFault G (.list (v :: rest)) e
  | failed {c : CellId} {e : TemplateError} : G c (.error e) → FirstFault G (.deferred c) e
  | behind {c : CellId} {v : Value} {e : TemplateError} : G c (.ok v) → FirstFault G v e →
      FirstFault G (.deferred c) e

section Names

variable {name tag element : String} {attrs fields : Fields Value} {e e' : TemplateError}

theorem breaksName_eq_false_iff {c : Char} :
    breaksName c = false ↔ ¬ Text.isBlank c ∧ ¬ Text.isControl c ∧
      c ∉ ['"', '\'', '=', '<', '>', '/'] := by
  simp [breaksName, and_assoc]

theorem isName_iff_writable : isName name = true ↔ Writable name := by
  rw [isName, Bool.and_eq_true, Bool.not_eq_true', Bool.not_eq_true', String.isEmpty_eq_false_iff,
    List.any_eq_false]
  constructor
  · rintro ⟨hempty, hfree⟩
    exact ⟨hempty, fun c hc => breaksName_eq_false_iff.mp (Bool.eq_false_iff.mpr (hfree c hc))⟩
  · rintro ⟨hempty, hfree⟩
    exact ⟨hempty, fun c hc => Bool.eq_false_iff.mp (breaksName_eq_false_iff.mpr (hfree c hc))⟩

theorem isName_eq_false_iff : isName name = false ↔ ¬ Writable name := by
  rw [← isName_iff_writable, Bool.not_eq_true]

def faulty (fields : Fields Value) : List String := fields.keys.filter fun key => !isName key

theorem faulty_eq_nil_iff : faulty fields = [] ↔ ∀ key ∈ fields.keys, Writable key := by
  simp [faulty, ← isName_iff_writable]

theorem faulty_eq_cons_iff {key : String} {others : List String} :
    faulty fields = key :: others ↔ ∃ before after, fields.keys = before ++ key :: after ∧
      (∀ k ∈ before, Writable k) ∧ ¬ Writable key ∧ after.filter (fun k => !isName k) = others := by
  simp [faulty, List.filter_eq_cons_iff, ← isName_iff_writable]

/-- An entry with a name of its own is no fault, nor does it cover one. -/
theorem faulty_insert {key : String} (h : isName key = true) (v : Value) (fields : Fields Value) :
    faulty (fields.insert key v) = faulty fields := by
  unfold faulty Fields.keys
  induction fields with
  | nil => simp [Fields.insert, h]
  | cons first rest ih =>
    obtain ⟨k, w⟩ := first
    rw [Fields.insert]
    split
    · simp [h]
    · split
      · rename_i hk
        simp [← hk, h]
      · rw [List.map_cons, List.map_cons, List.filter_cons, List.filter_cons, ih]

/-- The id and the classes of a tag have sound keys, so merging them leaves the faults as they
are. -/
theorem faulty_attributes {s : Shorthand} {cells cells' : Cells}
    (h : s.attributes attrs cells = some (fields, cells')) : faulty fields = faulty attrs := by
  have hid : faulty (s.withId attrs) = faulty attrs := by
    unfold Shorthand.withId
    split
    · exact faulty_insert (by decide) _ attrs
    · rfl
  by_cases hclasses : s.classes.isEmpty
  · unfold Shorthand.attributes at h
    simp only [if_pos hclasses] at h
    obtain ⟨rfl, -⟩ := Reading.pure_eq_some_iff.mp h
    exact hid
  · rw [attributes_of_classes hclasses] at h
    obtain ⟨explicit, between, -, h⟩ := Reading.bind_eq_some_iff.mp h
    obtain ⟨rfl, -⟩ := Reading.pure_eq_some_iff.mp h
    rw [faulty_insert (by decide), hid]

theorem not_nameFault_of_named (h : Named tag attrs) : ¬ NameFault tag attrs e := by
  intro hfault
  cases hfault with
  | element hname => exact hname h.element
  | key _ hkeys _ hkey =>
    exact hkey (h.keys _ (hkeys ▸ List.mem_append_right _ List.mem_cons_self))

theorem NameFault.unique (h : NameFault tag attrs e) (h' : NameFault tag attrs e') : e = e' := by
  cases h with
  | element hname =>
    cases h' with
    | element => rfl
    | key hname' => exact absurd hname' hname
  | key hname hkeys hbefore hkey =>
    cases h' with
    | element hname' => exact absurd hname hname'
    | key _ hkeys' hbefore' hkey' =>
      have hfirst := faulty_eq_cons_iff.mpr ⟨_, _, hkeys, hbefore, hkey, rfl⟩
      have hfirst' := faulty_eq_cons_iff.mpr ⟨_, _, hkeys', hbefore', hkey', rfl⟩
      obtain ⟨rfl, -⟩ := List.cons.inj (hfirst.symm.trans hfirst')
      rfl

end Names

section Judgements

variable {v : Value} {items : List Value} {e e' : TemplateError}

theorem sound_cons_iff : Sound G (.list (v :: items)) ↔ Sound G v ∧ Sound G (.list items) := by
  constructor
  · intro h
    cases h with
    | leaf h => cases h
    | list h => exact ⟨h v List.mem_cons_self, .list fun u hu => h u (List.mem_cons_of_mem _ hu)⟩
  · rintro ⟨hv, hitems⟩
    cases hitems with
    | leaf h => cases h
    | list h => exact .list (List.forall_mem_cons.mpr ⟨hv, h⟩)

theorem not_firstFault_of_sound (hG : ∀ c o o', G c o → G c o' → o = o') (h : FirstFault G v e) :
    ¬ Sound G v := by
  -- A cell has one outcome, so it is not sound in one reading and at fault in the other.
  induction h with
  | map =>
    intro hsound
    cases hsound with
    | leaf h => cases h
  | name hfault =>
    intro hsound
    cases hsound with
    | leaf h => cases h
    | node hnamed => exact not_nameFault_of_named hnamed hfault
  | inside _ _ ih =>
    intro hsound
    cases hsound with
    | leaf h => cases h
    | node _ hchildren => exact ih hchildren
  | here _ ih => exact fun hsound => ih (sound_cons_iff.mp hsound).1
  | later _ _ ih => exact fun hsound => ih (sound_cons_iff.mp hsound).2
  | failed hc =>
    intro hsound
    cases hsound with
    | leaf h => cases h
    | deferred hc' => cases hG _ _ _ hc hc'
  | behind hc _ ih =>
    intro hsound
    cases hsound with
    | leaf h => cases h
    | deferred hc' hv =>
      cases hG _ _ _ hc hc'
      exact ih hv

theorem FirstFault.unique (hG : ∀ c o o', G c o → G c o' → o = o') (h : FirstFault G v e)
    (h' : FirstFault G v e') : e = e' := by
  -- Different rules for one value exclude each other: all that is in front of a fault is sound.
  induction h with
  | map =>
    cases h'
    rfl
  | name hfault =>
    cases h' with
    | name hfault' => exact hfault.unique hfault'
    | inside hnamed => exact absurd hfault (not_nameFault_of_named hnamed)
  | inside hnamed _ ih =>
    cases h' with
    | name hfault' => exact absurd hfault' (not_nameFault_of_named hnamed)
    | inside _ hchildren => exact ih hchildren
  | here hfault ih =>
    cases h' with
    | here hfault' => exact ih hfault'
    | later hsound => exact absurd hsound (not_firstFault_of_sound hG hfault)
  | later hsound _ ih =>
    cases h' with
    | here hfault' => exact absurd hsound (not_firstFault_of_sound hG hfault')
    | later _ hrest => exact ih hrest
  | failed hc =>
    cases h' with
    | failed hc' =>
      cases hG _ _ _ hc hc'
      rfl
    | behind hc' => cases hG _ _ _ hc hc'
  | behind hc _ ih =>
    cases h' with
    | failed hc' => cases hG _ _ _ hc hc'
    | behind hc' hv =>
      cases hG _ _ _ hc hc'
      exact ih hv

/-- Other outcomes make no difference if they are the same for all cells of a class, to which the
outcomes of these cells refer again. -/
structure Carries (P : CellId → Prop) (G G' : CellId → Outcome → Prop) : Prop where
  same : ∀ c o, P c → G c o → G' c o
  closed : ∀ c o, P c → G c o → OutcomeIn P anything o

theorem Carries.of_forall (h : ∀ c o, G c o → G' c o) : Carries anything G G' :=
  ⟨fun c o _ => h c o, fun _ o _ _ => anyOutcome o⟩

variable {P : CellId → Prop}

theorem Sound.carry (hP : Carries P G G') (h : Sound G v) (hv : ∀ c ∈ v.cells, P c) :
    Sound G' v := by
  induction h with
  | leaf h => exact .leaf h
  | list _ ih => exact .list fun u hu => ih u hu fun c hc => hv c (Value.mem_cellsAll hu hc)
  | node hnamed _ ih => exact .node hnamed (ih fun c hc => hv c (List.mem_append_right _ hc))
  | @deferred c u hc _ ih =>
    have hcell := hv c (List.mem_singleton_self c)
    exact .deferred (hP.same c _ hcell hc) (ih (hP.closed c _ hcell hc))

theorem FirstFault.carry (hP : Carries P G G') (h : FirstFault G v e) (hv : ∀ c ∈ v.cells, P c) :
    FirstFault G' v e := by
  induction h with
  | map => exact .map
  | name hfault => exact .name hfault
  | inside hnamed _ ih => exact .inside hnamed (ih fun c hc => hv c (List.mem_append_right _ hc))
  | here _ ih => exact .here (ih fun c hc => hv c (List.mem_append_left _ hc))
  | later hsound _ ih =>
    exact .later (hsound.carry hP fun c hc => hv c (List.mem_append_left _ hc))
      (ih fun c hc => hv c (List.mem_append_right _ hc))
  | @failed c e hc => exact .failed (hP.same c _ (hv c (List.mem_singleton_self c)) hc)
  | @behind c u e hc _ ih =>
    have hcell := hv c (List.mem_singleton_self c)
    exact .behind (hP.same c _ hcell hc) (ih (hP.closed c _ hcell hc))

abbrev Judges {α : Type} (G : CellId → Outcome → Prop) (v : Value) :
    Except TemplateError α → Prop :=
  ResultIn (fun _ => Sound G v) (FirstFault G v)

variable {α : Type} {r : Except TemplateError α}

theorem Judges.carry (hP : Carries P G G') (h : Judges G v r) (hv : ∀ c ∈ v.cells, P c) :
    Judges G' v r := by
  cases r with
  | ok a => exact Sound.carry hP h hv
  | error e => exact FirstFault.carry hP h hv

theorem Judges.mono (hG : ∀ c o, G c o → G' c o) (h : Judges G v r) : Judges G' v r :=
  h.carry (.of_forall hG) fun _ _ => trivial

/-- The result says it exactly, if a cell has one outcome. -/
theorem Judges.iff (hG : ∀ c o o', G c o → G c o' → o = o') (h : Judges G v r) :
    ((∃ a, r = .ok a) ↔ Sound G v) ∧ ∀ e, r = .error e ↔ FirstFault G v e := by
  cases r with
  | ok a =>
    refine ⟨⟨fun _ => h, fun _ => ⟨a, rfl⟩⟩, fun e => ⟨fun he => (by cases he), fun hfault => ?_⟩⟩
    exact absurd h (not_firstFault_of_sound hG hfault)
  | error e' =>
    refine ⟨⟨fun ⟨a, ha⟩ => (by cases ha), fun hsound => ?_⟩,
      fun e => ⟨fun he => ?_, fun hfault => ?_⟩⟩
    · exact absurd hsound (not_firstFault_of_sound hG h)
    · cases he
      exact h
    · rw [FirstFault.unique hG h hfault]

end Judgements

open Cells

variable {cells s t : Cells} {cell : CellId → Rendering (List Event)} {α : Type}

/-- A computation that succeeds on sound values only and otherwise fails with the first fault. What
the cells give is what they give when it has ended. -/
def Inspects (v : Value) (x : Rendering α) : Prop :=
  ∀ ⦃s r t⦄, x s = some (r, t) → s.Leaves t ∧ Judges t.Stored v r

theorem attributesOf_run {element : String} {fields : Fields Value}
    {r : Except TemplateError (List Attribute)}
    (h : attributesOf element fields s = some (r, t)) : s.Leaves t ∧
      (faulty fields = [] ∧ (∃ as, r = .ok as) ∨ ∃ key others, faulty fields = key :: others ∧
        r = .error (.markup (.invalidAttribute key element))) := by
  induction fields generalizing s r with
  | nil =>
    cases h
    exact ⟨.refl _, .inl ⟨rfl, [], rfl⟩⟩
  | cons first rest ih =>
    obtain ⟨key, v⟩ := first
    rw [attributesOf] at h
    by_cases hkey : isName key
    · have hfaulty : faulty ((key, v) :: rest) = faulty rest := by simp [faulty, Fields.keys, hkey]
      simp only [hkey, Bool.not_true, Bool.false_eq_true, if_false] at h
      rw [hfaulty]
      obtain ⟨a, between, ha, h⟩ := Rendering.read_cases h
      have hleaves : s.Leaves between := leaves_of_run
        ((Along.rules course_leaves).attributeOf key fun _ _ => ⟨0, trivial⟩) ha
      rcases Rendering.bind_cases h with ⟨e, hothers, rfl⟩ | ⟨others, last, hothers, h⟩
      · obtain ⟨hrest, hcases⟩ := ih hothers
        exact ⟨hleaves.trans hrest, by simpa using hcases⟩
      · cases h
        obtain ⟨hrest, hcases⟩ := ih hothers
        exact ⟨hleaves.trans hrest, by simpa using hcases⟩
    · simp only [hkey, Bool.not_false, if_true] at h
      cases h
      exact ⟨.refl _, .inr ⟨key, faulty rest, by simp [faulty, Fields.keys, hkey], rfl⟩⟩

theorem opening_run {tag : String} {attrs : Fields Value}
    {r : Except TemplateError (String × List Attribute)}
    (h : opening tag attrs s = some (r, t)) :
    s.Leaves t ∧ ResultIn (fun _ => Named tag attrs) (NameFault tag attrs) r := by
  unfold opening at h
  obtain ⟨merged, between, hmerged, h⟩ := Rendering.read_cases h
  have hfaulty := faulty_attributes hmerged
  have hleaves : s.Leaves between := leaves_of_run
    ((Along.rules course_leaves).attributes fun _ _ => ⟨0, trivial⟩) hmerged
  by_cases hname : isName (Shorthand.ofTag tag).name
  · simp only [hname, Bool.not_true, Bool.false_eq_true, if_false] at h
    have helement := isName_iff_writable.mp hname
    rcases Rendering.bind_cases h with ⟨e, has, rfl⟩ | ⟨as, last, has, h⟩
    · obtain ⟨hrest, ⟨-, _, hok⟩ | ⟨key, others, hkey, he⟩⟩ := attributesOf_run has
      · cases hok
      · cases he
        obtain ⟨before, after, hkeys, hbefore, hkey, -⟩ := faulty_eq_cons_iff.mp (hfaulty ▸ hkey)
        exact ⟨hleaves.trans hrest, .key helement hkeys hbefore hkey⟩
    · cases h
      obtain ⟨hrest, ⟨hnone, -⟩ | ⟨key, others, -, he⟩⟩ := attributesOf_run has
      · exact ⟨hleaves.trans hrest, ⟨helement, faulty_eq_nil_iff.mp (hfaulty ▸ hnone)⟩⟩
      · cases he
  · simp only [hname, Bool.not_false, if_true] at h
    cases h
    exact ⟨hleaves, .element (isName_eq_false_iff.mp (Bool.eq_false_iff.mpr hname))⟩

theorem inspects_leaf {v : Value} (hv : isLeaf v) (es : List Event) :
    Inspects v (pure es : Rendering (List Event)) := by
  intro s r t h
  cases h
  exact ⟨.refl s, .leaf hv⟩

theorem inspects_text {v : Value} (hv : isLeaf v) :
    Inspects v (do return [.text (← v.text)] : Rendering (List Event)) := by
  intro s r t h
  obtain ⟨text, between, htext, h⟩ := Rendering.read_cases h
  cases h
  exact ⟨leaves_of_run (Along.text course_leaves v) htext, .leaf hv⟩

/-- What was stored in the middle of a reading is stored at its end. -/
theorem Judges.later {v : Value} {r : Except TemplateError α} (h : Judges s.Stored v r)
    (hst : s.Leaves t) : Judges t.Stored v r :=
  h.mono fun _ _ hc => hc.later hst

mutual

theorem inspects_eventsWith (hcell : ∀ c, Inspects (.deferred c) (cell c)) :
    (v : Value) → Inspects v (eventsWith cell v)
  | .nil => inspects_leaf rfl _
  | .raw _ => inspects_leaf rfl _
  | .list items => inspects_eventsAll hcell items
  | .map _ => by
    intro s r t h
    cases h
    exact ⟨.refl s, .map⟩
  | .deferred c => hcell c
  | .node tag attrs children => by
    intro s r t h
    rcases Rendering.bind_cases h with ⟨e, hopening, rfl⟩ | ⟨o, between, hopening, h⟩
    · obtain ⟨hst, hfault⟩ := opening_run hopening
      exact ⟨hst, .name hfault⟩
    · obtain ⟨hopened, hnamed⟩ := opening_run hopening
      rcases Rendering.bind_cases h with ⟨e, hinner, rfl⟩ | ⟨inner, last, hinner, h⟩
      · obtain ⟨hrest, hfault⟩ := inspects_eventsAll hcell children hinner
        exact ⟨hopened.trans hrest, .inside hnamed hfault⟩
      · cases h
        obtain ⟨hrest, hsound⟩ := inspects_eventsAll hcell children hinner
        exact ⟨hopened.trans hrest, .node hnamed hsound⟩
  | .bool _ => inspects_text rfl
  | .int _ => inspects_text rfl
  | .float _ => inspects_text rfl
  | .str _ => inspects_leaf rfl _
  | .keyword _ => inspects_leaf rfl _

theorem inspects_eventsAll (hcell : ∀ c, Inspects (.deferred c) (cell c)) :
    (items : List Value) → Inspects (.list items) (eventsAll cell items)
  | [] => by
    intro s r t h
    cases h
    exact ⟨.refl s, .list fun _ hv => absurd hv List.not_mem_nil⟩
  | v :: rest => by
    intro s r t h
    rcases Rendering.bind_cases h with ⟨e, hfirst, rfl⟩ | ⟨first, between, hfirst, h⟩
    · obtain ⟨hst, hfault⟩ := inspects_eventsWith hcell v hfirst
      exact ⟨hst, .here hfault⟩
    · obtain ⟨hbetween, hv⟩ := inspects_eventsWith hcell v hfirst
      rcases Rendering.bind_cases h with ⟨e, hothers, rfl⟩ | ⟨others, last, hothers, h⟩
      · obtain ⟨hrest, hfault⟩ := inspects_eventsAll hcell rest hothers
        exact ⟨hbetween.trans hrest, FirstFault.later (Judges.later hv hrest) hfault⟩
      · cases h
        obtain ⟨hrest, hsound⟩ := inspects_eventsAll hcell rest hothers
        exact ⟨hbetween.trans hrest, sound_cons_iff.mpr ⟨Judges.later hv hrest, hsound⟩⟩

end

theorem inspects_cellEventsWithin (n : ℕ) (c : CellId) :
    Inspects (.deferred c) (cellEventsWithin n c) := by
  induction n generalizing c with
  | zero =>
    intro s r t h
    cases h
  | succ n ih =>
    intro s r t h
    rcases Rendering.bind_cases h with ⟨e, hforce, rfl⟩ | ⟨v, between, hforce, h⟩
    · exact ⟨leaves_of_run (Along.force course_leaves c) hforce, .failed (stored_of_force hforce)⟩
    · have hbetween : s.Leaves between := leaves_of_run (Along.force course_leaves c) hforce
      obtain ⟨hrest, hv⟩ := inspects_eventsWith ih v h
      have hc : t.Stored c (.ok v) := (stored_of_force hforce).later hrest
      refine ⟨hbetween.trans hrest, ?_⟩
      cases r with
      | ok es => exact .deferred hc hv
      | error e => exact .behind hc hv

theorem inspects_serialize (format : Option Dialect) (tree : Value) :
    Inspects tree (serialize format tree) := by
  intro s r t h
  rcases Rendering.bind_cases h with ⟨e, hevents, rfl⟩ | ⟨es, between, hevents, h⟩
  · exact inspects_eventsWith (inspects_cellEventsWithin s.depth) tree hevents
  · cases h
    exact inspects_eventsWith (inspects_cellEventsWithin s.depth) tree hevents

def Forced (cells : Cells) (c : CellId) (o : Outcome) : Prop :=
  ∃ t, force c cells = some (o, t)

theorem Forced.unique (c : CellId) (o o' : Outcome) (h : Forced cells c o)
    (h' : Forced cells c o') : o = o' := by
  obtain ⟨t, ht⟩ := h
  obtain ⟨t', ht'⟩ := h'
  exact (Prod.mk.inj (Option.some.inj (ht.symm.trans ht'))).1

theorem gives_unique (c : CellId) (o o' : Outcome) (h : cells.Gives c o) (h' : cells.Gives c o') :
    o = o' :=
  outcomeWithin_unique h.choose_spec h'.choose_spec

/-- What cells with outcomes give in the end is what they give in the beginning. -/
theorem carries_stored (ht : cells.Underway t) (hleaves : cells.Leaves t) :
    Carries (fun c => ∃ n, Ends cells.uncached n c) t.Stored cells.Gives := by
  have hsame (c : CellId) (o : Outcome) (hc : ∃ n, Ends cells.uncached n c)
      (hstored : t.Stored c o) : cells.Gives c o := by
    obtain ⟨n, hn⟩ := hc
    obtain ⟨o', ho', -⟩ : ∃ o', cells.uncached c = some o' ∧ _ := (hn.mono (Nat.le_succ n) :)
    cases hstored with
    | done hdone => exact ht.gives hdone
    | running hrunning =>
      -- A cell that is being computed all the time has no outcome.
      obtain ⟨m, hm⟩ := cells.exists_depth
      rw [uncached, hm, outcomeWithin, (hleaves.advances.running c).mp hrunning] at ho'
      cases ho'
    | missing hmissing =>
      have hlt := lt_length_of_outcomeWithin ho'
      rw [← hleaves.length] at hlt
      exact absurd hmissing (lt_length_iff.mp hlt)
  refine ⟨hsame, fun c o hc hstored => ?_⟩
  obtain ⟨_ | n, hn⟩ := hc
  · exact hn.elim
  · obtain ⟨o', ho', hcells⟩ := hn
    cases gives_unique c o o' (hsame c o ⟨n + 1, o', ho', hcells⟩ hstored) ⟨_, ho'⟩
    exact hcells.mono (fun d hd => ⟨n, hd⟩) fun _ he => he

/-- Serializing a tree succeeds exactly if the tree is sound, and fails exactly with the error of
its first fault. What its deferred values are is what forcing them gives afterwards. If they all
have outcomes, nested ones included, there is a result, and they are these outcomes. -/
theorem serialize_fails_at_first_fault (cells : Cells) (tree : Value) (format : Option Dialect) :
    (∀ r t, serialize format tree cells = some (r, t) →
      ((∃ out, r = .ok out) ↔ Sound (Forced t) tree) ∧
      ∀ e, r = .error e ↔ FirstFault (Forced t) tree e) ∧
    ((∀ c ∈ tree.cells, ∃ n, Ends cells.uncached n c) →
      ∃ r t, serialize format tree cells = some (r, t) ∧
        ((∃ out, r = .ok out) ↔ Sound cells.Gives tree) ∧
        ∀ e, r = .error e ↔ FirstFault cells.Gives tree e) := by
  constructor
  · intro r t h
    obtain ⟨-, hjudges⟩ := inspects_serialize format tree h
    have hforced : Judges (Forced t) tree r := hjudges.mono fun c o hc => ⟨t, hc.force⟩
    exact hforced.iff Forced.unique
  · intro hends
    obtain ⟨r, -, hsettled⟩ := cells.settled_rules.serialize format hends
    obtain ⟨t, h, ht, -⟩ := hsettled cells (.refl cells) fun d hd => (steps_of_running hd).ge
    obtain ⟨hleaves, hjudges⟩ := inspects_serialize format tree h
    exact ⟨r, t, h, (hjudges.carry (carries_stored ht hleaves) hends).iff gives_unique⟩

def faultyTree : Value :=
  .node "ul.plain" [("id", .nil), ("title", .str "\"")]
    [.list [.nil, .node "li" [] [.deferred 0]],
      .node "li#last" [("data x", .bool false)] [.map [("a", .nil)]], .deferred 1]

def faultyCells : Cells :=
  [⟨.pending (.outcome (.ok (.list [.str "a"]))), 0⟩,
    ⟨.pending (.outcome (.error .readWhileComputing)), 0⟩]

theorem firstFault_faultyTree : FirstFault faultyCells.Gives faultyTree
    (.markup (.invalidAttribute "data x" "li")) := by
  have houter : Named "ul.plain" [("id", .nil), ("title", .str "\"")] :=
    ⟨isName_iff_writable.mp (by rfl), faulty_eq_nil_iff.mp (by rfl)⟩
  have hitem : Named "li" [] := ⟨isName_iff_writable.mp (by rfl), faulty_eq_nil_iff.mp (by rfl)⟩
  have htext : faultyCells.Gives 0 (.ok (.list [.str "a"])) := ⟨1, rfl⟩
  have hfirst : Sound faultyCells.Gives (.list [.nil, .node "li" [] [.deferred 0]]) := by
    refine sound_cons_iff.mpr ⟨.leaf rfl, .list (List.forall_mem_singleton.mpr ?_)⟩
    refine .node hitem (.list (List.forall_mem_singleton.mpr (.deferred htext ?_)))
    exact .list (List.forall_mem_singleton.mpr (.leaf rfl))
  have hlast : NameFault "li#last" [("data x", .bool false)]
      (.markup (.invalidAttribute "data x" "li")) := by
    obtain ⟨before, after, hkeys, hbefore, hkey, -⟩ :=
      faulty_eq_cons_iff.mp (show faulty [("data x", .bool false)] = ["data x"] by rfl)
    exact .key (isName_iff_writable.mp (by rfl)) hkeys hbefore hkey
  exact .inside houter (.later hfirst (.here (.name hlast)))

/-- The omitted attribute fails in front of the map and the failure. -/
theorem faultyTree_fails :
    (∀ c ∈ faultyTree.cells, ∃ n, Ends faultyCells.uncached n c) ∧
    FirstFault faultyCells.Gives faultyTree (.markup (.invalidAttribute "data x" "li")) ∧
    ∃ t, serialize (some .xhtml) faultyTree faultyCells =
      some (.error (.markup (.invalidAttribute "data x" "li")), t) := by
  have hends : ∀ c ∈ faultyTree.cells, ∃ n, Ends faultyCells.uncached n c := by
    have htext : Ends faultyCells.uncached 1 0 := ⟨_, rfl, fun d hd => by cases hd⟩
    have hfailure : Ends faultyCells.uncached 1 1 := ⟨_, rfl, trivial⟩
    have hcells : faultyTree.cells = [0, 1] := rfl
    simpa [hcells] using And.intro ⟨1, htext⟩ ⟨1, hfailure⟩
  obtain ⟨r, t, h, -, herror⟩ :=
    (serialize_fails_at_first_fault faultyCells faultyTree (some .xhtml)).2 hends
  refine ⟨hends, firstFault_faultyTree, t, ?_⟩
  rw [h, (herror _).mpr firstFault_faultyTree]

end LayeredSite.Markup
