import LayeredSite.Proofs.Markup.Events
import LayeredSite.Proofs.Markup.Faults
import LayeredSite.Proofs.Markup.Outline
import LayeredSite.Proofs.Markup.Pruning

namespace LayeredSite.Markup

open Value Cells

variable {cells s t u w T K : Cells} {V : Cells → Cells → Cells → Cells → Prop}
  {cell cell' : CellId → Rendering (List Event)} {α β : Type} {P : α → β → Prop}

/-- The class of an element is joined to the classes of its tag although it is false. -/
def JoinsFalse (tag : String) (attrs : Fields Value) : Prop :=
  (Shorthand.ofTag tag).classes ≠ [] ∧ Fields.get? attrs "class" = some (.bool false)

/-- Between the content of a value, perhaps behind deferred values of the cells, is an element with
classes in its tag and a class that is false. -/
def Mixed (cells : Cells) (v : Value) : Prop :=
  ∃ tag attrs children, cells.Shows v (.node tag attrs children) ∧ JoinsFalse tag attrs

theorem mixed_list_iff {items : List Value} :
    Mixed cells (.list items) ↔ ∃ v ∈ items, Mixed cells v := by
  constructor
  · rintro ⟨tag, attrs, children, hshows, hjoins⟩
    cases hshows with
    | item hu hshows => exact ⟨_, hu, tag, attrs, children, hshows, hjoins⟩
  · rintro ⟨v, hv, tag, attrs, children, hshows, hjoins⟩
    exact ⟨tag, attrs, children, .item hv hshows, hjoins⟩

theorem mixed_node_iff {tag : String} {attrs : Fields Value} {children : List Value} :
    Mixed cells (.node tag attrs children) ↔
      JoinsFalse tag attrs ∨ ∃ v ∈ children, Mixed cells v := by
  constructor
  · rintro ⟨tag', attrs', children', hshows, hjoins⟩
    cases hshows with
    | here => exact .inl hjoins
    | child hu hshows => exact .inr ⟨_, hu, tag', attrs', children', hshows, hjoins⟩
  · rintro (hjoins | ⟨v, hv, tag', attrs', children', hshows, hjoins⟩)
    · exact ⟨tag, attrs, children, .here _, hjoins⟩
    · exact ⟨tag', attrs', children', .child hv hshows, hjoins⟩

theorem mixed_deferred_iff {c : CellId} {v : Value} (h : cells.Gives c (.ok v)) :
    Mixed cells (.deferred c) ↔ Mixed cells v := by
  constructor
  · rintro ⟨tag, attrs, children, hshows, hjoins⟩
    cases hshows with
    | behind hgives hshows =>
      cases outcomeWithin_unique hgives.choose_spec h.choose_spec
      exact ⟨tag, attrs, children, hshows, hjoins⟩
  · rintro ⟨tag, attrs, children, hshows, hjoins⟩
    exact ⟨tag, attrs, children, .behind h hshows, hjoins⟩

theorem not_mixed_of_isLeaf {v : Value} (h : isLeaf v = true) : ¬ Mixed cells v := by
  rintro ⟨tag, attrs, children, hshows, -⟩
  cases hshows <;> cases h

/-- No deferred value gives anything without cells. -/
theorem not_mixed_deferred (c : CellId) : ¬ Mixed [] (.deferred c) := by
  rintro ⟨tag, attrs, children, hshows, -⟩
  cases hshows with
  | behind hgives =>
    exact absurd (lt_length_of_outcomeWithin hgives.choose_spec) (Nat.not_lt_zero c)

theorem withId_prune {sh : Shorthand} {attrs : Fields Value} (h : attrs.Sorted) :
    sh.withId (pruneAttributes attrs) = pruneAttributes (sh.withId attrs) := by
  unfold Shorthand.withId
  rw [Fields.get?_pruneAttributes h]
  cases sh.id? with
  | none => rfl
  | some id =>
    cases Fields.get? attrs "id" with
    | none => exact Fields.insert_pruneAttributes (v := .str id) h rfl
    | some v => rfl

theorem get?_class_withId (sh : Shorthand) (attrs : Fields Value) :
    Fields.get? (sh.withId attrs) "class" = Fields.get? attrs "class" := by
  rw [Shorthand.get?_withId, if_neg (by decide)]

/-- A text in front of attributes is written in front, and another one would be as well. -/
theorem attributesOf_cons_str {element key text : String} {rest : Fields Value}
    {as : List Attribute}
    (h : attributesOf element ((key, .str text) :: rest) s = some (.ok as, t)) :
    ∃ after, as = .pair key text :: after ∧ ∀ text',
      attributesOf element ((key, .str text') :: rest) s =
        some (.ok (.pair key text' :: after), t) := by
  have hpair (text : String) (m : Cells) :
      attributeOf key (.str text) m = some (some (.pair key text), m) := rfl
  obtain ⟨hkey, a, m, others, ha, hothers, rfl⟩ := attributesOf_cons_eq_ok_iff.mp h
  obtain ⟨rfl, rfl⟩ := Prod.mk.inj (Option.some.inj ((hpair text s).symm.trans ha))
  exact ⟨others, rfl, fun text' => attributesOf_cons_eq_ok_iff.mpr
    ⟨hkey, _, s, others, hpair text' s, hothers, rfl⟩⟩

/-- A text among the attributes is written in its place, and another one would be as well. -/
theorem attributesOf_insert {element key text : String} {fields : Fields Value}
    {as : List Attribute}
    (h : attributesOf element (fields.insert key (.str text)) s = some (.ok as, t)) :
    ∃ before after, as = before ++ .pair key text :: after ∧ ∀ text',
      attributesOf element (fields.insert key (.str text')) s =
        some (.ok (before ++ .pair key text' :: after), t) := by
  induction fields generalizing s as with
  | nil =>
    obtain ⟨after, rfl, hafter⟩ := attributesOf_cons_str h
    exact ⟨[], after, rfl, hafter⟩
  | cons e rest ih =>
    obtain ⟨k, v⟩ := e
    unfold Fields.insert at h ⊢
    by_cases hlt : key < k
    · simp only [if_pos hlt] at h ⊢
      obtain ⟨after, rfl, hafter⟩ := attributesOf_cons_str h
      exact ⟨[], after, rfl, hafter⟩
    · by_cases heq : key = k
      · simp only [if_neg hlt, if_pos heq] at h ⊢
        obtain ⟨after, rfl, hafter⟩ := attributesOf_cons_str h
        exact ⟨[], after, rfl, hafter⟩
      · simp only [if_neg hlt, if_neg heq] at h ⊢
        obtain ⟨hkey, a, m, others, ha, hothers, rfl⟩ := attributesOf_cons_eq_ok_iff.mp h
        obtain ⟨before, after, rfl, hafter⟩ := ih hothers
        refine ⟨a.toList ++ before, after, (List.append_assoc ..).symm, fun text' => ?_⟩
        exact attributesOf_cons_eq_ok_iff.mpr
          ⟨hkey, a, m, _, ha, hafter text', List.append_assoc ..⟩

theorem joinClasses_false_length {classes : List String} (h : classes ≠ []) :
    (Text.escape (Shorthand.joinClasses classes "")).length <
      (Text.escape (Shorthand.joinClasses classes "false")).length := by
  have hjoin : Shorthand.joinClasses classes "false" =
      Shorthand.joinClasses classes "" ++ " false" := by
    have hempty : Shorthand.joinClasses classes "" = " ".intercalate classes := by
      simp [Shorthand.joinClasses]
    have hfalse : Shorthand.joinClasses classes "false" =
        " ".intercalate (classes ++ ["false"]) := rfl
    rw [hempty, hfalse, String.intercalate_append_of_ne_nil h (by simp),
      String.intercalate_singleton, String.append_assoc]
    rfl
  have hsuffix : 0 < (Text.escapeChars " false".toList).length := by decide
  rw [hjoin, Text.escape, Text.escape, String.length_ofList, String.length_ofList,
    String.toList_append, Text.escapeChars_append, List.length_append]
  omega

theorem tighter_classes {classes : List String} (h : classes ≠ []) (before after : List Attribute) :
    TighterAttributes True
      (before ++ .pair "class" (Shorthand.joinClasses classes "false") :: after)
      (before ++ .pair "class" (Shorthand.joinClasses classes "") :: after) := by
  refine ⟨fun hnot => absurd trivial hnot, fun _ xhtml => ?_⟩
  have hlt := joinClasses_false_length h
  simp only [writeAttributes, List.map_append, List.map_cons, String.join_append, String.join_cons,
    Attribute.write, valued, String.length_append]
  omega

/-- What runs from `s` to `t` is followed by a run from `u` to `w`. -/
structure Following (V : Cells → Cells → Cells → Cells → Prop) : Prop where
  rest : ∀ {s u w}, V s s u w → u = w
  split : ∀ {s m t u w}, s.Leaves m → m.Leaves t → V s t u w → ∃ x, V s m u x ∧ V m t x w
  text : ∀ {v : Value} {text : String} {s t u w}, v.text s = some (text, t) → V s t u w →
    v.text u = some (text, w)

def Follows (V : Cells → Cells → Cells → Cells → Prop) (P : α → β → Prop) (x : Rendering α)
    (y : Rendering β) : Prop :=
  ∀ ⦃s a t u w⦄, x s = some (.ok a, t) → V s t u w → ∃ b, y u = some (.ok b, w) ∧ P a b

abbrev Calm (x : Rendering α) : Prop := Along Leaves (ResultIn anything anything) x

theorem calm_rules : ReadRules (Along Leaves) (fun _ _ => True) anything :=
  Along.rules course_leaves

theorem known_all {cs : List CellId} : ∀ c ∈ cs, ReadRules.Known (fun _ _ => True) c :=
  fun _ _ => ⟨0, trivial⟩

theorem Calm.leaves {x : Rendering α} {a : α} (hx : Calm x) (h : x s = some (.ok a, t)) :
    s.Leaves t := leaves_of_run hx h

section

variable (hV : Following V)

include hV

theorem Follows.result {a : α} {b : β} (h : P a b) : Follows V P (pure a) (pure b) := by
  intro s a' t u w hrun hvw
  obtain ⟨rfl, rfl⟩ := Rendering.pure_eq_ok_iff.mp hrun
  obtain rfl := hV.rest hvw
  exact ⟨b, rfl, h⟩

theorem Follows.next {γ δ : Type} {Q : γ → δ → Prop} {x : Rendering α} {y : Rendering β}
    {f : α → Rendering γ} {g : β → Rendering δ} (hx : Follows V P x y) (hcalm : Calm x)
    (hcalm' : ∀ a, Calm (f a)) (hf : ∀ a b, P a b → Follows V Q (f a) (g b)) :
    Follows V Q (x >>= f) (y >>= g) := by
  intro s c t u w hrun hvw
  obtain ⟨a, m, hfirst, hsecond⟩ := Rendering.bind_eq_ok_iff.mp hrun
  obtain ⟨v, hum, hmw⟩ := hV.split (hcalm.leaves hfirst) ((hcalm' a).leaves hsecond) hvw
  obtain ⟨b, hy, hab⟩ := hx hfirst hum
  obtain ⟨d, hg, hcd⟩ := hf a b hab hsecond hmw
  exact ⟨d, Rendering.bind_eq_ok_iff.mpr ⟨b, v, hy, hg⟩, hcd⟩

theorem follows_text {p : Prop} (hp : ¬ p) (v : Value) : Follows V (Tighter p)
    (do return [Event.text (← v.text)]) (do return [Event.text (← v.text)]) := by
  intro s es t u w hrun hvw
  obtain ⟨text, m, htext, hend⟩ := Rendering.read_cases hrun
  cases hend
  refine ⟨_, ?_, .refl hp _⟩
  rw [Rendering.bind_eq_ok (Rendering.lift_eq_ok_iff.mpr (hV.text htext hvw))]
  rfl

theorem attributeOf_prune {key : String} {v : Value} {a : Option Attribute}
    (h : attributeOf key v s = some (a, t)) (hvw : V s t u w) :
    attributeOf key v.prune u = some (a, w) := by
  by_cases hv : v.isFlag
  · have hsame : v.prune = v := by cases v <;> first | rfl | cases hv
    obtain ⟨rfl, hpure⟩ : s = t ∧ ∀ u, attributeOf key v u = some (a, u) := by
      cases v with
      | nil =>
        obtain ⟨rfl, rfl⟩ := Reading.pure_eq_some_iff.mp h
        exact ⟨rfl, fun _ => rfl⟩
      | bool b =>
        obtain ⟨rfl, rfl⟩ := Reading.pure_eq_some_iff.mp h
        exact ⟨rfl, fun _ => rfl⟩
      | _ => cases hv
    obtain rfl := hV.rest hvw
    rw [hsame, hpure]
  · have hflag : v.isFlag = false := Bool.eq_false_iff.mpr hv
    have hprune : v.prune.isFlag = false := by cases v <;> first | rfl | cases hflag
    rw [attributeOf_of_not_isFlag key hflag] at h
    rw [attributeOf_of_not_isFlag key hprune, text_prune]
    obtain ⟨text, m, htext, h⟩ := Reading.bind_eq_some_iff.mp h
    obtain ⟨rfl, rfl⟩ := Reading.pure_eq_some_iff.mp h
    exact (Reading.bind_eq_some (hV.text htext hvw)).trans rfl

/-- The attributes that stay are written like before. -/
theorem attributesOf_prune {element : String} {fields : Fields Value} {as : List Attribute}
    (h : attributesOf element fields s = some (.ok as, t)) (hvw : V s t u w) :
    attributesOf element (pruneAttributes fields) u = some (.ok as, w) := by
  induction fields generalizing s u as with
  | nil =>
    obtain ⟨rfl, rfl⟩ := Rendering.pure_eq_ok_iff.mp h
    obtain rfl := hV.rest hvw
    rfl
  | cons e rest ih =>
    obtain ⟨key, v⟩ := e
    obtain ⟨hkey, a, m, others, ha, hothers, rfl⟩ := attributesOf_cons_eq_ok_iff.mp h
    have hfirst : s.Leaves m := leaves_of_run (calm_rules.attributeOf key known_all) ha
    have hrest : m.Leaves t := leaves_of_run (calm_rules.attributesOf element known_all) hothers
    obtain ⟨x, hum, hmw⟩ := hV.split hfirst hrest hvw
    rw [pruneAttributes]
    split
    · rename_i homitted
      -- What is left out has neither a text nor a name that is written.
      obtain ⟨rfl, rfl⟩ : a = none ∧ s = m := by
        have hv := (Bool.and_eq_true_iff.mp homitted).2
        cases v with
        | nil =>
          obtain ⟨rfl, rfl⟩ := Reading.pure_eq_some_iff.mp ha
          exact ⟨rfl, rfl⟩
        | bool b =>
          obtain rfl : b = false := by simpa [isOmitted] using hv
          obtain ⟨rfl, rfl⟩ := Reading.pure_eq_some_iff.mp ha
          exact ⟨rfl, rfl⟩
        | _ => cases hv
      obtain rfl := hV.rest hum
      exact ih hothers hmw
    · exact attributesOf_cons_eq_ok_iff.mpr
        ⟨hkey, a, x, others, attributeOf_prune hV ha hum, ih hothers hmw, rfl⟩

/-- The text of the class is the same, unless the class is false: left out, it has no text. -/
theorem classText_prune {fields : Fields Value} (hsorted : fields.Sorted) {text : String}
    (h : classText fields s = some (text, t)) (hvw : V s t u w) :
    (Fields.get? fields "class" = some (.bool false) →
      text = "false" ∧ classText (pruneAttributes fields) u = some ("", w)) ∧
    (Fields.get? fields "class" ≠ some (.bool false) →
      classText (pruneAttributes fields) u = some (text, w)) := by
  unfold classText at h ⊢
  rw [Fields.get?_pruneAttributes hsorted]
  cases hclass : Fields.get? fields "class" with
  | none =>
    rw [hclass] at h
    obtain ⟨rfl, rfl⟩ := Reading.pure_eq_some_iff.mp h
    obtain rfl := hV.rest hvw
    exact ⟨(nomatch ·), fun _ => rfl⟩
  | some v =>
    rw [hclass] at h
    have hkept : v.prune.text u = some (text, w) := by
      rw [text_prune]
      exact hV.text h hvw
    cases v with
    | nil =>
      cases h
      obtain rfl := hV.rest hvw
      exact ⟨(nomatch ·), fun _ => rfl⟩
    | bool b =>
      cases b with
      | false =>
        cases h
        obtain rfl := hV.rest hvw
        exact ⟨fun _ => ⟨rfl, rfl⟩, fun hne => absurd rfl hne⟩
      | true => exact ⟨(nomatch ·), fun _ => hkept⟩
    | _ => exact ⟨(nomatch ·), fun _ => hkept⟩

/-- The attributes of a pruned element, pruned: the same, unless a class that is false was joined to
those of the tag. -/
theorem attributes_prune {tag : String} {attrs merged : Fields Value} (hsorted : attrs.Sorted)
    (h : (Shorthand.ofTag tag).attributes attrs s = some (merged, t)) (hvw : V s t u w) :
    ∃ merged', (Shorthand.ofTag tag).attributes (pruneAttributes attrs) u =
        some (pruneAttributes merged', w) ∧
      (¬ JoinsFalse tag attrs → merged' = merged) ∧
      (JoinsFalse tag attrs → ∃ (fields : Fields Value) (classes : List String), classes ≠ [] ∧
        merged = fields.insert "class" (.str (Shorthand.joinClasses classes "false")) ∧
        merged' = fields.insert "class" (.str (Shorthand.joinClasses classes ""))) := by
  have hid := (Shorthand.ofTag tag).sorted_withId hsorted
  by_cases hclasses : (Shorthand.ofTag tag).classes.isEmpty
  · have hnot : ¬ JoinsFalse tag attrs := fun hjoins => hjoins.1 (List.isEmpty_iff.mp hclasses)
    unfold Shorthand.attributes at h ⊢
    simp only [if_pos hclasses, withId_prune hsorted] at h ⊢
    obtain ⟨rfl, rfl⟩ := Reading.pure_eq_some_iff.mp h
    obtain rfl := hV.rest hvw
    exact ⟨_, rfl, fun _ => rfl, fun hjoins => absurd hjoins hnot⟩
  · have hne : (Shorthand.ofTag tag).classes ≠ [] := fun hnil =>
      hclasses (List.isEmpty_iff.mpr hnil)
    rw [attributes_of_classes hclasses] at h ⊢
    obtain ⟨text, m, htext, h⟩ := Reading.bind_eq_some_iff.mp h
    obtain ⟨rfl, rfl⟩ := Reading.pure_eq_some_iff.mp h
    obtain ⟨hfalse, hother⟩ := classText_prune hV hid htext hvw
    rw [get?_class_withId] at hfalse hother
    rw [withId_prune hsorted]
    have hinsert (text : String) : Fields.insert "class" (.str text)
        (pruneAttributes ((Shorthand.ofTag tag).withId attrs)) = _ :=
      Fields.insert_pruneAttributes (v := .str text) hid rfl
    -- Only a false class differs: it was joined as a text and is gone after pruning.
    by_cases hclass : Fields.get? attrs "class" = some (.bool false)
    · obtain ⟨rfl, hempty⟩ := hfalse hclass
      refine ⟨_, (Reading.bind_eq_some hempty).trans ?_, fun hnot => absurd ⟨hne, hclass⟩ hnot,
        fun _ => ⟨_, _, hne, rfl, rfl⟩⟩
      rw [← hinsert]
      rfl
    · refine ⟨_, (Reading.bind_eq_some (hother hclass)).trans ?_, fun _ => rfl,
        fun hjoins => absurd hjoins.2 hclass⟩
      rw [← hinsert]
      rfl

/-- A pruned element begins like the element, unless a false class is joined to those of the tag. -/
theorem opening_prune {tag : String} {attrs : Fields Value} (hsorted : attrs.Sorted) :
    Follows V (fun o o' => o.1 = o'.1 ∧ o.1 = (Shorthand.ofTag tag).name ∧
      TighterAttributes (JoinsFalse tag attrs) o.2 o'.2)
      (opening tag attrs) (opening tag (pruneAttributes attrs)) := by
  intro s o t u w h hvw
  obtain ⟨name, as⟩ := o
  obtain ⟨rfl, hname, merged, m, hmerged, has⟩ := opening_eq_ok_iff.mp h
  have hfirst : s.Leaves m := leaves_of_run (calm_rules.attributes known_all) hmerged
  have hrest : m.Leaves t := leaves_of_run (calm_rules.attributesOf _ known_all) has
  obtain ⟨x, hum, hmw⟩ := hV.split hfirst hrest hvw
  obtain ⟨merged', hmerged', hsame, hjoined⟩ := attributes_prune hV hsorted hmerged hum
  obtain ⟨as', has', htighter⟩ : ∃ as', attributesOf (Shorthand.ofTag tag).name merged' m =
      some (.ok as', t) ∧ TighterAttributes (JoinsFalse tag attrs) as as' := by
    by_cases hjoins : JoinsFalse tag attrs
    · obtain ⟨fields, classes, hclasses, rfl, rfl⟩ := hjoined hjoins
      obtain ⟨before, after, rfl, hafter⟩ := attributesOf_insert has
      have htighter := tighter_classes hclasses before after
      exact ⟨_, hafter _, fun hnot => absurd hjoins hnot, fun _ => htighter.shorter trivial⟩
    · obtain rfl := hsame hjoins
      exact ⟨as, has, .refl hjoins as⟩
  refine ⟨((Shorthand.ofTag tag).name, as'), ?_, rfl, rfl, htighter⟩
  exact opening_eq_ok_iff.mpr ⟨rfl, hname, _, x, hmerged', attributesOf_prune hV has' hmw⟩

mutual

/-- The events of a pruned tree: the same, unless a false class is joined to the classes of a tag,
and shorter then. -/
theorem follows_eventsWith (hcalm : ∀ c, Calm (cell c))
    (hcell : ∀ c, Follows V (Tighter (Mixed K (.deferred c))) (cell c) (cell' c)) :
    (v : Value) → KeepsOrder v →
      Follows V (Tighter (Mixed K v)) (eventsWith cell v) (eventsWith cell' v.prune)
  | .list items, h => by
    have hitems := follows_eventsAll hcalm hcell items h
    exact fun s es t u w hrun hvw => by
      obtain ⟨es', hrun', htighter⟩ := hitems hrun hvw
      exact ⟨es', hrun', htighter.congr mixed_list_iff.symm⟩
  | .node tag attrs children, ⟨hsorted, hchildren⟩ => by
    have hcalminner : Calm (eventsAll cell children) :=
      calm_rules.eventsAll children fun c _ => ⟨⟨0, trivial⟩, hcalm c⟩
    refine (opening_prune hV hsorted).next hV (calm_rules.opening tag known_all)
      (fun o => calm_rules.next hcalminner fun _ _ => calm_rules.ok trivial) ?_
    rintro ⟨name, as⟩ ⟨_, as'⟩ ⟨rfl, rfl, hattributes⟩
    refine (follows_eventsAll hcalm hcell children hchildren).next hV hcalminner
      (fun _ => calm_rules.ok trivial) fun inner inner' hinner => .result hV ?_
    rw [isEmpty_pruneAll]
    refine (hinner.element hattributes _ fun hnone => ⟨hnone, ?_⟩).congr ?_
    · simp [List.isEmpty_iff.mp hnone]
    · rw [mixed_node_iff]
      exact or_iff_right fun ⟨_, hsome, hnone⟩ => Bool.false_ne_true (hsome.symm.trans hnone)
  | .nil, _ => .result hV (.refl (not_mixed_of_isLeaf rfl) _)
  | .raw _, _ => .result hV (.refl (not_mixed_of_isLeaf rfl) _)
  | .map _, _ => fun _ _ _ _ _ hrun _ => absurd hrun Rendering.throw_ne_ok
  | .deferred c, _ => hcell c
  | .bool b, _ => follows_text hV (not_mixed_of_isLeaf rfl) (.bool b)
  | .int n, _ => follows_text hV (not_mixed_of_isLeaf rfl) (.int n)
  | .float f, _ => follows_text hV (not_mixed_of_isLeaf rfl) (.float f)
  | .str _, _ => .result hV (.refl (not_mixed_of_isLeaf rfl) _)
  | .keyword _, _ => .result hV (.refl (not_mixed_of_isLeaf rfl) _)

theorem follows_eventsAll (hcalm : ∀ c, Calm (cell c))
    (hcell : ∀ c, Follows V (Tighter (Mixed K (.deferred c))) (cell c) (cell' c)) :
    (items : List Value) → KeepOrder items →
      Follows V (Tighter (∃ v ∈ items, Mixed K v)) (eventsAll cell items)
        (eventsAll cell' (pruneAll items))
  | [], _ => .result hV (.refl (by simp) _)
  | v :: rest, ⟨hv, hrest⟩ => by
    have hcalmv : Calm (eventsWith cell v) :=
      calm_rules.eventsWith v fun c _ => ⟨⟨0, trivial⟩, hcalm c⟩
    have hcalmrest : Calm (eventsAll cell rest) :=
      calm_rules.eventsAll rest fun c _ => ⟨⟨0, trivial⟩, hcalm c⟩
    refine (follows_eventsWith hcalm hcell v hv).next hV hcalmv
      (fun _ => calm_rules.next hcalmrest fun _ _ => calm_rules.ok trivial)
      fun first first' hfirst => ?_
    refine (follows_eventsAll hcalm hcell rest hrest).next hV hcalmrest
      (fun _ => calm_rules.ok trivial) fun others others' hothers => .result hV ?_
    exact (hfirst.append hothers).congr (by simp)

end

end

/-- On the same cells. -/
theorem following_same : Following fun s t u w => u = s ∧ w = t where
  rest := by
    rintro s u w ⟨rfl, rfl⟩
    rfl
  split := by
    rintro s m t u w - - ⟨rfl, rfl⟩
    exact ⟨m, ⟨rfl, rfl⟩, rfl, rfl⟩
  text := by
    rintro v text s t u w h ⟨rfl, rfl⟩
    exact h

/-- On the cells at the end of all, pruned. -/
theorem following_last (T : Cells) :
    Following fun _ t u w => t.Leaves T ∧ u = T.prune ∧ w = T.prune where
  rest := by
    rintro s u w ⟨-, rfl, rfl⟩
    rfl
  split := by
    rintro s m t u w - hmt ⟨htT, rfl, rfl⟩
    exact ⟨T.prune, ⟨hmt.trans htT, rfl, rfl⟩, htT, rfl, rfl⟩
  text := by
    rintro v text s t u w h ⟨htT, rfl, rfl⟩
    exact (replays_text T v h).2.2 htT

theorem calm_cellEventsWithin (n : ℕ) (c : CellId) : Calm (cellEventsWithin n c) :=
  calm_rules.cellEventsWithin trivial

theorem follows_cellEventsWithin
    (hT : ∀ c v, T.state? c = some (.done (.ok v)) → KeepsOrder v) (n : ℕ) (c : CellId) :
    Follows (fun _ t u w => t.Leaves T ∧ u = T.prune ∧ w = T.prune)
      (Tighter (Mixed T (.deferred c))) (cellEventsWithin n c) (cellEventsWithin n c) := by
  induction n generalizing c with
  | zero =>
    intro s es t u w h
    cases h
  | succ n ih =>
    rintro s es t u w h ⟨htT, rfl, rfl⟩
    obtain ⟨v, m, hforce, h⟩ := Rendering.bind_eq_ok_iff.mp h
    have hmt : m.Leaves t := Calm.leaves
      (calm_rules.eventsWith v fun d _ => ⟨⟨0, trivial⟩, calm_cellEventsWithin n d⟩) h
    have hstored : T.Stored c (.ok v) := (stored_of_force hforce).later (hmt.trans htT)
    have hdone : T.state? c = some (.done (.ok v)) := by
      cases hstored with
      | done hdone => exact hdone
    obtain ⟨es', hrun, htighter⟩ := follows_eventsWith (following_last T)
      (calm_cellEventsWithin n) ih v (hT c v hdone) h ⟨htT, rfl, rfl⟩
    refine ⟨es', ?_, htighter.congr (mixed_deferred_iff ⟨1, outcomeWithin_done 0 hdone⟩).symm⟩
    exact (Rendering.bind_eq_ok (x := ExceptT.mk (force c)) hstored.prune.force).trans hrun

/-- Attributes that are nil or false can be removed from every element, but for the id: a tree that
is serialized has the same text without them, exactly if no element in it with classes in its tag
has a class that is false. This is so on the same cells, where the values behind deferred ones stay
as they are, and on the cells that the run leaves, with these values pruned as well. -/
theorem serialize_prune_iff {format : Option Dialect} {tree : Value} {s t : Cells} {out : String}
    (horder : KeepsOrder tree)
    (hcells : ∀ c v, t.state? c = some (.done (.ok v)) → KeepsOrder v)
    (h : serialize format tree s = some (.ok out, t)) :
    (serialize format tree.prune s = some (.ok out, t) ↔ ¬ Mixed [] tree) ∧
    (serialize format tree.prune t.prune = some (.ok out, t.prune) ↔ ¬ Mixed t tree) := by
  obtain ⟨es, m, hevents, hend⟩ := Rendering.bind_eq_ok_iff.mp h
  obtain ⟨rfl, rfl⟩ := Rendering.pure_eq_ok_iff.mp hend
  -- The other run ends well, with events that are tighter or the same.
  have hiff {u w : Cells} {p : Prop} {es' : List Event} (htighter : Tighter p es es')
      (hrun : eventsWith (cellEventsWithin u.depth) tree.prune u = some (.ok es', w)) :
      serialize format tree.prune u = some (.ok (write format es), w) ↔ ¬ p := by
    rw [serialize_of_eventsWith hrun, ← htighter.write_eq_iff format]
    simp [Except.map]
  constructor
  · obtain ⟨es', hrun, htighter⟩ := follows_eventsWith (K := []) following_same
      (calm_cellEventsWithin s.depth) (fun c s es t u w hrun hvw => by
        obtain ⟨rfl, rfl⟩ := hvw
        exact ⟨es, hrun, .refl (not_mixed_deferred c) es⟩) tree horder hevents ⟨rfl, rfl⟩
    exact hiff htighter hrun
  · obtain ⟨es', hrun, htighter⟩ := follows_eventsWith (following_last m)
      (calm_cellEventsWithin s.depth) (follows_cellEventsWithin hcells s.depth) tree horder hevents
      ⟨.refl m, rfl, rfl⟩
    have hsm : s.Leaves m := Calm.leaves (calm_rules.events known_all) hevents
    have hdepth : m.prune.depth = s.depth := by rw [depth_prune, hsm.depth]
    exact hiff htighter (hdepth ▸ hrun)

def sparse : Value :=
  .node "p#top.note" [("class", .nil), ("hidden", .bool false), ("id", .nil), ("title", .str "t")]
    [.deferred 0]

def unclassed : Value := .node "b" [("class", .bool false)] [.str "x"]

theorem keepsOrder_sparse : KeepsOrder sparse := by
  refine ⟨?_, trivial, trivial⟩
  unfold Fields.Sorted
  decide

theorem not_mixed_sparse {cells : Cells} (h : ¬ Mixed cells (.deferred 0)) :
    ¬ Mixed cells sparse := by
  rw [sparse, mixed_node_iff]
  rintro (⟨-, hclass⟩ | ⟨v, hv, hmixed⟩)
  · cases hclass
  · rw [List.mem_singleton.mp hv] at hmixed
    exact h hmixed

theorem not_mixed_unclassed (cells : Cells) : ¬ Mixed cells unclassed := by
  rw [unclassed, mixed_node_iff]
  rintro (⟨hclasses, -⟩ | ⟨v, hv, hmixed⟩)
  · exact hclasses rfl
  · rw [List.mem_singleton.mp hv] at hmixed
    exact not_mixed_of_isLeaf rfl hmixed

/-- The paragraph is the same without these attributes, and so is the element in it. -/
theorem sparse_prune :
    let s : Cells := [⟨.pending (.outcome (.ok unclassed)), 0⟩]
    let t : Cells := [⟨.done (.ok unclassed), 1⟩]
    let out := "<p class=\"note\" title=\"t\"><b>x</b></p>"
    KeepsOrder sparse ∧ (∀ c v, t.state? c = some (.done (.ok v)) → KeepsOrder v) ∧
    serialize none sparse s = some (.ok out, t) ∧
    serialize none sparse.prune s = some (.ok out, t) ∧
    serialize none sparse.prune t.prune = some (.ok out, t.prune) := by
  intro s t out
  have hcells : ∀ c v, t.state? c = some (.done (.ok v)) → KeepsOrder v := by
    intro c v hv
    obtain ⟨cell, hcell, hstate⟩ := exists_cell hv
    obtain rfl := List.mem_singleton.mp (List.mem_of_getElem? hcell)
    cases hstate
    refine ⟨?_, trivial, trivial⟩
    unfold Fields.Sorted
    decide
  have hgives : t.Gives 0 (.ok unclassed) := ⟨1, rfl⟩
  have hlast : ¬ Mixed t (.deferred 0) := fun hmixed =>
    not_mixed_unclassed t ((mixed_deferred_iff hgives).mp hmixed)
  have hrun : serialize none sparse s = some (.ok out, t) := by rfl
  have hprune := serialize_prune_iff keepsOrder_sparse hcells hrun
  exact ⟨keepsOrder_sparse, hcells, hrun, hprune.1.mpr (not_mixed_sparse (not_mixed_deferred 0)),
    hprune.2.mpr (not_mixed_sparse hlast)⟩

def mixedClass : Value := .node "p.a" [("class", .bool false)] []

/-- The false class is written, and without it there is none. -/
theorem mixedClass_not_prune :
    serialize none mixedClass [] = some (.ok "<p class=\"a false\"></p>", []) ∧
    mixedClass.prune = .node "p.a" [] [] ∧
    serialize none (.node "p.a" [] []) [] = some (.ok "<p class=\"a\"></p>", []) :=
  ⟨by rfl, rfl, by rfl⟩

end LayeredSite.Markup
