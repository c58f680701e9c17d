import LayeredSite.Proofs.Markup.Events
import LayeredSite.Proofs.Markup.Filling

namespace LayeredSite

namespace Value

mutual

/-- The value in which every list and all children have nested lists spliced in place, and no
nil. -/
def splice : Value → Value
  | list items => list (spliceAll items)
  | map fields => map (spliceFields fields)
  | node tag attrs children => node tag (spliceFields attrs) (spliceAll children)
  | v => v

def spliceAll : List Value → List Value
  | [] => []
  | nil :: rest => spliceAll rest
  | list items :: rest => spliceAll items ++ spliceAll rest
  | v :: rest => v.splice :: spliceAll rest

def spliceFields : List (String × Value) → List (String × Value)
  | [] => []
  | (key, v) :: rest => (key, v.splice) :: spliceFields rest

end

def pieces : Value → List Value
  | nil => []
  | list items => spliceAll items
  | v => [v.splice]

theorem spliceAll_cons (v : Value) (rest : List Value) :
    spliceAll (v :: rest) = v.pieces ++ spliceAll rest := by
  cases v <;> rfl

theorem spliceFields_eq_map (fields : Fields Value) :
    spliceFields fields = fields.map fun e => (e.1, e.2.splice) := by
  induction fields with
  | nil => rfl
  | cons e rest ih => rw [spliceFields, ih, List.map_cons]

section Text

variable (cell : CellId → Reading String)

theorem textAll_append (first second : List Value) :
    textAll cell (first ++ second) = do
      let t ← textAll cell first
      return t ++ (← textAll cell second) := by
  induction first with
  | nil => simp only [List.nil_append, textAll, pure_bind, String.empty_append, bind_pure]
  | cons v rest ih =>
    simp only [List.cons_append, textAll, ih, bind_assoc, pure_bind, String.append_assoc]

theorem textAll_pieces (v : Value) : textAll cell v.pieces = textWith cell v.splice := by
  cases v <;> simp [pieces, splice, textAll, textWith]

mutual

theorem textWith_splice : (v : Value) → textWith cell v.splice = textWith cell v
  | .list items => textAll_spliceAll items
  | .map fields => by rw [splice, textWith, textWith, textEntries_spliceFields fields]
  | .node _ _ children => textAll_spliceAll children
  | .nil => rfl
  | .bool _ => rfl
  | .int _ => rfl
  | .float _ => rfl
  | .str _ => rfl
  | .keyword _ => rfl
  | .raw _ => rfl
  | .deferred _ => rfl

theorem textAll_spliceAll :
    (items : List Value) → textAll cell (spliceAll items) = textAll cell items
  | [] => rfl
  | v :: rest => by
    rw [spliceAll_cons, textAll_append, textAll_pieces, textWith_splice v, textAll_spliceAll rest,
      textAll]

theorem textEntries_spliceFields : (fields : List (String × Value)) →
    textEntries cell (spliceFields fields) = textEntries cell fields
  | [] => rfl
  | (_, v) :: rest => by
    rw [spliceFields, textEntries, textEntries, textWith_splice v, textEntries_spliceFields rest]

end

end Text

/-- Splicing does not change the text of a value. -/
theorem text_splice (v : Value) : v.splice.text = v.text := by
  simp only [text, textWith_splice]

end Value

namespace Markup

open Value

variable {attrs : Fields Value}

theorem classText_splice (attrs : Fields Value) :
    classText (spliceFields attrs) = classText attrs := by
  unfold classText
  rw [spliceFields_eq_map, Fields.get?_map]
  cases Fields.get? attrs "class" with
  | none => rfl
  | some v => exact text_splice v

theorem attributes_splice (s : Shorthand) (attrs : Fields Value) :
    s.attributes (spliceFields attrs) = (do return spliceFields (← s.attributes attrs)) := by
  have hid : s.withId (spliceFields attrs) = spliceFields (s.withId attrs) := by
    simp only [spliceFields_eq_map, Shorthand.withId_map (f := splice) fun _ => rfl]
  have hclass (text : String) : Fields.insert "class" (.str text) (spliceFields (s.withId attrs)) =
      spliceFields (Fields.insert "class" (.str text) (s.withId attrs)) := by
    simp only [spliceFields_eq_map]
    exact Fields.insert_map splice "class" (.str text) (s.withId attrs)
  by_cases hclasses : s.classes.isEmpty
  · unfold Shorthand.attributes
    simp only [if_pos hclasses, hid, pure_bind]
  · simp only [attributes_of_classes hclasses, hid, classText_splice, hclass, bind_assoc, pure_bind]

theorem attributeOf_splice (key : String) (v : Value) :
    attributeOf key v.splice = attributeOf key v := by
  by_cases hv : v.isFlag
  · cases v <;> first | rfl | cases hv
  · have hsplice : v.splice.isFlag = false := by cases v <;> simp_all [isFlag, splice]
    rw [attributeOf_of_not_isFlag key hsplice,
      attributeOf_of_not_isFlag key (Bool.eq_false_iff.mpr hv), text_splice]

theorem attributesOf_splice (element : String) (fields : Fields Value) :
    attributesOf element (spliceFields fields) = attributesOf element fields := by
  induction fields with
  | nil => rfl
  | cons e rest ih => rw [spliceFields, attributesOf, attributesOf, attributeOf_splice, ih]

/-- Splicing does not change how an element begins. -/
theorem opening_splice (tag : String) (attrs : Fields Value) :
    opening tag (spliceFields attrs) = opening tag attrs := by
  unfold opening
  simp only [attributes_splice, liftM_bind, bind_assoc, liftM_pure, pure_bind, attributesOf_splice]

section Twins

variable {α β γ δ : Type} {P : α → β → Prop} {Q : γ → δ → Prop}

/-- Two runs that both do not end, or fail alike, or give related results on the same cells. -/
inductive Paired (P : α → β → Prop) : Option (Except TemplateError α × Cells) →
    Option (Except TemplateError β × Cells) → Prop
  | endless : Paired P none none
  | failed (e : TemplateError) (t : Cells) : Paired P (some (.error e, t)) (some (.error e, t))
  | done {a : α} {b : β} (t : Cells) : P a b → Paired P (some (.ok a, t)) (some (.ok b, t))

def Twin (P : α → β → Prop) (x : Rendering α) (y : Rendering β) : Prop :=
  ∀ s, Paired P (x s) (y s)

theorem Twin.refl {P : α → α → Prop} (hP : ∀ a, P a a) (x : Rendering α) : Twin P x x := by
  intro s
  rcases x s with _ | ⟨e | a, t⟩
  · exact .endless
  · exact .failed e t
  · exact .done t (hP a)

theorem Twin.next {x : Rendering α} {y : Rendering β} {f : α → Rendering γ} {g : β → Rendering δ}
    (hxy : Twin P x y) (hfg : ∀ a b, P a b → Twin Q (f a) (g b)) : Twin Q (x >>= f) (y >>= g) := by
  intro s
  have hs := hxy s
  generalize hx : x s = p at hs
  generalize hy : y s = q at hs
  cases hs with
  | endless =>
    rw [Rendering.bind_eq_none hx, Rendering.bind_eq_none hy]
    exact .endless
  | failed e t =>
    rw [Rendering.bind_eq_error hx, Rendering.bind_eq_error hy]
    exact .failed e t
  | done t hab =>
    rw [Rendering.bind_eq_ok hx, Rendering.bind_eq_ok hy]
    exact hfg _ _ hab t

theorem Twin.result {a : α} {b : β} (h : P a b) : Twin P (pure a) (pure b) :=
  fun s => .done s h

end Twins

mutual

/-- Somewhere between the content stands a void element whose children come to nothing. -/
def hasHollow : Value → Bool
  | .list items => hasHollowAll items
  | .node tag _ children =>
    (isVoid (Shorthand.ofTag tag).name && !children.isEmpty && (spliceAll children).isEmpty) ||
      hasHollowAll children
  | _ => false

def hasHollowAll : List Value → Bool
  | [] => false
  | v :: rest => hasHollow v || hasHollowAll rest

end

section Trees

variable (cell : CellId → Rendering (List Event))

theorem eventsAll_append (first second : List Value) :
    eventsAll cell (first ++ second) = do
      let es ← eventsAll cell first
      return es ++ (← eventsAll cell second) := by
  induction first with
  | nil => simp only [List.nil_append, eventsAll, pure_bind, bind_pure]
  | cons v rest ih =>
    simp only [List.cons_append, eventsAll, ih, bind_assoc, pure_bind, List.append_assoc]

theorem eventsAll_pieces (v : Value) : eventsAll cell v.pieces = eventsWith cell v.splice := by
  have hsingle (w : Value) : eventsAll cell [w] = eventsWith cell w := by
    simp only [eventsAll, pure_bind, List.append_nil, bind_pure]
  cases v <;> first | rfl | exact hsingle _

theorem twin_opening (tag : String) (attrs : Fields Value) :
    Twin (fun o o' => o = o' ∧ o.1 = (Shorthand.ofTag tag).name) (opening tag attrs)
      (opening tag attrs) := by
  intro s
  rcases h : opening tag attrs s with _ | ⟨e | ⟨name, as⟩, t⟩
  · exact .endless
  · exact .failed e t
  · exact .done t ⟨rfl, (opening_eq_ok_iff.mp h).1⟩

mutual

/-- Splicing a value makes its events shorter exactly if there is a hollow element. -/
theorem twin_eventsWith : (v : Value) →
    Twin (Tighter (hasHollow v)) (eventsWith cell v) (eventsWith cell v.splice)
  | .list items => twin_eventsAll items
  | .node tag attrs children => by
    rw [splice, eventsWith, eventsWith, opening_splice]
    refine (twin_opening tag attrs).next ?_
    rintro ⟨_, as⟩ _ ⟨rfl, rfl⟩
    refine (twin_eventsAll children).next fun inner inner' hinner => .result ?_
    refine (hinner.element (.refl not_false as) _ fun hnone => ?_).congr ?_
    · obtain rfl := List.isEmpty_iff.mp hnone
      exact ⟨rfl, by simp [hasHollowAll]⟩
    · simp [hasHollow, and_assoc]
  | .nil => .refl (.refl Bool.false_ne_true) _
  | .raw _ => .refl (.refl Bool.false_ne_true) _
  | .map _ => .refl (.refl Bool.false_ne_true) _
  | .deferred _ => .refl (.refl Bool.false_ne_true) _
  | .bool _ => .refl (.refl Bool.false_ne_true) _
  | .int _ => .refl (.refl Bool.false_ne_true) _
  | .float _ => .refl (.refl Bool.false_ne_true) _
  | .str _ => .refl (.refl Bool.false_ne_true) _
  | .keyword _ => .refl (.refl Bool.false_ne_true) _

theorem twin_eventsAll : (items : List Value) →
    Twin (Tighter (hasHollowAll items)) (eventsAll cell items) (eventsAll cell (spliceAll items))
  | [] => .refl (.refl Bool.false_ne_true) _
  | v :: rest => by
    rw [spliceAll_cons, eventsAll_append, eventsAll_pieces, eventsAll]
    refine (twin_eventsWith v).next fun first first' hfirst => ?_
    refine (twin_eventsAll rest).next fun others others' hothers => .result ?_
    exact (hfirst.append hothers).congr (by rw [hasHollowAll, Bool.or_eq_true])

end

end Trees

/-- Splicing nested lists and dropping nil leaves the result as it is, whether a text or an error,
exactly if the tree has none or no void element in it has children that all come to nothing. Such an
element has an end tag, which it does not have without these children. -/
theorem serialize_splice_iff (format : Option Dialect) (tree : Value) (cells : Cells) :
    serialize format tree.splice cells = serialize format tree cells ↔
      ((∃ out t, serialize format tree cells = some (.ok out, t)) → hasHollow tree = false) := by
  have hpair :
      Paired (Tighter (hasHollow tree)) (events tree cells) (events tree.splice cells) := by
    rw [events_apply, events_apply]
    exact twin_eventsWith _ tree cells
  have hserialize (v : Value) : serialize format v = (do return write format (← events v)) := rfl
  rw [hserialize, hserialize]
  -- The two runs end alike; only where both have events can the texts differ.
  generalize hx : events tree cells = p at hpair
  generalize hy : events tree.splice cells = q at hpair
  cases hpair with
  | endless => simp [Rendering.bind_eq_none hx, Rendering.bind_eq_none hy]
  | failed e t => simp [Rendering.bind_eq_error hx, Rendering.bind_eq_error hy]
  | @done es es' t htight =>
    have hrun : (do return write format (← events tree) : Rendering String) cells =
        some (.ok (write format es), t) := Rendering.bind_eq_ok hx
    have hrun' : (do return write format (← events tree.splice) : Rendering String) cells =
        some (.ok (write format es'), t) := Rendering.bind_eq_ok hy
    rw [hrun, hrun']
    constructor
    · intro hsame _
      obtain ⟨hout, -⟩ := Prod.mk.inj (Option.some.inj hsame)
      exact Bool.eq_false_iff.mpr ((htight.write_eq_iff format).mp (Except.ok.inj hout))
    · intro h
      rw [(htight.write_eq_iff format).mpr (Bool.eq_false_iff.mp (h ⟨_, _, rfl⟩))]

def hollowBreak : Value := .node "br" [] [.nil]

/-- The line break has an end tag, and without the nil in it none. -/
theorem hollowBreak_not_splice :
    serialize none hollowBreak [] = some (.ok "<br></br>", []) ∧
    hollowBreak.splice = .node "br" [] [] ∧
    serialize none (.node "br" [] []) [] = some (.ok "<br>", []) :=
  ⟨by rfl, rfl, by rfl⟩

end Markup
end LayeredSite
