import LayeredSite.Proofs.Cells.Filling
import LayeredSite.Proofs.Markup.Events

namespace LayeredSite

def Value.isFlag : Value → Bool
  | .nil => true
  | .bool _ => true
  | _ => false

namespace Cells

variable {cells : Cells} {α β : Type}

/-- A rendering settles at what another one gives at once, be it a result or an error. -/
def Same (cells : Cells) (x y : Rendering α) : Prop :=
  ∃ r, cells.Settled x.run r ∧ ∀ s, y.run s = some (r, s)

theorem Settled.ok {x : Rendering α} {f : α → Rendering β} {a : α} {r : Except TemplateError β}
    (hx : cells.Settled x.run (.ok a)) (hf : cells.Settled (f a).run r) :
    cells.Settled (x >>= f).run r :=
  Settles.sequence hx hf

theorem Settled.error {x : Rendering α} {f : α → Rendering β} {e : TemplateError}
    (hx : cells.Settled x.run (.error e)) : cells.Settled (x >>= f).run (.error e) :=
  Settles.sequence hx (Settles.result _)

theorem Settled.lift {x : Reading α} {a : α} (hx : cells.Settled x a) :
    cells.Settled (liftM x : Rendering α).run (.ok a) := by
  have hlift : (liftM x : Rendering α).run = (do return .ok (← x) : Reading (Except _ α)) := rfl
  rw [hlift]
  exact Settles.sequence hx (Settles.result _)

namespace Same

theorem result (a : α) : cells.Same (pure a) (pure a) := ⟨.ok a, .result _, fun _ => rfl⟩

theorem refuse (fault : MarkupFault) :
    cells.Same (Markup.refuse fault : Rendering α) (Markup.refuse fault) :=
  ⟨.error (.markup fault), .result _, fun _ => rfl⟩

theorem sequence {x y : Rendering α} {f g : α → Rendering β} (hx : cells.Same x y)
    (hf : ∀ a, cells.Same (f a) (g a)) : cells.Same (x >>= f) (y >>= g) := by
  obtain ⟨r, hx, hy⟩ := hx
  cases r with
  | error e => exact ⟨.error e, hx.error, fun s => Rendering.bind_eq_error (hy s)⟩
  | ok a =>
    obtain ⟨r, hfa, hga⟩ := hf a
    exact ⟨r, hx.ok hfa, fun s => (Rendering.bind_eq_ok (hy s)).trans (hga s)⟩

/-- The two may go on from different results of their readings. -/
theorem read {γ : Type} {x : Reading α} {y : Reading γ} {a : α} {b : γ} {f : α → Rendering β}
    {g : γ → Rendering β} (hx : cells.Settled x a) (hy : ∀ s, y s = some (b, s))
    (hf : cells.Same (f a) (g b)) :
    cells.Same ((liftM x : Rendering α) >>= f) ((liftM y : Rendering γ) >>= g) := by
  obtain ⟨r, hfa, hgb⟩ := hf
  refine ⟨r, hx.lift.ok hfa, fun s => ?_⟩
  exact (Rendering.bind_eq_ok (Rendering.lift_eq_ok_iff.mpr (hy s))).trans (hgb s)

/-- A check in front of both. -/
theorem check {p : Prop} [Decidable p] {fault : MarkupFault} {x y : Rendering α}
    (h : cells.Same x y) : cells.Same (do
      if p then Markup.refuse fault
      x) (do
      if p then Markup.refuse fault
      y) := by
  split
  · exact (refuse fault).sequence fun _ => h
  · exact h

end Same

end Cells

namespace Value

variable {F : CellId → Value}

theorem substFields_eq_map (F : CellId → Value) (fields : Fields Value) :
    substFields F fields = fields.map fun e => (e.1, e.2.subst F) := by
  induction fields with
  | nil => rfl
  | cons e rest ih => rw [substFields, ih, List.map_cons]

theorem get?_substFields (F : CellId → Value) (fields : Fields Value) (key : String) :
    Fields.get? (substFields F fields) key = (Fields.get? fields key).map (subst F) := by
  rw [substFields_eq_map, Fields.get?_map]

theorem insert_substFields (F : CellId → Value) (key : String) (v : Value) (fields : Fields Value) :
    Fields.insert key (v.subst F) (substFields F fields) =
      substFields F (Fields.insert key v fields) := by
  rw [substFields_eq_map, substFields_eq_map]
  exact Fields.insert_map (subst F) key v fields

theorem isEmpty_substAll (F : CellId → Value) (items : List Value) :
    (substAll F items).isEmpty = items.isEmpty := by
  cases items <;> rfl

end Value

theorem Fields.mem_insert_of_ne {key : String} {value value' : Value} {fields : Fields Value}
    {e : String × Value} (h : e ∈ Fields.insert key value fields) (hne : e.2 ≠ value) :
    e ∈ Fields.insert key value' fields := by
  induction fields with
  | nil =>
    rw [List.mem_singleton.mp h] at hne
    exact absurd rfl hne
  | cons f rest ih =>
    obtain ⟨k, v⟩ := f
    rw [Fields.insert] at h ⊢
    by_cases hlt : key < k
    · rw [if_pos hlt] at h ⊢
      rcases List.mem_cons.mp h with rfl | h
      · exact absurd rfl hne
      · exact List.mem_cons_of_mem _ h
    · rw [if_neg hlt] at h ⊢
      by_cases hkey : key = k
      · rw [if_pos hkey] at h ⊢
        rcases List.mem_cons.mp h with rfl | h
        · exact absurd rfl hne
        · exact List.mem_cons_of_mem _ h
      · rw [if_neg hkey] at h ⊢
        rcases List.mem_cons.mp h with rfl | h
        · exact List.mem_cons_self
        · exact List.mem_cons_of_mem _ (ih h)

namespace Markup

open Value

variable {cells : Cells}

def Shorthand.kept (s : Shorthand) (attrs : Fields Value) : Fields Value :=
  if s.classes.isEmpty then s.withId attrs
  else Fields.insert "class" (.str "") (s.withId attrs)

/-- A change of the values that keeps texts is one of the attributes with the id of the tag. -/
theorem Shorthand.withId_map {f : Value → Value} (hf : ∀ t, f (.str t) = .str t) (s : Shorthand)
    (attrs : Fields Value) :
    s.withId (attrs.map fun e => (e.1, f e.2)) = (s.withId attrs).map fun e => (e.1, f e.2) := by
  unfold Shorthand.withId
  rw [Fields.get?_map]
  cases s.id? with
  | none => rfl
  | some id =>
    cases Fields.get? attrs "id" with
    | none =>
      have hinsert := Fields.insert_map f "id" (.str id) attrs
      rwa [hf] at hinsert
    | some v => rfl

theorem Shorthand.get?_withId (s : Shorthand) (attrs : Fields Value) (key : String) :
    Fields.get? (s.withId attrs) key =
      if key = "id" then (Fields.get? attrs "id").or (s.id?.map .str)
      else Fields.get? attrs key := by
  unfold Shorthand.withId
  split
  · rename_i id hid hnone
    by_cases hkey : key = "id"
    · rw [if_pos hkey, hkey, Fields.get?_insert_self, hnone, hid]
      rfl
    · rw [if_neg hkey, Fields.get?_insert_of_ne hkey]
  · rename_i hother
    by_cases hkey : key = "id"
    · rw [if_pos hkey, hkey]
      cases hgiven : Fields.get? attrs "id" with
      | some v => rfl
      | none =>
        cases hid : s.id? with
        | some id => exact absurd hgiven (hother id hid)
        | none => rfl
    · rw [if_neg hkey]

theorem withId_substFields (s : Shorthand) (F : CellId → Value) (attrs : Fields Value) :
    s.withId (substFields F attrs) = substFields F (s.withId attrs) := by
  rw [substFields_eq_map, substFields_eq_map]
  exact s.withId_map (fun _ => rfl) attrs

theorem closed_withId {s : Shorthand} {F : CellId → Value} {attrs : Fields Value}
    (h : ∀ e ∈ attrs, (e.2.subst F).cells = []) :
    ∀ e ∈ s.withId attrs, (e.2.subst F).cells = [] := by
  unfold Shorthand.withId
  split
  · intro e he
    rcases Fields.mem_insert he with rfl | he
    · rfl
    · exact h e he
  · exact h

def classText (attrs : Fields Value) : Reading String :=
  match Fields.get? attrs "class" with
  | some v => v.text
  | none => pure ""

theorem attributes_of_classes {s : Shorthand} (h : ¬ s.classes.isEmpty) (attrs : Fields Value) :
    s.attributes attrs = (do
      let explicit ← classText (s.withId attrs)
      return Fields.insert "class" (.str (Shorthand.joinClasses s.classes explicit))
        (s.withId attrs)) := by
  unfold Shorthand.attributes classText
  simp only [if_neg h]
  cases Fields.get? (s.withId attrs) "class" <;> rfl

theorem exists_classText {attrs : Fields Value} (h : ∀ e ∈ attrs, (cells.fill e.2).cells = []) :
    ∃ explicit, cells.Settled (classText attrs) explicit ∧
      ∀ t, classText (substFields cells.filled attrs) t = some (explicit, t) := by
  unfold classText
  rw [get?_substFields]
  cases hclass : Fields.get? attrs "class" with
  | none => exact ⟨"", .result _, fun _ => rfl⟩
  | some v =>
    have hclosed := h _ (Fields.mem_of_get? hclass)
    exact ⟨_, Cells.settled_text hclosed, text_of_closed hclosed⟩

/-- The attributes of an element settle, and from filled attributes they are filled. -/
theorem exists_attributes (s : Shorthand) {attrs : Fields Value}
    (h : ∀ e ∈ attrs, (cells.fill e.2).cells = []) :
    ∃ merged, cells.Settled (s.attributes attrs) merged ∧
      (∀ t, s.attributes (substFields cells.filled attrs) t =
        some (substFields cells.filled merged, t)) ∧
      (∀ e ∈ merged, (cells.fill e.2).cells = []) ∧
      ∀ key c, (key, .deferred c) ∈ merged → (key, .deferred c) ∈ s.kept attrs := by
  have hid := closed_withId (s := s) h
  unfold Shorthand.kept
  by_cases hclasses : s.classes.isEmpty
  · unfold Shorthand.attributes
    simp only [if_pos hclasses, withId_substFields]
    exact ⟨_, .result _, fun _ => rfl, hid, fun _ _ hmem => hmem⟩
  · obtain ⟨explicit, hexplicit, hfilled⟩ := exists_classText hid
    rw [attributes_of_classes hclasses, attributes_of_classes hclasses, withId_substFields,
      if_neg hclasses]
    refine ⟨_, hexplicit.sequence (.result _), fun t => ?_, fun e he => ?_, fun key c hmem => ?_⟩
    · rw [← insert_substFields]
      exact Reading.bind_eq_some (hfilled t)
    · rcases Fields.mem_insert he with rfl | he
      · rfl
      · exact hid e he
    · exact Fields.mem_insert_of_ne hmem (by simp)

theorem attributeOf_of_not_isFlag (key : String) {v : Value} (h : v.isFlag = false) :
    attributeOf key v = do return some (.pair key (← v.text)) := by
  cases v <;> first | rfl | cases h

/-- An attribute settles at that of its filled value, if it is no deferred nil or boolean. -/
theorem exists_attributeOf (key : String) {v : Value} (h : (cells.fill v).cells = [])
    (hflag : ∀ c, v = .deferred c → (cells.filled c).isFlag = false) :
    ∃ a, cells.Settled (attributeOf key v) a ∧
      ∀ t, attributeOf key (cells.fill v) t = some (a, t) := by
  by_cases hv : v.isFlag
  · cases v with
    | nil => exact ⟨none, .result _, fun _ => rfl⟩
    | bool b => exact ⟨_, .result _, fun _ => rfl⟩
    | _ => cases hv
  · have hfill : (cells.fill v).isFlag = false := by
      cases v with
      | deferred c => exact hflag c rfl
      | nil => exact absurd rfl hv
      | bool b => exact absurd rfl hv
      | _ => rfl
    rw [attributeOf_of_not_isFlag key (Bool.eq_false_iff.mpr hv),
      attributeOf_of_not_isFlag key hfill]
    exact ⟨_, (Cells.settled_text h).sequence (.result _),
      fun t => Reading.bind_eq_some (text_of_closed h t)⟩

theorem same_attributesOf (element : String) {fields : Fields Value}
    (h : ∀ e ∈ fields, (cells.fill e.2).cells = [])
    (hflag : ∀ key c, (key, .deferred c) ∈ fields → (cells.filled c).isFlag = false) :
    cells.Same (attributesOf element fields)
      (attributesOf element (substFields cells.filled fields)) := by
  induction fields with
  | nil => exact .result []
  | cons e rest ih =>
    obtain ⟨key, v⟩ := e
    obtain ⟨hv, hrest⟩ := List.forall_mem_cons.mp h
    obtain ⟨a, ha, hfilled⟩ := exists_attributeOf key hv fun c hc =>
      hflag key c (hc ▸ List.mem_cons_self)
    refine .check (.read ha hfilled ?_)
    exact (ih hrest fun key c hc => hflag key c (List.mem_cons_of_mem _ hc)).sequence
      fun others => .result _

theorem same_opening (tag : String) {attrs : Fields Value}
    (h : ∀ e ∈ attrs, (cells.fill e.2).cells = [])
    (hflag : ∀ key c, (key, .deferred c) ∈ (Shorthand.ofTag tag).kept attrs →
      (cells.filled c).isFlag = false) :
    cells.Same (opening tag attrs) (opening tag (substFields cells.filled attrs)) := by
  obtain ⟨merged, hmerged, hfilled, hclosed, hkept⟩ := exists_attributes (Shorthand.ofTag tag) h
  refine .read hmerged hfilled (.check ?_)
  exact (same_attributesOf _ hclosed fun key c hc => hflag key c (hkept key c hc)).sequence
    fun as => .result _

end Markup

namespace Cells

variable {cells : Cells} {v u tree : Value} {items : List Value} {c d : CellId} {n : ℕ}

/-- One value stands in another between its content, perhaps behind deferred values. -/
inductive Shows (cells : Cells) : Value → Value → Prop
  | here (v : Value) : Shows cells v v
  | item {items : List Value} {u v : Value} : u ∈ items → Shows cells u v →
      Shows cells (.list items) v
  | child {tag : String} {attrs : Fields Value} {children : List Value} {u v : Value} :
      u ∈ children → Shows cells u v → Shows cells (.node tag attrs children) v
  | behind {c : CellId} {u v : Value} : cells.Gives c (.ok u) → Shows cells u v →
      Shows cells (.deferred c) v

/-- No element has an attribute that is a deferred nil or boolean. A class that is joined to those
of the tag may be one. -/
def Regular (cells : Cells) (tree : Value) : Prop :=
  ∀ tag attrs children, cells.Shows tree (.node tag attrs children) →
    ∀ key c, (key, .deferred c) ∈ (Markup.Shorthand.ofTag tag).kept attrs →
      (cells.filled c).isFlag = false

theorem regular_list_iff : cells.Regular (.list items) ↔ ∀ u ∈ items, cells.Regular u := by
  refine ⟨fun h u hu tag attrs children hshows => h tag attrs children (.item hu hshows),
    fun h tag attrs children hshows => ?_⟩
  cases hshows with
  | item hu hshows => exact h _ hu tag attrs children hshows

theorem regular_node_iff {tag : String} {attrs : Fields Value} {children : List Value} :
    cells.Regular (.node tag attrs children) ↔
      (∀ key c, (key, .deferred c) ∈ (Markup.Shorthand.ofTag tag).kept attrs →
        (cells.filled c).isFlag = false) ∧ ∀ u ∈ children, cells.Regular u := by
  constructor
  · intro h
    exact ⟨h tag attrs children (.here _),
      fun u hu tag attrs children hshows => h tag attrs children (.child hu hshows)⟩
  · rintro ⟨hattrs, hchildren⟩ tag attrs children hshows
    cases hshows with
    | here => exact hattrs
    | child hu hshows => exact hchildren _ hu tag attrs children hshows

theorem regular_deferred_iff (h : cells.Gives c (.ok v)) :
    cells.Regular (.deferred c) ↔ cells.Regular v := by
  refine ⟨fun hc tag attrs children hshows => hc tag attrs children (.behind h hshows),
    fun hv tag attrs children hshows => ?_⟩
  cases hshows with
  | behind hgives hshows =>
    obtain ⟨n, hn⟩ := h
    obtain ⟨m, hm⟩ := hgives
    cases outcomeWithin_unique hm hn
    exact hv tag attrs children hshows

theorem regular_str (text : String) : cells.Regular (.str text) := by
  intro tag attrs children hshows
  cases hshows

end Cells

namespace Markup

open Value

variable {cells : Cells} {cell cell' : CellId → Rendering (List Event)}

theorem same_text (v : Value) (h : v.cells = []) (hfill : cells.fill v = v) :
    cells.Same (do return [Event.text (← v.text)]) (do return [Event.text (← v.text)]) := by
  have hclosed : (cells.fill v).cells = [] := hfill.symm ▸ h
  have htext := Cells.settled_text hclosed
  rw [hfill] at htext
  exact .read htext (text_of_closed h) (.result _)

mutual

theorem same_eventsWith : (v : Value) → (∀ c ∈ v.cells, (cells.filled c).cells = []) →
    cells.Regular v →
      (∀ c ∈ v.cells, cells.Regular (.deferred c) →
        cells.Same (cell c) (eventsWith cell' (cells.filled c))) →
        cells.Same (eventsWith cell v) (eventsWith cell' (cells.fill v))
  | .nil, _, _, _ => .result _
  | .raw _, _, _, _ => .result _
  | .list items, h, hregular, hcell =>
    same_eventsAll items h (Cells.regular_list_iff.mp hregular) hcell
  | .map _, _, _, _ => .refuse _
  | .deferred c, _, hregular, hcell => hcell c (List.mem_singleton_self c) hregular
  | .node tag attrs children, h, hregular, hcell => by
    obtain ⟨hattrs, hchildren⟩ := List.forall_mem_append.mp h
    have hclosed : ∀ e ∈ attrs, (cells.fill e.2).cells = [] := fun e he =>
      cells_subst_eq_nil_iff.mpr fun c hc => hattrs c (mem_cellsOf_iff.mpr ⟨e, he, hc⟩)
    obtain ⟨hflag, hinner⟩ := Cells.regular_node_iff.mp hregular
    refine (same_opening tag hclosed hflag).sequence fun o => ?_
    refine (same_eventsAll children hchildren hinner
      fun c hc => hcell c (List.mem_append_right _ hc)).sequence fun inner => ?_
    rw [isEmpty_substAll]
    exact .result _
  | .bool b, _, _, _ => same_text (.bool b) rfl rfl
  | .int n, _, _, _ => same_text (.int n) rfl rfl
  | .float f, _, _, _ => same_text (.float f) rfl rfl
  | .str _, _, _, _ => .result _
  | .keyword _, _, _, _ => .result _

theorem same_eventsAll : (items : List Value) →
    (∀ c ∈ cellsAll items, (cells.filled c).cells = []) → (∀ u ∈ items, cells.Regular u) →
      (∀ c ∈ cellsAll items, cells.Regular (.deferred c) →
        cells.Same (cell c) (eventsWith cell' (cells.filled c))) →
        cells.Same (eventsAll cell items) (eventsAll cell' (substAll cells.filled items))
  | [], _, _, _ => .result _
  | v :: rest, h, hregular, hcell => by
    obtain ⟨hv, hrest⟩ := List.forall_mem_append.mp h
    obtain ⟨hregularv, hregularrest⟩ := List.forall_mem_cons.mp hregular
    obtain ⟨hcellv, hcellrest⟩ := List.forall_mem_append.mp hcell
    refine (same_eventsWith v hv hregularv hcellv).sequence fun first => ?_
    exact (same_eventsAll rest hrest hregularrest hcellrest).sequence fun others => .result _

end

/-- The events of a cell are those of its filled value, which is some levels deep. -/
theorem same_cellEventsWithin {n m : ℕ} {c : CellId}
    (h : (cells.filledWithin n c).cells = []) (hregular : cells.Regular (.deferred c))
    (hm : n ≤ m) : cells.Same (cellEventsWithin m c) (eventsWith cell' (cells.filled c)) := by
  induction n generalizing c m with
  | zero => cases h
  | succ n ih =>
    obtain ⟨k, v, hk, hgives, hfilled, hbelow⟩ := Cells.exists_of_level h
    obtain rfl := Nat.succ.inj hk
    obtain ⟨m, rfl⟩ : ∃ m', m = m' + 1 := Nat.exists_eq_succ_of_ne_zero (by omega)
    -- Forcing the cell takes one level of the depth, and its value is filled one level below.
    have hclosed : ∀ d ∈ v.cells, (cells.filled d).cells = [] := fun d hd =>
      (Cells.filled_eq (hbelow d hd)).symm ▸ hbelow d hd
    have hevents : cells.Same (eventsWith (cellEventsWithin m) v)
        (eventsWith cell' (cells.fill v)) :=
      same_eventsWith v hclosed ((Cells.regular_deferred_iff hgives).mp hregular)
        fun d hd hregulard => ih (hbelow d hd) hregulard (by omega)
    obtain ⟨r, hr, hr'⟩ := hevents
    rw [hfilled]
    exact ⟨r, Cells.Settled.ok (x := ExceptT.mk (force c)) hgives.settled hr, hr'⟩

/-- The events of a tree are those of the filled tree. -/
theorem same_events (cell' : CellId → Rendering (List Event)) {tree : Value} {m : ℕ}
    (h : (cells.fill tree).cells = [])
    (hregular : cells.Regular tree) (hm : cells.length ≤ m) :
    cells.Same (eventsWith (cellEventsWithin m) tree) (eventsWith cell' (cells.fill tree)) := by
  have hclosed := cells_subst_eq_nil_iff.mp h
  exact same_eventsWith tree hclosed hregular fun c hc hregularc =>
    same_cellEventsWithin (hclosed c hc) hregularc hm

/-- The text of a tree is that of its events. -/
theorem serialize_of_eventsWith {tree : Value} {r : Except TemplateError (List Event)}
    {s t : Cells} (h : eventsWith (cellEventsWithin s.depth) tree s = some (r, t))
    (format : Option Dialect) :
    serialize format tree s = some (r.map (write format), t) := by
  have hevents := (events_apply tree s).trans h
  cases r with
  | error e => exact Rendering.bind_eq_error hevents
  | ok es => exact Rendering.bind_eq_ok hevents

/-- A tree is serialized like the filled tree, whether to a text or to an error. -/
theorem serialize_fill {tree : Value} (h : (cells.fill tree).cells = [])
    (hregular : cells.Regular tree) (format : Option Dialect) :
    ∃ r t, serialize format tree cells = some (r, t) ∧
      ∀ s, serialize format (cells.fill tree) s = some (r, s) := by
  have hdepth := cells.lt_depth
  have hsame (cell' : CellId → Rendering (List Event)) := same_events cell' h hregular
    (show cells.length ≤ cells.depth by omega)
  obtain ⟨r, hr, -⟩ := hsame (cellEventsWithin cells.depth)
  obtain ⟨t, ht⟩ := hr.run
  refine ⟨_, t, serialize_of_eventsWith ht format, fun s => ?_⟩
  -- The filled tree is read with the depth of other cells, but to the same end.
  obtain ⟨r', hr', hfilled⟩ := hsame (cellEventsWithin s.depth)
  obtain ⟨t', ht'⟩ := hr'.run
  obtain ⟨rfl, -⟩ := Prod.mk.inj (Option.some.inj (ht.symm.trans ht'))
  exact serialize_of_eventsWith (hfilled s) format

end Markup

namespace Cells

structure Written (cells : Cells) (v : Value) : Prop where
  ends : ∀ c ∈ v.cells, ∃ n, Ends cells.uncached n c
  markup : ∃ text t, Markup.serialize none v cells = some (.ok text, t)

/-- Serializing a value comes to a deferred one between its content, everything in front being
written; it goes through the values of at most `n` others. -/
inductive Reaches (cells : Cells) : ℕ → Value → CellId → Prop
  | here (n : ℕ) (c : CellId) : Reaches cells n (.deferred c) c
  | item {n : ℕ} {before after : List Value} {v : Value} {c : CellId} :
      (∀ u ∈ before, cells.Written u) → Reaches cells n v c →
        Reaches cells n (.list (before ++ v :: after)) c
  | child {n : ℕ} {tag : String} {attrs : Fields Value} {before after : List Value} {v : Value}
      {c : CellId} : cells.Written (.node tag attrs []) → (∀ u ∈ before, cells.Written u) →
        Reaches cells n v c → Reaches cells n (.node tag attrs (before ++ v :: after)) c
  | behind {n : ℕ} {v : Value} {c d : CellId} : cells.Gives d (.ok v) → Reaches cells n v c →
      Reaches cells (n + 1) (.deferred d) c

variable {cells : Cells} {v : Value} {c d : CellId} {m n : ℕ} {o : Outcome}

theorem Reaches.mono (h : cells.Reaches n v c) (hm : n ≤ m) : cells.Reaches m v c := by
  induction h generalizing m with
  | here => exact .here m _
  | item hbefore _ ih => exact .item hbefore (ih hm)
  | child hnode hbefore _ ih => exact .child hnode hbefore (ih hm)
  | behind hgives _ ih =>
    obtain ⟨m, rfl⟩ : ∃ m', m = m' + 1 := Nat.exists_eq_succ_of_ne_zero (by omega)
    exact .behind hgives (ih (Nat.le_of_succ_le_succ hm))

/-- If cells are reached no later than others, so is what is reached through them. -/
theorem Reaches.of_cells (h : cells.Reaches n v c)
    (hcells : ∀ d, cells.Reaches n (.deferred d) c → cells.Reaches m (.deferred d) c) :
    cells.Reaches m v c := by
  induction h with
  | here n c => exact .here m c
  | item hbefore _ ih => exact .item hbefore (ih hcells)
  | child hnode hbefore _ ih => exact .child hnode hbefore (ih hcells)
  | behind hgives hbehind _ => exact hcells _ (.behind hgives hbehind)

/-- On the way to a cell no more others are passed than there are cells. -/
theorem Reaches.within_length (h : cells.Reaches n v c) (hc : cells.Gives c o) :
    cells.Reaches cells.length v c := by
  refine h.of_cells fun d hd => ?_
  -- What grows with `n` is the set of the cells from which `c` is reached.
  have hgrowth := of_bounded_growth (P := fun n d => cells.Reaches n (.deferred d) c)
    (B := Finset.range cells.length) (fun n d hd => ?_) (fun n d hd => hd.mono (Nat.le_succ n))
    (fun n hstill d hd => ?_) hd
  · rwa [Finset.card_range] at hgrowth
  · rw [Finset.mem_range]
    cases hd with
    | here => exact lt_length_of_outcomeWithin hc.choose_spec
    | behind hgives => exact lt_length_of_outcomeWithin hgives.choose_spec
  · cases hd with
    | here => exact .here _ c
    | behind hgives hbehind => exact .behind hgives (hbehind.of_cells hstill)

end Cells

namespace Markup

variable {cells : Cells} {cell cell' : CellId → Rendering (List Event)} {v : Value}
  {before after : List Value} {e : TemplateError} {m n : ℕ} {c : CellId}

def Below {α : Type} (x y : Rendering α) : Prop := ∀ ⦃s p⦄, x s = some p → y s = some p

theorem Below.next {α β : Type} {x y : Rendering α} {f g : α → Rendering β} (hx : Below x y)
    (hf : ∀ a, Below (f a) (g a)) : Below (x >>= f) (y >>= g) := by
  intro s ⟨r, t⟩ hp
  rcases Rendering.bind_cases hp with ⟨e, hrun, rfl⟩ | ⟨a, between, hrun, hrest⟩
  · rw [Rendering.bind_eq_error (hx hrun)]
  · rw [Rendering.bind_eq_ok (hx hrun)]
    exact hf a hrest

theorem Below.refl {α : Type} (x : Rendering α) : Below x x := fun _ _ h => h

mutual

theorem eventsWith_below (h : ∀ c, Below (cell c) (cell' c)) : (v : Value) →
    Below (eventsWith cell v) (eventsWith cell' v)
  | .list items => eventsAll_below h items
  | .deferred c => h c
  | .node _ _ children =>
    (Below.refl _).next fun _ => (eventsAll_below h children).next fun _ => .refl _
  | .nil => .refl _
  | .raw _ => .refl _
  | .map _ => .refl _
  | .bool _ => .refl _
  | .int _ => .refl _
  | .float _ => .refl _
  | .str _ => .refl _
  | .keyword _ => .refl _

theorem eventsAll_below (h : ∀ c, Below (cell c) (cell' c)) : (items : List Value) →
    Below (eventsAll cell items) (eventsAll cell' items)
  | [] => .refl _
  | v :: rest =>
    (eventsWith_below h v).next fun _ => (eventsAll_below h rest).next fun _ => .refl _

end

theorem cellEventsWithin_below (hm : m ≤ n) (c : CellId) :
    Below (cellEventsWithin m c) (cellEventsWithin n c) := by
  induction m generalizing n c with
  | zero =>
    intro s p hp
    cases hp
  | succ m ih =>
    obtain ⟨n, rfl⟩ : ∃ n', n = n' + 1 := Nat.exists_eq_succ_of_ne_zero (by omega)
    exact (Below.refl _).next fun v => eventsWith_below (ih (Nat.le_of_succ_le_succ hm)) v

theorem events_ne_error_of_written (h : cells.Written v) (e : TemplateError) (t : Cells) :
    eventsWith (cellEventsWithin cells.depth) v cells ≠ some (.error e, t) := by
  obtain ⟨text, t', htext⟩ := h.markup
  intro herror
  cases (serialize_of_eventsWith herror none).symm.trans htext

/-- What is written has the same events with fewer levels, if these are enough for all cells. -/
theorem events_of_written (h : cells.Written v) (hm : cells.length ≤ m) (hdepth : m ≤ cells.depth) :
    ∃ es, cells.Settled (eventsWith (cellEventsWithin m) v).run (.ok es) := by
  obtain ⟨r, -, hr⟩ := cells.settled_rules.eventsWith v fun c hc => by
    obtain ⟨n, hn⟩ := h.ends c hc
    exact ⟨⟨n, hn⟩, cells.settled_rules.cellEventsWithin ((Cells.ends_uncached_length hn).mono hm)⟩
  obtain ⟨t, ht⟩ := hr.run
  cases r with
  | ok es => exact ⟨es, hr⟩
  | error e =>
    exact absurd (eventsWith_below (cellEventsWithin_below hdepth) v ht)
      (events_ne_error_of_written h e t)

/-- An element that is written without children has a name and attributes. -/
theorem opening_of_written {tag : String} {attrs : Fields Value}
    (h : cells.Written (.node tag attrs [])) :
    ∃ o, cells.Settled (opening tag attrs).run (.ok o) := by
  obtain ⟨r, -, hr⟩ := cells.settled_rules.opening tag fun c hc =>
    h.ends c (List.mem_append_left _ hc)
  obtain ⟨t, ht⟩ := hr.run
  cases r with
  | ok o => exact ⟨o, hr⟩
  | error e => exact absurd (Rendering.bind_eq_error ht) (events_ne_error_of_written h e t)

/-- The first part that fails gives its error to the whole. -/
theorem settled_eventsAll_error
    (hbefore : ∀ u ∈ before, ∃ es, cells.Settled (eventsWith cell u).run (.ok es))
    (hv : cells.Settled (eventsWith cell v).run (.error e)) :
    cells.Settled (eventsAll cell (before ++ v :: after)).run (.error e) := by
  induction before with
  | nil => exact hv.error
  | cons u rest ih =>
    obtain ⟨⟨es, hu⟩, hrest⟩ := List.forall_mem_cons.mp hbefore
    exact hu.ok (ih hrest).error

theorem settled_of_reaches (h : cells.Reaches n v c) (hc : cells.Gives c (.error e))
    (hm : n + cells.length < m) (hdepth : m ≤ cells.depth) :
    cells.Settled (eventsWith (cellEventsWithin m) v).run (.error e) := by
  induction h generalizing m with
  | here n c =>
    obtain ⟨m, rfl⟩ : ∃ m', m = m' + 1 := Nat.exists_eq_succ_of_ne_zero (by omega)
    exact Cells.Settled.error (x := ExceptT.mk (force c)) hc.settled
  | item hbefore _ ih =>
    exact settled_eventsAll_error (fun u hu => events_of_written (hbefore u hu) (by omega) hdepth)
      (ih hc hm hdepth)
  | child hnode hbefore _ ih =>
    obtain ⟨o, ho⟩ := opening_of_written hnode
    exact ho.ok (settled_eventsAll_error
      (fun u hu => events_of_written (hbefore u hu) (by omega) hdepth) (ih hc hm hdepth)).error
  | @behind n v c d hgives _ ih =>
    obtain ⟨m, rfl⟩ : ∃ m', m = m' + 1 := Nat.exists_eq_succ_of_ne_zero (by omega)
    exact Cells.Settled.ok (x := ExceptT.mk (force d)) hgives.settled (ih hc (by omega) (by omega))

/-- A tree in which every deferred value computes something is serialized like the filled tree, in
every format, if no element has an attribute that is a deferred nil or boolean. A deferred value
that serializing comes to, and that fails, gives its error to the whole. -/
theorem serialize_transparent (cells : Cells) (tree : Value) (format : Option Dialect) :
    ((cells.fill tree).cells = [] → cells.Regular tree →
      ∃ r t, serialize format tree cells = some (r, t) ∧
        ∀ s, serialize format (cells.fill tree) s = some (r, s)) ∧
    ∀ n c e, cells.Reaches n tree c → cells.Gives c (.error e) →
      ∃ t, serialize format tree cells = some (.error e, t) := by
  refine ⟨fun h hregular => serialize_fill h hregular format, fun n c e h hc => ?_⟩
  have hdepth := cells.lt_depth
  obtain ⟨t, ht⟩ := (settled_of_reaches (h.within_length hc) hc (by omega) le_rfl).run
  exact ⟨t, serialize_of_eventsWith ht format⟩

def lazily : Cells :=
  [⟨.pending (.outcome (.ok (.str "a"))), 0⟩,
    ⟨.pending (.outcome (.ok (.list [.deferred 0, .node "b.x" [("class", .deferred 0)] []]))), 0⟩,
    ⟨.pending (.text 1), 0⟩, ⟨.pending (.outcome (.error (.markup (.other "boom")))), 0⟩]

def letter : Value :=
  .node "p.y" [("class", .deferred 0), ("title", .deferred 2)] [.deferred 1, .str "."]

theorem regular_letter : lazily.Regular letter := by
  have htext : lazily.Gives 0 (.ok (.str "a")) := ⟨1, rfl⟩
  have hlist : lazily.Gives 1
      (.ok (.list [.deferred 0, .node "b.x" [("class", .deferred 0)] []])) := ⟨1, rfl⟩
  have hinner : (Shorthand.ofTag "b.x").kept [("class", .deferred 0)] = [("class", .str "")] := rfl
  have houter : (Shorthand.ofTag "p.y").kept [("class", .deferred 0), ("title", .deferred 2)] =
      [("class", .str ""), ("title", .deferred 2)] := rfl
  have htitle : (lazily.filled 2).isFlag = false := rfl
  simp [letter, Cells.regular_node_iff, Cells.regular_list_iff, Cells.regular_deferred_iff hlist,
    Cells.regular_deferred_iff htext, Cells.regular_str, hinner, houter, htitle]

/-- The letter is serialized like the filled letter, and a failure behind it is that of the
whole. -/
theorem letter_transparent :
    ((lazily.fill letter).cells = [] ∧ lazily.Regular letter ∧
      ∃ r t, serialize none letter lazily = some (r, t) ∧
        ∀ s, serialize none (lazily.fill letter) s = some (r, s)) ∧
    lazily.Reaches 0 (.list [letter, .deferred 3]) 3 ∧
      ∃ t, serialize none (.list [letter, .deferred 3]) lazily =
        some (.error (.markup (.other "boom")), t) := by
  have hfilled : (lazily.fill letter).cells = [] := rfl
  have hwritten : lazily.Written letter := by
    refine ⟨fun c hc => ⟨lazily.length, Cells.ends_of_filledWithin ?_⟩, _, _, rfl⟩
    exact Value.cells_subst_eq_nil_iff.mp hfilled c hc
  have hbefore : ∀ u ∈ [letter], lazily.Written u := by simpa using hwritten
  have hreaches : lazily.Reaches 0 (.list [letter, .deferred 3]) 3 := .item hbefore (.here 0 3)
  exact ⟨⟨hfilled, regular_letter,
    (serialize_transparent lazily letter none).1 hfilled regular_letter⟩, hreaches,
    (serialize_transparent lazily _ none).2 0 3 _ hreaches ⟨1, rfl⟩⟩

def off : Cells := [⟨.pending (.outcome (.ok (.bool false))), 0⟩]

/-- A field that is disabled if a deferred value says so. -/
def field : Value := .node "input" [("disabled", .deferred 0)] []

/-- The deferred false disables the field, which the value itself does not; and an attribute that
fails is written as an empty text. -/
theorem field_not_transparent :
    (∃ t, serialize none field off = some (.ok "<input disabled=\"false\">", t)) ∧
    off.fill field = .node "input" [("disabled", .bool false)] [] ∧
    (∀ s, serialize none (off.fill field) s = some (.ok "<input>", s)) ∧
    lazily.Gives 3 (.error (.markup (.other "boom"))) ∧
    ∃ t, serialize none (.node "p" [("title", .deferred 3)] []) lazily =
      some (.ok "<p title=\"\"></p>", t) :=
  ⟨⟨_, rfl⟩, rfl, fun _ => rfl, ⟨1, rfl⟩, _, rfl⟩

end Markup
end LayeredSite
