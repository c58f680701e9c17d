import LayeredSite.Markup.Serialize
import LayeredSite.Proofs.Rendering
import Mathlib.Data.List.Basic

namespace LayeredSite.Markup

variable {cells cells' : Cells} {cell : CellId → Rendering (List Event)}

theorem attributesOf_cons_eq_ok_iff {element key : String} {v : Value} {rest : Fields Value}
    {as : List Attribute} :
    attributesOf element ((key, v) :: rest) cells = some (.ok as, cells') ↔
      isName key = true ∧ ∃ a between others,
        attributeOf key v cells = some (a, between) ∧
        attributesOf element rest between = some (.ok others, cells') ∧
        as = a.toList ++ others := by
  rw [attributesOf]
  constructor
  · intro h
    obtain ⟨hkey, h⟩ := Rendering.check_bind_eq_ok_iff.mp h
    obtain ⟨a, between, ha, h⟩ := Rendering.bind_eq_ok_iff.mp h
    obtain ⟨others, last, hothers, h⟩ := Rendering.bind_eq_ok_iff.mp h
    obtain ⟨rfl, rfl⟩ := Rendering.pure_eq_ok_iff.mp h
    exact ⟨by simpa using hkey, a, between, others, Rendering.lift_eq_ok_iff.mp ha, hothers, rfl⟩
  · rintro ⟨hkey, a, between, others, ha, hothers, rfl⟩
    refine Rendering.check_bind_eq_ok_iff.mpr ⟨by simpa using hkey, ?_⟩
    rw [Rendering.bind_eq_ok (Rendering.lift_eq_ok_iff.mpr ha), Rendering.bind_eq_ok hothers]
    rfl

theorem opening_eq_ok_iff {tag : String} {attrs : Fields Value} {name : String}
    {as : List Attribute} :
    opening tag attrs cells = some (.ok (name, as), cells') ↔
      name = (Shorthand.ofTag tag).name ∧ isName name = true ∧ ∃ merged between,
        (Shorthand.ofTag tag).attributes attrs cells = some (merged, between) ∧
        attributesOf name merged between = some (.ok as, cells') := by
  unfold opening
  constructor
  · intro h
    obtain ⟨merged, between, hmerged, h⟩ := Rendering.bind_eq_ok_iff.mp h
    obtain ⟨hname, h⟩ := Rendering.check_bind_eq_ok_iff.mp h
    obtain ⟨as', last, has, h⟩ := Rendering.bind_eq_ok_iff.mp h
    obtain ⟨hpair, rfl⟩ := Rendering.pure_eq_ok_iff.mp h
    obtain ⟨rfl, rfl⟩ := Prod.mk.inj hpair
    exact ⟨rfl, by simpa using hname, merged, between, Rendering.lift_eq_ok_iff.mp hmerged, has⟩
  · rintro ⟨rfl, hname, merged, between, hmerged, has⟩
    rw [Rendering.bind_eq_ok (Rendering.lift_eq_ok_iff.mpr hmerged)]
    refine Rendering.check_bind_eq_ok_iff.mpr ⟨by simpa using hname, ?_⟩
    rw [Rendering.bind_eq_ok has]
    rfl

theorem eventsWith_node_eq_ok_iff {tag : String} {attrs : Fields Value} {children : List Value}
    {events : List Event} :
    eventsWith cell (.node tag attrs children) cells = some (.ok events, cells') ↔
      ∃ name as between inner, opening tag attrs cells = some (.ok (name, as), between) ∧
        eventsAll cell children between = some (.ok inner, cells') ∧
        events = element name as children.isEmpty inner := by
  rw [eventsWith]
  constructor
  · intro h
    obtain ⟨⟨name, as⟩, between, hopening, h⟩ := Rendering.bind_eq_ok_iff.mp h
    obtain ⟨inner, last, hinner, h⟩ := Rendering.bind_eq_ok_iff.mp h
    obtain ⟨rfl, rfl⟩ := Rendering.pure_eq_ok_iff.mp h
    exact ⟨name, as, between, inner, hopening, hinner, rfl⟩
  · rintro ⟨name, as, between, inner, hopening, hinner, rfl⟩
    rw [Rendering.bind_eq_ok hopening]
    exact (Rendering.bind_eq_ok hinner).trans rfl

theorem eventsAll_cons_eq_ok_iff {v : Value} {rest : List Value} {events : List Event} :
    eventsAll cell (v :: rest) cells = some (.ok events, cells') ↔
      ∃ first between others, eventsWith cell v cells = some (.ok first, between) ∧
        eventsAll cell rest between = some (.ok others, cells') ∧ events = first ++ others := by
  rw [eventsAll]
  constructor
  · intro h
    obtain ⟨first, between, hfirst, h⟩ := Rendering.bind_eq_ok_iff.mp h
    obtain ⟨others, last, hothers, h⟩ := Rendering.bind_eq_ok_iff.mp h
    obtain ⟨rfl, rfl⟩ := Rendering.pure_eq_ok_iff.mp h
    exact ⟨first, between, others, hfirst, hothers, rfl⟩
  · rintro ⟨first, between, others, hfirst, hothers, rfl⟩
    rw [Rendering.bind_eq_ok hfirst, Rendering.bind_eq_ok hothers]
    rfl

theorem events_apply (tree : Value) (cells : Cells) :
    events tree cells = eventsWith (cellEventsWithin cells.depth) tree cells := rfl

end LayeredSite.Markup

namespace LayeredSite.Markup

def written (xhtml : Bool) (events : List Event) : ℕ :=
  (String.join (events.map (·.write xhtml))).length

variable {p q : Prop} {name : String} {as as' : List Attribute} {es es' : List Event}
  {xhtml : Bool}

theorem written_cons (xhtml : Bool) (e : Event) (rest : List Event) :
    written xhtml (e :: rest) = (e.write xhtml).length + written xhtml rest := by
  rw [written, List.map_cons, String.join_cons, String.length_append, written]

theorem written_append (xhtml : Bool) (first second : List Event) :
    written xhtml (first ++ second) = written xhtml first + written xhtml second := by
  rw [written, List.map_append, String.join_append, String.length_append, written, written]

theorem length_write (format : Option Dialect) (events : List Event) :
    (write format events).length =
      (Dialect.prologue format).length + written (format == some .xhtml) events := by
  rw [write, String.length_append, written]

/-- The second events are the first ones, or shorter as text if something holds. -/
structure Tighter (p : Prop) (es es' : List Event) : Prop where
  same : ¬ p → es' = es
  shorter : p → ∀ xhtml, written xhtml es' < written xhtml es

namespace Tighter

theorem refl (hp : ¬ p) (es : List Event) : Tighter p es es := ⟨fun _ => rfl, fun h => absurd h hp⟩

theorem congr (h : Tighter p es es') (hpq : p ↔ q) : Tighter q es es' :=
  ⟨fun hq => h.same fun hp => hq (hpq.mp hp), fun hq => h.shorter (hpq.mpr hq)⟩

theorem written_le (h : Tighter p es es') (xhtml : Bool) :
    written xhtml es' ≤ written xhtml es := by
  by_cases hp : p
  · exact Nat.le_of_lt (h.shorter hp xhtml)
  · exact Nat.le_of_eq (congrArg (written xhtml) (h.same hp))

theorem append {ds ds' : List Event} (h : Tighter p ds ds') (h' : Tighter q es es') :
    Tighter (p ∨ q) (ds ++ es) (ds' ++ es') := by
  refine ⟨fun hneither => ?_, fun heither xhtml => ?_⟩
  · obtain ⟨hp, hq⟩ := not_or.mp hneither
    rw [h.same hp, h'.same hq]
  · rw [written_append, written_append]
    rcases heither with hp | hq
    · exact Nat.add_lt_add_of_lt_of_le (h.shorter hp xhtml) (h'.written_le xhtml)
    · exact Nat.add_lt_add_of_le_of_lt (h.written_le xhtml) (h'.shorter hq xhtml)

/-- Shorter events are another text in every format, and events that are the same the same one. -/
theorem write_eq_iff (h : Tighter p es es') (format : Option Dialect) :
    write format es' = write format es ↔ ¬ p := by
  refine ⟨fun hsame hp => ?_, fun hp => by rw [h.same hp]⟩
  have hlength := congrArg String.length hsame
  have hlt := h.shorter hp (format == some .xhtml)
  rw [length_write, length_write] at hlength
  omega

end Tighter

structure TighterAttributes (p : Prop) (as as' : List Attribute) : Prop where
  same : ¬ p → as' = as
  shorter : p → ∀ xhtml, (writeAttributes xhtml as').length < (writeAttributes xhtml as).length

theorem TighterAttributes.refl (hp : ¬ p) (as : List Attribute) : TighterAttributes p as as :=
  ⟨fun _ => rfl, fun h => absurd h hp⟩

theorem TighterAttributes.start (h : TighterAttributes p as as') (name : String) :
    Tighter p [.start name as] [.start name as'] := by
  refine ⟨fun hp => by rw [h.same hp], fun hp xhtml => ?_⟩
  have hlt := h.shorter hp xhtml
  simp only [written_cons, Event.write, String.length_append]
  omega

theorem TighterAttributes.empty (h : TighterAttributes p as as') (name : String) :
    Tighter p [.empty name as] [.empty name as'] := by
  refine ⟨fun hp => by rw [h.same hp], fun hp xhtml => ?_⟩
  have hlt := h.shorter hp xhtml
  simp only [written_cons, Event.write, String.length_append]
  omega

/-- The tags of an element are longer than the one tag of an empty one. -/
theorem written_empty_lt (xhtml : Bool) (name : String) (as : List Attribute) (es : List Event) :
    written xhtml [.empty name as] < written xhtml (.start name as :: es ++ [.stop name]) := by
  have hclose : (if xhtml then " />" else ">").length ≤ 3 := by cases xhtml <;> decide
  have hless : ("<" : String).length = 1 := rfl
  have hgreater : (">" : String).length = 1 := rfl
  have hstop : ("</" : String).length = 2 := rfl
  have hnone : written xhtml [] = 0 := rfl
  rw [List.cons_append, written_cons, written_cons, written_append, written_cons]
  simp only [Event.write, String.length_append, hnone, hless, hgreater, hstop]
  omega

/-- An element with tighter attributes and content. It is tighter itself too if it is void and has
no children any more. -/
theorem Tighter.element (h : Tighter q es es') (ha : TighterAttributes p as as') (name : String)
    {childless childless' : Bool} (hnone : childless = true → childless' = true ∧ ¬ q) :
    Tighter ((isVoid name ∧ childless = false ∧ childless' = true) ∨ p ∨ q)
      (element name as childless es) (element name as' childless' es') := by
  cases childless with
  | true =>
    obtain ⟨rfl, hq⟩ := hnone rfl
    obtain rfl := h.same hq
    simp only [Markup.element, Bool.true_and]
    split
    · exact (ha.empty name).congr (by simp [hq])
    · have hboth := ((ha.start name).append h).append (.refl not_false [.stop name])
      exact hboth.congr (by simp [hq])
  | false =>
    by_cases hempty : childless' = true ∧ isVoid name = true
    · obtain ⟨rfl, hvoid⟩ := hempty
      have hstart := ((ha.start name).append h).append (.refl not_false [.stop name])
      simp only [Markup.element, hvoid, Bool.false_and, Bool.true_and, Bool.false_eq_true, if_true,
        if_false]
      refine ⟨fun hnot => absurd (.inl ⟨trivial, trivial, trivial⟩) hnot, fun _ xhtml => ?_⟩
      exact Nat.lt_of_lt_of_le (written_empty_lt xhtml name as' es') (hstart.written_le xhtml)
    · have hboth := ((ha.start name).append h).append (.refl not_false [.stop name])
      rw [Markup.element, Markup.element, Bool.false_and, if_neg Bool.false_ne_true,
        if_neg (by simpa using hempty)]
      refine hboth.congr ?_
      rw [or_false]
      exact ⟨.inr, fun heither => heither.resolve_left fun ⟨hvoid, _, hnone'⟩ =>
        hempty ⟨hnone', hvoid⟩⟩

end LayeredSite.Markup
