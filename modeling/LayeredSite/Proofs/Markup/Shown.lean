import LayeredSite.Proofs.Cells.Keeping
import LayeredSite.Proofs.Markup.Events

namespace LayeredSite.Markup

variable {s t u : Cells} {part page v : Value} {cell : CellId → Rendering (List Event)}
  {evs : List Event} {n : ℕ}

/-- The value stands in a page, or in a value that a cell of the page is known to give. -/
inductive Shown (cells : Cells) (part : Value) : Value → Prop
  | here : Shown cells part part
  | item {v : Value} {items : List Value} : v ∈ items → Shown cells part v →
      Shown cells part (.list items)
  | child {v : Value} {tag : String} {attrs : Fields Value} {children : List Value} :
      v ∈ children → Shown cells part v → Shown cells part (.node tag attrs children)
  | deferred {v : Value} {c : CellId} : cells.Fixed c (.ok v) → Shown cells part v →
      Shown cells part (.deferred c)

def KeepsCells (cell : CellId → Rendering (List Event)) : Prop :=
  ∀ c, Along Cells.Keeps (ResultIn anything anything) (cell c)

theorem keepsCells_cellEventsWithin (n : ℕ) : KeepsCells (cellEventsWithin n) := fun _ =>
  (Along.rules Cells.course_keeps).cellEventsWithin trivial

theorem keeps_of_eventsWith (hcell : KeepsCells cell) {r : Except TemplateError (List Event)}
    (h : eventsWith cell v s = some (r, t)) : s.Keeps t :=
  ((Along.rules Cells.course_keeps).eventsWith v (fun c _ => ⟨⟨0, trivial⟩, hcell c⟩) h).1

theorem keeps_of_opening {tag : String} {attrs : Fields Value}
    {r : Except TemplateError (String × List Attribute)}
    (h : opening tag attrs s = some (r, t)) : s.Keeps t :=
  ((Along.rules Cells.course_keeps).opening tag (fun _ _ => ⟨0, trivial⟩) h).1

theorem element_of_mem {children : List Value} (hv : v ∈ children) (name : String)
    (as : List Attribute) (inner : List Event) :
    element name as children.isEmpty inner = .start name as :: inner ++ [.stop name] := by
  have hchildren : children.isEmpty = false := by
    rw [List.isEmpty_eq_false_iff]
    exact List.ne_nil_of_mem hv
  rw [element, hchildren]
  rfl

/-- The events of an item are among those of the list. -/
theorem exists_events_of_mem (hcell : KeepsCells cell) {items : List Value} (hv : v ∈ items)
    (h : eventsAll cell items s = some (.ok evs, t)) :
    ∃ before inner after, s.Keeps before ∧ eventsWith cell v before = some (.ok inner, after) ∧
      inner <:+: evs := by
  induction items generalizing s evs with
  | nil => cases hv
  | cons w rest ih =>
    obtain ⟨first, between, others, hfirst, hothers, rfl⟩ := eventsAll_cons_eq_ok_iff.mp h
    rcases List.mem_cons.mp hv with rfl | hv
    · exact ⟨s, first, between, fun _ _ ho => ho, hfirst, List.infix_append' [] first others⟩
    · obtain ⟨before, inner, after, hkeeps, hinner, hamong⟩ := ih hv hothers
      have hbetween := keeps_of_eventsWith hcell hfirst
      exact ⟨before, inner, after, Cells.course_keeps.trans hbetween hkeeps, hinner,
        hamong.trans (List.suffix_append first others).isInfix⟩

/-- The events of a part are among those of the page, found with less depth and later cells. -/
theorem Shown.exists_events (hshown : Shown s part page) (hst : s.Keeps t)
    (h : eventsWith (cellEventsWithin n) page t = some (.ok evs, u)) :
    ∃ m before inner after, eventsWith (cellEventsWithin m) part before = some (.ok inner, after) ∧
      inner <:+: evs := by
  -- Cells are read on the way to the part, so the induction is for all later cells.
  induction hshown generalizing n t u evs with
  | here => exact ⟨n, t, evs, u, h, List.infix_rfl⟩
  | item hv _ ih =>
    obtain ⟨t', inner, u', ht', hinner, hamong⟩ :=
      exists_events_of_mem (keepsCells_cellEventsWithin n) hv h
    obtain ⟨m, before, inner', after, hpart, hamong'⟩ :=
      ih (Cells.course_keeps.trans hst ht') hinner
    exact ⟨m, before, inner', after, hpart, hamong'.trans hamong⟩
  | child hv _ ih =>
    obtain ⟨name, as, between, all, hopening, hall, rfl⟩ := eventsWith_node_eq_ok_iff.mp h
    obtain ⟨t', inner, u', ht', hinner, hamong⟩ :=
      exists_events_of_mem (keepsCells_cellEventsWithin n) hv hall
    have hkeeps := Cells.course_keeps.trans hst (keeps_of_opening hopening)
    obtain ⟨m, before, inner', after, hpart, hamong'⟩ :=
      ih (Cells.course_keeps.trans hkeeps ht') hinner
    rw [element_of_mem hv]
    have hbetween : all <:+: .start name as :: all ++ [.stop name] := ⟨[_], [_], rfl⟩
    exact ⟨m, before, inner', after, hpart, hamong'.trans (hamong.trans hbetween)⟩
  | deferred hfixed _ ih =>
    cases n with
    | zero => cases h
    | succ n =>
      obtain ⟨w, t', hforce, hevents⟩ := Rendering.bind_eq_ok_iff.mp h
      cases (hst _ _ hfixed).of_force hforce
      exact ih (Cells.course_keeps.trans hst (Along.force Cells.course_keeps _ hforce).1) hevents

theorem eventsWith_raw_eq_ok_iff {text : String} :
    eventsWith cell (.raw text) s = some (.ok evs, t) ↔ [.raw text] = evs ∧ s = t := by
  rw [eventsWith, Rendering.pure_eq_ok_iff]

theorem eventsWith_node_raw {tag text : String} {attrs : Fields Value}
    (h : eventsWith cell (.node tag attrs [.raw text]) s = some (.ok evs, t)) :
    ∃ name as, opening tag attrs s = some (.ok (name, as), t) ∧
      evs = [.start name as, .raw text, .stop name] := by
  obtain ⟨name, as, between, inner, hopening, hinner, rfl⟩ := eventsWith_node_eq_ok_iff.mp h
  obtain ⟨first, last, others, hfirst, hothers, rfl⟩ := eventsAll_cons_eq_ok_iff.mp hinner
  obtain ⟨rfl, rfl⟩ := eventsWith_raw_eq_ok_iff.mp hfirst
  obtain ⟨rfl, rfl⟩ := Rendering.pure_eq_ok_iff.mp hothers
  exact ⟨name, as, hopening, rfl⟩

/-- A node around finished markup is written as a start tag, the markup and an end tag. -/
theorem exists_of_shown {tag text out : String} {attrs : Fields Value} {format : Option Dialect}
    (hshown : Shown s (.node tag attrs [.raw text]) page)
    (h : serialize format page s = some (.ok out, t)) :
    ∃ name as u u' before behind, opening tag attrs u = some (.ok (name, as), u') ∧
      out = before ++ (Event.start name as).write (format == some .xhtml) ++ text ++
        (Event.stop name).write (format == some .xhtml) ++ behind := by
  obtain ⟨evs, last, hevents, hwrite⟩ := Rendering.bind_eq_ok_iff.mp h
  obtain ⟨rfl, rfl⟩ := Rendering.pure_eq_ok_iff.mp hwrite
  obtain ⟨m, u, inner, u', hnode, before, behind, rfl⟩ :=
    hshown.exists_events (Cells.course_keeps.refl s) ((events_apply page s).symm.trans hevents)
  obtain ⟨name, as, hopening, rfl⟩ := eventsWith_node_raw hnode
  refine ⟨name, as, u, u', Dialect.prologue format ++
    String.join (before.map (·.write (format == some .xhtml))),
    String.join (behind.map (·.write (format == some .xhtml))), hopening, ?_⟩
  simp [write, Event.write, String.append_assoc]

end LayeredSite.Markup
