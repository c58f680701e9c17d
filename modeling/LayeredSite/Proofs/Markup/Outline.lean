import LayeredSite.Proofs.Fields
import LayeredSite.Proofs.Markup.Events
import LayeredSite.Proofs.Markup.ReadBack

namespace LayeredSite.Markup

def shown : Fields Value → Reading (List Attribute)
  | [] => pure []
  | (_, .nil) :: rest => shown rest
  | (_, .bool false) :: rest => shown rest
  | (key, .bool true) :: rest => do return .flag key :: (← shown rest)
  | (key, v) :: rest => do
    let value ← v.text
    return .pair key value :: (← shown rest)

mutual

/-- The tags and texts of a tree. Only a void element without children has no end tag. -/
def outline : Value → Reading (List Token)
  | .nil => pure []
  | .list items => outlineAll items
  | .node tag attrs children => do
    let element := Shorthand.ofTag tag
    let attributes ← shown (← element.attributes attrs)
    let inner ← outlineAll children
    let close := if children.isEmpty && isVoid element.name then [] else [.stop element.name]
    return .start element.name attributes :: inner ++ close
  | leaf => do return [.text (← leaf.text)]

def outlineAll : List Value → Reading (List Token)
  | [] => pure []
  | v :: rest => do
    let first ← outline v
    return first ++ (← outlineAll rest)

end

mutual

/-- No finished markup, map or deferred value stands in the place of a child. -/
def isPlain : Value → Bool
  | .raw _ => false
  | .map _ => false
  | .deferred _ => false
  | .list items => isPlainAll items
  | .node _ _ children => isPlainAll children
  | _ => true

def isPlainAll : List Value → Bool
  | [] => true
  | v :: rest => isPlain v && isPlainAll rest

end

mutual

def KeepsOrder : Value → Prop
  | .list items => KeepOrder items
  | .node _ attrs children => Fields.Sorted attrs ∧ KeepOrder children
  | _ => True

def KeepOrder : List Value → Prop
  | [] => True
  | v :: rest => KeepsOrder v ∧ KeepOrder rest

end

variable {cells cells' : Cells}

theorem shown_of_attributeOf {key : String} {v : Value} {a : Option Attribute}
    {between : Cells} (h : attributeOf key v cells = some (a, between)) {rest : Fields Value}
    {as : List Attribute} (hrest : shown rest between = some (as, cells')) :
    shown ((key, v) :: rest) cells = some (a.toList ++ as, cells') ∧
      ∀ b ∈ a.toList, b.key = key := by
  cases v with
  | nil =>
    obtain ⟨rfl, rfl⟩ := Reading.pure_eq_some_iff.mp h
    exact ⟨hrest, by simp⟩
  | bool b =>
    obtain ⟨rfl, rfl⟩ := Reading.pure_eq_some_iff.mp h
    cases b with
    | false => exact ⟨hrest, by simp⟩
    | true => exact ⟨Reading.bind_eq_some hrest, by simp [Attribute.key]⟩
  | _ =>
    obtain ⟨value, last, hvalue, h⟩ := Reading.bind_eq_some_iff.mp h
    obtain ⟨rfl, rfl⟩ := Reading.pure_eq_some_iff.mp h
    refine ⟨?_, by simp [Attribute.key]⟩
    exact (Reading.bind_eq_some hvalue).trans (Reading.bind_eq_some hrest)

theorem shown_of_attributesOf {element : String} {fields : Fields Value} {as : List Attribute}
    (h : attributesOf element fields cells = some (.ok as, cells')) :
    shown fields cells = some (as, cells') ∧ ∀ a ∈ as, isName a.key = true := by
  induction fields generalizing cells as with
  | nil =>
    obtain ⟨rfl, rfl⟩ := Rendering.pure_eq_ok_iff.mp h
    exact ⟨rfl, by simp⟩
  | cons e rest ih =>
    obtain ⟨key, v⟩ := e
    obtain ⟨hkey, a, between, others, ha, hothers, rfl⟩ := attributesOf_cons_eq_ok_iff.mp h
    obtain ⟨hshown, hnames⟩ := ih hothers
    obtain ⟨hcons, hown⟩ := shown_of_attributeOf ha hshown
    refine ⟨hcons, ?_⟩
    intro b hb
    rcases List.mem_append.mp hb with hb | hb
    · rw [hown b hb]
      exact hkey
    · exact hnames b hb

theorem forall₂_element {name : String} {as : List Attribute} (hname : isName name = true)
    (has : ∀ a ∈ as, isName a.key = true) {inner : List Event} {tokens : List Token}
    (h : List.Forall₂ Event.Shows inner tokens) {childless : Bool}
    (hempty : childless = true → inner = []) :
    List.Forall₂ Event.Shows (element name as childless inner)
      (.start name as :: tokens ++ if childless && isVoid name then [] else [.stop name]) := by
  unfold element
  split
  · rename_i hvoid
    obtain rfl := hempty (by simp_all)
    obtain rfl := List.forall₂_nil_left_iff.mp h
    exact .cons (.empty hname has) .nil
  · exact .cons (.start hname has) (List.rel_append h (.cons (.stop hname) .nil))

/-- A leaf shows its text. -/
theorem outline_of_text {v : Value} {events : List Event}
    (h : (do return [.text (← v.text)] : Rendering (List Event)) cells =
      some (.ok events, cells')) :
    ∃ tokens, (do return [.text (← v.text)] : Reading (List Token)) cells =
        some (tokens, cells') ∧ List.Forall₂ Event.Shows events tokens := by
  obtain ⟨s, between, hs, h⟩ := Rendering.bind_eq_ok_iff.mp h
  obtain ⟨rfl, rfl⟩ := Rendering.pure_eq_ok_iff.mp h
  exact ⟨[.text s], Reading.bind_eq_some (Rendering.lift_eq_ok_iff.mp hs), .cons (.text s) .nil⟩

variable {cell : CellId → Rendering (List Event)}

mutual

/-- The events of a plain tree show its outline. -/
theorem outline_of_eventsWith : (v : Value) → isPlain v = true →
    ∀ {cells cells' : Cells} {events : List Event},
      eventsWith cell v cells = some (.ok events, cells') →
      ∃ tokens, outline v cells = some (tokens, cells') ∧
        List.Forall₂ Event.Shows events tokens
  | .nil, _, _, _, _, h => by
    obtain ⟨rfl, rfl⟩ := Rendering.pure_eq_ok_iff.mp h
    exact ⟨[], rfl, .nil⟩
  | .list items, hplain, _, _, _, h => outlineAll_of_eventsAll items hplain h
  | .node tag attrs children, hplain, _, _, _, h => by
    obtain ⟨name, as, mid, inner, hopening, hinner, rfl⟩ := eventsWith_node_eq_ok_iff.mp h
    obtain ⟨rfl, hname, merged, between, hmerged, has⟩ := opening_eq_ok_iff.mp hopening
    obtain ⟨hshown, hkeys⟩ := shown_of_attributesOf has
    obtain ⟨tokens, houtline, htokens⟩ := outlineAll_of_eventsAll children hplain hinner
    -- An element without children has no events inside, so no end tag is missed if it is void.
    refine ⟨_, ?_, forall₂_element hname hkeys htokens ?_⟩
    · rw [outline, Reading.bind_eq_some hmerged, Reading.bind_eq_some hshown,
        Reading.bind_eq_some houtline]
      rfl
    · intro hnone
      obtain rfl := List.isEmpty_iff.mp hnone
      exact (Rendering.pure_eq_ok_iff.mp hinner).1.symm
  | .bool _, _, _, _, _, h => outline_of_text h
  | .int _, _, _, _, _, h => outline_of_text h
  | .float _, _, _, _, _, h => outline_of_text h
  | .str s, _, _, _, _, h => by
    obtain ⟨rfl, rfl⟩ := Rendering.pure_eq_ok_iff.mp h
    exact ⟨[.text s], rfl, .cons (.text s) .nil⟩
  | .keyword s, _, _, _, _, h => by
    obtain ⟨rfl, rfl⟩ := Rendering.pure_eq_ok_iff.mp h
    exact ⟨[.text s], rfl, .cons (.text s) .nil⟩

theorem outlineAll_of_eventsAll : (items : List Value) → isPlainAll items = true →
    ∀ {cells cells' : Cells} {events : List Event},
      eventsAll cell items cells = some (.ok events, cells') →
      ∃ tokens, outlineAll items cells = some (tokens, cells') ∧
        List.Forall₂ Event.Shows events tokens
  | [], _, _, _, _, h => by
    obtain ⟨rfl, rfl⟩ := Rendering.pure_eq_ok_iff.mp h
    exact ⟨[], rfl, .nil⟩
  | v :: rest, hplain, _, _, _, h => by
    obtain ⟨hv, hrest⟩ := Bool.and_eq_true_iff.mp hplain
    obtain ⟨first, between, others, hfirst, hothers, rfl⟩ := eventsAll_cons_eq_ok_iff.mp h
    obtain ⟨tokens, houtline, htokens⟩ := outline_of_eventsWith v hv hfirst
    obtain ⟨more, hmore, hmoretokens⟩ := outlineAll_of_eventsAll rest hrest hothers
    refine ⟨tokens ++ more, ?_, List.rel_append htokens hmoretokens⟩
    rw [outlineAll, Reading.bind_eq_some houtline, Reading.bind_eq_some hmore]
    rfl

end

section Order

variable {attrs fields : Fields Value}

theorem Shorthand.sorted_withId (s : Shorthand) (h : attrs.Sorted) : (s.withId attrs).Sorted := by
  unfold Shorthand.withId
  split
  · exact Fields.sorted_insert _ _ h
  · exact h

theorem Shorthand.sorted_attributes {s : Shorthand} (h : attrs.Sorted)
    (hmerged : s.attributes attrs cells = some (fields, cells')) : fields.Sorted := by
  have hid := s.sorted_withId h
  unfold Shorthand.attributes at hmerged
  split at hmerged
  · obtain ⟨rfl, -⟩ := Reading.pure_eq_some_iff.mp hmerged
    exact hid
  · cases hclass : Fields.get? (s.withId attrs) "class" with
    | some v =>
      rw [hclass] at hmerged
      obtain ⟨explicit, between, -, hmerged⟩ := Reading.bind_eq_some_iff.mp hmerged
      obtain ⟨rfl, -⟩ := Reading.pure_eq_some_iff.mp hmerged
      exact Fields.sorted_insert _ _ hid
    | none =>
      rw [hclass] at hmerged
      obtain ⟨explicit, between, -, hmerged⟩ := Reading.bind_eq_some_iff.mp hmerged
      obtain ⟨rfl, -⟩ := Reading.pure_eq_some_iff.mp hmerged
      exact Fields.sorted_insert _ _ hid

/-- The keys that are written are in the order of the fields. -/
theorem shown_keys_sublist {as : List Attribute} (h : shown fields cells = some (as, cells')) :
    (as.map Attribute.key).Sublist fields.keys := by
  induction fields using shown.induct generalizing cells as with
  | case1 =>
    obtain ⟨rfl, -⟩ := Reading.pure_eq_some_iff.mp h
    exact List.Sublist.slnil
  | case2 key rest ih => exact (ih h).cons key
  | case3 key rest ih => exact (ih h).cons key
  | case4 key rest ih =>
    obtain ⟨others, last, hothers, h⟩ := Reading.bind_eq_some_iff.mp h
    obtain ⟨rfl, rfl⟩ := Reading.pure_eq_some_iff.mp h
    exact (ih hothers).cons_cons key
  | case5 key v rest hnil hfalse htrue ih =>
    -- The last equation holds only of values that are none of those before.
    rw [shown] at h
    · obtain ⟨value, between, -, h⟩ := Reading.bind_eq_some_iff.mp h
      obtain ⟨others, last, hothers, h⟩ := Reading.bind_eq_some_iff.mp h
      obtain ⟨rfl, rfl⟩ := Reading.pure_eq_some_iff.mp h
      exact (ih hothers).cons_cons key
    all_goals assumption

def Token.InOrder : Token → Prop
  | .start _ as => (as.map Attribute.key).Pairwise (· < ·)
  | _ => True

theorem inOrder_of_leaf {v : Value} {tokens : List Token}
    (h : (do return [.text (← v.text)] : Reading (List Token)) cells = some (tokens, cells')) :
    ∀ t ∈ tokens, t.InOrder := by
  obtain ⟨s, between, -, h⟩ := Reading.bind_eq_some_iff.mp h
  obtain ⟨rfl, rfl⟩ := Reading.pure_eq_some_iff.mp h
  intro t ht
  obtain rfl := List.mem_singleton.mp ht
  trivial

mutual

theorem inOrder_of_outline : (v : Value) → KeepsOrder v →
    ∀ {cells cells' : Cells} {tokens : List Token}, outline v cells = some (tokens, cells') →
      ∀ t ∈ tokens, t.InOrder
  | .node tag attrs children, ⟨hattrs, hchildren⟩, _, _, _, h => by
    obtain ⟨merged, between, hmerged, h⟩ := Reading.bind_eq_some_iff.mp h
    obtain ⟨as, mid, has, h⟩ := Reading.bind_eq_some_iff.mp h
    obtain ⟨inner, last, hinner, h⟩ := Reading.bind_eq_some_iff.mp h
    obtain ⟨rfl, rfl⟩ := Reading.pure_eq_some_iff.mp h
    intro t ht
    rcases List.mem_append.mp ht with ht | ht
    · rcases List.mem_cons.mp ht with rfl | ht
      · exact (Shorthand.sorted_attributes hattrs hmerged).sublist (shown_keys_sublist has)
      · exact inOrder_of_outlineAll children hchildren hinner t ht
    · split at ht
      · contradiction
      · obtain rfl := List.mem_singleton.mp ht
        trivial
  | .list items, horder, _, _, _, h => inOrder_of_outlineAll items horder h
  | .nil, _, _, _, _, h => by
    obtain ⟨rfl, rfl⟩ := Reading.pure_eq_some_iff.mp h
    simp
  | .bool _, _, _, _, _, h => inOrder_of_leaf h
  | .int _, _, _, _, _, h => inOrder_of_leaf h
  | .float _, _, _, _, _, h => inOrder_of_leaf h
  | .str _, _, _, _, _, h => inOrder_of_leaf h
  | .keyword _, _, _, _, _, h => inOrder_of_leaf h
  | .raw _, _, _, _, _, h => inOrder_of_leaf h
  | .map _, _, _, _, _, h => inOrder_of_leaf h
  | .deferred _, _, _, _, _, h => inOrder_of_leaf h

theorem inOrder_of_outlineAll : (items : List Value) → KeepOrder items →
    ∀ {cells cells' : Cells} {tokens : List Token},
      outlineAll items cells = some (tokens, cells') → ∀ t ∈ tokens, t.InOrder
  | [], _, _, _, _, h => by
    obtain ⟨rfl, rfl⟩ := Reading.pure_eq_some_iff.mp h
    simp
  | v :: rest, ⟨hv, hrest⟩, _, _, _, h => by
    obtain ⟨first, between, hfirst, h⟩ := Reading.bind_eq_some_iff.mp h
    obtain ⟨others, last, hothers, h⟩ := Reading.bind_eq_some_iff.mp h
    obtain ⟨rfl, rfl⟩ := Reading.pure_eq_some_iff.mp h
    intro t ht
    rcases List.mem_append.mp ht with ht | ht
    · exact inOrder_of_outline v hv hfirst t ht
    · exact inOrder_of_outlineAll rest hrest hothers t ht

end

end Order

/-- Outside XHTML the markup of a plain tree is read back as its outline, so none of its names,
values and texts begins or ends a tag. The attributes of a tag are in the order of their keys. -/
theorem serialize_read_back {format : Option Dialect} {tree : Value} {out : String}
    (hplain : isPlain tree = true) (hformat : format ≠ some .xhtml)
    (h : serialize format tree cells = some (.ok out, cells')) :
    ∃ tokens body, outline tree cells = some (tokens, cells') ∧
      out = Dialect.prologue format ++ body ∧ tokenize body = mergeTexts tokens ∧
      (KeepsOrder tree → ∀ t ∈ tokens, t.InOrder) := by
  obtain ⟨events, between, hevents, h⟩ := Rendering.bind_eq_ok_iff.mp h
  obtain ⟨rfl, rfl⟩ := Rendering.pure_eq_ok_iff.mp h
  obtain ⟨tokens, houtline, htokens⟩ := outline_of_eventsWith tree hplain hevents
  have hxhtml : (format == some .xhtml) = false := beq_eq_false_iff_ne.mpr hformat
  have hout : write format events =
      Dialect.prologue format ++ String.join (events.map (·.write false)) := by
    rw [write, hxhtml]
  refine ⟨tokens, _, houtline, hout, tokenize_write htokens, ?_⟩
  intro horder
  exact inOrder_of_outline tree horder houtline

/-- A paragraph whose texts look like tags, ends of values and entities. -/
def disguised : Value :=
  .node "p#\"><b.a&b" [("class", .str "\"><i class=\""), ("hidden", .bool true), ("lang", .nil)]
    [.str "</p>", .keyword "&lt;", .node "br" [] []]

def disguisedAttributes : List Attribute :=
  [.pair "class" "a&b \"><i class=\"", .flag "hidden", .pair "id" "\"><b"]

theorem disguised_read_back : ∃ out body,
    serialize (some .html5) disguised [] = some (.ok out, []) ∧
    out = Dialect.prologue (some .html5) ++ body ∧
    tokenize body =
      [.start "p" disguisedAttributes, .text "</p>&lt;", .start "br" [], .stop "p"] := by
  have hmerged : (Shorthand.ofTag "p#\"><b.a&b").attributes
      [("class", .str "\"><i class=\""), ("hidden", .bool true), ("lang", .nil)] [] =
      some ([("class", .str "a&b \"><i class=\""), ("hidden", .bool true), ("id", .str "\"><b"),
        ("lang", .nil)], []) := by rfl
  have hattributes : attributesOf "p" [("class", .str "a&b \"><i class=\""),
      ("hidden", .bool true), ("id", .str "\"><b"), ("lang", .nil)] [] =
      some (.ok disguisedAttributes, []) := by rfl
  have hopening : opening "p#\"><b.a&b"
      [("class", .str "\"><i class=\""), ("hidden", .bool true), ("lang", .nil)] [] =
      some (.ok ("p", disguisedAttributes), []) :=
    opening_eq_ok_iff.mpr ⟨by rfl, by rfl, _, _, hmerged, hattributes⟩
  have hbr : opening "br" [] [] = some (.ok ("br", []), []) := by rfl
  have hinner (cell : CellId → Rendering (List Event)) :
      eventsAll cell [.str "</p>", .keyword "&lt;", .node "br" [] []] [] =
        some (.ok [.text "</p>", .text "&lt;", .empty "br" []], []) := by
    simp only [eventsAll, eventsWith, pure_bind, bind_assoc]
    rw [Rendering.bind_eq_ok hbr]
    rfl
  have hevents : events disguised [] = some (.ok (element "p" disguisedAttributes false
      [.text "</p>", .text "&lt;", .empty "br" []]), []) := by
    rw [events_apply, disguised]
    exact eventsWith_node_eq_ok_iff.mpr ⟨"p", _, _, _, hopening, hinner _, by rfl⟩
  obtain ⟨out, h⟩ : ∃ out, serialize (some .html5) disguised [] = some (.ok out, []) :=
    ⟨_, Rendering.bind_eq_ok hevents⟩
  obtain ⟨tokens, body, houtline, hout, hread, -⟩ := serialize_read_back (by rfl) (by decide) h
  have htokens : outline disguised [] = some ([.start "p" disguisedAttributes, .text "</p>",
      .text "&lt;", .start "br" [], .stop "p"], []) := by
    have hshown := (shown_of_attributesOf hattributes).1
    rw [disguised, outline, Reading.bind_eq_some hmerged, Reading.bind_eq_some hshown]
    rfl
  obtain rfl := (Prod.mk.inj (Option.some.inj (houtline.symm.trans htokens))).1
  refine ⟨out, body, h, hout, ?_⟩
  rw [hread]
  rfl

end LayeredSite.Markup
