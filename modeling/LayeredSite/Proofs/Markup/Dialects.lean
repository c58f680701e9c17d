import LayeredSite.Proofs.Cells.Steady
import LayeredSite.Proofs.Markup.Outline
import LayeredSite.Proofs.Markup.Xhtml

namespace LayeredSite.Markup

/-- No finished markup stands in the place of a child, nor in a computed value there. -/
inductive RawFree (cells : Cells) : Value → Prop
  | nil : RawFree cells .nil
  | bool (b : Bool) : RawFree cells (.bool b)
  | int (n : Int64) : RawFree cells (.int n)
  | float (f : Float) : RawFree cells (.float f)
  | str (s : String) : RawFree cells (.str s)
  | keyword (s : String) : RawFree cells (.keyword s)
  | map (fields : Fields Value) : RawFree cells (.map fields)
  | list {items : List Value} : (∀ v ∈ items, RawFree cells v) → RawFree cells (.list items)
  | node {tag : String} {attrs : Fields Value} {children : List Value} :
      (∀ v ∈ children, RawFree cells v) → RawFree cells (.node tag attrs children)
  | deferred {c : CellId} {o : Outcome} : cells.outcome? c = some o →
      (∀ v, o = .ok v → RawFree cells v) → RawFree cells (.deferred c)

/-- Events that are written with sound names; only a void element is empty. -/
inductive Event.Sound : Event → Prop
  | start {name : String} {as : List Attribute} : isName name = true →
      (∀ a ∈ as, isName a.key = true) → Sound (.start name as)
  | empty {name : String} {as : List Attribute} : isName name = true →
      (∀ a ∈ as, isName a.key = true) → isVoid name = true → Sound (.empty name as)
  | stop {name : String} : isName name = true → Sound (.stop name)
  | text (s : String) : Sound (.text s)

/-- Sound events in which every element that is started is stopped behind what is inside it. -/
inductive Nested : List Event → Prop
  | nil : Nested []
  | text (s : String) : Nested [.text s]
  | empty {name : String} {as : List Attribute} : isName name = true →
      (∀ a ∈ as, isName a.key = true) → isVoid name = true → Nested [.empty name as]
  | element {name : String} {as : List Attribute} {inner : List Event} : isName name = true →
      (∀ a ∈ as, isName a.key = true) → Nested inner →
      Nested (.start name as :: inner ++ [.stop name])
  | append {first rest : List Event} : Nested first → Nested rest → Nested (first ++ rest)

theorem Nested.sound {events : List Event} (h : Nested events) : ∀ e ∈ events, e.Sound := by
  induction h with
  | nil => simp
  | text s => simpa using .text s
  | empty hname has hvoid => simpa using .empty hname has hvoid
  | element hname has _ ih =>
    intro e he
    rcases List.mem_append.mp he with he | he
    · rcases List.mem_cons.mp he with rfl | he
      · exact .start hname has
      · exact ih e he
    · obtain rfl := List.mem_singleton.mp he
      exact .stop hname
  | append _ _ ihfirst ihrest => exact List.forall_mem_append.mpr ⟨ihfirst, ihrest⟩

theorem nested_element {name : String} {as : List Attribute} {inner : List Event}
    (hname : isName name = true) (has : ∀ a ∈ as, isName a.key = true) (h : Nested inner)
    (childless : Bool) : Nested (element name as childless inner) := by
  unfold element
  split
  · rename_i hvoid
    exact .empty hname has (Bool.and_eq_true_iff.mp hvoid).2
  · exact .element hname has h

section Events

variable {cells : Cells}

/-- What every run of a steady reading gives is what it gives. -/
theorem steady_of_runs {α : Type} {Q Q' : α → Prop} {x : Reading α}
    (hx : Steady (· = cells) Q x) (h : ∀ a t, x cells = some (a, t) → Q' a) :
    Steady (· = cells) Q' x := by
  obtain ⟨a, -, hrun⟩ := hx
  obtain ⟨t, -, ha⟩ := hrun cells rfl
  exact ⟨a, h a t ha, hrun⟩

theorem steady_opening (tag : String) {attrs : Fields Value}
    (hattrs : ∀ c ∈ Value.cellsOf attrs, cells.Computed c) :
    Steady (· = cells)
      (ResultIn (fun r => isName r.1 = true ∧ ∀ a ∈ r.2, isName a.key = true) anything)
      (opening tag attrs) := by
  refine steady_of_runs ((Steady.rules cells.stages_computed).opening tag hattrs) fun r t hrun => ?_
  cases r with
  | error e => trivial
  | ok r =>
    obtain ⟨-, hname, merged, between, -, has⟩ := opening_eq_ok_iff.mp hrun
    exact ⟨hname, (shown_of_attributesOf has).2⟩

theorem nested_eventsAll {cell : CellId → Rendering (List Event)} {items : List Value}
    (h : ∀ v ∈ items, Steady (· = cells) (ResultIn Nested anything) (eventsWith cell v)) :
    Steady (· = cells) (ResultIn Nested anything) (eventsAll cell items) := by
  have rules := Steady.rules cells.stages_computed
  induction items with
  | nil => exact rules.ok .nil
  | cons v rest ih =>
    obtain ⟨hv, hrest⟩ := List.forall_mem_cons.mp h
    refine rules.next hv fun first hfirst => ?_
    exact rules.next (ih hrest) fun others hothers => rules.ok (hfirst.append hothers)

theorem nested_leaf {v : Value} (hv : ∀ c ∈ v.cells, cells.Computed c) :
    Steady (· = cells) (ResultIn Nested anything)
      (do return [.text (← v.text)] : Rendering (List Event)) := by
  have rules := Steady.rules cells.stages_computed
  exact rules.next (rules.lift (rules.text hv)) fun s _ => rules.ok (.text s)

/-- The events of a tree without finished markup are nested, and finding them changes nothing. -/
theorem nested_eventsWith {n : ℕ} {v : Value} (hraw : RawFree cells v)
    (hends : ∀ c ∈ v.cells, Ends cells.outcome? n c) :
    Steady (· = cells) (ResultIn Nested anything) (eventsWith (cellEventsWithin n) v) := by
  have rules := Steady.rules cells.stages_computed
  induction hraw generalizing n with
  | nil => exact rules.ok .nil
  | bool b => exact nested_leaf fun c hc => ⟨n, hends c hc⟩
  | int i => exact nested_leaf fun c hc => ⟨n, hends c hc⟩
  | float f => exact nested_leaf fun c hc => ⟨n, hends c hc⟩
  | str s => exact rules.ok (.text s)
  | keyword s => exact rules.ok (.text s)
  | map fields => exact rules.error trivial
  | list _ ih =>
    refine nested_eventsAll fun v hv => ih v hv fun c hc => ?_
    exact hends c (Value.mem_cellsAll hv hc)
  | node _ ih =>
    obtain ⟨hattrs, hchildren⟩ := List.forall_mem_append.mp hends
    refine rules.next (steady_opening _ fun c hc => ⟨n, hattrs c hc⟩) fun r hr => ?_
    refine rules.next (nested_eventsAll fun v hv => ih v hv fun c hc => ?_) fun inner hinner => ?_
    · exact hchildren c (Value.mem_cellsAll hv hc)
    · exact rules.ok (nested_element hr.1 hr.2 hinner _)
  | @deferred c o ho _ ih =>
    have hc := hends c (List.mem_singleton_self c)
    cases n with
    | zero => exact hc.elim
    | succ n =>
      -- The cell is computed, so forcing it changes nothing and gives its outcome.
      have hforce : Steady (· = cells) (· = o) (force c) :=
        ⟨o, rfl, fun s hs => ⟨s, hs, hs ▸ force_done (Cells.outcome?_eq_some_iff.mp ho)⟩⟩
      refine Steady.sequence hforce fun o' ho' => ?_
      subst ho'
      cases o' with
      | error e => exact rules.error trivial
      | ok v => exact ih v rfl fun d hd => Cells.ends_of_refers hc ⟨v, ho, hd⟩

theorem nested_events {tree : Value} (hraw : RawFree cells tree)
    (hcomputed : ∀ c ∈ tree.cells, cells.Computed c) :
    ∃ r, events tree cells = some (r, cells) ∧ ResultIn Nested anything r := by
  have rules := Steady.rules cells.stages_computed
  have hsteady : Steady (· = cells) (ResultIn Nested anything) (events tree) := by
    refine rules.depth (f := fun n => eventsWith (cellEventsWithin n) tree) fun n hn => ?_
    refine nested_eventsWith hraw fun c hc => ?_
    obtain ⟨m, hm⟩ := hcomputed c hc
    exact (hn m c hm).further
  obtain ⟨r, hr, hrun⟩ := hsteady
  obtain ⟨t, rfl, hevents⟩ := hrun cells rfl
  exact ⟨r, hevents, hr⟩

theorem serialize_of_events {tree : Value} {r : Except TemplateError (List Event)}
    (h : events tree cells = some (r, cells)) (format : Option Dialect) :
    serialize format tree cells = some (r.map (write format), cells) := by
  cases r with
  | ok events => exact Rendering.bind_eq_ok h
  | error e => exact Rendering.bind_eq_error h

end Events

def Event.token : Event → Token
  | .start name as => .start name as
  | .empty name as => .start name as
  | .stop name => .stop name
  | .text s => .text s
  | .raw s => .text s

theorem Event.Sound.shows {e : Event} (h : e.Sound) : e.Shows e.token := by
  cases h with
  | start hname has => exact .start hname has
  | empty hname has _ => exact .empty hname has
  | stop hname => exact .stop hname
  | text s => exact .text s

/-- An attribute as XHTML is to say it: a flag has its own name as its value. -/
def Attribute.said : Attribute → String × String
  | .flag key => (key, key)
  | .pair key value => (key, value)

/-- The same tag or text in XHTML, with the given values of the attributes. Only a void element
may be closed at once. -/
inductive Token.As (value : Attribute → String × String) : Token → XhtmlToken → Prop
  | start (name : String) (as : List Attribute) :
      As value (.start name as) (.tag (.start name (as.map value)))
  | empty {name : String} (as : List Attribute) : isVoid name = true →
      As value (.start name as) (.tag (.empty name (as.map value)))
  | stop (name : String) : As value (.stop name) (.tag (.stop name))
  | text (s : String) : As value (.text s) (.text s)

def Token.attributes : Token → List Attribute
  | .start _ as => as
  | _ => []

theorem Event.Sound.token_as {e : Event} (h : e.Sound) :
    e.token.As Attribute.read e.xhtml := by
  cases h with
  | start _ _ => exact .start _ _
  | empty _ _ hvoid => exact .empty _ hvoid
  | stop _ => exact .stop _
  | text s => exact .text s

section Reading

variable {value : Attribute → String × String} {t : Token} {x : XhtmlToken}
  {tokens : List Token} {xs : List XhtmlToken}

theorem forall₂_pushText (s : String) (h : List.Forall₂ (Token.As value) tokens xs) :
    List.Forall₂ (Token.As value) (pushText s tokens) (XhtmlToken.pushText s xs) := by
  have hfront (tokens : List Token) (xs : List XhtmlToken)
      (h : List.Forall₂ (Token.As value) tokens xs) :
      List.Forall₂ (Token.As value) (if s = "" then tokens else .text s :: tokens)
        (if s = "" then xs else .text s :: xs) := by
    split
    · exact h
    · exact .cons (.text s) h
  cases h with
  | nil => exact hfront _ _ .nil
  | cons ht hrest =>
    cases ht with
    | start name as => exact hfront _ _ (.cons (.start name as) hrest)
    | empty as hvoid => exact hfront _ _ (.cons (.empty as hvoid) hrest)
    | stop name => exact hfront _ _ (.cons (.stop name) hrest)
    | text t => exact .cons (.text _) hrest

theorem forall₂_push (ht : t.As value x) (h : List.Forall₂ (Token.As value) tokens xs) :
    List.Forall₂ (Token.As value) (push t tokens) (XhtmlToken.push x xs) := by
  cases ht with
  | start name as => exact .cons (.start name as) h
  | empty as hvoid => exact .cons (.empty as hvoid) h
  | stop name => exact .cons (.stop name) h
  | text s => exact forall₂_pushText s h

theorem forall₂_merge {events : List Event} (h : ∀ e ∈ events, e.Sound) :
    List.Forall₂ (Token.As Attribute.read) (mergeTexts (events.map Event.token))
      ((events.map Event.xhtml).foldr XhtmlToken.push []) := by
  induction events with
  | nil => exact .nil
  | cons e rest ih =>
    obtain ⟨he, hrest⟩ := List.forall_mem_cons.mp h
    exact forall₂_push he.token_as (ih hrest)

theorem map_said_eq_iff (as : List Attribute) :
    as.map Attribute.said = as.map Attribute.read ↔
      ∀ key, .flag key ∈ as → Text.unescape key = key := by
  rw [List.map_inj_left]
  constructor
  · intro h key hkey
    exact (Prod.mk.inj (h _ hkey)).2.symm
  · intro h a ha
    cases a with
    | flag key => rw [Attribute.said, Attribute.read, h key ha]
    | pair key value => rfl

/-- What is read says what it should exactly if no flag has a key with an entity. -/
theorem Token.As.said_iff (h : t.As Attribute.read x) :
    t.As Attribute.said x ↔ ∀ key, .flag key ∈ t.attributes → Text.unescape key = key := by
  cases h with
  | start name as =>
    rw [Token.attributes, ← map_said_eq_iff]
    constructor
    · intro hsaid
      generalize hx : as.map Attribute.read = read at hsaid
      cases hsaid
      rfl
    · intro he
      rw [← he]
      exact .start name as
  | empty as hvoid =>
    rw [Token.attributes, ← map_said_eq_iff]
    constructor
    · intro hsaid
      generalize hx : as.map Attribute.read = read at hsaid
      cases hsaid
      rfl
    · intro he
      rw [← he]
      exact .empty as hvoid
  | stop name => simpa [Token.attributes] using .stop name
  | text s => simpa [Token.attributes] using .text s

theorem forall₂_said_iff (h : List.Forall₂ (Token.As Attribute.read) tokens xs) :
    List.Forall₂ (Token.As Attribute.said) tokens xs ↔
      ∀ t ∈ tokens, ∀ key, .flag key ∈ t.attributes → Text.unescape key = key := by
  induction h with
  | nil => simp
  | cons ht _ ih => rw [List.forall₂_cons, List.forall_mem_cons, ht.said_iff, ih]

end Reading

/-- Every element of the tokens is closed, those of a stack that are open before them included,
and the innermost one first. -/
def closes : List String → List XhtmlToken → Bool
  | stack, [] => stack.isEmpty
  | stack, .tag (.start name _) :: rest => closes (name :: stack) rest
  | stack, .tag (.empty _ _) :: rest => closes stack rest
  | [], .tag (.stop _) :: _ => false
  | open_ :: stack, .tag (.stop name) :: rest => open_ == name && closes stack rest
  | stack, .text _ :: rest => closes stack rest

theorem closes_pushText (stack : List String) (s : String) (xs : List XhtmlToken) :
    closes stack (XhtmlToken.pushText s xs) = closes stack xs := by
  have hfront (xs : List XhtmlToken) :
      closes stack (if s = "" then xs else .text s :: xs) = closes stack xs := by
    split
    · rfl
    · simp [closes]
  cases xs with
  | nil => exact hfront []
  | cons x rest =>
    cases x with
    | tag t => exact hfront _
    | text t => simp [XhtmlToken.pushText, closes]

/-- Nested events leave the stack of open elements as it is. -/
theorem Nested.closes {events : List Event} (h : Nested events) (stack : List String)
    (xs : List XhtmlToken) :
    closes stack ((events.map Event.xhtml).foldr XhtmlToken.push xs) = closes stack xs := by
  induction h generalizing stack xs with
  | nil => rfl
  | text s => exact closes_pushText stack s xs
  | empty _ _ _ => simp [Event.xhtml, XhtmlToken.push, Markup.closes]
  | @element name as inner _ _ _ ih =>
    simp [Event.xhtml, XhtmlToken.push, Markup.closes, ih]
  | append _ _ ihfirst ihrest => rw [List.map_append, List.foldr_append, ihfirst, ihrest]

theorem write_bare (events : List Event) :
    write none events = String.join (events.map (·.write false)) := String.empty_append

theorem write_of_ne_xhtml {format : Option Dialect} (h : format ≠ some .xhtml)
    (events : List Event) :
    write format events = Dialect.prologue format ++ write none events := by
  have hformat : (format == some .xhtml) = false := beq_eq_false_iff_ne.mpr h
  rw [write_bare, write, hformat]

theorem Nested.tokenize_write {events : List Event} (h : Nested events) :
    tokenize (write none events) = mergeTexts (events.map Event.token) := by
  rw [write_bare]
  refine Markup.tokenize_write ?_
  rw [List.forall₂_map_right_iff]
  exact List.forall₂_same.mpr fun e he => (h.sound e he).shows

theorem Nested.readXhtml_write {events : List Event} (h : Nested events) :
    readXhtml (String.join (events.map (·.write true))).toList =
      some ((events.map Event.xhtml).foldr XhtmlToken.push []) :=
  Markup.readXhtml_write fun e he => ⟨_, (h.sound e he).shows⟩

variable {cells : Cells}

/-- A computed tree without finished markup fails with the same error in all dialects, or has its
markup in all of them. Outside XHTML the dialects differ only in what stands in front. Read
strictly, XHTML has the tags and texts of the bare markup, all elements being closed; it says the
same exactly if no flag has a key with an entity, since it writes the key unescaped. -/
theorem dialects_agree {tree : Value} (hraw : RawFree cells tree)
    (hcomputed : ∀ c ∈ tree.cells, cells.Computed c) :
    (∃ e, ∀ format, serialize format tree cells = some (.error e, cells)) ∨
    ∃ plain body tokens,
      serialize none tree cells = some (.ok plain, cells) ∧
      (∀ format, format ≠ some .xhtml →
        serialize format tree cells = some (.ok (Dialect.prologue format ++ plain), cells)) ∧
      serialize (some .xhtml) tree cells =
        some (.ok (Dialect.prologue (some .xhtml) ++ body), cells) ∧
      readXhtml body.toList = some tokens ∧ closes [] tokens = true ∧
      List.Forall₂ (Token.As Attribute.read) (tokenize plain) tokens ∧
      (List.Forall₂ (Token.As Attribute.said) (tokenize plain) tokens ↔
        ∀ t ∈ tokenize plain, ∀ key, .flag key ∈ t.attributes → Text.unescape key = key) := by
  -- The events do not depend on the dialect, which only decides how they are written.
  obtain ⟨r, hevents, hr⟩ := nested_events hraw hcomputed
  have hserialize := serialize_of_events hevents
  cases r with
  | error e => exact .inl ⟨e, hserialize⟩
  | ok events =>
    have hnested : Nested events := hr
    have hread := forall₂_merge hnested.sound
    rw [← hnested.tokenize_write] at hread
    have hformat (format : Option Dialect) (hne : format ≠ some .xhtml) :
        serialize format tree cells =
          some (.ok (Dialect.prologue format ++ write none events), cells) := by
      rw [hserialize format, Except.map, write_of_ne_xhtml hne]
    refine .inr ⟨_, _, _, hserialize none, hformat, hserialize _, hnested.readXhtml_write, ?_,
      hread, forall₂_said_iff hread⟩
    exact (hnested.closes [] []).trans rfl

def greeting : Value :=
  .node "p" [("a&b", .bool true), ("title", .deferred 0)]
    [.deferred 0, .node "br" [("hidden", .bool true)] []]

def greeted : Cells := [⟨.done (.ok (.str "a<b")), 1⟩]

/-- The flags of a tree may have ampersands, but no entities. -/
theorem greeting_agrees : ∃ plain body tokens,
    serialize none greeting greeted = some (.ok plain, greeted) ∧
    serialize (some .xhtml) greeting greeted =
      some (.ok (Dialect.prologue (some .xhtml) ++ body), greeted) ∧
    readXhtml body.toList = some tokens ∧ closes [] tokens = true ∧
    List.Forall₂ (Token.As Attribute.said) (tokenize plain) tokens := by
  have hevents : events greeting greeted = some (.ok [
      .start "p" [.flag "a&b", .pair "title" "a<b"], .text "a<b", .empty "br" [.flag "hidden"],
      .stop "p"], greeted) := by rfl
  have hcomputed : ∀ c ∈ greeting.cells, greeted.Computed c := by
    intro c hc
    obtain rfl : c = 0 := by simpa [greeting, Value.cells, Value.cellsOf, Value.cellsAll] using hc
    exact ⟨1, .ok (.str "a<b"), rfl, by simp [ResultIn, Value.cells]⟩
  have hraw : RawFree greeted greeting := by
    refine .node fun v hv => ?_
    rcases List.mem_cons.mp hv with rfl | hv
    · refine .deferred rfl fun v hv => ?_
      cases hv
      exact .str "a<b"
    · obtain rfl := List.mem_singleton.mp hv
      exact .node (by simp)
  obtain ⟨r, hrun, hnested⟩ := nested_events hraw hcomputed
  cases hevents.symm.trans hrun
  rcases dialects_agree hraw hcomputed with ⟨e, he⟩ | h
  · have hnone := (serialize_of_events hevents none).symm.trans (he none)
    cases hnone
  · obtain ⟨plain, body, tokens, hplain, -, hxhtml, hread, hcloses, -, hsaid⟩ := h
    refine ⟨plain, body, tokens, hplain, hxhtml, hread, hcloses, hsaid.mpr ?_⟩
    cases (serialize_of_events hevents none).symm.trans hplain
    intro t ht key hkey
    have htokens : t ∈ [Token.start "p" [.flag "a&b", .pair "title" "a<b"], .text "a<b",
        .start "br" [.flag "hidden"], .stop "p"] := by
      rwa [Nested.tokenize_write hnested] at ht
    have hflag : key = "a&b" ∨ key = "hidden" := by
      simp only [List.mem_cons, List.not_mem_nil, or_false] at htokens
      rcases htokens with rfl | rfl | rfl | rfl <;> simp_all [Token.attributes]
    rcases hflag with rfl | rfl <;> decide

def flagged : Value := .node "p" [("a&lt;b", .bool true)] []

/-- In XHTML the value of the flag is read as another text than its key. -/
theorem flagged_differs : RawFree [] flagged ∧ flagged.cells = [] ∧ ∃ plain body tokens,
    serialize none flagged [] = some (.ok plain, []) ∧
    serialize (some .xhtml) flagged [] =
      some (.ok (Dialect.prologue (some .xhtml) ++ body), []) ∧
    tokenize plain = [.start "p" [.flag "a&lt;b"], .stop "p"] ∧
    readXhtml body.toList = some tokens ∧
    tokens = [.tag (.start "p" [("a&lt;b", "a<b")]), .tag (.stop "p")] ∧
    ¬ List.Forall₂ (Token.As Attribute.said) (tokenize plain) tokens := by
  have hevents : events flagged [] =
      some (.ok [.start "p" [.flag "a&lt;b"], .stop "p"], []) := by rfl
  have hnested : Nested [.start "p" [.flag "a&lt;b"], .stop "p"] :=
    .element rfl (by simp [Attribute.key]; rfl) .nil
  have hread := forall₂_merge hnested.sound
  refine ⟨.node (by simp), rfl, _, _, _, serialize_of_events hevents none,
    serialize_of_events hevents _, hnested.tokenize_write, hnested.readXhtml_write, rfl,
    fun hsaid => ?_⟩
  rw [hnested.tokenize_write] at hsaid
  have hkey := (forall₂_said_iff hread).mp hsaid _ List.mem_cons_self _ List.mem_cons_self
  exact absurd hkey (by decide)

end LayeredSite.Markup
