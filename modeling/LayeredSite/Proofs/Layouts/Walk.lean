import LayeredSite.Template.Layer
import Mathlib.Data.List.Forall2
import Mathlib.Data.List.Nodup

namespace LayeredSite.Layer

def layoutOf : Except TemplateError String → Option String
  | .ok raw => (Header.parse raw).1.layout
  | .error _ => none

def nextName (layouts : Source) (name : String) : Option String := layoutOf (layouts.read name)

/-- The walk from `start` passes the names `before`, in this order, and comes to `last`. -/
inductive Walk (layouts : Source) : String → List String → String → Prop
  | here (name : String) : Walk layouts name [] name
  | step {name next last : String} {before : List String} :
      nextName layouts name = some next → Walk layouts next before last →
      Walk layouts name (name :: before) last

def IsLayer (layouts : Source) (name : String) (layer : Layer) : Prop :=
  ∃ raw, layouts.read name = .ok raw ∧ compile name raw = .ok layer

def Compiles (layouts : Source) (name : String) : Prop := ∃ layer, IsLayer layouts name layer

def Missing (layouts : Source) (name : String) : Prop :=
  ∃ path, layouts.read name = .error (.missingTemplate path)

theorem compile_eq_ok {name raw : String} {layer : Layer} (h : compile name raw = .ok layer) :
    layer.options = (Header.parse raw).1 ∧ layer.body.name = name := by
  unfold compile Body.compile at h
  cases hf : Form.readAll (Header.parse raw).2 (firstLine raw.toList) with
  | error e => simp [hf, bind, Except.bind] at h
  | ok forms =>
    simp only [hf, bind, Except.bind, pure, Except.pure, Except.ok.injEq] at h
    subst h
    exact ⟨rfl, rfl⟩

theorem compile_eq_error {name raw : String} {error : TemplateError}
    (h : compile name raw = .error error) : ∃ e, error = .malformed name e := by
  unfold compile Body.compile at h
  cases hf : Form.readAll (Header.parse raw).2 (firstLine raw.toList) with
  | error e =>
    simp only [hf, bind, Except.bind, Except.error.injEq] at h
    exact ⟨e, h.symm⟩
  | ok forms => simp [hf, bind, Except.bind, pure, Except.pure] at h

theorem IsLayer.nextName_eq {layouts : Source} {name : String} {layer : Layer}
    (h : IsLayer layouts name layer) : nextName layouts name = layer.options.layout := by
  obtain ⟨raw, hread, hcompile⟩ := h
  rw [nextName, hread, layoutOf, (compile_eq_ok hcompile).1]

theorem IsLayer.name_eq {layouts : Source} {name : String} {layer : Layer}
    (h : IsLayer layouts name layer) : layer.body.name = name := by
  obtain ⟨raw, _, hcompile⟩ := h
  exact (compile_eq_ok hcompile).2

theorem names_of_layers {layouts : Source} {ns : List String} {layers : List Layer}
    (h : List.Forall₂ (IsLayer layouts) ns layers) : names layers = ns := by
  induction h with
  | nil => rfl
  | cons hl _ ih => rw [names, List.map_cons, hl.name_eq, ← names, ih]

theorem exists_layers {layouts : Source} {ns : List String} (h : ∀ n ∈ ns, Compiles layouts n) :
    ∃ layers, List.Forall₂ (IsLayer layouts) ns layers := by
  induction ns with
  | nil => exact ⟨[], .nil⟩
  | cons n ns ih =>
    obtain ⟨layer, hl⟩ := h n List.mem_cons_self
    obtain ⟨layers, hls⟩ := ih fun m hm => h m (List.mem_cons_of_mem _ hm)
    exact ⟨layer :: layers, .cons hl hls⟩

theorem compiles_of_layers {layouts : Source} {ns : List String} {layers : List Layer}
    (h : List.Forall₂ (IsLayer layouts) ns layers) : ∀ n ∈ ns, Compiles layouts n := by
  induction h with
  | nil => simp
  | @cons n layer ns layers hl _ ih =>
    intro m hm
    rcases List.mem_cons.mp hm with rfl | hm
    · exact ⟨layer, hl⟩
    · exact ih m hm

theorem layers_concat {layouts : Source} {ns : List String} {n : String} {layers : List Layer}
    (h : List.Forall₂ (IsLayer layouts) (ns ++ [n]) layers) :
    ∃ front layer, layers = front ++ [layer] ∧ List.Forall₂ (IsLayer layouts) ns front ∧
      IsLayer layouts n layer := by
  induction ns generalizing layers with
  | nil =>
    obtain ⟨layer, _, hl, hnil, rfl⟩ := List.forall₂_cons_left_iff.mp h
    obtain rfl := List.forall₂_nil_left_iff.mp hnil
    exact ⟨[], layer, rfl, .nil, hl⟩
  | cons m ns ih =>
    obtain ⟨first, rest, hm, hrest, rfl⟩ := List.forall₂_cons_left_iff.mp h
    obtain ⟨front, layer, rfl, hfront, hl⟩ := ih hrest
    exact ⟨first :: front, layer, rfl, .cons hm hfront, hl⟩

namespace Walk

variable {layouts : Source} {start last : String} {before : List String}

/-- A walk may go one name further. -/
theorem extend {next : String} (h : Walk layouts start before last)
    (hn : nextName layouts last = some next) : Walk layouts start (before ++ [last]) next := by
  induction h with
  | here name => exact .step hn (.here next)
  | step hs _ ih => exact .step hs (ih hn)

/-- A walk from a layout without a layout ends where it starts. -/
theorem eq_start (h : Walk layouts start before last) (hend : nextName layouts start = none) :
    last = start := by
  cases h with
  | here => rfl
  | step hnext _ => cases hend.symm.trans hnext

theorem init {before : List String} {name : String}
    (h : Walk layouts start (before ++ [name]) last) : Walk layouts start before name := by
  induction before generalizing start with
  | nil =>
    cases h with
    | step _ _ => exact .here _
  | cons b before ih =>
    cases h with
    | step hs h => exact .step hs (ih h)

/-- Every name but the first is the one that the name before it gives. -/
theorem map_nextName (h : Walk layouts start before last) :
    before.map (nextName layouts) = ((before ++ [last]).tail).map some := by
  induction h with
  | here name => rfl
  | step hs h ih =>
    rw [List.map_cons, hs, ih]
    cases h with
    | here _ => rfl
    | step _ _ => rfl

/-- The first arrival at a name is unique. -/
theorem unique {other : List String} (h : Walk layouts start before last)
    (h' : Walk layouts start other last) (hl : last ∉ before) (hl' : last ∉ other) :
    before = other := by
  induction h generalizing other with
  | here name =>
    cases h' with
    | here _ => rfl
    | step _ _ => exact absurd List.mem_cons_self hl'
  | step hs h ih =>
    cases h' with
    | here _ => exact absurd List.mem_cons_self hl
    | step hs' h' =>
      obtain rfl := Option.some.inj (hs.symm.trans hs')
      rw [ih h' (fun hm => hl (List.mem_cons_of_mem _ hm))
        (fun hm => hl' (List.mem_cons_of_mem _ hm))]

/-- Whatever a walk passes can be its beginning. -/
theorem drop {name : String} (h : Walk layouts start before last) (hm : name ∈ before) :
    ∃ front back, before = front ++ back ∧ Walk layouts name back last := by
  induction h with
  | here _ => simp at hm
  | @step first next last before hs h ih =>
    rcases List.mem_cons.mp hm with rfl | hm
    · exact ⟨[], name :: before, rfl, .step hs h⟩
    · obtain ⟨front, back, rfl, hb⟩ := ih hm
      exact ⟨first :: front, back, rfl, hb⟩

/-- Names repeat only when the walk comes back to where it ends. -/
theorem nodup (h : Walk layouts start before last) (hl : last ∉ before) :
    (before ++ [last]).Nodup := by
  induction h with
  | here _ => simp
  | @step name next last before hs h ih =>
    have hl' : last ∉ before := fun hm => hl (List.mem_cons_of_mem _ hm)
    have hne : name ≠ last := fun he => hl (he ▸ List.mem_cons_self)
    refine List.nodup_cons.mpr ⟨fun hm => ?_, ih hl'⟩
    have hmem : name ∈ before := by simpa [hne] using hm
    -- From a name that comes again, the walk would reach its end in two lengths.
    obtain ⟨front, back, rfl, hb⟩ := h.drop hmem
    have he := unique (.step hs h) hb hl (fun hm => hl' (List.mem_append_right _ hm))
    have hlen := congrArg List.length he
    simp only [List.length_cons, List.length_append] at hlen
    omega

theorem nodup_before (h : Walk layouts start before last) (hl : last ∉ before) : before.Nodup :=
  (h.nodup hl).sublist (List.sublist_append_left _ _)

end Walk

theorem nodup_read_of_next {layouts : Source} {ns : List String}
    (h : (ns.map (nextName layouts)).Nodup) : (ns.map layouts.read).Nodup := by
  have hmap : ((ns.map layouts.read).map layoutOf).Nodup := by
    rw [List.map_map]
    exact h
  exact List.Nodup.of_map _ hmap

/-- Equal texts name equal layouts, so texts repeat no sooner than names. -/
theorem Walk.nodup_read {layouts : Source} {start last : String} {before : List String}
    (h : Walk layouts start before last) (hn : (before ++ [last]).Nodup) :
    (before.map layouts.read).Nodup := by
  apply nodup_read_of_next
  rw [h.map_nextName]
  exact (hn.sublist (List.tail_sublist _)).map fun _ _ he => Option.some.inj he

/-- A layout without a layout is not followed by anything. -/
theorem Walk.not_mem_of_ends {layouts : Source} {start last : String} {before : List String}
    (h : Walk layouts start before last) (hlast : nextName layouts last = none) :
    last ∉ before := by
  intro hm
  have hmap : nextName layouts last ∈ before.map (nextName layouts) := List.mem_map_of_mem hm
  rw [h.map_nextName, hlast] at hmap
  obtain ⟨n, _, hn⟩ := List.mem_map.mp hmap
  simp at hn

theorem Walk.nodup_read_of_ends {layouts : Source} {start last : String} {before : List String}
    (h : Walk layouts start before last) (hlast : nextName layouts last = none) :
    ((before ++ [last]).map layouts.read).Nodup := by
  have hn := h.nodup (h.not_mem_of_ends hlast)
  apply nodup_read_of_next
  rw [List.map_append, List.map_cons, hlast, h.map_nextName, List.map_nil]
  refine List.nodup_append.mpr ⟨?_, List.nodup_singleton _, ?_⟩
  · exact (hn.sublist (List.tail_sublist _)).map fun _ _ he => Option.some.inj he
  · intro a ha b hb
    obtain ⟨n, _, rfl⟩ := List.mem_map.mp ha
    rw [List.mem_singleton.mp hb]
    exact Option.some_ne_none n

theorem Walk.length_le {layouts : Source} {start last : String} {before : List String}
    (h : Walk layouts start before last) (hn : before.Nodup)
    (hc : ∀ n ∈ before, Compiles layouts n) : before.length ≤ layouts.texts.length + 1 := by
  rcases List.eq_nil_or_concat before with rfl | ⟨front, name, rfl⟩
  · simp
  · rw [List.concat_eq_append] at h hn hc ⊢
    -- The last name may have any text, also one of those before it.
    have hread : (front.map layouts.read).Nodup := h.init.nodup_read hn
    have hsub : front.map layouts.read ⊆ layouts.texts.map .ok := by
      intro r hr
      obtain ⟨n, hm, rfl⟩ := List.mem_map.mp hr
      obtain ⟨layer, raw, hraw, _⟩ := hc n (List.mem_append_left _ hm)
      exact hraw ▸ List.mem_map_of_mem (layouts.mem_texts n raw hraw)
    have hlen := hread.length_le_of_subset hsub
    simp only [List.length_map] at hlen
    simpa using hlen

end LayeredSite.Layer
