import LayeredSite.Proofs.Layouts.Walk

namespace LayeredSite

/-- A source fails only where a text is missing or cannot be read. -/
def Source.FailsToRead (layouts : Source) : Prop :=
  ∀ name error, layouts.read name = .error error →
    (∃ path, error = .missingTemplate path) ∨ ∃ path reason, error = .unreadable path reason

theorem Source.failsToRead_ofList (entries : List (String × String)) :
    (Source.ofList entries).FailsToRead := by
  intro name error h
  change readList entries name = .error error at h
  unfold readList at h
  split at h
  · simp at h
  · exact .inl ⟨name, (Except.error.inj h).symm⟩

namespace Layer

/-- What a chain comes to, in the words of its walk. -/
inductive Resolves (layouts : Source) (start : String) : Except TemplateError (List Layer) → Prop
  | ends {before : List String} {last : String} {layers : List Layer} :
      Walk layouts start before last → nextName layouts last = none →
      List.Forall₂ (IsLayer layouts) (before ++ [last]) layers →
      Resolves layouts start (.ok layers)
  | cycle {before : List String} {name : String} :
      Walk layouts start before name → before.Nodup → (∀ n ∈ before, Compiles layouts n) →
      name ∈ before → Resolves layouts start (.error (.layoutCycle (before ++ [name])))
  | missing {before : List String} {name : String} :
      Walk layouts start before name → (∀ n ∈ before, Compiles layouts n) →
      Missing layouts name → Resolves layouts start (.error (.missingLayout name))
  | unreadable {before : List String} {name : String} {error : TemplateError} :
      Walk layouts start before name → (∀ n ∈ before, Compiles layouts n) →
      layouts.read name = .error error → ¬ Missing layouts name →
      Resolves layouts start (.error error)
  | malformed {before : List String} {name raw : String} {e : ReadError} :
      Walk layouts start before name → (∀ n ∈ before, Compiles layouts n) →
      layouts.read name = .ok raw → compile name raw = .error (.malformed name e) →
      Resolves layouts start (.error (.malformed name e))

section
variable {layouts : Source} {name : String} {seen : List String}

theorem chainWithin_seen (n : ℕ) (h : name ∈ seen) :
    chainWithin layouts (n + 1) seen name = .error (.layoutCycle (seen ++ [name])) := by
  rw [chainWithin, if_pos h]

theorem chainWithin_layer {layer : Layer} (n : ℕ) (h : name ∉ seen)
    (hl : IsLayer layouts name layer) :
    chainWithin layouts (n + 1) seen name = match layer.options.layout with
      | none => .ok [layer]
      | some next => (chainWithin layouts n (seen ++ [name]) next).map (layer :: ·) := by
  obtain ⟨raw, hread, hcompile⟩ := hl
  simp only [chainWithin, if_neg h, Source.readLayout, hread, hcompile, bind, Except.bind]
  cases layer.options.layout with
  | none => rfl
  | some next => cases chainWithin layouts n (seen ++ [name]) next <;> rfl

theorem chainWithin_missing (n : ℕ) (h : name ∉ seen) (hm : Missing layouts name) :
    chainWithin layouts (n + 1) seen name = .error (.missingLayout name) := by
  obtain ⟨path, hread⟩ := hm
  simp only [chainWithin, if_neg h, Source.readLayout, hread, bind, Except.bind]

theorem chainWithin_unreadable {error : TemplateError} (n : ℕ) (h : name ∉ seen)
    (hread : layouts.read name = .error error) (hm : ¬ Missing layouts name) :
    chainWithin layouts (n + 1) seen name = .error error := by
  have hlayout : layouts.readLayout name = .error error := by
    unfold Source.readLayout
    split
    · exact absurd ⟨_, ‹_›⟩ hm
    · exact hread
  simp only [chainWithin, if_neg h, hlayout, bind, Except.bind]

theorem chainWithin_malformed {raw : String} {error : TemplateError} (n : ℕ) (h : name ∉ seen)
    (hread : layouts.read name = .ok raw) (hc : compile name raw = .error error) :
    chainWithin layouts (n + 1) seen name = .error error := by
  simp only [chainWithin, if_neg h, Source.readLayout, hread, hc, bind, Except.bind]

end

/-- A chain goes along a walk as long as its names are new and compile. -/
theorem chainWithin_walk {layouts : Source} {name last : String} {before : List String}
    (h : Walk layouts name before last) {layers : List Layer}
    (hl : List.Forall₂ (IsLayer layouts) before layers) (seen : List String)
    (hn : (seen ++ before).Nodup) (n : ℕ) :
    chainWithin layouts (before.length + n) seen name =
      (chainWithin layouts n (seen ++ before) last).map (layers ++ ·) := by
  -- Along the walk: what is seen grows by the name that the walk leaves behind.
  induction h generalizing seen layers with
  | here name =>
    cases hl
    simp only [List.length_nil, Nat.zero_add, List.append_nil, List.nil_append]
    cases chainWithin layouts n seen name <;> rfl
  | @step name next last before hs h ih =>
    cases hl with
    | @cons _ layer _ layers hlayer hlayers =>
      have hnew : name ∉ seen := fun hm =>
        (List.nodup_append.mp hn).2.2 name hm name List.mem_cons_self rfl
      have hshift : seen ++ name :: before = (seen ++ [name]) ++ before := by simp
      have hlen : (name :: before).length + n = (before.length + n) + 1 := by
        simp only [List.length_cons]
        omega
      rw [hlen, chainWithin_layer _ hnew hlayer, ← hlayer.nextName_eq, hs, hshift]
      simp only
      rw [ih hlayers _ (hshift ▸ hn)]
      cases chainWithin layouts n (seen ++ [name] ++ before) last <;> rfl

/-- With more steps than there are texts, a chain goes along its walk to its end. -/
theorem chainWithin_eq {layouts : Source} {start last : String} {before : List String}
    (h : Walk layouts start before last) (hn : before.Nodup) {layers : List Layer}
    (hl : List.Forall₂ (IsLayer layouts) before layers) {n : ℕ}
    (hle : layouts.texts.length + 2 ≤ n) :
    ∃ k, chainWithin layouts n [] start =
      (chainWithin layouts (k + 1) before last).map (layers ++ ·) := by
  have hlen := h.length_le hn (compiles_of_layers hl)
  obtain ⟨k, rfl⟩ : ∃ k, n = before.length + (k + 1) := ⟨n - before.length - 1, by omega⟩
  exact ⟨k, chainWithin_walk h hl [] hn (k + 1)⟩

theorem not_mem_of_not_compiles {layouts : Source} {before : List String} {name : String}
    (hc : ∀ n ∈ before, Compiles layouts n) (h : ¬ Compiles layouts name) : name ∉ before :=
  fun hm => h (hc name hm)

theorem not_compiles_of_read {layouts : Source} {name : String} {error : TemplateError}
    (h : layouts.read name = .error error) : ¬ Compiles layouts name := by
  rintro ⟨layer, raw, hread, _⟩
  simp [h] at hread

theorem not_compiles_of_compile {layouts : Source} {name raw : String} {error : TemplateError}
    (h : layouts.read name = .ok raw) (hc : compile name raw = .error error) :
    ¬ Compiles layouts name := by
  rintro ⟨layer, raw', hread, hcompile⟩
  obtain rfl := Except.ok.inj (h.symm.trans hread)
  simp [hc] at hcompile

/-- A chain fails where its walk stops, and as the last name of it fails. -/
theorem chainWithin_eq_error {layouts : Source} {start last : String} {before : List String}
    {error : TemplateError} (hw : Walk layouts start before last) (hn : before.Nodup)
    (hc : ∀ n ∈ before, Compiles layouts n)
    (hstop : ∀ k, chainWithin layouts (k + 1) before last = .error error) {n : ℕ}
    (hle : layouts.texts.length + 2 ≤ n) : chainWithin layouts n [] start = .error error := by
  obtain ⟨layers, hl⟩ := exists_layers hc
  obtain ⟨k, hk⟩ := chainWithin_eq hw hn hl hle
  rw [hk, hstop]
  rfl

theorem chainWithin_of_resolves {layouts : Source} {start : String}
    {result : Except TemplateError (List Layer)} (h : Resolves layouts start result) {n : ℕ}
    (hle : layouts.texts.length + 2 ≤ n) : chainWithin layouts n [] start = result := by
  -- One case for each way in which a walk can end: the chain follows it that far and stops there in
  -- the same way.
  cases h with
  | @ends before last _ hw hlast hl =>
    have hnew := hw.not_mem_of_ends hlast
    obtain ⟨layers, layer, rfl, hl, hlayer⟩ := layers_concat hl
    obtain ⟨k, hk⟩ := chainWithin_eq hw (hw.nodup_before hnew) hl hle
    rw [hk, chainWithin_layer k hnew hlayer, ← hlayer.nextName_eq, hlast]
    rfl
  | @cycle before name hw hn hc hm =>
    exact chainWithin_eq_error hw hn hc (fun k => chainWithin_seen k hm) hle
  | @missing before name hw hc hmiss =>
    have hnew := not_mem_of_not_compiles hc (not_compiles_of_read hmiss.choose_spec)
    exact chainWithin_eq_error hw (hw.nodup_before hnew) hc
      (fun k => chainWithin_missing k hnew hmiss) hle
  | @unreadable before name error hw hc hread hm =>
    have hnew := not_mem_of_not_compiles hc (not_compiles_of_read hread)
    exact chainWithin_eq_error hw (hw.nodup_before hnew) hc
      (fun k => chainWithin_unreadable k hnew hread hm) hle
  | @malformed before name raw e hw hc hread hcompile =>
    have hnew := not_mem_of_not_compiles hc (not_compiles_of_compile hread hcompile)
    exact chainWithin_eq_error hw (hw.nodup_before hnew) hc
      (fun k => chainWithin_malformed k hnew hread hcompile) hle

/-- A walk that has not stopped yet goes on, and there are too few texts for it to go on forever. -/
theorem exists_resolves_from {layouts : Source} {start : String} (k : ℕ)
    {before : List String} {last : String} (hw : Walk layouts start before last)
    (hn : before.Nodup) (hc : ∀ n ∈ before, Compiles layouts n)
    (hk : before.length + k = layouts.texts.length + 2) :
    ∃ result, Resolves layouts start result := by
  -- On the steps that are left; the names passed so far are as many as those already made.
  induction k generalizing before last with
  | zero =>
    have hlen := hw.length_le hn hc
    omega
  | succ k ih =>
    by_cases hm : last ∈ before
    · exact ⟨_, .cycle hw hn hc hm⟩
    · cases hread : layouts.read last with
      | error error =>
        by_cases hmiss : Missing layouts last
        · exact ⟨_, .missing hw hc hmiss⟩
        · exact ⟨_, .unreadable hw hc hread hmiss⟩
      | ok raw =>
        cases hcompile : compile last raw with
        | error error =>
          obtain ⟨e, rfl⟩ := compile_eq_error hcompile
          exact ⟨_, .malformed hw hc hread hcompile⟩
        | ok layer =>
          have hlayer : IsLayer layouts last layer := ⟨raw, hread, hcompile⟩
          cases hnext : nextName layouts last with
          | none =>
            obtain ⟨layers, hl⟩ := exists_layers hc
            exact ⟨_, .ends hw hnext (List.rel_append hl (.cons hlayer .nil))⟩
          | some next =>
            refine ih (hw.extend hnext) (hw.nodup hm) ?_ ?_
            · intro n hn
              rcases List.mem_append.mp hn with hn | hn
              · exact hc n hn
              · exact ⟨layer, List.mem_singleton.mp hn ▸ hlayer⟩
            · simp only [List.length_append, List.length_singleton]
              omega

theorem exists_resolves (layouts : Source) (start : String) :
    ∃ result, Resolves layouts start result :=
  exists_resolves_from (layouts.texts.length + 2) (.here start) List.nodup_nil
    (by simp) (Nat.zero_add _)

theorem chain_eq_iff {layouts : Source} {start : String}
    {result : Except TemplateError (List Layer)} :
    chain layouts start = result ↔ Resolves layouts start result := by
  constructor
  · rintro rfl
    obtain ⟨result, hr⟩ := exists_resolves layouts start
    have he : chain layouts start = result := chainWithin_of_resolves hr (Nat.le_refl _)
    exact he ▸ hr
  · exact fun h => chainWithin_of_resolves h (Nat.le_refl _)

section
variable {layouts : Source} {start : String}

theorem names_chain_iff {ns : List String} :
    (∃ layers, chain layouts start = .ok layers ∧ names layers = ns) ↔
      ∃ before last, ns = before ++ [last] ∧ Walk layouts start before last ∧ ns.Nodup ∧
        (∀ n ∈ ns, Compiles layouts n) ∧ nextName layouts last = none := by
  simp only [chain_eq_iff]
  constructor
  · rintro ⟨_, h, rfl⟩
    cases h with
    | ends hw hlast hl =>
      rw [names_of_layers hl]
      exact ⟨_, _, rfl, hw, hw.nodup (hw.not_mem_of_ends hlast), compiles_of_layers hl, hlast⟩
  · rintro ⟨before, last, rfl, hw, _, hc, hlast⟩
    obtain ⟨layers, hl⟩ := exists_layers hc
    exact ⟨layers, .ends hw hlast hl, names_of_layers hl⟩

/-- The layouts of a chain have different texts, and not only different names. -/
theorem nodup_texts_of_chain {layers : List Layer} (h : chain layouts start = .ok layers) :
    ((names layers).map layouts.read).Nodup := by
  cases chain_eq_iff.mp h with
  | ends hw hlast hl =>
    rw [names_of_layers hl]
    exact hw.nodup_read_of_ends hlast

theorem chain_eq_cycle_iff (hf : layouts.FailsToRead) {ns : List String} :
    chain layouts start = .error (.layoutCycle ns) ↔
      ∃ before name, ns = before ++ [name] ∧ Walk layouts start before name ∧ before.Nodup ∧
        (∀ n ∈ before, Compiles layouts n) ∧ name ∈ before := by
  rw [chain_eq_iff]
  constructor
  · intro h
    cases h with
    | cycle hw hn hc hm => exact ⟨_, _, rfl, hw, hn, hc, hm⟩
    -- A source has no cycles of its own to report.
    | unreadable _ _ hread _ => simpa using hf _ _ hread
  · rintro ⟨before, name, rfl, hw, hn, hc, hm⟩
    exact .cycle hw hn hc hm

theorem chain_eq_missing_iff (hf : layouts.FailsToRead) {name : String} :
    chain layouts start = .error (.missingLayout name) ↔
      ∃ before, Walk layouts start before name ∧ (∀ n ∈ before, Compiles layouts n) ∧
        Missing layouts name := by
  rw [chain_eq_iff]
  constructor
  · intro h
    cases h with
    | missing hw hc hm => exact ⟨_, hw, hc, hm⟩
    | unreadable _ _ hread _ => simpa using hf _ _ hread
  · rintro ⟨before, hw, hc, hm⟩
    exact .missing hw hc hm

theorem chain_eq_malformed_iff (hf : layouts.FailsToRead) {name : String} {e : ReadError} :
    chain layouts start = .error (.malformed name e) ↔
      ∃ before raw, Walk layouts start before name ∧ (∀ n ∈ before, Compiles layouts n) ∧
        layouts.read name = .ok raw ∧ compile name raw = .error (.malformed name e) := by
  rw [chain_eq_iff]
  constructor
  · intro h
    cases h with
    | malformed hw hc hread hcompile => exact ⟨_, _, hw, hc, hread, hcompile⟩
    | unreadable _ _ hread _ => simpa using hf _ _ hread
  · rintro ⟨before, raw, hw, hc, hread, hcompile⟩
    exact .malformed hw hc hread hcompile

theorem chain_eq_unreadable_iff {path : String} {reason : String} :
    chain layouts start = .error (.unreadable path reason) ↔
      ∃ before name, Walk layouts start before name ∧ (∀ n ∈ before, Compiles layouts n) ∧
        layouts.read name = .error (.unreadable path reason) := by
  rw [chain_eq_iff]
  constructor
  · intro h
    cases h with
    | unreadable hw hc hread _ => exact ⟨_, _, hw, hc, hread⟩
  · rintro ⟨before, name, hw, hc, hread⟩
    refine .unreadable hw hc hread ?_
    rintro ⟨_, hmiss⟩
    simp [hread] at hmiss

theorem chain_cases (hf : layouts.FailsToRead) (start : String) :
    (∃ layers, chain layouts start = .ok layers) ∨
      (∃ ns, chain layouts start = .error (.layoutCycle ns)) ∨
      (∃ name, chain layouts start = .error (.missingLayout name)) ∨
      (∃ name e, chain layouts start = .error (.malformed name e)) ∨
      ∃ path reason, chain layouts start = .error (.unreadable path reason) := by
  simp only [chain_eq_iff]
  obtain ⟨result, h⟩ := exists_resolves layouts start
  cases h with
  | ends hw hlast hl => exact .inl ⟨_, .ends hw hlast hl⟩
  | cycle hw hn hc hm => exact .inr (.inl ⟨_, .cycle hw hn hc hm⟩)
  | missing hw hc hm => exact .inr (.inr (.inl ⟨_, .missing hw hc hm⟩))
  | malformed hw hc hread hcompile =>
    exact .inr (.inr (.inr (.inl ⟨_, _, .malformed hw hc hread hcompile⟩)))
  | unreadable hw hc hread hmiss =>
    rcases hf _ _ hread with ⟨path, rfl⟩ | ⟨path, reason, rfl⟩
    · exact absurd ⟨path, hread⟩ hmiss
    · exact .inr (.inr (.inr (.inr ⟨path, reason, .unreadable hw hc hread hmiss⟩)))

end

/-- The chain of a layout is what its walk says: the names up to the first without a layout if they
all differ, exist and compile, else the first repetition, missing text or fault on the way. More
steps than a chain is given change nothing, and no two layouts of it share a text. -/
theorem chain_follows_walk (layouts : Source) (hf : layouts.FailsToRead) (start : String) :
    (∀ n, layouts.texts.length + 2 ≤ n → chainWithin layouts n [] start = chain layouts start) ∧
    (∀ ns, (∃ layers, chain layouts start = .ok layers ∧ names layers = ns) ↔
      ∃ before last, ns = before ++ [last] ∧ Walk layouts start before last ∧ ns.Nodup ∧
        (∀ n ∈ ns, Compiles layouts n) ∧ nextName layouts last = none) ∧
    (∀ ns, chain layouts start = .error (.layoutCycle ns) ↔
      ∃ before name, ns = before ++ [name] ∧ Walk layouts start before name ∧ before.Nodup ∧
        (∀ n ∈ before, Compiles layouts n) ∧ name ∈ before) ∧
    (∀ name, chain layouts start = .error (.missingLayout name) ↔
      ∃ before, Walk layouts start before name ∧ (∀ n ∈ before, Compiles layouts n) ∧
        Missing layouts name) ∧
    (∀ name e, chain layouts start = .error (.malformed name e) ↔
      ∃ before raw, Walk layouts start before name ∧ (∀ n ∈ before, Compiles layouts n) ∧
        layouts.read name = .ok raw ∧ compile name raw = .error (.malformed name e)) ∧
    (∀ path reason, chain layouts start = .error (.unreadable path reason) ↔
      ∃ before name, Walk layouts start before name ∧ (∀ n ∈ before, Compiles layouts n) ∧
        layouts.read name = .error (.unreadable path reason)) ∧
    ((∃ layers, chain layouts start = .ok layers) ∨
      (∃ ns, chain layouts start = .error (.layoutCycle ns)) ∨
      (∃ name, chain layouts start = .error (.missingLayout name)) ∨
      (∃ name e, chain layouts start = .error (.malformed name e)) ∨
      ∃ path reason, chain layouts start = .error (.unreadable path reason)) ∧
    (∀ layers, chain layouts start = .ok layers →
      ((names layers).map layouts.read).Nodup) := by
  refine ⟨?steps, fun _ => names_chain_iff, fun _ => chain_eq_cycle_iff hf,
    fun _ => chain_eq_missing_iff hf, fun _ _ => chain_eq_malformed_iff hf,
    fun _ _ => chain_eq_unreadable_iff, chain_cases hf start, fun _ => nodup_texts_of_chain⟩
  intro n hn
  exact chainWithin_of_resolves (chain_eq_iff.mp rfl) hn

/-- Two names of one text, which has itself as its layout. -/
def aliased : Source := .ofList [
  ("default", ";layout:default.sx\n[:main content]"),
  ("default.sx", ";layout:default.sx\n[:main content]")]

theorem chain_aliased : aliased.FailsToRead ∧
    chain aliased "default" = .error (.layoutCycle ["default", "default.sx", "default.sx"]) := by
  have hf : aliased.FailsToRead := Source.failsToRead_ofList _
  have hnext : nextName aliased "default" = some "default.sx" := by decide +kernel
  have hself : nextName aliased "default.sx" = some "default.sx" := by decide +kernel
  refine ⟨hf, ((chain_follows_walk aliased hf "default").2.2.1 _).mpr
    ⟨["default", "default.sx"], "default.sx", rfl, .step hnext (.step hself (.here _)),
      by decide, ?_, by decide⟩⟩
  intro n hn
  rcases List.mem_pair.mp hn with rfl | rfl
  · exact ⟨_, _, rfl, rfl⟩
  · exact ⟨_, _, rfl, rfl⟩

end Layer
end LayeredSite
