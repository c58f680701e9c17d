import LayeredSite.Proofs.Layouts.Chain
import LayeredSite.Template.Document

namespace LayeredSite

namespace Layer

variable {layouts layouts' : Source} {start name : String}

/-- A chain may be given more steps than it needs. -/
theorem chain_eq_chainWithin {n : ℕ} (h : layouts.texts.length + 2 ≤ n) :
    chain layouts start = chainWithin layouts n [] start :=
  (chainWithin_of_resolves (chain_eq_iff.mp rfl) h).symm

theorem chainWithin_congr
    (h : ∀ before name, Walk layouts start before name → layouts.read name = layouts'.read name)
    (n : ℕ) (seen : List String) :
    chainWithin layouts n seen start = chainWithin layouts' n seen start := by
  induction n generalizing start seen with
  | zero => rfl
  | succ n ih =>
    -- Both chains take the same branch, because they read the same here.
    have hread : layouts.read start = layouts'.read start := h [] start (.here start)
    by_cases hseen : start ∈ seen
    · rw [chainWithin_seen n hseen, chainWithin_seen n hseen]
    · cases hraw : layouts.read start with
      | error e =>
        by_cases hmissing : Missing layouts start
        · have hmissing' : Missing layouts' start := by rwa [Missing, ← hread]
          rw [chainWithin_missing n hseen hmissing, chainWithin_missing n hseen hmissing']
        · have hmissing' : ¬ Missing layouts' start := by rwa [Missing, ← hread]
          rw [chainWithin_unreadable n hseen hraw hmissing,
            chainWithin_unreadable n hseen (hread ▸ hraw) hmissing']
      | ok raw =>
        cases hlayer : compile start raw with
        | error e =>
          rw [chainWithin_malformed n hseen hraw hlayer,
            chainWithin_malformed n hseen (hread ▸ hraw) hlayer]
        | ok layer =>
          have hnext := IsLayer.nextName_eq ⟨raw, hraw, hlayer⟩
          rw [chainWithin_layer n hseen ⟨raw, hraw, hlayer⟩,
            chainWithin_layer n hseen ⟨raw, hread ▸ hraw, hlayer⟩]
          cases hlayout : layer.options.layout with
          | none => rfl
          | some next =>
            rw [hlayout] at hnext
            have hrest := ih (fun before name hwalk => h _ name (.step hnext hwalk))
              (seen ++ [start])
            simp only [hrest]

/-- A chain depends on nothing but what is read under the names of its walk. -/
theorem chain_congr
    (h : ∀ before name, Walk layouts start before name → layouts.read name = layouts'.read name) :
    chain layouts start = chain layouts' start := by
  have hle := Nat.le_max_left (layouts.texts.length + 2) (layouts'.texts.length + 2)
  have hle' := Nat.le_max_right (layouts.texts.length + 2) (layouts'.texts.length + 2)
  rw [chain_eq_chainWithin hle, chain_eq_chainWithin hle', chainWithin_congr h]

end Layer

/-- Where layouts read alike, the same walks are taken. -/
theorem Layer.Walk.congr {layouts layouts' : Source} {start last : String} {before : List String}
    (h : ∀ before name, Walk layouts start before name → layouts.read name = layouts'.read name)
    (hwalk : Walk layouts' start before last) : Walk layouts start before last := by
  induction hwalk with
  | here name => exact .here name
  | @step name next last before hnext _ ih =>
    have hnext' : nextName layouts name = some next := by
      rwa [nextName, h [] name (.here name)]
    exact .step hnext' (ih fun before other hother => h _ other (.step hnext' hother))

/-- The names on the walk from the layout that a text declares. -/
def Layer.NamedBy (layouts : Source) (raw name : String) : Prop :=
  ∃ start before, (Header.parse raw).1.layout = some start ∧ Walk layouts start before name

namespace Document

variable {templates templates' layouts layouts' : Source} {name raw : String}

theorem compile_congr
    (h : ∀ other, Layer.NamedBy layouts raw other → layouts.read other = layouts'.read other) :
    compile layouts name raw true = compile layouts' name raw true := by
  unfold compile
  cases hlayer : Layer.compile name raw with
  | error e => rfl
  | ok layer =>
    simp only [bind, Except.bind]
    cases hlayout : layer.options.layout with
    | none => rfl
    | some start =>
      have hstart : (Header.parse raw).1.layout = some start :=
        (Layer.compile_eq_ok hlayer).1 ▸ hlayout
      have hchain : Layer.chain layouts start = Layer.chain layouts' start :=
        Layer.chain_congr fun before other hwalk => h other ⟨start, before, hstart, hwalk⟩
      simp only [hchain]

/-- Without its layouts a document depends on its own text only. -/
theorem compile_alone (layouts layouts' : Source) (name raw : String) :
    compile layouts name raw false = compile layouts' name raw false := by
  unfold compile
  cases Layer.compile name raw with
  | error e => rfl
  | ok layer =>
    simp only [bind, Except.bind]
    cases layer.options.layout <;> rfl

theorem ofTemplate_congr (hread : templates.read name = templates'.read name)
    (h : ∀ raw other, templates.read name = .ok raw → Layer.NamedBy layouts raw other →
      layouts.read other = layouts'.read other) :
    ofTemplate templates layouts name true = ofTemplate templates' layouts' name true := by
  unfold ofTemplate
  rw [← hread]
  cases hraw : templates.read name with
  | error e => simp only [bind, Except.bind]
  | ok raw =>
    simp only [bind, Except.bind]
    exact compile_congr fun other hother => h raw other hraw hother

/-- A layout as a document of its own is read under its name, and so are those on the walk from
it. -/
theorem ofLayout_congr
    (h : ∀ before other, Layer.Walk layouts name before other →
      layouts.read other = layouts'.read other) :
    ofLayout layouts name = ofLayout layouts' name := by
  have hread := h [] name (.here name)
  unfold ofLayout Source.readLayout
  rw [← hread]
  cases hraw : layouts.read name with
  | error e => cases e <;> simp only [bind, Except.bind]
  | ok raw =>
    simp only [bind, Except.bind]
    refine compile_congr fun other hother => ?_
    obtain ⟨start, before, hstart, hwalk⟩ := hother
    have hnext : Layer.nextName layouts name = some start := by
      rw [Layer.nextName, hraw]
      exact hstart
    exact h _ other (.step hnext hwalk)

end Document
end LayeredSite
