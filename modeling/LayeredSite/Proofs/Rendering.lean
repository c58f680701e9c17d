import LayeredSite.Template.Cells

namespace LayeredSite

variable {α β : Type} {cells cells' : Cells}

namespace Reading

theorem bind_eq_some_iff {x : Reading α} {f : α → Reading β} {b : β} :
    (x >>= f) cells = some (b, cells') ↔
      ∃ a between, x cells = some (a, between) ∧ f a between = some (b, cells') := by
  change (x cells >>= fun r => f r.1 r.2) = _ ↔ _
  cases x cells with
  | none => simp
  | some r =>
    obtain ⟨a, between⟩ := r
    constructor
    · intro h
      exact ⟨a, between, rfl, h⟩
    · rintro ⟨_, _, he, h⟩
      cases he
      exact h

theorem bind_eq_some {x : Reading α} {f : α → Reading β} {a : α} {between : Cells}
    (h : x cells = some (a, between)) : (x >>= f) cells = f a between := by
  change (x cells >>= fun r => f r.1 r.2) = _
  rw [h]
  rfl

theorem bind_pure_run (x : Reading α) (f : α → β) (cells : Cells) :
    (x >>= fun a => pure (f a)) cells = (x cells).map fun r => (f r.1, r.2) := by
  change ((x cells).bind fun r => some (f r.1, r.2)) = _
  cases x cells <;> rfl

/-- What comes second matters only on the cells that the first computation leaves. -/
theorem bind_congr_run {x : Reading α} {f g : α → Reading β}
    (h : ∀ a between, x cells = some (a, between) → f a between = g a between) :
    (x >>= f) cells = (x >>= g) cells := by
  change (x cells).bind (fun r => f r.1 r.2) = (x cells).bind fun r => g r.1 r.2
  exact Option.bind_congr fun r hr => h r.1 r.2 hr

theorem get_bind (f : Cells → Reading β) (cells : Cells) :
    (get >>= f) cells = f cells cells := rfl

theorem pure_eq_some_iff {a b : α} :
    (pure a : Reading α) cells = some (b, cells') ↔ a = b ∧ cells = cells' := by
  change some (a, cells) = _ ↔ _
  rw [Option.some.injEq, Prod.mk.injEq]

end Reading

/-- Only deferred values are read. -/
theorem Value.resolve_of_kind {v : Value} (h : v.kind ≠ .deferred) : v.resolve = pure (.ok v) := by
  cases v with
  | deferred c => exact absurd rfl h
  | _ => rfl

namespace Rendering

theorem bind_eq_error {x : Rendering α} {f : α → Rendering β} {e : TemplateError}
    (h : x cells = some (.error e, cells')) : (x >>= f) cells = some (.error e, cells') := by
  change (x cells >>= fun r => ExceptT.bindCont f r.1 r.2) = _
  rw [h]
  rfl

theorem bind_eq_none {x : Rendering α} {f : α → Rendering β} (h : x cells = none) :
    (x >>= f) cells = none := by
  change (x cells >>= fun r => ExceptT.bindCont f r.1 r.2) = _
  rw [h]
  rfl

theorem bind_eq_ok {x : Rendering α} {f : α → Rendering β} {v : α}
    (h : x cells = some (.ok v, cells')) : (x >>= f) cells = f v cells' := by
  change (x cells >>= fun r => ExceptT.bindCont f r.1 r.2) = _
  rw [h]
  rfl

/-- A sequence ends with an error of its first computation, or as the second one does. -/
theorem bind_cases {x : Rendering α} {f : α → Rendering β} {r : Except TemplateError β}
    (h : (x >>= f) cells = some (r, cells')) :
    (∃ e, x cells = some (.error e, cells') ∧ r = .error e) ∨
      ∃ a between, x cells = some (.ok a, between) ∧ f a between = some (r, cells') := by
  rcases hx : x cells with _ | ⟨o, between⟩
  · change (x cells >>= fun r => ExceptT.bindCont f r.1 r.2) = _ at h
    rw [hx] at h
    contradiction
  · cases o with
    | error e =>
      obtain ⟨rfl, rfl⟩ := Prod.mk.inj (Option.some.inj ((bind_eq_error hx).symm.trans h))
      exact .inl ⟨e, rfl, rfl⟩
    | ok a => exact .inr ⟨a, between, rfl, (bind_eq_ok hx).symm.trans h⟩

theorem bind_eq_ok_iff {x : Rendering α} {f : α → Rendering β} {b : β} :
    (x >>= f) cells = some (.ok b, cells') ↔
      ∃ a between, x cells = some (.ok a, between) ∧ f a between = some (.ok b, cells') := by
  constructor
  · intro h
    rcases bind_cases h with ⟨e, -, herror⟩ | hok
    · cases herror
    · exact hok
  · rintro ⟨a, between, hx, h⟩
    rw [bind_eq_ok hx, h]

theorem lift_eq_ok_iff {x : Reading α} {a : α} :
    (liftM x : Rendering α) cells = some (.ok a, cells') ↔ x cells = some (a, cells') := by
  change (x cells >>= fun r => some (Except.ok r.1, r.2)) = _ ↔ _
  rcases x cells with _ | ⟨b, between⟩
  · simp
  · simp

/-- A reading does not fail, so what comes behind it decides. -/
theorem read_cases {x : Reading α} {f : α → Rendering β} {r : Except TemplateError β}
    (h : ((liftM x : Rendering α) >>= f) cells = some (r, cells')) :
    ∃ a between, x cells = some (a, between) ∧ f a between = some (r, cells') := by
  rcases bind_cases h with ⟨e, herror, -⟩ | ⟨a, between, hx, hf⟩
  · change (x cells >>= fun r => some (Except.ok r.1, r.2)) = _ at herror
    cases hx : x cells <;> rw [hx] at herror <;> cases herror
  · exact ⟨a, between, lift_eq_ok_iff.mp hx, hf⟩

theorem pure_eq_ok_iff {a b : α} :
    (pure a : Rendering α) cells = some (.ok b, cells') ↔ a = b ∧ cells = cells' := by
  change some (Except.ok a, cells) = _ ↔ _
  rw [Option.some.injEq, Prod.mk.injEq, Except.ok.injEq]

theorem throw_ne_ok {e : TemplateError} {a : α} :
    (throw e : Rendering α) cells ≠ some (.ok a, cells') := by
  change some (Except.error e, cells) ≠ _
  simp

/-- A check in front of a computation: it succeeds, and so does the computation. -/
theorem check_bind_eq_ok_iff {p : Bool} {e : TemplateError} {x : Rendering α} {a : α} :
    (do
      if p then throw e
      x : Rendering α) cells = some (.ok a, cells') ↔
      p = false ∧ x cells = some (.ok a, cells') := by
  cases p with
  | false => simp
  | true =>
    refine ⟨fun h => ?_, fun h => absurd h.1 (by decide)⟩
    obtain ⟨_, _, hthrow, -⟩ := bind_eq_ok_iff.mp h
    exact absurd hthrow throw_ne_ok

end Rendering
end LayeredSite
