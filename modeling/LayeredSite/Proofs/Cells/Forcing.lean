import LayeredSite.Proofs.Cells.Changes
import LayeredSite.Proofs.Cells.Reads
import LayeredSite.Proofs.Rendering

namespace LayeredSite

variable {s t u : Cells} {c : CellId} {n : ℕ} {r : Recipe} {o : Outcome}

theorem forceWithin_done (n : ℕ) (h : s.state? c = some (.done o)) :
    forceWithin (n + 1) c s = some (o, s) := by
  rw [forceWithin, Reading.get_bind, h]
  rfl

theorem forceWithin_running (n : ℕ) (h : s.state? c = some .running) :
    forceWithin (n + 1) c s = some (.error .readWhileComputing, s) := by
  rw [forceWithin, Reading.get_bind, h]
  rfl

theorem forceWithin_missing (n : ℕ) (h : s.state? c = none) :
    forceWithin (n + 1) c s = some (.error .readWhileComputing, s) := by
  rw [forceWithin, Reading.get_bind, h]
  rfl

theorem forceWithin_pending (h : s.state? c = some (.pending r)) :
    forceWithin (n + 1) c s = some (o, t) ↔
      ∃ u, r.follow (forceWithin n) (cellTextWithin n) (s.start c) = some (o, u) ∧
        t = u.finish c o := by
  rw [forceWithin, Reading.get_bind, h]
  have hstart : (modify (·.start c) : Reading PUnit) s = some ((), s.start c) := rfl
  change (modify (·.start c) >>= fun _ => _ : Reading Outcome) s = _ ↔ _
  rw [Reading.bind_eq_some hstart, Reading.bind_eq_some_iff]
  have hfinish (o' : Outcome) (u : Cells) :
      (do modify (·.finish c o'); pure o' : Reading Outcome) u = some (o', u.finish c o') := rfl
  constructor
  · rintro ⟨o', u, hfollow, hend⟩
    obtain ⟨rfl, rfl⟩ := Prod.mk.inj (Option.some.inj ((hfinish o' u).symm.trans hend))
    exact ⟨u, hfollow, rfl⟩
  · rintro ⟨u, hfollow, rfl⟩
    exact ⟨o, u, hfollow, hfinish o u⟩

theorem Cells.exists_depth (s : Cells) : ∃ n, s.depth = n + 1 :=
  Nat.exists_eq_succ_of_ne_zero (by simp [Cells.depth])

theorem force_done (h : s.state? c = some (.done o)) : force c s = some (o, s) := by
  obtain ⟨n, hn⟩ := s.exists_depth
  rw [force, Reading.get_bind, hn, forceWithin_done n h]

/-- A relation between cells before and after that holds of a sequence if it holds of its parts, and
of a recipe from its start to its end if it holds of what is read in between. -/
structure Cells.Course (R : Cells → Cells → Prop) : Prop where
  refl : ∀ s, R s s
  trans : ∀ {s t u}, R s t → R t u → R s u
  run : ∀ {s t c r n o}, s.state? c = some (.pending r) →
    r.follow (forceWithin n) (cellTextWithin n) (s.start c) = some (o, t) → R (s.start c) t →
      R s (t.finish c o)

/-- A reading that takes cells to related ones, with a result of a class if it ends. -/
def Along (R : Cells → Cells → Prop) {α : Type} (Q : α → Prop) (x : Reading α) : Prop :=
  ∀ ⦃s a t⦄, x s = some (a, t) → R s t ∧ Q a

namespace Along

variable {R : Cells → Cells → Prop} {α β : Type} {Q : α → Prop} {Q' : β → Prop}

theorem endless : Along R Q .endless := by
  intro s a t h
  cases h

theorem depth {f : ℕ → Reading α} (hf : ∀ n, Along R Q (f (n + 1))) :
    Along R Q (get >>= fun cells => f cells.depth) := by
  intro s a t h
  obtain ⟨n, hn⟩ := s.exists_depth
  rw [Reading.get_bind, hn] at h
  exact hf n h

variable (hR : Cells.Course R)

include hR

theorem result {a : α} (ha : Q a) : Along R Q (pure a) := by
  intro s b t h
  obtain ⟨rfl, rfl⟩ := Reading.pure_eq_some_iff.mp h
  exact ⟨hR.refl s, ha⟩

theorem sequence {x : Reading α} {f : α → Reading β} (hx : Along R Q x)
    (hf : ∀ a, Q a → Along R Q' (f a)) : Along R Q' (x >>= f) := by
  intro s b t h
  obtain ⟨a, between, hfirst, hsecond⟩ := Reading.bind_eq_some_iff.mp h
  obtain ⟨hbetween, ha⟩ := hx hfirst
  obtain ⟨ht, hb⟩ := hf a ha hsecond
  exact ⟨hR.trans hbetween ht, hb⟩

theorem parallel : @Parallel Reading Reading _ _ fun Q x _ => Along R Q x :=
  ⟨result hR, sequence hR⟩

theorem follow_of {force : CellId → Reading Outcome} {text : CellId → Reading String}
    (hforce : ∀ c, Along R AnyOutcome (force c)) (htext : ∀ c, Along R anything (text c))
    (r : Recipe) : Along R AnyOutcome (r.follow force text) :=
  (parallel hR).follow (y := force) (g := text) (fun c _ => hforce c) (fun c _ => htext c) r
    (anyRecipe r)

theorem forceWithin_succ
    (hfollow : ∀ r : Recipe, Along R AnyOutcome (r.follow (forceWithin n) (cellTextWithin n))) :
    Along R AnyOutcome (forceWithin (n + 1) c) := by
  intro s o t h
  rcases hstate : s.state? c with _ | r | _ | o'
  · rw [forceWithin_missing n hstate] at h
    cases h
    exact ⟨hR.refl s, anyOutcome _⟩
  · obtain ⟨u, hrun, rfl⟩ := (forceWithin_pending hstate).mp h
    exact ⟨hR.run hstate hrun (hfollow r hrun).1, anyOutcome o⟩
  · rw [forceWithin_running n hstate] at h
    cases h
    exact ⟨hR.refl s, anyOutcome _⟩
  · rw [forceWithin_done n hstate] at h
    cases h
    exact ⟨hR.refl s, anyOutcome _⟩

theorem within (n : ℕ) : (∀ c, Along R AnyOutcome (forceWithin n c)) ∧
    ∀ c, Along R anything (cellTextWithin n c) := by
  induction n with
  | zero => exact ⟨fun _ => endless, fun _ => endless⟩
  | succ n ih =>
    obtain ⟨hforce, htext⟩ := ih
    refine ⟨fun c => forceWithin_succ hR (follow_of hR hforce htext), fun c => ?_⟩
    rw [cellTextWithin]
    refine sequence hR (hforce c) fun o _ => ?_
    cases o with
    | ok v => exact (parallel hR).textWith (g := cellTextWithin n) v fun d _ => htext d
    | error e => exact result hR trivial

theorem follow (n : ℕ) (r : Recipe) :
    Along R AnyOutcome (r.follow (forceWithin n) (cellTextWithin n)) :=
  follow_of hR (within hR n).1 (within hR n).2 r

theorem force (c : CellId) : Along R AnyOutcome (force c) :=
  depth (f := fun n => forceWithin n c) fun n => (within hR (n + 1)).1 c

theorem text (v : Value) : Along R anything v.text :=
  depth (f := fun n => v.textWith (cellTextWithin n)) fun n =>
    (parallel hR).textWith (g := cellTextWithin (n + 1)) v fun c _ => (within hR (n + 1)).2 c

theorem rules : ReadRules (Along R) (fun _ _ => True) anything where
  result := result hR
  sequence := sequence hR
  further _ := trivial
  endless _ := endless
  force _ := force hR _
  text _ := text hR _
  depth hf := depth fun n => hf n fun _ _ _ => trivial
  markup _ := trivial

end Along

def Advancing {α : Type} (Q : α → Prop) (x : Reading α) : Prop :=
  ∀ ⦃s a t⦄, x s = some (a, t) → s.Advances t ∧ Q a

theorem Cells.course_advances : Cells.Course Cells.Advances :=
  ⟨.refl, .trans, fun h _ hrun => .of_run h hrun _⟩

namespace Advancing

theorem follow (n : ℕ) (r : Recipe) :
    Advancing AnyOutcome (r.follow (forceWithin n) (cellTextWithin n)) :=
  Along.follow Cells.course_advances n r

theorem rules : ReadRules Advancing (fun _ _ => True) anything :=
  Along.rules Cells.course_advances

end Advancing

/-- A cell that is not running has the outcome that forcing it gave. -/
theorem forceWithin_computes (h : forceWithin n c s = some (o, t)) (hc : c < s.length)
    (hidle : s.state? c ≠ some .running) : t.state? c = some (.done o) := by
  cases n with
  | zero => cases h
  | succ n =>
    rcases hstate : s.state? c with _ | r | _ | o'
    · exact absurd (Option.map_eq_none_iff.mp hstate) (by simp [hc])
    · obtain ⟨u, hrun, rfl⟩ := (forceWithin_pending hstate).mp h
      have hrunning : u.state? c = some .running :=
        ((Advancing.follow n r hrun).1.running c).mpr (Cells.state?_start_self hstate)
      exact Cells.state?_finish_self hrunning o
    · exact absurd hstate hidle
    · rw [forceWithin_done n hstate] at h
      cases h
      exact hstate

end LayeredSite
