import LayeredSite.Proofs.Cells.Forcing

namespace LayeredSite

/-- What a program does with deferred values, which it knows by handles. -/
inductive SessionStep
  | create (recipe : Recipe)
  | ready (v : Value)
  /-- Another handle of the same cell. -/
  | clone (handle : ℕ)
  | read (handle : ℕ) (access : Access)

structure Session where
  cells : Cells
  handles : List CellId

/-- How a cell that is not running may differ from what it was before. -/
inductive CellState.Onward : CellState → CellState → Prop
  | waits (r : Recipe) : Onward (.pending r) (.pending r)
  | computed (r : Recipe) (o : Outcome) : Onward (.pending r) (.done o)
  | stays (o : Outcome) : Onward (.done o) (.done o)

namespace Session

def empty : Session := ⟨[], []⟩

def make (s : Session) (state : CellState) : Session :=
  ⟨(s.cells.add state).2, s.handles ++ [(s.cells.add state).1]⟩

/-- What a step answers, if anything, and what it leaves; `none` if it has no handle to work on or
never ends. -/
def step (s : Session) : SessionStep → Option (Option Answer × Session)
  | .create recipe => some (none, s.make (.pending recipe))
  | .ready v => some (none, s.make (.done (.ok v)))
  | .clone handle => do
    let c ← s.handles[handle]?
    some (none, { s with handles := s.handles ++ [c] })
  | .read handle access => do
    let c ← s.handles[handle]?
    let (answer, cells) ← access.run c s.cells
    some (some answer, { s with cells })

def runAll (s : Session) : List SessionStep → Option Session
  | [] => some s
  | action :: rest => do
    let (_, next) ← s.step action
    next.runAll rest

structure Sound (s : Session) : Prop where
  later : Cells.Later [] s.cells
  idle : ∀ c, s.cells.state? c ≠ some .running
  handles : ∀ c ∈ s.handles, c < s.cells.length

variable {s t : Session} {action : SessionStep} {answer : Option Answer}

theorem Sound.empty : Sound empty where
  later := .refl
  idle c := by simp [Session.empty, Cells.state?]
  handles c hc := by cases hc

theorem Sound.make (h : s.Sound) {state : CellState} (hstate : state ≠ .running) :
    (s.make state).Sound where
  later := h.later.tail (.add s.cells hstate)
  idle c := by
    rw [Session.make, Cells.state?_add]
    split
    · simpa using hstate
    · exact h.idle c
  handles c hc := by
    have hlength : (s.cells.add state).2.length = s.cells.length + 1 := List.length_append
    simp only [Session.make, hlength] at hc ⊢
    rcases List.mem_append.mp hc with hc | hc
    · exact Nat.lt_succ_of_lt (h.handles c hc)
    · obtain rfl := List.mem_singleton.mp hc
      exact Nat.lt_succ_self _

theorem step_read_eq_some_iff {handle : ℕ} {access : Access} :
    s.step (.read handle access) = some (answer, t) ↔
      ∃ c a cells, s.handles[handle]? = some c ∧ access.run c s.cells = some (a, cells) ∧
        answer = some a ∧ t = { s with cells } := by
  simp only [Session.step, Option.bind_eq_bind, Option.bind_eq_some_iff]
  constructor
  · rintro ⟨c, hc, ⟨a, cells⟩, hrun, hend⟩
    cases hend
    exact ⟨c, a, cells, hc, hrun, rfl, rfl⟩
  · rintro ⟨c, a, cells, hc, hrun, rfl, rfl⟩
    exact ⟨c, hc, (a, cells), hrun, rfl⟩

/-- A step only moves the cells on, and leaves none running. -/
theorem Sound.step (h : s.Sound) (hstep : s.step action = some (answer, t)) :
    t.Sound ∧ s.cells.Later t.cells := by
  cases action with
  | create recipe =>
    cases hstep
    exact ⟨h.make (by simp), .single (.add s.cells (by simp))⟩
  | ready v =>
    cases hstep
    exact ⟨h.make (by simp), .single (.add s.cells (by simp))⟩
  | clone handle =>
    obtain ⟨c, hc, hend⟩ := Option.bind_eq_some_iff.mp hstep
    cases hend
    refine ⟨⟨h.later, h.idle, fun d hd => ?_⟩, .refl⟩
    rcases List.mem_append.mp hd with hd | hd
    · exact h.handles d hd
    · obtain rfl := List.mem_singleton.mp hd
      exact h.handles d (List.mem_of_getElem? hc)
  | read handle access =>
    obtain ⟨c, a, cells, hc, hrun, rfl, rfl⟩ := step_read_eq_some_iff.mp hstep
    have hadvances : s.cells.Advances cells := (Advancing.rules.access ⟨0, trivial⟩ access hrun).1
    refine ⟨⟨h.later.trans hadvances.later, fun d hd => ?_, fun d hd => ?_⟩, hadvances.later⟩
    · exact h.idle d ((hadvances.running d).mp hd)
    · exact Nat.lt_of_lt_of_le (h.handles d hd) hadvances.later.length_le

theorem Sound.runAll (h : s.Sound) {steps : List SessionStep} (hrun : s.runAll steps = some t) :
    t.Sound ∧ s.cells.Later t.cells := by
  induction steps generalizing s with
  | nil =>
    cases hrun
    exact ⟨h, .refl⟩
  | cons action rest ih =>
    obtain ⟨⟨answer, next⟩, hstep, hrest⟩ := Option.bind_eq_some_iff.mp hrun
    obtain ⟨hnext, hlater⟩ := h.step hstep
    obtain ⟨ht, hlater'⟩ := ih hnext hrest
    exact ⟨ht, hlater.trans hlater'⟩

theorem Sound.counted (h : s.Sound) : ∀ cell ∈ s.cells, cell.Counted :=
  h.later.counted fun _ hcell => absurd hcell List.not_mem_nil

/-- From one moment between steps to a later one. -/
theorem Sound.onward (hs : s.Sound) (ht : t.Sound) (h : s.cells.Later t.cells) {c : CellId}
    {state : CellState} (hc : s.cells.state? c = some state) :
    ∃ state', t.cells.state? c = some state' ∧ state.Onward state' := by
  obtain ⟨cell, hcell, rfl⟩ := Cells.exists_cell hc
  obtain ⟨cell', hcell', hbecomes⟩ := h.cell hcell
  have hstate' : t.cells.state? c = some cell'.state := Cells.state?_of_cell hcell'
  refine ⟨cell'.state, hstate', ?_⟩
  cases hstate : cell.state with
  | pending r =>
    rcases hbecomes.of_pending hstate with h' | h' | ⟨o, h'⟩
    · exact h' ▸ .waits r
    · exact absurd (h' ▸ hstate') (ht.idle c)
    · exact h' ▸ .computed r o
  | running => exact absurd (hstate ▸ hc) (hs.idle c)
  | done o => exact hbecomes.of_done hstate ▸ hstate ▸ .stays o

/-- A cell that was forced gives the same outcome again through every handle. -/
theorem Sound.force_again (h : s.Sound) {handle handle' : ℕ} {o : Outcome}
    {later : List SessionStep} {t u : Session}
    (hforce : s.step (.read handle .force) = some (some (.outcome o), t))
    (hrun : t.runAll later = some u) (hsame : u.handles[handle']? = s.handles[handle]?) :
    u.step (.read handle' .force) = some (some (.outcome o), u) := by
  obtain ⟨ht, -⟩ := h.step hforce
  obtain ⟨-, hlater⟩ := ht.runAll hrun
  obtain ⟨c, a, cells, hc, haccess, ha, rfl⟩ := step_read_eq_some_iff.mp hforce
  obtain rfl := Option.some.inj ha
  obtain ⟨o', between, hrest, hend⟩ := Reading.bind_eq_some_iff.mp haccess
  obtain ⟨ho, rfl⟩ := Reading.pure_eq_some_iff.mp hend
  cases ho
  have hexists : c < s.cells.length := h.handles c (List.mem_of_getElem? hc)
  have hdone : u.cells.state? c = some (.done o) :=
    hlater.done (forceWithin_computes hrest hexists (h.idle c))
  refine step_read_eq_some_iff.mpr ⟨c, .outcome o, u.cells, hsame.trans hc, ?_, rfl, rfl⟩
  refine Reading.bind_eq_some_iff.mpr ⟨o, u.cells, ?_, rfl⟩
  exact force_done hdone

/-- No recipe is started twice, and a pending cell is computed in the end or stays as it is. A cell
that was forced has its outcome from then on, whoever asks, also if it was forced by the recipe of
another cell. Only while its own recipe is followed, all the time of which it is running, forcing it
is an error, which changes nothing. -/
theorem computes_once {before after : List SessionStep} {s t : Session}
    (hs : empty.runAll before = some s) (ht : s.runAll after = some t) :
    (∀ cell ∈ t.cells, cell.runs ≤ 1) ∧
    (∀ c state, s.cells.state? c = some state →
      ∃ state', t.cells.state? c = some state' ∧ state.Onward state') ∧
    (∀ handle handle' o s' later u,
      s.step (.read handle .force) = some (some (.outcome o), s') → s'.runAll later = some u →
      u.handles[handle']? = s.handles[handle]? →
        u.step (.read handle' .force) = some (some (.outcome o), u)) ∧
    ∀ n c o m m', forceWithin n c m = some (o, m') →
      (m.state? c = some .running → o = .error .readWhileComputing ∧ m' = m) ∧
      (∀ r, m.state? c = some (.pending r) → ∃ k u, n = k + 1 ∧
        r.follow (forceWithin k) (cellTextWithin k) (m.start c) = some (o, u) ∧
        (m.start c).state? c = some .running ∧ (m.start c).Advances u ∧ m' = u.finish c o) ∧
      (m.state? c ≠ some .running → c < m.length →
        ∀ u, m'.Later u → force c u = some (o, u)) := by
  obtain ⟨hsound, -⟩ := Sound.empty.runAll hs
  obtain ⟨htsound, hlater⟩ := hsound.runAll ht
  refine ⟨fun cell hcell => (htsound.counted cell hcell).runs_le,
    fun c state hc => hsound.onward htsound hlater hc, ?_, ?_⟩
  · intro handle handle' o s' later u hforce hrun hsame
    exact hsound.force_again hforce hrun hsame
  · intro n c o m m' h
    refine ⟨fun hrunning => ?_, fun r hpending => ?_, fun hidle hexists u hu => ?_⟩
    · cases n with
      | zero => cases h
      | succ n =>
        rw [forceWithin_running n hrunning] at h
        cases h
        exact ⟨rfl, rfl⟩
    · cases n with
      | zero => cases h
      | succ n =>
        obtain ⟨u, hfollow, hfinish⟩ := (forceWithin_pending hpending).mp h
        exact ⟨n, u, rfl, hfollow, Cells.state?_start_self hpending,
          (Advancing.follow n r hfollow).1, hfinish⟩
    · exact force_done (hu.done (forceWithin_computes h hexists hidle))

/-- Two cells whose recipes force each other. -/
theorem circle_computes_once :
    let before : List SessionStep := [.create (.force 1), .create (.force 0), .clone 0]
    let after : List SessionStep := [.read 0 .force, .read 2 .text, .read 1 (.markup none)]
    let failed : Cell := ⟨.done (.error .readWhileComputing), 1⟩
    let s : Session := ⟨[⟨.pending (.force 1), 0⟩, ⟨.pending (.force 0), 0⟩], [0, 1, 0]⟩
    let t : Session := ⟨[failed, failed], [0, 1, 0]⟩
    empty.runAll before = some s ∧ s.runAll after = some t ∧ ∀ cell ∈ t.cells, cell.runs ≤ 1 := by
  intro before after failed s t
  have hs : empty.runAll before = some s := rfl
  have ht : s.runAll after = some t := rfl
  exact ⟨hs, ht, (computes_once hs ht).1⟩

end Session
end LayeredSite
