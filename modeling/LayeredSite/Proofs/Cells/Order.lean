import LayeredSite.Proofs.Cells.Forcing
import LayeredSite.Proofs.Cells.Uncached

namespace LayeredSite

namespace Cells

/-- The outcome of a cell, found without storing anything. -/
def Gives (cells : Cells) (c : CellId) (o : Outcome) : Prop :=
  ∃ n, cells.outcomeWithin n c = some o

structure Underway (cells s : Cells) : Prop where
  length : s.length = cells.length
  state : ∀ c, s.state? c = cells.state? c ∨ s.state? c = some .running ∨
    ∃ o, s.state? c = some (.done o) ∧ cells.Gives c o

variable {cells s : Cells} {c : CellId} {o : Outcome} {r : Recipe}

theorem Underway.refl (cells : Cells) : cells.Underway cells := ⟨rfl, fun _ => .inl rfl⟩

theorem Underway.depth (h : cells.Underway s) : s.depth = cells.depth := by
  rw [Cells.depth, Cells.depth, h.length]

theorem Underway.gives (h : cells.Underway s) (hc : s.state? c = some (.done o)) :
    cells.Gives c o := by
  rcases h.state c with hsame | hrunning | ⟨o', hdone, hgives⟩
  · exact ⟨1, outcomeWithin_done 0 (hsame.symm.trans hc)⟩
  · cases hc.symm.trans hrunning
  · cases hc.symm.trans hdone
    exact hgives

theorem Underway.exists_of_done (h : cells.Underway s) (hc : s.state? c = some (.done o)) :
    c < cells.length := by
  obtain ⟨cell, hcell, -⟩ := exists_cell hc
  exact h.length ▸ (List.getElem?_eq_some_iff.mp hcell).1

theorem Underway.start (h : cells.Underway s) (hc : s.state? c = some (.pending r)) :
    cells.Underway (s.start c) := by
  refine ⟨(List.length_modify ..).trans h.length, fun d => ?_⟩
  by_cases hd : c = d
  · subst hd
    exact .inr (.inl (state?_start_self hc))
  · rw [state?_start, if_neg hd]
    exact h.state d

theorem Underway.finish (h : cells.Underway s) (hc : s.state? c = some .running)
    (ho : cells.Gives c o) : cells.Underway (s.finish c o) := by
  refine ⟨(List.length_modify ..).trans h.length, fun d => ?_⟩
  by_cases hd : c = d
  · subst hd
    exact .inr (.inr ⟨o, state?_finish_self hc o, ho⟩)
  · rw [state?_finish, if_neg hd]
    exact h.state d

end Cells

section Settling

variable {cells : Cells} {rank : CellId → ℕ} {k k' n : ℕ} {c : CellId} {o : Outcome} {r : Recipe}
  {α β : Type} {Q : α → Prop} {Q' : β → Prop}

/-- A reading that always gives the same as long as no cell below a rank is running. -/
def Settles (cells : Cells) (rank : CellId → ℕ) (k : ℕ) (x : Reading α) (a : α) : Prop :=
  ∀ s, cells.Underway s → (∀ d, s.state? d = some .running → k ≤ rank d) →
    ∃ t, x s = some (a, t) ∧ cells.Underway t ∧ s.Advances t

theorem Settles.result (a : α) : Settles cells rank k (pure a) a :=
  fun s hs _ => ⟨s, rfl, hs, .refl s⟩

theorem Settles.sequence {x : Reading α} {f : α → Reading β} {a : α} {b : β}
    (hx : Settles cells rank k x a) (hf : Settles cells rank k (f a) b) :
    Settles cells rank k (x >>= f) b := by
  intro s hs hrunning
  obtain ⟨between, hfirst, hbetween, hadvances⟩ := hx s hs hrunning
  obtain ⟨t, hsecond, ht, hadvances'⟩ :=
    hf between hbetween fun d hd => hrunning d ((hadvances.running d).mp hd)
  refine ⟨t, ?_, ht, hadvances.trans hadvances'⟩
  exact Reading.bind_eq_some_iff.mpr ⟨a, between, hfirst, hsecond⟩

theorem Settles.mono {x : Reading α} {a : α} (h : Settles cells rank k x a) (hk : k ≤ k') :
    Settles cells rank k' x a :=
  fun s hs hrunning => h s hs fun d hd => hk.trans (hrunning d hd)

theorem Settles.depth {f : ℕ → Reading α} {a : α} (h : Settles cells rank k (f cells.depth) a) :
    Settles cells rank k (get >>= fun s => f s.depth) a := by
  intro s hs hrunning
  rw [Reading.get_bind, hs.depth]
  exact h s hs hrunning

theorem Settles.of_done (h : cells.state? c = some (.done o)) :
    Settles cells rank (rank c + 1) (forceWithin (n + 1) c) o := by
  intro s hs hrunning
  rcases hs.state c with hsame | hc | ⟨o', hdone, m, hgives⟩
  · exact ⟨s, forceWithin_done n (hsame.trans h), hs, .refl s⟩
  · exact absurd (hrunning c hc) (Nat.not_succ_le_self _)
  · obtain rfl := Cells.outcomeWithin_unique hgives (Cells.outcomeWithin_done 0 h)
    exact ⟨s, forceWithin_done n hdone, hs, .refl s⟩

/-- While its recipe is followed, the cell is running, which is above all that the recipe reads. -/
theorem Settles.of_pending (h : cells.state? c = some (.pending r)) (ho : cells.Gives c o)
    (hfollow : Settles cells rank (rank c) (r.follow (forceWithin n) (cellTextWithin n)) o) :
    Settles cells rank (rank c + 1) (forceWithin (n + 1) c) o := by
  intro s hs hrunning
  rcases hs.state c with hsame | hc | ⟨o', hdone, m', hgives'⟩
  · have hpending : s.state? c = some (.pending r) := hsame.trans h
    have hstarted : ∀ d, (s.start c).state? d = some .running → rank c ≤ rank d := by
      intro d hd
      by_cases hcd : c = d
      · exact hcd ▸ Nat.le_refl _
      · rw [Cells.state?_start, if_neg hcd] at hd
        exact (Nat.le_succ _).trans (hrunning d hd)
    obtain ⟨u, hrun, hu, hadvances⟩ := hfollow (s.start c) (hs.start hpending) hstarted
    have hc : u.state? c = some .running :=
      (hadvances.running c).mpr (Cells.state?_start_self hpending)
    refine ⟨u.finish c o, (forceWithin_pending hpending).mpr ⟨u, hrun, rfl⟩, hu.finish hc ho, ?_⟩
    exact .of_run hpending hadvances o
  · exact absurd (hrunning c hc) (Nat.not_succ_le_self _)
  · obtain ⟨m, hgives⟩ := ho
    obtain rfl := Cells.outcomeWithin_unique hgives' hgives
    exact ⟨s, forceWithin_done n hdone, hs, .refl s⟩

theorem Settles.runAll {reads : List (CellId × Access)} {answer : CellId × Access → Answer}
    (h : ∀ read ∈ reads, Settles cells rank k (read.2.run read.1) (answer read)) :
    Settles cells rank k (Access.runAll reads) (reads.map answer) := by
  induction reads with
  | nil => exact .result []
  | cons read rest ih =>
    obtain ⟨hread, hrest⟩ := List.forall_mem_cons.mp h
    exact hread.sequence ((ih hrest).sequence (.result _))

/-- A reading that gives what is found without storing anything, which is of a class. -/
def Agrees (cells : Cells) (rank : CellId → ℕ) (k : ℕ) {α : Type} (Q : α → Prop) (x : Option α)
    (y : Reading α) : Prop :=
  ∃ a, Q a ∧ x = some a ∧ Settles cells rank k y a

theorem Agrees.mono {Q' : α → Prop} {x : Option α} {y : Reading α}
    (h : Agrees cells rank k Q x y) (hQ : ∀ a, Q a → Q' a) (hk : k ≤ k') :
    Agrees cells rank k' Q' x y := by
  obtain ⟨a, ha, hx, hy⟩ := h
  exact ⟨a, hQ a ha, hx, hy.mono hk⟩

theorem agrees_parallel : Parallel (Agrees cells rank k) where
  result ha := ⟨_, ha, rfl, .result _⟩
  sequence := by
    rintro _ _ _ _ _ _ _ _ ⟨a, ha, hx, hy⟩ hf
    obtain ⟨b, hb, hfa, hga⟩ := hf a ha
    exact ⟨b, hb, Option.bind_eq_some_iff.mpr ⟨a, hx, hfa⟩, hy.sequence hga⟩

end Settling

namespace Cells.Acyclic

variable {cells : Cells} {Uses : CellId → CellId → Prop} {E : TemplateError → Prop}

/-- A cell is read in twice as many nested reads as there are cells that it uses, and one or two
more. -/
theorem within (h : cells.Acyclic Uses E) (n : ℕ) (c : CellId) (hc : c < cells.length) :
    (2 * cells.rank Uses c < n → Agrees cells (cells.rank Uses) (cells.rank Uses c + 1)
      (OutcomeIn (cells.UsedBy Uses c) E) (cells.outcomeWithin n c) (forceWithin n c)) ∧
    (2 * cells.rank Uses c + 1 < n → Agrees cells (cells.rank Uses) (cells.rank Uses c + 1)
      anything (cells.textWithin n c) (cellTextWithin n c)) := by
  induction n generalizing c with
  | zero => exact ⟨fun hn => absurd hn (Nat.not_lt_zero _), fun hn => absurd hn (Nat.not_lt_zero _)⟩
  | succ n ih =>
    refine ⟨fun hn => ?_, fun hn => ?_⟩
    · obtain ⟨state, hstate⟩ : ∃ state, cells.state? c = some state :=
        ⟨_, state?_of_cell (List.getElem?_eq_getElem hc)⟩
      have hin := h.uses c state hstate
      cases state with
      -- A recipe uses only cells of lower rank, for which the induction hypothesis has enough depth
      -- left.
      | pending r =>
        have hforce (d : CellId) (hd : cells.UsedBy Uses c d) : Agrees cells (cells.rank Uses)
            (cells.rank Uses c) (OutcomeIn (cells.UsedBy Uses c) E) (cells.outcomeWithin n d)
            (forceWithin n d) := by
          have hrank := h.rank_lt hd
          refine ((ih d hd.1).1 (by omega)).mono (fun o ho => ?_) hrank
          exact ho.mono (fun e he => ⟨he.1, hd.2.trans he.2⟩) fun _ he => he
        have htext (d : CellId) (hd : cells.UsedBy Uses c d) : Agrees cells (cells.rank Uses)
            (cells.rank Uses c) anything (cells.textWithin n d) (cellTextWithin n d) := by
          have hrank := h.rank_lt hd
          exact ((ih d hd.1).2 (by omega)).mono (fun _ ht => ht) hrank
        obtain ⟨o, ho, hfound, hfollow⟩ := agrees_parallel.follow hforce htext r hin
        have houtcome := (outcomeWithin_pending n hstate).trans hfound
        exact ⟨o, ho, houtcome, .of_pending hstate ⟨n + 1, houtcome⟩ hfollow⟩
      | running => exact absurd hin id
      | done o => exact ⟨o, hin, outcomeWithin_done n hstate, .of_done hstate⟩
    · rw [textWithin, cellTextWithin]
      refine agrees_parallel.sequence ((ih c hc).1 (by omega)) fun o ho => ?_
      cases o with
      | error e => exact agrees_parallel.result trivial
      | ok v =>
        refine agrees_parallel.textWith v fun d hd => ?_
        have hrank := h.rank_lt (ho d hd)
        exact ((ih d (ho d hd).1).2 (by omega)).mono (fun _ ht => ht) (by omega)

/-- The depth is enough for every cell. -/
theorem lt_depth (h : cells.Acyclic Uses E) {c : CellId} (hc : c < cells.length) :
    2 * cells.rank Uses c + 1 < cells.depth := by
  have hrank := h.rank_lt_length hc
  calc 2 * cells.rank Uses c + 1 < 2 * (cells.length + 2) := by omega
    _ ≤ cells.depth := Nat.mul_le_mul_right _ (Nat.le_add_left 2 _)

theorem uncached_of_gives (h : cells.Acyclic Uses E) {c : CellId} {o : Outcome}
    (hc : c < cells.length) (ho : cells.Gives c o) : cells.uncached c = some o := by
  obtain ⟨n, hn⟩ := ho
  have hdepth := h.lt_depth hc
  obtain ⟨o', -, hfound, -⟩ := (h.within cells.depth c hc).1 (by omega)
  exact Cells.outcomeWithin_unique hn hfound ▸ hfound

abbrev Fixed (cells : Cells) (Uses : CellId → CellId → Prop) {α : Type} (Q : α → Prop)
    (x : Reading α) : Prop :=
  ∃ a, Q a ∧ Settles cells (cells.rank Uses) cells.length x a

/-- The errors of cells and those that only serializing raises. -/
abbrev Errors (E : TemplateError → Prop) (e : TemplateError) : Prop :=
  E e ∨ ∃ fault, e = .markup fault

theorem rules (h : cells.Acyclic Uses E) : ReadRules (Fixed cells Uses)
    (fun n c => c < cells.length ∧ cells.rank Uses c < n) (Errors E) where
  result ha := ⟨_, ha, .result _⟩
  sequence := by
    rintro _ _ _ _ _ _ ⟨a, ha, hx⟩ hf
    obtain ⟨b, hb, hfa⟩ := hf a ha
    exact ⟨b, hb, hx.sequence hfa⟩
  further hc := ⟨hc.1, Nat.lt_succ_of_lt hc.2⟩
  endless hc := absurd hc.2 (Nat.not_lt_zero _)
  force := by
    rintro n c ⟨hc, hn⟩
    have hdepth := h.lt_depth hc
    obtain ⟨o, ho, -, hsettles⟩ := (h.within cells.depth c hc).1 (by omega)
    have hbelow (d : CellId) (hd : cells.UsedBy Uses c d) : cells.rank Uses d < n :=
      Nat.lt_of_lt_of_le (h.rank_lt hd) (Nat.le_of_lt_succ hn)
    refine ⟨o, ho.mono (fun d hd => ⟨hd.1, hbelow d hd⟩) fun e he => .inl he, ?_⟩
    exact .depth (f := fun n => forceWithin n c) (hsettles.mono (h.rank_lt_length hc))
  text := by
    intro v hv
    have hcell (c : CellId) (hc : c ∈ v.cells) : Agrees cells (cells.rank Uses) cells.length
        anything (cells.textWithin cells.depth c) (cellTextWithin cells.depth c) := by
      obtain ⟨n, hc, -⟩ := hv c hc
      have htext := (h.within cells.depth c hc).2 (h.lt_depth hc)
      exact htext.mono (fun _ ht => ht) (h.rank_lt_length hc)
    obtain ⟨t, -, -, hsettles⟩ := agrees_parallel.textWith v hcell
    exact ⟨t, trivial, .depth (f := fun n => v.textWith (cellTextWithin n)) hsettles⟩
  depth := by
    intro α Q f hf
    obtain ⟨n, hn⟩ := cells.exists_depth
    have hreach (c : CellId) (hc : c < cells.length) : cells.rank Uses c < n := by
      have hdepth := h.lt_depth hc
      omega
    obtain ⟨a, ha, hsettles⟩ := hf n fun m c hc => ⟨hc.1, hreach c hc.1⟩
    exact ⟨a, ha, .depth (hn ▸ hsettles)⟩
  markup fault := .inr ⟨fault, rfl⟩

theorem answers (h : cells.Acyclic Uses E) : ∃ answer : CellId × Access → Answer,
    ∀ read, read.1 < cells.length → (answer read).In anything (Errors E) ∧
      Settles cells (cells.rank Uses) cells.length (read.2.run read.1) (answer read) := by
  have hanswer (read : CellId × Access) : ∃ answer : Answer, read.1 < cells.length →
      answer.In anything (Errors E) ∧
        Settles cells (cells.rank Uses) cells.length (read.2.run read.1) answer := by
    by_cases hc : read.1 < cells.length
    · obtain ⟨answer, hin, hsettles⟩ :=
        h.rules.access ⟨cells.rank Uses read.1 + 1, hc, Nat.lt_succ_self _⟩ read.2
      exact ⟨answer, fun _ => ⟨hin.mono (fun _ _ => trivial) fun _ he => he, hsettles⟩⟩
    · exact ⟨.text "", fun hc' => absurd hc' hc⟩
  choose answer hanswer using hanswer
  exact ⟨answer, hanswer⟩

/-- Nothing is running before the first reading. -/
theorem runs (h : cells.Acyclic Uses E) {α : Type} {x : Reading α} {a : α}
    (hx : Settles cells (cells.rank Uses) cells.length x a) :
    ∃ s, x cells = some (a, s) ∧ cells.Underway s := by
  have hidle (c : CellId) (hc : cells.state? c = some .running) :
      cells.length ≤ cells.rank Uses c := absurd (h.uses c _ hc) id
  obtain ⟨s, hrun, hs, -⟩ := hx cells (.refl cells) hidle
  exact ⟨s, hrun, hs⟩

/-- Also in the middle of a run a cell gives its own outcome, if all that is running uses it. -/
theorem force_underway (h : cells.Acyclic Uses E) {m : Cells} {c : CellId}
    (hm : cells.Underway m) (hc : c < cells.length)
    (hrunning : ∀ d, m.state? d = some .running → Relation.TransGen Uses d c) :
    ∃ o m', force c m = some (o, m') ∧ cells.uncached c = some o := by
  have hdepth := h.lt_depth hc
  obtain ⟨o, -, hfound, hsettles⟩ := (h.within cells.depth c hc).1 (by omega)
  have hforce : Settles cells (cells.rank Uses) (cells.rank Uses c + 1) (force c) o :=
    .depth (f := fun n => forceWithin n c) hsettles
  obtain ⟨m', hrun, -⟩ := hforce m hm fun d hd => h.rank_lt ⟨hc, hrunning d hd⟩
  exact ⟨o, m', hrun, hfound⟩

theorem uncached_ne_error (h : cells.Acyclic Uses E) {e : TemplateError} (he : ¬ E e)
    {c : CellId} (hc : c < cells.length) : cells.uncached c ≠ some (.error e) := by
  have hdepth := h.lt_depth hc
  obtain ⟨o, ho, hfound, -⟩ := (h.within cells.depth c hc).1 (by omega)
  intro herror
  obtain rfl := Option.some.inj (hfound.symm.trans herror)
  exact he ho

theorem errors_ne (he : ¬ E .readWhileComputing) (e : TemplateError) (h : Errors E e) :
    e ≠ .readWhileComputing := by
  rintro rfl
  rcases h with h | ⟨fault, h⟩
  · exact he h
  · cases h

end Cells.Acyclic

/-- Cells that do not use themselves in a circle can be read in any two orders: every read gives
the same in both, and every cell that both compute has the outcome that it has if nothing is ever
stored. Unless a recipe raises it itself, no read gives the error of a cell that is being computed,
and no cell that another one reads on the way does. -/
theorem order_irrelevant {cells : Cells} {Uses : CellId → CellId → Prop} {E : TemplateError → Prop}
    (h : cells.Acyclic Uses E) :
    (∃ answer : CellId × Access → Answer, ∀ first second : List (CellId × Access),
      (∀ read ∈ first ++ second, read.1 < cells.length) →
      ∃ s t, Access.runAll first cells = some (first.map answer, s) ∧
        Access.runAll second cells = some (second.map answer, t) ∧
        (∀ c o o', s.state? c = some (.done o) → t.state? c = some (.done o') →
          o = o' ∧ cells.uncached c = some o) ∧
        (¬ E .readWhileComputing → ∀ read ∈ first ++ second,
          (answer read).In anything (· ≠ .readWhileComputing))) ∧
    (∀ m c, cells.Underway m → c < cells.length →
      (∀ d, m.state? d = some .running → Relation.TransGen Uses d c) →
      ∃ o m', force c m = some (o, m') ∧ cells.uncached c = some o) ∧
    (¬ E .readWhileComputing → ∀ c < cells.length,
      cells.uncached c ≠ some (.error .readWhileComputing)) := by
  refine ⟨?_, fun m c hm hc hrunning => h.force_underway hm hc hrunning,
    fun he c hc => h.uncached_ne_error he hc⟩
  -- What each read gives is fixed before any order of the reads is looked at.
  obtain ⟨answer, hanswer⟩ := h.answers
  refine ⟨answer, fun first second hreads => ?_⟩
  obtain ⟨hfirst, hsecond⟩ := List.forall_mem_append.mp hreads
  obtain ⟨s, hruns, hs⟩ := h.runs (.runAll fun read hread => (hanswer read (hfirst read hread)).2)
  obtain ⟨t, hrunt, ht⟩ := h.runs (.runAll fun read hread => (hanswer read (hsecond read hread)).2)
  refine ⟨s, t, hruns, hrunt, fun c o o' hc hc' => ?_, fun he read hread => ?_⟩
  · obtain ⟨n, hn⟩ := hs.gives hc
    obtain ⟨n', hn'⟩ := ht.gives hc'
    exact ⟨Cells.outcomeWithin_unique hn hn', h.uncached_of_gives (hs.exists_of_done hc) ⟨n, hn⟩⟩
  · exact (hanswer read (hreads read hread)).1.mono (fun _ hc => hc) (Cells.Acyclic.errors_ne he)

def ladder : Cells :=
  [⟨.pending (.outcome (.ok (.str "a"))), 0⟩, ⟨.pending (.text 0), 0⟩, ⟨.pending (.force 1), 0⟩,
    ⟨.pending (.same 2), 0⟩, ⟨.pending (.outcome (.error (.markup (.other "boom")))), 0⟩,
    ⟨.done (.ok (.list [.deferred 3, .deferred 0])), 0⟩]

theorem ladder_acyclic : ladder.Acyclic (fun c d => d < c) (· ≠ .readWhileComputing) := by
  have hlower (c d : CellId) (h : Relation.TransGen (fun c d : CellId => d < c) c d) : d < c := by
    induction h with
    | single hd => exact hd
    | tail _ hd ih => exact Nat.lt_trans hd ih
  have huses (c d : CellId) (h : d < c) (hc : c < 6) : ladder.UsedBy (fun c d => d < c) c d :=
    ⟨Nat.lt_trans h hc, .single h⟩
  refine ⟨fun c state hstate => ?_, fun c hc => Nat.lt_irrefl c (hlower c c hc)⟩
  match c, hstate with
  | 0, rfl => exact fun d hd => absurd hd List.not_mem_nil
  | 1, rfl => exact huses 1 0 (by decide) (by decide)
  | 2, rfl => exact huses 2 1 (by decide) (by decide)
  | 3, rfl => exact huses 3 2 (by decide) (by decide)
  | 4, rfl => exact fun he => nomatch he
  | 5, rfl =>
    have hcells : ∀ d ∈ [3, 0], d < 5 := by decide
    exact fun d hd => huses 5 d (hcells d hd) (by decide)

/-- The last cell of the ladder first, or the cells one by one. -/
theorem ladder_order_irrelevant :
    ladder.Acyclic (fun c d => d < c) (· ≠ .readWhileComputing) ∧
    ∃ s t answers answers',
      Access.runAll [(5, .markup none), (4, .text)] ladder = some (answers, s) ∧
      Access.runAll [(0, .force), (2, .field .nil), (3, .text)] ladder = some (answers', t) ∧
      ∀ c o o', s.state? c = some (.done o) → t.state? c = some (.done o') →
        o = o' ∧ ladder.uncached c = some o := by
  obtain ⟨answer, hanswer⟩ := (order_irrelevant ladder_acyclic).1
  obtain ⟨s, t, hs, ht, hagree, -⟩ := hanswer [(5, .markup none), (4, .text)]
    [(0, .force), (2, .field .nil), (3, .text)] (by decide)
  exact ⟨ladder_acyclic, s, t, _, _, hs, ht, hagree⟩

end LayeredSite
