import LayeredSite.Proofs.Evaluation.Functions
import LayeredSite.Proofs.Evaluation.Steps
import LayeredSite.Template.Layer

namespace LayeredSite

open Form

def FailsAt (At : Position → Prop) {α : Type} (x : Eval α) : Prop :=
  ∀ ⦃s cells e s' cells'⦄, x s cells = some ((.error e, s'), cells') → At e.position

namespace FailsAt

variable {At : Position → Prop} {α β : Type}

theorem reading (x : Reading α) : FailsAt At (Eval.reading x) := by
  intro s cells e s' cells' h
  rw [Eval.reading_run] at h
  obtain ⟨_, _, hresult⟩ := Option.map_eq_some_iff.mp h
  cases hresult

theorem sequence {x : Eval α} {f : α → Eval β} (hx : FailsAt At x) (hf : ∀ a, FailsAt At (f a)) :
    FailsAt At (x >>= f) := by
  intro s cells e s' cells' h
  rcases Eval.bind_cases h with ⟨e', _, _, hrun, hresult⟩ | ⟨a, _, _, -, hrun⟩
  · cases hresult
    exact hx hrun
  · exact hf a hrun

theorem leaving (scopeOf : Scope → Scope → Scope) {x : Eval α} (hx : FailsAt At x) :
    FailsAt At (Eval.leaving scopeOf x) := by
  intro s cells e s' cells' h
  obtain ⟨⟨⟨r, _⟩, _⟩, hrun, hresult⟩ := Option.map_eq_some_iff.mp h
  cases hresult
  exact hx hrun

theorem rules (At : Position → Prop) : EvalRules At (FailsAt At) where
  result a s cells e s' cells' h := by cases h
  fail fault hp s cells e s' cells' h := by
    cases h
    exact hp
  sequence := sequence
  lookup name s cells e s' cells' h := by cases h
  bind name v s cells e s' cells' h := by cases h
  leaving := leaving
  text v := reading v.text
  texts items := reading (Call.itemTexts items)
  resolve v := reading v.resolve
  field v key := reading (v.field key)

end FailsAt

theorem Call.error_position {name : String} {args : List Value} {p : Position} {s s' : Scope}
    {cells cells' : Cells} {e : EvalError}
    (h : callNamed name args p s cells = some ((.error e, s'), cells')) : e.position = p :=
  (FailsAt.rules (· = p)).calls.callNamed ⟨rfl, rfl⟩ name args h

theorem eval_error_position {f : Form} {s s' : Scope} {cells cells' : Cells} {e : EvalError}
    (h : eval f s cells = some ((.error e, s'), cells')) :
    ∃ g ∈ subforms f, e.position = g.position :=
  (FailsAt.rules fun q => ∃ g ∈ subforms f, q = g.position).eval f (fun g hg => ⟨g, hg, rfl⟩) h

theorem evalEach_error_position {forms : List Form} {s s' : Scope} {cells cells' : Cells}
    {e : EvalError} (h : evalEach forms s cells = some ((.error e, s'), cells')) :
    ∃ g ∈ subformsAll forms, e.position = g.position :=
  (FailsAt.rules fun q => ∃ g ∈ subformsAll forms, q = g.position).evalEach forms
    (fun g hg => ⟨g, hg, rfl⟩) h

theorem Body.render_eq_error {b : Body} {site : Value} {content : List Value}
    {cells cells' : Cells} {e : TemplateError}
    (h : b.render site content cells = some (.error e, cells')) :
    ∃ error s', evalEach b.forms (Scope.ofSite site content) cells =
        some ((.error error, s'), cells') ∧
      e = .evaluation b.name error.position error.fault := by
  obtain ⟨⟨⟨r, s'⟩, _⟩, hrun, hresult⟩ := Option.map_eq_some_iff.mp h
  cases r with
  | ok values => cases hresult
  | error error =>
    cases hresult
    exact ⟨error, s', hrun, rfl⟩

theorem Body.compile_eq_ok {name text : String} {n : ℕ} {b : Body}
    (h : compile name text n = .ok b) : readAll text n = .ok b.forms ∧ b.name = name := by
  unfold compile at h
  split at h
  · rename_i forms hforms
    cases h
    exact ⟨hforms, rfl⟩
  · cases h

theorem Form.occupies_of_readAll {text : String} {n : ℕ} {forms : List Form}
    (h : readAll text n = .ok forms) {f : Form} (hf : f ∈ subformsAll forms) :
    ∃ front spelling tail, Occupies (Position.behind n) text.toList f front spelling tail := by
  have hplaced : Placed (Position.behind n) text.toList (readAll text n) :=
    placed_readFrom (Position.follows_behind n) text.toList
  rw [h] at hplaced
  obtain ⟨body, last, htext, hstanding, -⟩ := hplaced
  obtain ⟨front, spelling, tail, hoccupies, -⟩ := hstanding.occupies htext f hf
  exact ⟨front, spelling, tail, hoccupies⟩

/-- Errors of evaluation point at forms. The error of a form or of forms in a row has the position
of one of them or of a form in them, and that of a function has the position of its call, whatever
the scope and the cells are. So an error of a compiled text has the line and column at which a form
of this text is written. -/
theorem errors_at_forms :
    (∀ (f : Form) (s s' : Scope) (cells cells' : Cells) (e : EvalError),
      eval f s cells = some ((.error e, s'), cells') →
        ∃ g ∈ subforms f, e.position = g.position) ∧
    (∀ (forms : List Form) (s s' : Scope) (cells cells' : Cells) (e : EvalError),
      evalEach forms s cells = some ((.error e, s'), cells') →
        ∃ g ∈ subformsAll forms, e.position = g.position) ∧
    (∀ (name : String) (args : List Value) (p : Position) (s s' : Scope) (cells cells' : Cells)
      (e : EvalError), Call.callNamed name args p s cells = some ((.error e, s'), cells') →
        e.position = p) ∧
    ∀ (name text : String) (n : ℕ) (b : Body), Body.compile name text n = .ok b →
      ∀ (site : Value) (content : List Value) (cells cells' : Cells) (e : TemplateError),
        b.render site content cells = some (.error e, cells') →
        ∃ g ∈ subformsAll b.forms, (∃ fault, e = .evaluation name g.position fault) ∧
          ∃ front spelling tail,
            Occupies (Position.behind n) text.toList g front spelling tail := by
  refine ⟨fun f s s' cells cells' e h => eval_error_position h,
    fun forms s s' cells cells' e h => evalEach_error_position h,
    fun name args p s s' cells cells' e h => Call.error_position h,
    fun name text n b hb site content cells cells' e h => ?_⟩
  obtain ⟨hread, rfl⟩ := Body.compile_eq_ok hb
  obtain ⟨error, s', hrun, rfl⟩ := Body.render_eq_error h
  obtain ⟨g, hg, hposition⟩ := evalEach_error_position hrun
  exact ⟨g, hg, ⟨error.fault, by rw [hposition]⟩, occupies_of_readAll hread hg⟩

/-- A cell whose computation has failed in another text. -/
def failedCells : Cells := [⟨.done (.error (.evaluation "post" ⟨7, 9⟩ (.unbound "x"))), 1⟩]

/-- What is read of this cell fails where the second line of the page looks a field up in it. -/
def failedPage : Body :=
  ⟨"page", [.vector ⟨5, 1⟩ [.literal ⟨5, 2⟩ (.keyword "p"), .call ⟨6, 2⟩
    [.literal ⟨6, 3⟩ (.keyword "a"), .call ⟨6, 6⟩ [.symbol ⟨6, 7⟩ "first",
      .symbol ⟨6, 13⟩ "content"]]]]⟩

theorem failedPage_error_position :
    (∃ g ∈ subforms (.symbol ⟨2, 3⟩ "x"), ⟨2, 3⟩ = g.position) ∧
    (∃ g ∈ subformsAll failedPage.forms, ⟨6, 2⟩ = g.position) ∧
    (∃ e, Call.callNamed "frobnicate" [] ⟨2, 3⟩ [] [] = some ((.error e, []), []) ∧
      e.position = ⟨2, 3⟩) ∧
    Body.compile "page" "[:p\n (:a (first content))]" 5 = .ok failedPage ∧
    ∃ e, failedPage.render .nil [.deferred 0] failedCells = some (.error e, failedCells) ∧
      ∃ g ∈ subformsAll failedPage.forms, ∃ fault, e = .evaluation "page" g.position fault := by
  obtain ⟨hform, hforms, hcall, hbody⟩ := errors_at_forms
  have hcompile : Body.compile "page" "[:p\n (:a (first content))]" 5 = .ok failedPage := by rfl
  refine ⟨hform _ [] [] [] [] ⟨⟨2, 3⟩, .unbound "x"⟩ rfl,
    hforms _ (Scope.ofSite .nil [.deferred 0]) (Scope.ofSite .nil [.deferred 0]) failedCells
      failedCells ⟨⟨6, 2⟩, .failed (.evaluation "post" ⟨7, 9⟩ (.unbound "x"))⟩ rfl,
    ⟨_, rfl, hcall "frobnicate" [] ⟨2, 3⟩ [] [] [] [] _ rfl⟩, hcompile, _, rfl, ?_⟩
  obtain ⟨g, hg, hfault, -⟩ :=
    hbody _ _ _ _ hcompile .nil [.deferred 0] failedCells failedCells _ rfl
  exact ⟨g, hg, hfault⟩

end LayeredSite
