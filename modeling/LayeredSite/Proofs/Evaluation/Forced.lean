import LayeredSite.Proofs.Cells.Loaded
import LayeredSite.Proofs.Cells.Passing
import LayeredSite.Proofs.Evaluation.Application

namespace LayeredSite

namespace Value

mutual

/-- Deferred values stand in the value only as entries of maps and as attributes. -/
def Forced : Value → Prop
  | list items => ForcedAll items
  | map fields => ForcedFields fields
  | node _ attrs children => ForcedFields attrs ∧ ForcedAll children
  | deferred _ => False
  | _ => True

def ForcedAll : List Value → Prop
  | [] => True
  | v :: rest => v.Forced ∧ ForcedAll rest

def ForcedFields : List (String × Value) → Prop
  | [] => True
  | (_, v) :: rest => (v.kind = .deferred ∨ v.Forced) ∧ ForcedFields rest

end

variable {v w key : Value} {items : List Value} {fields : Fields Value} {tag : String}

theorem forcedAll_iff : ForcedAll items ↔ ∀ v ∈ items, v.Forced := by
  induction items with
  | nil => simp [ForcedAll]
  | cons v rest ih => rw [ForcedAll, ih, List.forall_mem_cons]

theorem forcedFields_iff :
    ForcedFields fields ↔ ∀ e ∈ fields, e.2.kind = .deferred ∨ e.2.Forced := by
  induction fields with
  | nil => simp [ForcedFields]
  | cons e rest ih => rw [ForcedFields, ih, List.forall_mem_cons]

theorem forced_list (h : ∀ v ∈ items, v.Forced) : (list items).Forced := forcedAll_iff.mpr h

theorem Forced.kind_ne (h : v.Forced) : v.kind ≠ .deferred := by
  rintro hkind
  obtain ⟨c, rfl⟩ := exists_of_kind hkind
  exact h

theorem ForcedFields.insert (h : ForcedFields fields) (hv : v.kind = .deferred ∨ v.Forced)
    (key : String) : ForcedFields (fields.insert key v) := by
  refine forcedFields_iff.mpr fun e he => ?_
  rcases Fields.mem_insert he with rfl | hold
  · exact hv
  · exact forcedFields_iff.mp h e hold

theorem ForcedFields.getD (h : ForcedFields fields) (key : String) :
    ((fields.get? key).getD nil).kind = .deferred ∨ ((fields.get? key).getD nil).Forced := by
  cases hv : fields.get? key with
  | none => exact .inr trivial
  | some v => exact forcedFields_iff.mp h (key, v) (Fields.mem_of_get? hv)

/-- Only entries can be deferred. -/
theorem Forced.entry (h : v.Forced) (key : Value) :
    (v.entry key).kind = .deferred ∨ (v.entry key).Forced := by
  unfold Value.entry
  split
  · exact ForcedFields.getD h _
  · exact ForcedFields.getD h _
  · exact ForcedFields.getD h.1 _
  · exact ForcedFields.getD h.1 _
  · rename_i items i
    split
    · exact .inr trivial
    · cases hv : items[i.toInt.toNat]? with
      | none => exact .inr trivial
      | some v => exact .inr (forcedAll_iff.mp h v (List.mem_of_getElem? hv))
  · exact .inr trivial

mutual

/-- A value without cells holds no deferred value at all. -/
theorem forced_of_cells : (v : Value) → v.cells = [] → v.Forced
  | list items, h => forcedAll_of_cells items h
  | map fields, h => forcedFields_of_cells fields h
  | node _ attrs children, h =>
    ⟨forcedFields_of_cells attrs (List.append_eq_nil_iff.mp h).1,
      forcedAll_of_cells children (List.append_eq_nil_iff.mp h).2⟩
  | deferred _, h => List.cons_ne_nil _ _ h
  | nil, _ | bool _, _ | int _, _ | float _, _ | str _, _ | keyword _, _ | raw _, _ => trivial

theorem forcedAll_of_cells : (items : List Value) → cellsAll items = [] → ForcedAll items
  | [], _ => trivial
  | v :: rest, h =>
    ⟨forced_of_cells v (List.append_eq_nil_iff.mp h).1,
      forcedAll_of_cells rest (List.append_eq_nil_iff.mp h).2⟩

theorem forcedFields_of_cells : (fields : List (String × Value)) → cellsOf fields = [] →
    ForcedFields fields
  | [], _ => trivial
  | (_, v) :: rest, h =>
    ⟨.inr (forced_of_cells v (List.append_eq_nil_iff.mp h).1),
      forcedFields_of_cells rest (List.append_eq_nil_iff.mp h).2⟩

end

theorem forced_ofVector (h : ∀ v ∈ items, v.Forced) : (ofVector items).Forced := by
  unfold ofVector
  split
  · obtain ⟨-, hrest⟩ := List.forall_mem_cons.mp h
    obtain ⟨hattrs, hchildren⟩ := List.forall_mem_cons.mp hrest
    exact ⟨hattrs, forcedAll_iff.mpr hchildren⟩
  · exact ⟨trivial, forcedAll_iff.mpr (List.forall_mem_cons.mp h).2⟩
  · exact forced_list h

theorem forced_ofLoopBody (h : ∀ v ∈ items, v.Forced) : (ofLoopBody items).Forced := by
  unfold ofLoopBody
  split
  · exact h _ (List.mem_singleton_self _)
  · exact forced_list h

end Value

theorem Call.forced_splice {items : List Value} (h : ∀ v ∈ items, v.Forced) :
    ∀ v ∈ splice items, v.Forced := by
  induction items with
  | nil => exact h
  | cons v rest ih =>
    obtain ⟨hv, hrest⟩ := List.forall_mem_cons.mp h
    cases v with
    | list items => exact List.forall_mem_append.mpr ⟨Value.forcedAll_iff.mp hv, ih hrest⟩
    | nil => exact ih hrest
    | _ => exact List.forall_mem_cons.mpr ⟨hv, ih hrest⟩

theorem Literal.forced_toValue (l : Literal) : l.toValue.Forced := by
  cases l <;> trivial

def Scope.Forced (scope : Scope) : Prop := ∀ b ∈ scope, b.2.Forced

namespace Eval

variable {outcomes : List Outcome} {α β : Type} {Q : α → Prop} {R : β → Prop}

/-- On cells that hold these outcomes the evaluation ends, a result of it is in the class, and
bindings that are forced remain so. -/
def Gives (outcomes : List Outcome) (Q : α → Prop) (x : Eval α) : Prop :=
  ∀ scope : Scope, scope.Forced → Steady (Cells.Hold outcomes)
    (fun o => (∀ a, o.1 = .ok a → Q a) ∧ Scope.Forced o.2) (x scope)

namespace Gives

theorem result {a : α} (ha : Q a) : Gives outcomes Q (pure a) := by
  intro scope hscope
  refine Steady.result ⟨fun b hb => ?_, hscope⟩
  cases hb
  exact ha

theorem fail (p : Position) (fault : EvalFault) : Gives outcomes Q (Eval.fail p fault) :=
  fun _ hscope => Steady.result ⟨nofun, hscope⟩

theorem next {x : Eval α} {f : α → Eval β} (hx : Gives outcomes Q x)
    (hf : ∀ a, Q a → Gives outcomes R (f a)) : Gives outcomes R (x >>= f) := by
  intro scope hscope
  have hrun : (x >>= f) scope =
      (x scope >>= fun o => ExceptT.bindCont f o.1 o.2 : Reading _) := rfl
  rw [hrun]
  refine Steady.sequence (hx scope hscope) fun o ⟨ho, hscope'⟩ => ?_
  obtain ⟨r, scope'⟩ := o
  cases r with
  | ok a => exact hf a (ho a rfl) scope' hscope'
  | error e => exact Steady.result ⟨nofun, hscope'⟩

theorem map {x : Eval α} {f : α → β} (hx : Gives outcomes Q x) (hf : ∀ a, Q a → R (f a)) :
    Gives outcomes R (f <$> x) := by
  rw [map_eq_pure_bind]
  exact hx.next fun a ha => result (hf a ha)

theorem any {x : Eval α} (hx : Gives outcomes Q x) : Gives outcomes anything x := by
  rw [← bind_pure x]
  exact hx.next fun _ _ => result trivial

theorem mapM {f : α → Eval β} {items : List α} (hf : ∀ a ∈ items, Gives outcomes R (f a)) :
    Gives outcomes (fun bs => ∀ b ∈ bs, R b) (items.mapM f) := by
  induction items with
  | nil => exact result nofun
  | cons a rest ih =>
    obtain ⟨ha, hrest⟩ := List.forall_mem_cons.mp hf
    rw [List.mapM_cons]
    exact ha.next fun b hb => (ih hrest).next fun bs hbs =>
      result (List.forall_mem_cons.mpr ⟨hb, hbs⟩)

theorem reading {x : Reading α} (hx : Steady (Cells.Hold outcomes) Q x) :
    Gives outcomes Q (Eval.reading x) := by
  intro scope hscope
  have hrun : Eval.reading x scope = (do return (.ok (← x), scope) : Reading _) := by
    funext cells
    rw [Eval.reading_run, Reading.bind_pure_run]
  rw [hrun]
  refine Steady.sequence hx fun a ha => Steady.result ⟨fun b hb => ?_, hscope⟩
  cases hb
  exact ha

theorem lookup (name : String) :
    Gives outcomes (fun found => ∀ v, found = some v → v.Forced) (Eval.lookup? name) := by
  intro scope hscope
  refine Steady.result ⟨fun found hfound v hv => ?_, hscope⟩
  cases hfound
  exact hscope (name, v) (Fields.mem_of_get? hv)

theorem bind (name : String) {v : Value} (hv : v.Forced) :
    Gives outcomes anything (Eval.bind name v) :=
  fun _ hscope => Steady.result ⟨fun _ _ => trivial, List.forall_mem_cons.mpr ⟨hv, hscope⟩⟩

theorem leaving {scopeOf : Scope → Scope → Scope}
    (hsubset : ∀ before after, scopeOf before after ⊆ after) {x : Eval α}
    (hx : Gives outcomes Q x) : Gives outcomes Q (Eval.leaving scopeOf x) := by
  intro scope hscope
  have hrun : Eval.leaving scopeOf x scope = (do
      let o ← x scope
      return (o.1, scopeOf scope o.2) : Reading _) := by
    funext cells
    rw [Eval.leaving, Reading.bind_pure_run]
  rw [hrun]
  exact Steady.sequence (hx scope hscope) fun o ho =>
    Steady.result ⟨ho.1, fun b hb => ho.2 b (hsubset scope o.2 hb)⟩

/-- A forced value is not read. -/
theorem resolve {v : Value} (hv : v.Forced) (p : Position) :
    Gives outcomes Value.Forced (Eval.resolve v p) := by
  rw [resolve_of_kind hv.kind_ne]
  exact result hv

theorem mapKey (p : Position) (v : Value) : Gives outcomes anything (Eval.mapKey p v) := by
  cases v with
  | keyword k => exact result trivial
  | str k => exact result trivial
  | _ => exact fail p _

theorem spreadItems (p : Position) {v : Value} (hv : v.Forced) :
    Gives outcomes (fun items => ∀ w ∈ items, w.Forced) (Eval.spreadItems p v) := by
  cases v with
  | list items => exact result (Value.forcedAll_iff.mp hv)
  | nil => exact result nofun
  | _ => exact fail p _

theorem loopItems (p : Position) {v : Value} (hv : v.Forced) :
    Gives outcomes (fun items => ∀ w ∈ items, w.Forced) (Eval.loopItems p v) := by
  cases v with
  | list items => exact result (Value.forcedAll_iff.mp hv)
  | nil => exact result nofun
  | _ => exact fail p _

section Calls

open Call

theorem number (p : Position) (v : Value) : Gives outcomes anything (Call.number p v) := by
  unfold Call.number
  split
  · exact result trivial
  · exact fail p _

theorem arithmetic (p : Position) (r : Except EvalFault Num) :
    Gives outcomes anything (Call.arithmetic p r) := by
  cases r with
  | ok n => exact result trivial
  | error fault => exact fail p fault

theorem fold (p : Position) (op : Num → Num → Except EvalFault Num) (acc : Num)
    (args : List Value) : Gives outcomes anything (Call.fold p op acc args) := by
  induction args generalizing acc with
  | nil => exact result trivial
  | cons v rest ih => exact (number p v).next fun _ _ => (arithmetic p _).next fun acc' _ => ih acc'

end Calls

section Reads

variable (h : Unlinked outcomes)

include h

theorem field {v : Value} (hv : v.Forced) (key : Value) (p : Position) :
    Gives outcomes Value.Forced (Eval.reported p (v.field key)) := by
  have hread : Steady (Cells.Hold outcomes) (ResultIn Value.Forced anything) (v.field key) := by
    refine Steady.depth (stages_hold h) (f := fun n => Value.fieldWithin key n v) fun n _ => ?_
    rw [Value.fieldWithin_of_kind hv.kind_ne]
    rcases hv.entry key with hdeferred | hforced
    · obtain ⟨c, hc⟩ := Value.exists_of_kind hdeferred
      rw [hc]
      obtain ⟨o, ho, hrun⟩ := Steady.force (stages_hold h) (ends_outcomeIn h 0 c)
      refine ⟨o, ?_, hrun⟩
      cases o with
      | ok w => exact Value.forced_of_cells w (List.eq_nil_iff_forall_not_mem.mpr ho)
      | error e => trivial
    · rw [Value.resolve_of_kind hforced.kind_ne]
      exact Steady.result hforced
  refine (reading hread).next fun o ho => ?_
  cases o with
  | ok w => exact result ho
  | error e => exact fail p _

theorem text (v : Value) : Gives outcomes anything (Eval.reading v.text) :=
  reading (steady_text h v)

theorem texts (items : List Value) :
    Gives outcomes anything (Eval.reading (Call.itemTexts items)) :=
  reading ((Steady.rules (stages_hold h)).itemTexts (fun c => ⟨1, ends_outcomeIn h 0 c⟩) items)

theorem apply (f : Builtin) {args : List Value} (hargs : ∀ v ∈ args, v.Forced) (p : Position) :
    Gives outcomes Value.Forced (Call.apply f args p) := by
  have hnumber (n : Num) : n.toValue.Forced := by cases n <;> trivial
  have hfold (op : Num → Num → Except EvalFault Num) (acc : Num) (args : List Value) :
      Gives outcomes Value.Forced (Num.toValue <$> Call.fold p op acc args) :=
    (fold p op acc args).map fun n _ => hnumber n
  have hnumbers : Gives outcomes anything (args.mapM (Call.number p)) :=
    (mapM fun v _ => number p v).any
  have hbool (b : Bool) : (Value.bool b).Forced := trivial
  have hint (n : Int64) : (Value.int n).Forced := trivial
  have hstr (s : String) : (Value.str s).Forced := trivial
  have hraw (s : String) : (Value.raw s).Forced := trivial
  have hempty : (Value.list []).Forced := trivial
  have hnil : Value.nil.Forced := trivial
  unfold Call.apply
  split
  any_goals with_reducible first
    | exact fail p _
    | exact result (hbool _)
    | exact result (hint _)
    | exact result (hstr _)
    | exact result hempty
    | exact result hnil
    | exact result (Value.forced_list hargs)
    | exact hfold _ _ _
    | exact (number p _).next fun _ _ => (arithmetic p _).map fun n _ => hnumber n
    | exact (number p _).next fun _ _ => hfold _ _ _
    | exact hnumbers.next fun _ _ => result (hbool _)
    | exact (text h _).next fun _ _ => result (hstr _)
    | exact (text h _).next fun _ _ => result (hraw _)
  -- What is left takes values from its arguments.
  · exact field h (hargs _ List.mem_cons_self) _ p
  · refine (field h (hargs _ List.mem_cons_self) _ p).next fun v hv => ?_
    split
    · exact result (hargs _ (by simp))
    · exact result hv
  · rename_i items
    have hitems : ∀ v ∈ items, v.Forced := Value.forcedAll_iff.mp (hargs _ List.mem_cons_self)
    cases items with
    | nil => exact result hnil
    | cons v rest => exact result (hitems v List.mem_cons_self)
  · rename_i items
    have hitems : ∀ v ∈ items, v.Forced := Value.forcedAll_iff.mp (hargs _ List.mem_cons_self)
    exact result (Value.forced_list fun v hv => hitems v (List.mem_of_mem_tail hv))
  · rename_i items
    have hitems : ∀ v ∈ items, v.Forced := Value.forcedAll_iff.mp (hargs (.list items) (by simp))
    exact result (Value.forced_list fun v hv => hitems v (List.mem_of_mem_take hv))
  · exact result (Value.forced_list (Call.forced_splice hargs))
  · exact (texts h _).next fun _ _ => (text h _).next fun _ _ => result (hstr _)

theorem callNamed (name : String) {args : List Value} (hargs : ∀ v ∈ args, v.Forced)
    (p : Position) : Gives outcomes Value.Forced (Call.callNamed name args p) := by
  unfold Call.callNamed
  rw [resolveAll_of_kind fun v hv => (hargs v hv).kind_ne, pure_bind]
  split
  · exact apply h _ hargs p
  · exact fail p _

theorem applyForm (p : Position) {values : List Value} (hvalues : ∀ v ∈ values, v.Forced)
    (f : Form) : Gives outcomes Value.Forced (Eval.applyForm p values f) := by
  unfold Eval.applyForm
  split
  · split
    · exact fail _ _
    · exact callNamed h _ hvalues p
  · split
    · exact field h (hvalues _ List.mem_cons_self) _ p
    · exact fail p _
  · exact fail _ _

end Reads

end Gives

mutual

theorem gives_eval (h : Unlinked outcomes) : (f : Form) → Gives outcomes Value.Forced (eval f)
  | .literal _ l => .result l.forced_toValue
  | .symbol p name => by
    refine (Gives.lookup name).next fun found hfound => ?_
    cases found with
    | some v => exact .result (hfound v rfl)
    | none => exact .fail p _
  | .vector _ items =>
    (gives_evalEach h items).next fun _ hvs => .result (Value.forced_ofVector hvs)
  | .map _ pairs => (gives_evalPairs h pairs [] trivial).next fun _ hfields => .result hfields
  | .call p items => gives_evalCall h p items

theorem gives_evalEach (h : Unlinked outcomes) : (forms : List Form) →
    Gives outcomes (fun vs => ∀ v ∈ vs, v.Forced) (evalEach forms)
  | [] => .result nofun
  | f :: rest => (gives_eval h f).next fun _ hv => (gives_evalEach h rest).next fun _ hvs =>
      .result (List.forall_mem_cons.mpr ⟨hv, hvs⟩)

theorem gives_evalPairs (h : Unlinked outcomes) : (pairs : List (Form × Form)) →
    (fields : Fields Value) → Value.ForcedFields fields →
      Gives outcomes Value.ForcedFields (evalPairs pairs fields)
  | [], _, hfields => .result hfields
  | (k, v) :: rest, _, hfields =>
    (gives_eval h k).next fun _ _ => (Gives.mapKey _ _).next fun key _ =>
      (gives_eval h v).next fun _ hv => gives_evalPairs h rest _ (hfields.insert (.inr hv) key)

theorem gives_evalBody (h : Unlinked outcomes) : (forms : List Form) →
    Gives outcomes Value.Forced (evalBody forms)
  | [] => .result trivial
  | [f] => gives_eval h f
  | f :: g :: rest => (gives_eval h f).next fun _ _ => gives_evalBody h (g :: rest)

theorem gives_evalCall (h : Unlinked outcomes) (p : Position) : (items : List Form) →
    Gives outcomes Value.Forced (evalCall p items)
  | [] => .result trivial
  | .literal _ (.keyword k) :: args => gives_evalKeyword h p k args
  | .symbol _ name :: args => by
    simp only [evalCall]
    generalize Special.ofName? name = special
    match special with
    | none => exact (gives_evalEach h args).next fun _ hvs => Gives.callNamed h name hvs p
    | some .ifForm => exact gives_evalIf h p args
    | some .whenForm => exact gives_evalWhen h p args
    | some .doForm => exact gives_evalBody h args
    | some .letForm => exact gives_evalLet h p args
    | some .forForm => exact gives_evalFor h p args
    | some .applyForm => exact gives_evalApply h p args
  | .literal q .nil :: _ | .literal q (.bool _) :: _ | .literal q (.int _) :: _
  | .literal q (.float _) :: _ | .literal q (.str _) :: _ | .call q _ :: _ | .vector q _ :: _
  | .map q _ :: _ => .fail q _

theorem gives_evalKeyword (h : Unlinked outcomes) (p : Position) (k : String) : (args : List Form) →
    Gives outcomes Value.Forced (evalKeyword p k args)
  | [target] => (gives_eval h target).next fun _ hv => Gives.field h hv _ p
  | [target, default] => by
    refine (gives_eval h target).next fun _ hv => (Gives.field h hv _ p).next fun found hfound => ?_
    split
    · exact gives_eval h default
    · exact .result hfound
  | [] => .fail p _
  | _ :: _ :: _ :: _ => .fail p _

theorem gives_evalIf (h : Unlinked outcomes) (p : Position) : (args : List Form) →
    Gives outcomes Value.Forced (evalIf p args)
  | [c, yes] => by
    refine (gives_eval h c).next fun _ _ => ?_
    split
    · exact gives_eval h yes
    · exact .result trivial
  | [c, yes, no] => by
    refine (gives_eval h c).next fun _ _ => ?_
    split
    · exact gives_eval h yes
    · exact gives_eval h no
  | [] => .fail p _
  | [_] => .fail p _
  | _ :: _ :: _ :: _ :: _ => .fail p _

theorem gives_evalWhen (h : Unlinked outcomes) (p : Position) : (args : List Form) →
    Gives outcomes Value.Forced (evalWhen p args)
  | [] => .fail p _
  | c :: body => by
    refine (gives_eval h c).next fun _ _ => ?_
    split
    · exact gives_evalBody h body
    · exact .result trivial

theorem gives_evalBindings (h : Unlinked outcomes) : (pairs : List Form) →
    Gives outcomes anything (evalBindings pairs)
  | .symbol _ name :: f :: rest =>
    (gives_eval h f).next fun _ hv => (Gives.bind name hv).next fun _ _ => gives_evalBindings h rest
  | [] => .result trivial
  | [f] => by
    cases f <;> exact .result trivial
  | .literal q _ :: _ :: _ | .call q _ :: _ :: _ | .vector q _ :: _ :: _
  | .map q _ :: _ :: _ => .fail q _

theorem gives_evalLet (h : Unlinked outcomes) (p : Position) : (args : List Form) →
    Gives outcomes Value.Forced (evalLet p args)
  | [] => .fail p _
  | .vector q pairs :: body => by
    unfold evalLet
    split
    · exact .fail q _
    · exact .leaving (fun _ after => List.drop_subset _ after)
        ((gives_evalBindings h pairs).next fun _ _ => gives_evalBody h body)
  | .literal q _ :: _ | .symbol q _ :: _ | .call q _ :: _ | .map q _ :: _ => .fail q _

theorem gives_evalFor (h : Unlinked outcomes) (p : Position) : (args : List Form) →
    Gives outcomes Value.Forced (evalFor p args)
  | [] => .fail p _
  | .vector _ [.symbol _ name, coll] :: body => by
    refine (gives_eval h coll).next fun v hv => ?_
    refine (Gives.resolve hv _).next fun _ hw => (Gives.loopItems _ hw).next fun items hitems => ?_
    refine (Gives.mapM (R := Value.Forced) fun item hitem => ?_).next fun _ hvs =>
      .result (Value.forced_list hvs)
    refine (Gives.bind name (hitems item hitem)).next fun _ _ => ?_
    exact .leaving (fun _ after => List.tail_subset after)
      ((gives_evalEach h body).next fun _ hvs => .result (Value.forced_ofLoopBody hvs))
  | .vector q [] :: _ | .vector q [.literal _ _, _] :: _ | .vector q [.call _ _, _] :: _
  | .vector q [.vector _ _, _] :: _ | .vector q [.map _ _, _] :: _ => .fail q _
  | .vector q [f] :: _ | .vector q (f :: _ :: _ :: _) :: _ => by
    cases f <;> exact .fail q _
  | .literal q _ :: _ | .symbol q _ :: _ | .call q _ :: _ | .map q _ :: _ => .fail q _

theorem gives_evalApply (h : Unlinked outcomes) (p : Position) : (args : List Form) →
    Gives outcomes Value.Forced (evalApply p args)
  | [] => .fail p _
  | f :: args => by
    unfold evalApply
    split
    · exact .fail p _
    · exact (gives_evalArguments h args).next fun _ hvs => Gives.applyForm h p hvs f

theorem gives_evalArguments (h : Unlinked outcomes) : (args : List Form) →
    Gives outcomes (fun vs => ∀ v ∈ vs, v.Forced) (evalArguments args)
  | [] => .result nofun
  | [last] => (gives_eval h last).next fun _ hv => (Gives.resolve hv _).next fun _ hw =>
      Gives.spreadItems _ hw
  | f :: g :: rest => (gives_eval h f).next fun _ hv => (gives_evalArguments h (g :: rest)).next
      fun _ hvs => .result (List.forall_mem_cons.mpr ⟨hv, hvs⟩)

end

end Eval
end LayeredSite
