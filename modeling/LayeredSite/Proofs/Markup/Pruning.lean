import LayeredSite.Proofs.Cells.Stored
import LayeredSite.Proofs.Fields

namespace LayeredSite

namespace Value

def isOmitted : Value → Bool
  | nil => true
  | bool b => !b
  | _ => false

mutual

/-- The value in which no element has an attribute other than the id that is nil or false. -/
def prune : Value → Value
  | list items => list (pruneAll items)
  | map fields => map (pruneFields fields)
  | node tag attrs children => node tag (pruneAttributes attrs) (pruneAll children)
  | v => v

def pruneAll : List Value → List Value
  | [] => []
  | v :: rest => v.prune :: pruneAll rest

/-- The entries of a map all stay. -/
def pruneFields : List (String × Value) → List (String × Value)
  | [] => []
  | (key, v) :: rest => (key, v.prune) :: pruneFields rest

def pruneAttributes : List (String × Value) → List (String × Value)
  | [] => []
  | (key, v) :: rest =>
    if key != "id" && v.isOmitted then pruneAttributes rest
    else (key, v.prune) :: pruneAttributes rest

end

section Text

variable {m : Type → Type} [Monad m] (cell : CellId → m String)

mutual

theorem textWith_prune : (v : Value) → textWith cell v.prune = textWith cell v
  | .list items => textAll_pruneAll items
  | .map fields => by rw [prune, textWith, textWith, textEntries_pruneFields fields]
  | .node _ _ children => textAll_pruneAll children
  | .nil => rfl
  | .bool _ => rfl
  | .int _ => rfl
  | .float _ => rfl
  | .str _ => rfl
  | .keyword _ => rfl
  | .raw _ => rfl
  | .deferred _ => rfl

theorem textAll_pruneAll : (items : List Value) →
    textAll cell (pruneAll items) = textAll cell items
  | [] => rfl
  | v :: rest => by rw [pruneAll, textAll, textAll, textWith_prune v, textAll_pruneAll rest]

theorem textEntries_pruneFields : (fields : List (String × Value)) →
    textEntries cell (pruneFields fields) = textEntries cell fields
  | [] => rfl
  | (_, v) :: rest => by
    rw [pruneFields, textEntries, textEntries, textWith_prune v, textEntries_pruneFields rest]

end

end Text

/-- The text of an element is that of its children, whatever attributes it has. -/
theorem text_prune (v : Value) : v.prune.text = v.text := by
  simp only [text, textWith_prune]

theorem isEmpty_pruneAll (items : List Value) : (pruneAll items).isEmpty = items.isEmpty := by
  cases items <;> rfl

end Value

namespace Fields

open Value

variable {fields : Fields Value} {key : String} {v : Value}

theorem insert_of_lt {α : Type} {fields : Fields α} {value : α} (h : ∀ k ∈ fields.keys, key < k) :
    fields.insert key value = (key, value) :: fields := by
  cases fields with
  | nil => rfl
  | cons e rest => rw [insert, if_pos (h e.1 List.mem_cons_self)]

theorem keys_pruneAttributes_sublist (fields : Fields Value) :
    (keys (pruneAttributes fields)).Sublist fields.keys := by
  induction fields with
  | nil => exact .slnil
  | cons e rest ih =>
    rw [pruneAttributes]
    split
    · exact ih.cons _
    · exact ih.cons_cons _

theorem Sorted.prune (h : fields.Sorted) : Sorted (pruneAttributes fields) :=
  List.Pairwise.sublist (keys_pruneAttributes_sublist fields) h

/-- What is under a key: nothing, if it is left out. -/
theorem get?_pruneAttributes (h : fields.Sorted) (key : String) :
    get? (pruneAttributes fields) key = (get? fields key).bind fun v =>
      if key != "id" && v.isOmitted then none else some v.prune := by
  induction fields with
  | nil => rfl
  | cons e rest ih =>
    obtain ⟨k, w⟩ := e
    obtain ⟨hfirst, hrest⟩ := List.pairwise_cons.mp h
    rw [pruneAttributes]
    by_cases hk : key = k
    · subst hk
      have hnone : get? (pruneAttributes rest) key = none := get?_eq_none fun hmem =>
        String.lt_irrefl _ (hfirst key ((keys_pruneAttributes_sublist rest).mem hmem))
      have hsome : get? ((key, w) :: rest) key = some w := by simp [get?]
      rw [hsome, Option.bind_some]
      split
      · exact hnone
      · simp [get?]
    · have hskip (w' : Value) (others : Fields Value) :
          get? ((k, w') :: others) key = get? others key := by
        simp [get?, List.lookup_cons, beq_eq_false_iff_ne.mpr hk]
      rw [hskip, ← ih hrest]
      split
      · rfl
      · exact hskip _ _

/-- An entry that stays can as well be added afterwards. -/
theorem insert_pruneAttributes (h : fields.Sorted) (hkey : (key != "id" && v.isOmitted) = false) :
    insert key v.prune (pruneAttributes fields) = pruneAttributes (fields.insert key v) := by
  have hcons (others : Fields Value) :
      pruneAttributes ((key, v) :: others) = (key, v.prune) :: pruneAttributes others := by
    rw [pruneAttributes, if_neg (Bool.eq_false_iff.mp hkey)]
  induction fields with
  | nil => rw [insert, hcons, pruneAttributes, insert]
  | cons e rest ih =>
    obtain ⟨k, w⟩ := e
    obtain ⟨hfirst, hrest⟩ := List.pairwise_cons.mp h
    rw [Fields.insert]
    by_cases hlt : key < k
    · rw [if_pos hlt, hcons]
      refine insert_of_lt fun k' hk' => ?_
      rcases List.mem_cons.mp ((keys_pruneAttributes_sublist _).mem hk') with rfl | hk'
      · exact hlt
      · exact String.lt_trans hlt (hfirst k' hk')
    · by_cases heq : key = k
      · subst heq
        rw [if_neg hlt, if_pos rfl, hcons, pruneAttributes]
        split
        · exact insert_of_lt fun k' hk' => hfirst k' ((keys_pruneAttributes_sublist _).mem hk')
        · rw [insert, if_neg hlt, if_pos rfl]
      · rw [if_neg hlt, if_neg heq, pruneAttributes, pruneAttributes, ← ih hrest]
        split
        · rfl
        · rw [insert, if_neg hlt, if_neg heq]

end Fields

def CellState.prune : CellState → CellState
  | .done (.ok v) => .done (.ok v.prune)
  | state => state

namespace Cells

def prune (cells : Cells) : Cells := cells.map fun cell => { cell with state := cell.state.prune }

variable {s t T : Cells} {c : CellId} {o : Outcome} {α : Type}

theorem state?_prune (cells : Cells) (c : CellId) :
    cells.prune.state? c = (cells.state? c).map CellState.prune := by
  simp only [state?, prune, List.getElem?_map, Option.map_map]
  rfl

theorem depth_prune (cells : Cells) : cells.prune.depth = cells.depth := by
  rw [depth, depth, prune, List.length_map]

theorem Stored.prune (h : T.Stored c o) : T.prune.Stored c (o.map Value.prune) := by
  cases h with
  | done h =>
    refine .done ?_
    rw [state?_prune, h]
    cases o <;> rfl
  | running h =>
    refine .running ?_
    rw [state?_prune, h]
    rfl
  | missing h =>
    refine .missing ?_
    rw [state?_prune, h]
    rfl

/-- A reading gives the same again on the cells at the end of all, pruned. -/
def Replays (T : Cells) (Q : α → Prop) (x y : Reading α) : Prop :=
  ∀ ⦃s a t⦄, x s = some (a, t) →
    Q a ∧ s.Leaves t ∧ (t.Leaves T → y T.prune = some (a, T.prune))

theorem replays_parallel (T : Cells) : Parallel (Replays T) where
  result ha := by
    intro s a t h
    obtain ⟨rfl, rfl⟩ := Reading.pure_eq_some_iff.mp h
    exact ⟨ha, .refl s, fun _ => rfl⟩
  sequence hx hf := by
    intro s b t h
    obtain ⟨a, m, hfirst, hsecond⟩ := Reading.bind_eq_some_iff.mp h
    obtain ⟨ha, hsm, hy⟩ := hx hfirst
    obtain ⟨hb, hmt, hg⟩ := hf a ha hsecond
    refine ⟨hb, hsm.trans hmt, fun htT => ?_⟩
    exact (Reading.bind_eq_some (hy (hmt.trans htT))).trans (hg htT)

theorem replays_cellText (T : Cells) (n : ℕ) (c : CellId) :
    Replays T anything (cellTextWithin n c) (cellTextWithin n c) := by
  induction n generalizing c with
  | zero =>
    intro s text t h
    cases h
  | succ n ih =>
    intro s text t h
    rw [cellTextWithin] at h
    obtain ⟨o, m, hforce, h⟩ := Reading.bind_eq_some_iff.mp h
    have hsm : s.Leaves m := leaves_of_run ((Along.within course_leaves n).1 c) hforce
    obtain ⟨k, rfl⟩ : ∃ k, n = k + 1 := Nat.exists_eq_succ_of_ne_zero fun hzero => by
      subst hzero
      cases hforce
    -- Whatever the cell gave then, it gives at the end of all.
    have hagain (hmT : m.Leaves T) : forceWithin (k + 1) c T.prune =
        some (o.map Value.prune, T.prune) :=
      ((stored_of_forceWithin hforce).later hmT).prune.forceWithin k
    cases o with
    | error e =>
      obtain ⟨rfl, rfl⟩ := Reading.pure_eq_some_iff.mp h
      refine ⟨trivial, hsm, fun hmT => ?_⟩
      rw [cellTextWithin]
      exact Reading.bind_eq_some (hagain hmT)
    | ok v =>
      obtain ⟨-, hmt, htext⟩ := (replays_parallel T).textWith v (fun d _ => ih d) h
      refine ⟨trivial, hsm.trans hmt, fun htT => ?_⟩
      rw [cellTextWithin]
      refine (Reading.bind_eq_some (hagain (hmt.trans htT))).trans ?_
      rw [← htext htT]
      exact congrFun (Value.textWith_prune _ v) _

theorem replays_text (T : Cells) (v : Value) : Replays T anything v.text v.text := by
  intro s text t h
  have hrun : v.textWith (cellTextWithin s.depth) s = some (text, t) := h
  obtain ⟨-, hst, hagain⟩ :=
    (replays_parallel T).textWith v (fun c _ => replays_cellText T s.depth c) hrun
  refine ⟨trivial, hst, fun htT => ?_⟩
  have hdepth : T.prune.depth = s.depth := by rw [depth_prune, htT.depth, hst.depth]
  rw [Value.text, Reading.get_bind, hdepth, hagain htT]

end Cells

end LayeredSite
