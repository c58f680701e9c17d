import LayeredSite.Text.Blank
import Mathlib.Data.List.Basic

namespace LayeredSite.Text

variable {needle by_ cs out front : List Char} {c : Char} {name value : String}
  {values : List (String × String)}

/-- A single pass from the left: a placeholder becomes its value, everything else is copied, and the
pass goes on behind what it has read. -/
inductive Expands (values : List (String × String)) : List Char → List Char → Prop
  | nil : Expands values [] []
  | fill {name value : String} {cs out : List Char} : (name, value) ∈ values →
      Expands values cs out → Expands values (placeholder name ++ cs) (value.toList ++ out)
  | copy {c : Char} {cs out : List Char} : (∀ v ∈ values, ¬ placeholder v.1 <+: c :: cs) →
      Expands values cs out → Expands values (c :: cs) (c :: out)

theorem replaceFrom_eq (needle by_ : List Char) (skip : ℕ) (cs : List Char) :
    replaceFrom needle by_ skip cs = replaceAll needle by_ (cs.drop skip) := by
  induction skip generalizing cs with
  | zero => rfl
  | succ skip ih =>
    cases cs with
    | nil => rfl
    | cons c cs => exact ih cs

theorem replaceAll_append (hne : needle ≠ []) (by_ cs : List Char) :
    replaceAll needle by_ (needle ++ cs) = by_ ++ replaceAll needle by_ cs := by
  obtain ⟨c, needle, rfl⟩ := List.exists_cons_of_ne_nil hne
  have hbegins : (c :: needle).isPrefixOf (c :: (needle ++ cs)) = true :=
    List.isPrefixOf_iff_prefix.mpr (List.prefix_append (c :: needle) cs)
  rw [List.cons_append, replaceAll, replaceFrom, if_pos hbegins, replaceFrom_eq, List.length_cons,
    Nat.add_sub_cancel, List.drop_left]

theorem replaceAll_cons (h : ¬ needle <+: c :: cs) :
    replaceAll needle by_ (c :: cs) = c :: replaceAll needle by_ cs := by
  rw [replaceAll, replaceFrom, if_neg (mt List.isPrefixOf_iff_prefix.mp h), replaceAll]

def Plain (name : String) : Prop := '{' ∉ name.toList ∧ '}' ∉ name.toList

theorem placeholder_eq (name : String) : placeholder name = '{' :: (name.toList ++ ['}']) := rfl

theorem placeholder_ne_nil (name : String) : placeholder name ≠ [] := List.cons_ne_nil _ _

theorem not_prefix_of_ne (h : c ≠ '{') (name : String) (cs : List Char) :
    ¬ placeholder name <+: c :: cs :=
  fun hbegins => h (List.cons_prefix_cons.mp hbegins).1.symm

/-- No placeholder begins another one. -/
theorem eq_of_placeholder_begins {name' : String} (h : Plain name) (h' : Plain name')
    (hbegins : placeholder name <+: placeholder name' ++ cs) : name = name' := by
  obtain ⟨rest, hrest⟩ := hbegins
  have htoList : name.toList ++ '}' :: rest = name'.toList ++ '}' :: cs := by
    simpa [placeholder_eq] using hrest
  have hsplit := congrArg (splitAtFirst '}') htoList
  rw [splitAtFirst_append_cons h.2, splitAtFirst_append_cons h'.2] at hsplit
  exact String.toList_inj.mp (Prod.ext_iff.mp (Option.some.inj hsplit)).1

/-- Text without an opening bracket is copied. -/
theorem replaceAll_append_of_not_mem (h : '{' ∉ front) (by_ cs : List Char) :
    replaceAll (placeholder name) by_ (front ++ cs) =
      front ++ replaceAll (placeholder name) by_ cs := by
  induction front with
  | nil => rfl
  | cons c front ih =>
    obtain ⟨hc, hfront⟩ := not_or.mp (mt List.mem_cons.mpr h)
    rw [List.cons_append, replaceAll_cons (not_prefix_of_ne (Ne.symm hc) _ _), ih hfront,
      List.cons_append]

/-- A placeholder of another name is copied. -/
theorem replaceAll_placeholder {name' : String} (h : Plain name) (h' : Plain name')
    (hne : name ≠ name') (by_ cs : List Char) :
    replaceAll (placeholder name) by_ (placeholder name' ++ cs) =
      placeholder name' ++ replaceAll (placeholder name) by_ cs := by
  have hbegins : ¬ placeholder name <+: '{' :: (name'.toList ++ ['}'] ++ cs) :=
    fun hbegins => hne (eq_of_placeholder_begins h h' hbegins)
  have hinner : '{' ∉ name'.toList ++ ['}'] := by simpa using h'.1
  rw [placeholder_eq name', List.cons_append, replaceAll_cons hbegins,
    replaceAll_append_of_not_mem hinner, List.cons_append]

/-- A value with none of the characters of a text keeps that text from coming up where it was not
before. -/
theorem prefix_of_prefix_replaceAll {text value : List Char} (hne : value ≠ [])
    (happart : ∀ c ∈ value, c ∉ text) (h : text <+: replaceAll (placeholder name) value cs) :
    text <+: cs := by
  induction cs generalizing text with
  | nil => exact h
  | cons c cs ih =>
    cases text with
    | nil => exact List.nil_prefix
    | cons d text =>
      by_cases hbegins : placeholder name <+: c :: cs
      · obtain ⟨rest, hrest⟩ := hbegins
        obtain ⟨e, value, rfl⟩ := List.exists_cons_of_ne_nil hne
        rw [← hrest, replaceAll_append (placeholder_ne_nil name)] at h
        have hhead : d = e := (List.cons_prefix_cons.mp h).1
        exact absurd (hhead ▸ List.mem_cons_self) (happart e List.mem_cons_self)
      · rw [replaceAll_cons hbegins] at h
        obtain ⟨rfl, htext⟩ := List.cons_prefix_cons.mp h
        have hrest := ih (fun c hc hmem => happart c hc (List.mem_cons_of_mem _ hmem)) htext
        exact List.cons_prefix_cons.mpr ⟨rfl, hrest⟩

/-- A value is apart from a name that is expanded later: it is there, and its placeholder has none
of the characters of the value. -/
def Apart (value : List Char) (name : String) : Prop :=
  value ≠ [] ∧ ∀ c ∈ value, c ∉ placeholder name

/-- Text in which no placeholder begins is copied. -/
theorem Expands.append (h : ∀ c ∈ front, ∀ v ∈ values, c ≠ '{') (hout : Expands values cs out) :
    Expands values (front ++ cs) (front ++ out) := by
  induction front with
  | nil => exact hout
  | cons c front ih =>
    obtain ⟨hc, hfront⟩ := List.forall_mem_cons.mp h
    exact .copy (fun v hv => not_prefix_of_ne (hc v hv) _ _) (ih hfront)

/-- Without names, a pass copies. -/
theorem Expands.eq_of_nil (h : Expands [] cs out) : out = cs := by
  induction h with
  | nil => rfl
  | fill hmem => exact absurd hmem List.not_mem_nil
  | copy _ _ ih => rw [ih]

/-- The first name may be expanded by itself, before the pass for the other ones. -/
theorem Expands.tail (hplain : ∀ v ∈ (name, value) :: values, Plain v.1)
    (hne : ∀ v ∈ values, name ≠ v.1) (happart : ∀ v ∈ values, Apart value.toList v.1)
    (h : Expands ((name, value) :: values) cs out) :
    Expands values (replaceAll (placeholder name) value.toList cs) out := by
  induction h with
  | nil => exact .nil
  | @fill name' value' cs out hmem _ ih =>
    rcases List.mem_cons.mp hmem with heq | hmem
    · cases heq
      rw [replaceAll_append (placeholder_ne_nil name)]
      refine ih.append fun c hc v hv hbracket => (happart v hv).2 c hc ?_
      exact hbracket ▸ List.mem_cons_self
    · rw [replaceAll_placeholder (hplain _ List.mem_cons_self)
        (hplain _ (List.mem_cons_of_mem _ hmem)) (hne _ hmem)]
      exact .fill hmem ih
  | @copy c cs out hcopy _ ih =>
    rw [replaceAll_cons (hcopy _ List.mem_cons_self)]
    refine .copy (fun v hv hbegins => hcopy v (List.mem_cons_of_mem _ hv) ?_) ih
    obtain ⟨hvalue, hdisjoint⟩ := happart v hv
    obtain ⟨hbracket, hrest⟩ := List.cons_prefix_cons.mp hbegins
    have hbefore := prefix_of_prefix_replaceAll hvalue
      (fun d hd hmem => hdisjoint d hd (List.mem_cons_of_mem _ hmem)) hrest
    exact List.cons_prefix_cons.mpr ⟨hbracket, hbefore⟩

theorem exists_expands (values : List (String × String)) (cs : List Char) :
    ∃ out, Expands values cs out := by
  induction hlength : cs.length using Nat.strongRecOn generalizing cs with
  | ind n ih =>
    cases cs with
    | nil => exact ⟨[], .nil⟩
    | cons c cs =>
      subst hlength
      by_cases hfill : ∃ v ∈ values, placeholder v.1 <+: c :: cs
      · obtain ⟨⟨name, value⟩, hmem, rest, hrest⟩ := hfill
        have hshorter : rest.length < (c :: cs).length := by
          rw [← hrest, List.length_append]
          exact Nat.lt_add_of_pos_left (List.length_pos_iff.mpr (placeholder_ne_nil name))
        obtain ⟨out, hout⟩ := ih _ hshorter rest rfl
        rw [← hrest]
        exact ⟨value.toList ++ out, .fill hmem hout⟩
      · obtain ⟨out, hout⟩ := ih _ (Nat.lt_succ_self cs.length) cs rfl
        exact ⟨c :: out, .copy (fun v hv hbegins => hfill ⟨v, hv, hbegins⟩) hout⟩

theorem Expands.eq_foldl (hplain : ∀ v ∈ values, Plain v.1)
    (happart : values.Pairwise fun v w => v.1 ≠ w.1 ∧ Apart v.2.toList w.1)
    (h : Expands values cs out) :
    out = values.foldl (fun cs v => replaceAll (placeholder v.1) v.2.toList cs) cs := by
  induction values generalizing cs with
  | nil => exact h.eq_of_nil
  | cons v values ih =>
    obtain ⟨hfirst, hrest⟩ := List.pairwise_cons.mp happart
    have htail := h.tail hplain (fun w hw => (hfirst w hw).1) fun w hw => (hfirst w hw).2
    exact ih (fun w hw => hplain w (List.mem_cons_of_mem _ hw)) hrest htail

/-- Expanding the names one after another is one pass over the pattern, if their placeholders differ
and each value but the last is apart from the names behind it. -/
theorem expands_iff {pattern text : String} (hplain : ∀ v ∈ values, Plain v.1)
    (happart : values.Pairwise fun v w => v.1 ≠ w.1 ∧ Apart v.2.toList w.1) :
    Expands values pattern.toList text.toList ↔ text = expand pattern values := by
  have hexpand : (expand pattern values).toList =
      values.foldl (fun cs v => replaceAll (placeholder v.1) v.2.toList cs) pattern.toList := by
    rw [expand, String.toList_ofList]
  rw [← String.toList_inj, hexpand]
  refine ⟨Expands.eq_foldl hplain happart, fun htext => ?_⟩
  obtain ⟨out, hout⟩ := exists_expands values pattern.toList
  rw [htext, ← hout.eq_foldl hplain happart]
  exact hout

end LayeredSite.Text
