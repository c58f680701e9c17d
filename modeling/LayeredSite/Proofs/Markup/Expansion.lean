import LayeredSite.Proofs.Markup.Filling
import LayeredSite.Proofs.Markup.Outline
import LayeredSite.Proofs.Text.Cutting

namespace LayeredSite

namespace Markup.Shorthand

variable {s : Shorthand} {tag : String} {p : Part} {parts : List Part}

def PartSpelled (p : Part) : Prop :=
  isMarker p.marker = true ∧ ∀ c ∈ p.text.toList, isMarker c = false

structure Spelled (s : Shorthand) : Prop where
  name : ∀ c ∈ s.name.toList, isMarker c = false
  parts : ∀ p ∈ s.parts, PartSpelled p

def chars (p : Part) : List Char := p.marker :: p.text.toList

theorem toList_toTag (s : Shorthand) : s.toTag.toList = s.name.toList ++ s.parts.flatMap chars := by
  have hjoin : ∀ parts : List Part, (String.join
      (parts.map fun p => String.singleton p.marker ++ p.text)).toList = parts.flatMap chars := by
    intro parts
    induction parts with
    | nil => rfl
    | cons p parts ih =>
      rw [List.map_cons, String.join_cons, String.toList_append, ih, List.flatMap_cons]
      simp [chars]
  rw [toTag, String.toList_append, hjoin]

theorem split_append {text : List Char} (h : ∀ c ∈ text, isMarker c = false) (rest : List Char) :
    split (text ++ rest) = (text ++ (split rest).1, (split rest).2) := by
  induction text with
  | nil => rfl
  | cons c text ih =>
    obtain ⟨hc, htext⟩ := List.forall_mem_cons.mp h
    rw [List.cons_append, split, ih htext, hc]
    rfl

theorem split_parts (h : ∀ p ∈ parts, PartSpelled p) :
    split (parts.flatMap chars) = ([], parts) := by
  induction parts with
  | nil => rfl
  | cons p parts ih =>
    obtain ⟨⟨hmarker, htext⟩, hparts⟩ := List.forall_mem_cons.mp h
    rw [List.flatMap_cons, chars, List.cons_append, split, split_append htext, ih hparts, hmarker]
    simp

theorem split_spelled (cs : List Char) : (∀ c ∈ (split cs).1, isMarker c = false) ∧
    (∀ p ∈ (split cs).2, PartSpelled p) ∧ (split cs).1 ++ (split cs).2.flatMap chars = cs := by
  induction cs with
  | nil => simp [split]
  | cons c rest ih =>
    obtain ⟨hname, hparts, hrest⟩ := ih
    rw [split]
    by_cases hc : isMarker c = true
    · simp only [if_pos hc]
      refine ⟨by simp, ?_, ?_⟩
      · refine List.forall_mem_cons.mpr ⟨⟨hc, ?_⟩, hparts⟩
        rwa [String.toList_ofList]
      · simpa [chars] using hrest
    · simp only [if_neg hc]
      refine ⟨?_, hparts, ?_⟩
      · exact List.forall_mem_cons.mpr ⟨Bool.not_eq_true _ ▸ hc, hname⟩
      · rw [List.cons_append, hrest]

/-- A tag has exactly one spelling as a name and parts. -/
theorem eq_ofTag_iff : s = ofTag tag ↔ s.Spelled ∧ s.toTag = tag := by
  constructor
  · rintro rfl
    obtain ⟨hname, hparts, hall⟩ := split_spelled tag.toList
    refine ⟨⟨?_, hparts⟩, ?_⟩
    · rwa [ofTag, String.toList_ofList]
    · rw [← String.toList_inj, toList_toTag, ofTag, String.toList_ofList, hall]
  · rintro ⟨hs, rfl⟩
    rw [ofTag, toList_toTag, split_append hs.name, split_parts hs.parts, List.append_nil]
    simp only [String.ofList_toList]

theorem head?_parts (h : ∀ p ∈ parts, PartSpelled p) :
    ∀ c ∈ (parts.flatMap chars).head?, isMarker c = true := by
  cases parts with
  | nil => simp
  | cons p parts =>
    intro c hc
    obtain rfl := Option.some.inj hc
    exact (h p List.mem_cons_self).1

theorem markerOffset_append {text rest : List Char} (h : ∀ c ∈ text, isMarker c = false)
    (hrest : ∀ c ∈ rest.head?, isMarker c = true) :
    markerOffset (text ++ rest) = Text.byteCount text := by
  rw [markerOffset, Text.takeWhile_append]
  · intro c hc
    rw [h c hc]
    rfl
  · intro c hc
    rw [hrest c hc]
    rfl

theorem eq_of_isMarker {c : Char} (h : isMarker c = true) : c = '#' ∨ c = '.' := by
  simpa [isMarker] using h

/-- A marker is a single byte, so the text behind it begins with a character. -/
theorem part?_chars (hp : PartSpelled p) (hparts : ∀ p ∈ parts, PartSpelled p) :
    part? (chars p ++ parts.flatMap chars) =
      some (p.marker.toUInt8, p.text.toList, parts.flatMap chars) := by
  obtain ⟨hmarker, htext⟩ := hp
  have hfirst : firstByte? (chars p ++ parts.flatMap chars) = some p.marker.toUInt8 := by
    rw [firstByte?, chars, List.cons_append, List.flatMap_cons]
    rcases eq_of_isMarker hmarker with h | h <;> rw [h] <;> rfl
  have hone : Text.byteCount [p.marker] = 1 := by
    rcases eq_of_isMarker hmarker with h | h <;> rw [h] <;> rfl
  have hbody := Text.splitAtByte?_append [p.marker] (p.text.toList ++ parts.flatMap chars)
  have hrest := Text.splitAtByte?_append p.text.toList (parts.flatMap chars)
  rw [← markerOffset_append htext (head?_parts hparts)] at hrest
  rw [hone] at hbody
  rw [part?, hfirst]
  simp only [chars, List.cons_append, List.nil_append] at hbody ⊢
  simp only [Option.bind_eq_bind, Option.bind_some, hbody, hrest, Option.pure_def]

theorem gather?_chars (hp : PartSpelled p) (hparts : ∀ p ∈ parts, PartSpelled p)
    (id : Option String) (classes : List String) :
    gather? id classes (chars p ++ parts.flatMap chars) =
      if p.text.isEmpty then gather? id classes (parts.flatMap chars)
      else if p.marker = '#' then gather? (some p.text) classes (parts.flatMap chars)
      else gather? id (classes ++ [p.text]) (parts.flatMap chars) := by
  have hne : (chars p ++ parts.flatMap chars).isEmpty = false := rfl
  have hbyte : p.marker.toUInt8 = '#'.toUInt8 ↔ p.marker = '#' := by
    rcases eq_of_isMarker hp.1 with h | h <;> rw [h] <;> decide
  have hempty : p.text.toList.isEmpty = p.text.isEmpty := by
    rw [Bool.eq_iff_iff, List.isEmpty_iff, String.toList_eq_nil_iff, String.isEmpty_iff]
  rw [gather?, hne, if_neg Bool.false_ne_true]
  split
  · rename_i hnone
    rw [part?_chars hp hparts] at hnone
    cases hnone
  · rename_i hsome
    rw [part?_chars hp hparts] at hsome
    cases hsome
    simp only [hbyte, hempty, String.ofList_toList]

theorem texts_cons (marker : Char) (name : String) (p : Part) (parts : List Part) :
    texts marker ⟨name, p :: parts⟩ =
      (if p.marker = marker ∧ ¬ p.text.isEmpty then [p.text] else []) ++
        texts marker ⟨name, parts⟩ := by
  unfold texts
  by_cases h : p.marker = marker ∧ ¬ p.text.isEmpty
  · simp [h]
  · rw [if_neg h, List.filter_cons_of_neg (by simpa using h), List.nil_append]

/-- Along the parts: the id is that of the last part that has one, and the classes add up. -/
theorem gather?_parts (name : String) (h : ∀ p ∈ parts, PartSpelled p) (id : Option String)
    (classes : List String) :
    gather? id classes (parts.flatMap chars) =
      some ((Shorthand.id? ⟨name, parts⟩).or id, classes ++ Shorthand.classes ⟨name, parts⟩) := by
  induction parts generalizing id classes with
  | nil => rw [List.flatMap_nil, gather?]; simp [id?, Shorthand.classes, texts]
  | cons p parts ih =>
    obtain ⟨hp, hparts⟩ := List.forall_mem_cons.mp h
    rw [List.flatMap_cons, gather?_chars hp hparts, ih hparts, ih hparts, ih hparts]
    simp only [id?, Shorthand.classes, texts_cons, List.getLast?_append]
    rcases eq_of_isMarker hp.1 with hm | hm <;> by_cases ht : p.text.isEmpty = true <;>
      simp [hm, ht]

/-- Every offset at which a tag is cut is between two characters, and the parts cut out are those
of its spelling. -/
theorem scan?_ofTag (tag : String) :
    scan? tag = some ((ofTag tag).name, (ofTag tag).id?, (ofTag tag).classes) := by
  obtain ⟨hs, htag⟩ := eq_ofTag_iff.mp (rfl : ofTag tag = ofTag tag)
  generalize ofTag tag = s at hs htag ⊢
  subst htag
  have hsplit := Text.splitAtByte?_append s.name.toList (s.parts.flatMap chars)
  rw [← markerOffset_append hs.name (head?_parts hs.parts), ← toList_toTag] at hsplit
  have hgather := gather?_parts s.name hs.parts none []
  rw [scan?, hsplit]
  simp only [Option.bind_eq_bind, Option.bind_some, hgather, Option.pure_def, List.nil_append,
    Option.or_none, String.ofList_toList]

/-- The id of the last part behind a `#` that is not empty. -/
def LastId (s : Shorthand) (id : String) : Prop :=
  id ≠ "" ∧ ∃ before after, s.parts = before ++ ⟨'#', id⟩ :: after ∧
    ∀ p ∈ after, p.marker = '#' → p.text = ""

theorem id?_eq_some_iff {id : String} : s.id? = some id ↔ s.LastId id := by
  rw [id?, texts, List.getLast?_map, List.getLast?_filter, Option.map_eq_some_iff]
  constructor
  · rintro ⟨p, hp, rfl⟩
    obtain ⟨hhas, behind, before, hparts, hlast⟩ := List.find?_eq_some_iff_append.mp hp
    obtain ⟨hmarker, htext⟩ : p.marker = '#' ∧ p.text ≠ "" := by simpa using hhas
    refine ⟨htext, before.reverse, behind.reverse, ?_, fun q hq hmark => ?_⟩
    · rw [← List.reverse_reverse s.parts, hparts, ← hmarker]
      simp
    · simpa [hmark] using hlast q (List.mem_reverse.mp hq)
  · rintro ⟨hne, before, after, hparts, hlast⟩
    refine ⟨⟨'#', id⟩, List.find?_eq_some_iff_append.mpr ⟨by simpa using hne, after.reverse,
      before.reverse, by simp [hparts], fun q hq => ?_⟩, rfl⟩
    simpa [imp_iff_not_or] using hlast q (List.mem_reverse.mp hq)

/-- The text of the explicit class, which is read only if the tag has classes of its own. -/
def explicit (s : Shorthand) (attrs : Fields Value) : Reading String :=
  if s.classes.isEmpty then pure "" else classText attrs

structure Expanded (s : Shorthand) (attrs : Fields Value) (explicit : String)
    (merged : Fields Value) : Prop where
  sorted : attrs.Sorted → merged.Sorted
  id_given : ∀ v, attrs.get? "id" = some v → merged.get? "id" = some v
  id_of_tag : attrs.get? "id" = none →
    ∀ v, merged.get? "id" = some v ↔ ∃ id, s.LastId id ∧ v = .str id
  class_given : s.classes = [] → merged.get? "class" = attrs.get? "class"
  class_joined : s.classes ≠ [] → merged.get? "class" =
    some (.str (" ".intercalate (s.classes ++ if explicit = "" then [] else [explicit])))
  other : ∀ key, key ≠ "id" → key ≠ "class" → merged.get? key = attrs.get? key

theorem classText_withId (s : Shorthand) (attrs : Fields Value) :
    classText (s.withId attrs) = classText attrs := by
  rw [classText, classText, get?_withId, if_neg (by decide)]

/-- With the id in its place, what is left to look at are the classes. -/
theorem expanded_of_withId {attrs merged : Fields Value} {explicit : String}
    (hsorted : attrs.Sorted → merged.Sorted)
    (hother : ∀ key, key ≠ "class" → merged.get? key = Fields.get? (s.withId attrs) key)
    (hgiven : s.classes = [] → merged.get? "class" = attrs.get? "class")
    (hjoined : s.classes ≠ [] → merged.get? "class" =
      some (.str (joinClasses s.classes explicit))) : s.Expanded attrs explicit merged := by
  have hid := hother "id" (by decide)
  rw [get?_withId, if_pos rfl] at hid
  refine ⟨hsorted, fun v hv => ?_, fun hnone v => ?_, hgiven, fun hne => ?_,
    fun key hkey hclass => ?_⟩
  · rw [hid, hv]
    rfl
  · rw [hid, hnone, Option.none_or, Option.map_eq_some_iff]
    exact exists_congr fun id => and_congr id?_eq_some_iff eq_comm
  · rw [hjoined hne, joinClasses]
    simp only [String.isEmpty_iff]
  · rw [hother key hclass, get?_withId, if_neg hkey]

/-- The attributes of a tag are there when the text of the explicit class is. -/
theorem attributes_eq (s : Shorthand) (attrs : Fields Value) :
    ∃ merged : String → Fields Value, (∀ text, s.Expanded attrs text (merged text)) ∧
      s.attributes attrs = merged <$> s.explicit attrs := by
  by_cases hclasses : s.classes.isEmpty
  · refine ⟨fun _ => s.withId attrs, fun text => ?_, ?_⟩
    · refine expanded_of_withId s.sorted_withId (fun _ _ => rfl) (fun _ => ?_) fun hne => ?_
      · rw [get?_withId, if_neg (by decide)]
      · exact absurd (List.isEmpty_iff.mp hclasses) hne
    · simp only [attributes, explicit, if_pos hclasses, map_pure]
  · refine ⟨fun text => Fields.insert "class" (.str (joinClasses s.classes text)) (s.withId attrs),
      fun text => ?_, ?_⟩
    · refine expanded_of_withId (fun h => Fields.sorted_insert _ _ (s.sorted_withId h))
        (fun key hkey => Fields.get?_insert_of_ne hkey _ _) (fun hnil => ?_)
        fun _ => Fields.get?_insert_self _ _ _
      exact absurd (List.isEmpty_iff.mpr hnil) hclasses
    · rw [attributes_of_classes hclasses, explicit, if_neg hclasses, classText_withId,
        map_eq_pure_bind]

/-- A tag is a name and parts in exactly one way, and taking it apart by offsets finds these parts
and never cuts a character. An element has the name and its given attributes, the id of the tag if
it has none of its own, and the classes of the tag with its own behind them. It has them as soon as
its explicit class has a text, which one without deferred values always has. -/
theorem expansion_of_tag (tag : String) (attrs : Fields Value) :
    let s := ofTag tag
    (∀ s', s' = s ↔ s'.Spelled ∧ s'.toTag = tag) ∧
    scan? tag = some (s.name, s.id?, s.classes) ∧
    (∀ id, s.id? = some id ↔ s.LastId id) ∧
    ∃ merged : String → Fields Value, (∀ text, s.Expanded attrs text (merged text)) ∧
      s.attributes attrs = merged <$> s.explicit attrs ∧
      ((∀ v, attrs.get? "class" = some v → v.cells = []) →
        ∃ text, ∀ cells, s.attributes attrs cells = some (merged text, cells)) := by
  intro s
  obtain ⟨merged, hmerged, heq⟩ := s.attributes_eq attrs
  refine ⟨fun s' => eq_ofTag_iff, scan?_ofTag tag, fun id => id?_eq_some_iff, merged, hmerged, heq,
    fun hclosed => ?_⟩
  obtain ⟨text, htext⟩ : ∃ text, ∀ cells, s.explicit attrs cells = some (text, cells) := by
    unfold explicit classText
    by_cases hclasses : s.classes.isEmpty
    · exact ⟨"", fun cells => by rw [if_pos hclasses]; rfl⟩
    · rw [if_neg hclasses]
      cases hclass : Fields.get? attrs "class" with
      | none => exact ⟨"", fun cells => rfl⟩
      | some v => exact ⟨v.plain, Value.text_of_closed (hclosed v hclass)⟩
  refine ⟨text, fun cells => ?_⟩
  rw [heq, map_eq_pure_bind]
  exact Reading.bind_eq_some (htext cells)

end Markup.Shorthand
end LayeredSite
