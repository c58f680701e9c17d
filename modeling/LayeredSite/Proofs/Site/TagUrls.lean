import LayeredSite.Proofs.Site.OutputPath
import LayeredSite.Proofs.Text.Cutting

namespace LayeredSite.Url

open LayeredSite.Path

variable {v w cs : List Char} {c : Char} {pattern part : List (Option Char)}

/-- The characters of a pattern, with a hole for each occurrence of the needle. -/
def holes (needle : List Char) : ℕ → List Char → List (Option Char)
  | _, [] => []
  | skip + 1, _ :: rest => holes needle skip rest
  | 0, c :: rest =>
    if needle.isPrefixOf (c :: rest) then none :: holes needle (needle.length - 1) rest
    else some c :: holes needle 0 rest

def fill (v : List Char) (pattern : List (Option Char)) : List Char :=
  pattern.flatMap fun c? => c?.elim v ([·])

@[simp] theorem fill_nil (v : List Char) : fill v [] = [] := rfl

@[simp] theorem fill_none (v : List Char) (pattern : List (Option Char)) :
    fill v (none :: pattern) = v ++ fill v pattern := rfl

@[simp] theorem fill_some (v : List Char) (c : Char) (pattern : List (Option Char)) :
    fill v (some c :: pattern) = c :: fill v pattern := rfl

theorem fill_holes (needle v : List Char) (skip : ℕ) (cs : List Char) :
    fill v (holes needle skip cs) = Text.replaceFrom needle v skip cs := by
  induction cs generalizing skip with
  | nil => cases skip <;> rfl
  | cons c rest ih =>
    cases skip with
    | succ skip => rw [holes, ih, Text.replaceFrom]
    | zero =>
      rw [holes, Text.replaceFrom]
      split
      · rw [fill_none, ih]
      · rw [fill_some, ih]

theorem none_mem_holes {needle : List Char} (hne : needle ≠ [])
    (h : Text.contains needle cs = true) : none ∈ holes needle 0 cs := by
  induction cs with
  | nil => exact absurd (List.isEmpty_iff.mp h) hne
  | cons c rest ih =>
    rw [Text.contains, Bool.or_eq_true] at h
    rw [holes]
    split
    · exact List.mem_cons_self
    · rename_i hprefix
      exact List.mem_cons_of_mem _ (ih (h.resolve_left hprefix))

theorem mem_fill : c ∈ fill v pattern ↔ some c ∈ pattern ∨ none ∈ pattern ∧ c ∈ v := by
  rw [fill, List.mem_flatMap]
  constructor
  · rintro ⟨_ | d, hmem, hc⟩
    · exact .inr ⟨hmem, hc⟩
    · exact .inl (List.mem_singleton.mp hc ▸ hmem)
  · rintro (hmem | ⟨hmem, hc⟩)
    · exact ⟨_, hmem, List.mem_singleton_self c⟩
    · exact ⟨_, hmem, hc⟩

/-- A pattern without holes says the same for every value. -/
theorem fill_congr (h : none ∉ pattern) (v w : List Char) : fill v pattern = fill w pattern :=
  List.flatMap_congr fun c? hc => by
    cases c? with
    | none => exact absurd hc h
    | some c => rfl

theorem length_fill (v : List Char) (pattern : List (Option Char)) :
    (fill v pattern).length = pattern.count none * v.length + pattern.countP Option.isSome := by
  induction pattern with
  | nil => simp
  | cons c? pattern ih =>
    cases c? with
    | none =>
      rw [fill_none, List.length_append, ih, List.count_cons_self, Nat.add_mul, Nat.one_mul,
        List.countP_cons_of_neg (by simp)]
      omega
    | some c =>
      rw [fill_some, List.length_cons, ih, List.count_cons_of_ne (by simp),
        List.countP_cons_of_pos rfl]
      omega

/-- A pattern with a hole tells what fills it. -/
theorem fill_injective (hole : none ∈ pattern) (h : fill v pattern = fill w pattern) : v = w := by
  have hcount : 0 < pattern.count none := List.count_pos_iff.mpr hole
  have hlength : v.length = w.length := by
    have hlengths := congrArg List.length h
    rw [length_fill, length_fill, Nat.add_right_cancel_iff] at hlengths
    exact Nat.eq_of_mul_eq_mul_left hcount hlengths
  clear hcount
  induction pattern with
  | nil => cases hole
  | cons c? pattern ih =>
    cases c? with
    | none => exact (List.append_inj h hlength).1
    | some c => exact ih (by simpa using hole) (List.cons.inj h).2

theorem segments_append_of_not_mem {front s : List Char} {more : List (List Char)}
    (hfront : '/' ∉ front) (h : segments cs = s :: more) :
    segments (front ++ cs) = (front ++ s) :: more := by
  induction front with
  | nil => exact h
  | cons c front ih =>
    obtain ⟨hc, hfront⟩ := not_or.mp (mt List.mem_cons.mpr hfront)
    rw [List.cons_append, segments, if_neg (Ne.symm hc), ih hfront, List.cons_append]

/-- Slashes cut a pattern wherever a value without them is filled in. -/
theorem exists_parts (pattern : List (Option Char)) : ∃ first more,
    (∀ v, '/' ∉ v → segments (fill v pattern) = fill v first :: more.map (fill v)) ∧
    (none ∈ pattern → ∃ part ∈ first :: more, none ∈ part) := by
  induction pattern with
  | nil => exact ⟨[], [], fun v _ => rfl, nofun⟩
  | cons c? pattern ih =>
    obtain ⟨first, more, hsegments, hhole⟩ := ih
    cases c? with
    | none =>
      refine ⟨none :: first, more, fun v hv => ?_, fun _ => ⟨_, List.mem_cons_self, by simp⟩⟩
      rw [fill_none, fill_none, segments_append_of_not_mem hv (hsegments v hv)]
    | some c =>
      by_cases hc : c = '/'
      · refine ⟨[], first :: more, fun v hv => ?_, fun hmem => ?_⟩
        · rw [fill_some, segments, if_pos hc, hsegments v hv]
          rfl
        · obtain ⟨part, hpart, hnone⟩ := hhole (by simpa using hmem)
          exact ⟨part, List.mem_cons_of_mem _ hpart, hnone⟩
      · refine ⟨some c :: first, more, fun v hv => ?_, fun hmem => ?_⟩
        · rw [fill_some, segments, if_neg hc, hsegments v hv]
          rfl
        · obtain ⟨part, hpart, hnone⟩ := hhole (by simpa using hmem)
          rcases List.mem_cons.mp hpart with rfl | hpart
          · exact ⟨_, List.mem_cons_self, List.mem_cons_of_mem _ hnone⟩
          · exact ⟨part, List.mem_cons_of_mem _ hpart, hnone⟩

/-- A text of lower-case ASCII letters, digits and dashes. -/
def IsSlug (v : List Char) : Prop :=
  ∀ c ∈ v, 'a' ≤ c ∧ c ≤ 'z' ∨ '0' ≤ c ∧ c ≤ '9' ∨ c = '-'

theorem IsSlug.slash_not_mem (h : IsSlug v) : '/' ∉ v := fun hmem =>
  absurd (h '/' hmem) (by decide)

theorem IsSlug.dot_not_mem (h : IsSlug v) : '.' ∉ v := fun hmem => absurd (h '.' hmem) (by decide)

/-- The components that lead somewhere tell their texts. -/
theorem component?_injective {s t : List Char} {c : Component} (hs : component? s = some c)
    (ht : component? t = some c) : s = t := by
  unfold component? at hs ht
  split at hs
  · cases hs
  split at ht
  · cases ht
  split at hs <;> split at ht <;> cases hs
  · simp_all
  · cases ht
  · cases ht
  · exact (String.ofList_injective (Component.name.inj (Option.some.inj ht))).symm

/-- A segment filled with a slug that is not empty leads somewhere. -/
theorem isSome_component?_fill (hw : IsSlug w) (hne : w ≠ []) (hole : none ∈ part) :
    ∃ c, component? (fill w part) = some c := by
  obtain ⟨d, hd⟩ := List.exists_mem_of_ne_nil w hne
  have hmem : d ∈ fill w part := mem_fill.mpr (.inr ⟨hole, hd⟩)
  rw [← Option.ne_none_iff_exists', Ne, component?_eq_none_iff]
  rintro (hnil | hdot)
  · rw [hnil] at hmem
    cases hmem
  · rw [hdot, List.mem_singleton] at hmem
    exact hw.dot_not_mem (hmem ▸ hd)

/-- The text of the last segment of a file, which is the index if its URL ends with a slash. -/
def leaf (s : List Char) : List Char := if s = [] then "index.html".toList else s

/-- The file of a URL is an index exactly if the last segment is empty. -/
theorem isIndex_iff {front : List (List Char)} {last : List Char}
    (h : segments cs = front ++ [last]) :
    (cs.dropWhile (· == '/') = [] ∨ cs.getLast? = some '/') ↔ last = [] := by
  obtain ⟨hslash, hcs⟩ := segments_eq_concat_iff.mp h
  have hsuffix : last <:+ cs := by
    rcases hcs with ⟨-, rfl⟩ | ⟨before, rfl, -⟩
    · exact List.suffix_rfl
    · exact ⟨before ++ ['/'], by simp⟩
  constructor
  · rintro (hall | hlast)
    · refine List.eq_nil_iff_forall_not_mem.mpr fun c hc => hslash ?_
      have hc' := List.dropWhile_eq_nil_iff.mp hall c (hsuffix.subset hc)
      exact beq_iff_eq.mp hc' ▸ hc
    · by_contra hne
      obtain ⟨c, hc⟩ := Option.ne_none_iff_exists'.mp (mt List.getLast?_eq_none_iff.mp hne)
      obtain ⟨before, rfl⟩ := hsuffix
      rw [List.getLast?_append, hc] at hlast
      exact hslash (Option.some.inj hlast ▸ List.mem_of_getLast? hc)
  · rintro rfl
    rcases hcs with ⟨-, rfl⟩ | ⟨before, rfl, -⟩
    · exact .inl rfl
    · exact .inr (by simp)

/-- A file goes on behind the output directory as the segments of its URL do. -/
theorem moves_outputPath_leaf {url : String} {front : List (List Char)} {last : List Char}
    (h : segments url.toList = front ++ [last]) (dir : String) :
    moves (outputPath dir url) = moves dir ++ (front ++ [leaf last]).filterMap component? := by
  have hrelative := isAbsolute_dropSlashes url.toList
  have hmoves : moves (String.ofList (url.toList.dropWhile (· == '/'))) =
      (front ++ [last]).filterMap component? := by
    rw [moves, String.toList_ofList, moves_of_slashes, h]
  have hindex : ((String.ofList (url.toList.dropWhile (· == '/'))).isEmpty ||
      url.toList.getLast? == some '/') = true ↔ last = [] := by
    rw [← isIndex_iff h]
    simp
  rw [outputPath]
  by_cases hlast : last = []
  · rw [if_pos (hindex.mpr hlast), moves_join rfl, moves_join hrelative, hmoves, hlast, leaf,
      if_pos rfl]
    simp [moves, segments, component?]
  · rw [if_neg (mt hindex.mp hlast), moves_join hrelative, hmoves, leaf, if_neg hlast]

def step (isLast : Bool) (part : List (Option Char)) (v : List Char) : List Component :=
  (component? (if isLast then leaf (fill v part) else fill v part)).toList

theorem step_of_hole (isLast : Bool) (hw : IsSlug w) (hne : w ≠ []) (hole : none ∈ part) :
    ∃ c, component? (fill w part) = some c ∧ step isLast part w = [c] := by
  obtain ⟨c, hc⟩ := isSome_component?_fill hw hne hole
  have hfill : fill w part ≠ [] := fun hnil => by simp [hnil, component?] at hc
  refine ⟨c, hc, ?_⟩
  rw [step, leaf, if_neg hfill, ite_self, hc]
  rfl

/-- A slug that is not empty leads somewhere wherever another one does. -/
theorem length_step_le (isLast : Bool) (part : List (Option Char)) (v : List Char) (hw : IsSlug w)
    (hne : w ≠ []) : (step isLast part v).length ≤ (step isLast part w).length := by
  by_cases hole : none ∈ part
  · obtain ⟨c, -, hc⟩ := step_of_hole isLast hw hne hole
    rw [hc, step]
    exact Option.length_toList_le
  · rw [step, fill_congr hole v w, step]

/-- A segment with a hole tells what fills it. -/
theorem step_injective {isLast : Bool} (hw : IsSlug w) (hne : w ≠ []) (hole : none ∈ part)
    (h : step isLast part v = step isLast part w) : v = w := by
  obtain ⟨c, hc, hstep⟩ := step_of_hole isLast hw hne hole
  rw [hstep, step, Option.toList_eq_singleton_iff] at h
  have htext := component?_injective h hc
  rw [leaf] at htext
  by_cases hindex : isLast = true ∧ fill v part = []
  · -- No slug has the dot of an index.
    rw [if_pos hindex.1, if_pos hindex.2] at htext
    have hdot : '.' ∈ fill w part := htext ▸ by decide
    rcases mem_fill.mp hdot with hmem | ⟨-, hmem⟩
    · have hfill : '.' ∈ fill v part := mem_fill.mpr (.inl hmem)
      rw [hindex.2] at hfill
      cases hfill
    · exact absurd hmem hw.dot_not_mem
  · refine fill_injective hole ?_
    rcases not_and_or.mp hindex with hinner | hfill
    · rwa [if_neg hinner] at htext
    · rwa [if_neg hfill, ite_self] at htext

/-- The file of a filled pattern is told by its segments. -/
theorem exists_steps (pattern : List (Option Char)) : ∃ parts : List (Bool × List (Option Char)),
    (∀ v url, '/' ∉ v → url.toList = fill v pattern → ∀ dir,
      moves (outputPath dir url) = moves dir ++ parts.flatMap fun p => step p.1 p.2 v) ∧
    (none ∈ pattern → ∃ p ∈ parts, none ∈ p.2) := by
  obtain ⟨first, more, hsegments, hhole⟩ := exists_parts pattern
  obtain ⟨front, last, hparts⟩ : ∃ front last, first :: more = front ++ [last] :=
    ⟨_, _, (List.dropLast_append_getLast (List.cons_ne_nil first more)).symm⟩
  refine ⟨front.map (false, ·) ++ [(true, last)], fun v url hv hurl dir => ?_, fun hmem => ?_⟩
  · have hurl' : segments url.toList = front.map (fill v) ++ [fill v last] := by
      rw [hurl, hsegments v hv, ← List.map_cons, hparts, List.map_append, List.map_singleton]
    have hone : ∀ s, [s].filterMap component? = (component? s).toList := fun s => by
      rw [List.filterMap_cons]
      cases component? s <;> rfl
    rw [moves_outputPath_leaf hurl', List.filterMap_append, hone, List.filterMap_map,
      List.filterMap_eq_flatMap_toList, List.flatMap_append, List.flatMap_map,
      List.flatMap_singleton]
    rfl
  · obtain ⟨part, hpart, hnone⟩ := hhole hmem
    rw [hparts, List.mem_append, List.mem_singleton] at hpart
    rcases hpart with hpart | rfl
    · exact ⟨(false, part), by simpa using hpart, hnone⟩
    · exact ⟨(true, part), by simp, hnone⟩

/-- If a pattern has a hole, a slug that fills it is told by the file. -/
theorem slug_of_moves {urlOf : List Char → String} {dir : String} (hole : none ∈ pattern)
    (hurl : ∀ v, (urlOf v).toList = fill v pattern) (hv : IsSlug v) (hw : IsSlug w)
    (h : moves (outputPath dir (urlOf v)) = moves (outputPath dir (urlOf w))) : v = w := by
  obtain ⟨parts, hmoves, hhole⟩ := exists_steps pattern
  obtain ⟨p, hp, hnone⟩ := hhole hole
  have hsteps : (parts.flatMap fun p => step p.1 p.2 v) =
      parts.flatMap fun p => step p.1 p.2 w := by
    rw [hmoves v _ hv.slash_not_mem (hurl v), hmoves w _ hw.slash_not_mem (hurl w)] at h
    exact List.append_cancel_left h
  -- The fuller of the two leads at least as far in every segment, so all segments agree.
  have htold : ∀ {v w}, IsSlug w → w ≠ [] → ((parts.flatMap fun p => step p.1 p.2 v) =
      parts.flatMap fun p => step p.1 p.2 w) → v = w := by
    intro v w hw hne hsteps
    have hall := (Text.flatMap_eq_iff fun p _ => length_step_le p.1 p.2 v hw hne).mp hsteps
    exact step_injective hw hne hnone (hall p hp)
  by_cases hne : w = []
  · by_cases hne' : v = []
    · rw [hne, hne']
    · exact (htold hv hne' hsteps.symm).symm
  · exact htold hw hne hsteps

/-- The pages of two tags are one file only if the tags have one URL. -/
theorem same_outputPath_iff [Toolkit]
    (hslug : ∀ text, IsSlug (Toolkit.slugify text).toList) {pattern : String}
    (h : Text.hasPlaceholder pattern "tag" = true) (dir s t : String) :
    same (outputPath dir (ofTag pattern s)) (outputPath dir (ofTag pattern t)) = true ↔
      ofTag pattern s = ofTag pattern t := by
  have hurl : ∀ v, (String.ofList (Text.replaceAll (Text.placeholder "tag") v
      pattern.toList)).toList = fill v (holes (Text.placeholder "tag") 0 pattern.toList) :=
    fun v => by
      rw [String.toList_ofList, fill_holes, Text.replaceAll]
  have hne : Text.placeholder "tag" ≠ [] := by decide
  have hole := none_mem_holes hne h
  constructor
  · intro hsame
    -- The output directory is in front of both paths and is cancelled.
    have hcomponents := congrArg (List.filter (· ≠ .current)) (beq_iff_eq.mp hsame)
    rw [filter_components, filter_components, (moves_outputPath dir _).1,
      (moves_outputPath dir _).1] at hcomponents
    have hfilled := slug_of_moves hole hurl (hslug s) (hslug t)
      (List.append_cancel_left hcomponents)
    rw [ofTag, String.toList_injective hfilled, ofTag]
  · intro heq
    rw [heq]
    exact beq_self_eq_true _

end LayeredSite.Url
