import LayeredSite.Proofs.Path.Segments
import LayeredSite.Site.Url

namespace LayeredSite

open LayeredSite.Path

namespace Url

variable {path extension url : String} {names : List String}

theorem moves_of_slashes (cs : List Char) :
    (segments (cs.dropWhile (· == '/'))).filterMap component? =
      (segments cs).filterMap component? := by
  induction cs with
  | nil => rfl
  | cons c cs ih =>
    by_cases hc : c = '/'
    · subst hc
      rw [List.dropWhile_cons_of_pos (by rfl), ih, segments, if_pos rfl]
      rfl
    · rw [List.dropWhile_cons_of_neg (by simpa using hc)]

theorem isAbsolute_dropSlashes (cs : List Char) :
    isAbsolute (String.ofList (cs.dropWhile (· == '/'))) = false := by
  rw [isAbsolute_eq_false_iff]
  intro rest hrest
  rw [String.toList_ofList] at hrest
  have hhead := List.head?_dropWhile_not (· == '/') cs
  simp [hrest] at hhead

/-- An output path goes on behind the output directory as its URL does. -/
theorem moves_outputPath (dir url : String) : isAbsolute (outputPath dir url) = isAbsolute dir ∧
    ∃ more, moves (outputPath dir url) = moves dir ++ more ∧
      (Component.parent ∈ more ↔ Component.parent ∈ moves url) := by
  have hrelative := isAbsolute_dropSlashes url.toList
  have hmoves : moves (String.ofList (url.toList.dropWhile (· == '/'))) = moves url := by
    rw [moves, String.toList_ofList]
    exact moves_of_slashes url.toList
  unfold outputPath
  dsimp only
  split
  · have hindex : isAbsolute "index.html" = false := rfl
    have hname : Component.parent ∉ moves "index.html" := by decide
    refine ⟨(isAbsolute_join hindex _).trans (isAbsolute_join hrelative dir),
      moves url ++ moves "index.html", ?_, ?_⟩
    · rw [moves_join hindex, moves_join hrelative, hmoves, List.append_assoc]
    · rw [List.mem_append, or_iff_left hname]
  · exact ⟨isAbsolute_join hrelative dir, moves url, by rw [moves_join hrelative, hmoves], .rfl⟩

theorem below_outputPath_iff (dir url : String) :
    Below dir (outputPath dir url) ↔ Component.parent ∉ moves url := by
  obtain ⟨hroot, more, hmoves, hparent⟩ := moves_outputPath dir url
  rw [below_iff_of_moves hroot hmoves, hparent]

theorem not_mem_sanitize {text : String} (h : '/' ∉ text.toList) :
    '/' ∉ (sanitize text).toList := by
  have htrim : Text.trim text.toList ⊆ text.toList := by
    intro c hc
    have hstart := (List.dropWhile_suffix _).subset (List.mem_reverse.mp hc)
    exact (List.dropWhile_suffix _).subset (List.mem_reverse.mp hstart)
  rw [sanitize, String.toList_ofList]
  intro hmem
  obtain ⟨c, hc, hslash⟩ := List.mem_map.mp hmem
  split at hslash
  · cases hslash
  · exact h (hslash ▸ htrim (List.mem_filter.mp hc).1)

theorem isAbsolute_of_not_mem {text : String} (h : '/' ∉ text.toList) :
    isAbsolute text = false := by
  rw [isAbsolute_eq_false_iff]
  intro rest hrest
  exact h (hrest ▸ List.mem_cons_self)

/-- Texts without slashes, put behind a path one after another, lead on where each of them leads. -/
theorem moves_foldl_join {texts : List String} (h : ∀ t ∈ texts, '/' ∉ t.toList) (dir : String) :
    isAbsolute (texts.foldl join dir) = isAbsolute dir ∧
      moves (texts.foldl join dir) = moves dir ++ texts.filterMap fun t => component? t.toList := by
  induction texts generalizing dir with
  | nil => exact ⟨rfl, (List.append_nil _).symm⟩
  | cons t texts ih =>
    obtain ⟨ht, htexts⟩ := List.forall_mem_cons.mp h
    have hrelative := isAbsolute_of_not_mem ht
    have hmoves : moves t = (component? t.toList).toList := by
      rw [moves, segments_of_not_mem ht]
      cases hc : component? t.toList <;> simp [hc]
    obtain ⟨hroot, hall⟩ := ih htexts (join dir t)
    refine ⟨hroot.trans (isAbsolute_join hrelative dir), ?_⟩
    rw [List.foldl_cons, hall, moves_join hrelative, hmoves, List.append_assoc]
    cases hc : component? t.toList <;> simp [hc]

/-- Texts without slashes, put behind each other, are a relative path through those of them that
lead anywhere. -/
theorem ofTexts_relative {texts : List String} (h : ∀ t ∈ texts, '/' ∉ t.toList) :
    isAbsolute (ofTexts texts) = false ∧
      moves (ofTexts texts) = texts.filterMap fun t => component? t.toList :=
  moves_foldl_join h ""

theorem segments_intercalate {texts : List String} (hne : texts ≠ [])
    (h : ∀ t ∈ texts, '/' ∉ t.toList) :
    segments ("/".intercalate texts).toList = texts.map String.toList := by
  have hslash : "/".toList = ['/'] := rfl
  rw [String.toList_intercalate, hslash]
  induction texts with
  | nil => exact absurd rfl hne
  | cons t texts ih =>
    obtain ⟨ht, htexts⟩ := List.forall_mem_cons.mp h
    cases texts with
    | nil => simp [segments_of_not_mem ht]
    | cons t' texts =>
      rw [List.map_cons, List.map_cons, List.intercalate_cons_cons, List.append_assoc,
        List.singleton_append, segments_append, segments_of_not_mem ht]
      exact congrArg (t.toList :: ·) (ih (List.cons_ne_nil _ _) htexts)

/-- Writing the components of a relative path behind a slash keeps its moves. -/
theorem moves_of_components (h : isAbsolute path = false) :
    moves ("/" ++ "/".intercalate ((components path).map Component.text)) = moves path := by
  have hstart : start path = [] ∨ start path = [.current] := by
    rw [start, if_neg (by simp [h])]
    split
    · exact .inr rfl
    · exact .inl rfl
  -- A component has no slash, so that the segments of the written path are the components again.
  have hslash : ∀ t ∈ (components path).map Component.text, '/' ∉ t.toList := by
    intro t ht
    obtain ⟨c, hc, rfl⟩ := List.mem_map.mp ht
    rw [components_eq, List.mem_append] at hc
    rcases hc with hc | hc
    · rcases hstart with hs | hs <;> rw [hs] at hc
      · cases hc
      · rw [List.mem_singleton.mp hc]
        decide
    · rcases of_mem_moves hc with rfl | ⟨name, rfl, hname⟩
      · decide
      · exact hname.2.2.2
  have hread : (components path).filterMap (fun c => component? c.text.toList) = moves path := by
    have hmoves : (moves path).filterMap (fun c => component? c.text.toList) = moves path := by
      refine (List.filterMap_congr fun c hc => ?_).trans List.filterMap_some
      rcases of_mem_moves hc with rfl | ⟨name, rfl, hname⟩
      · rfl
      · exact component?_of_isName hname
    rw [components_eq, List.filterMap_append, hmoves]
    rcases hstart with hs | hs <;> rw [hs] <;> rfl
  have hbehind : moves ("/" ++ "/".intercalate ((components path).map Component.text)) =
      (segments ("/".intercalate ((components path).map Component.text)).toList).filterMap
        component? := by
    rw [moves, String.toList_append]
    rfl
  rw [hbehind]
  by_cases hnone : (components path).map Component.text = []
  · rw [hnone, ← hread, List.map_eq_nil_iff.mp hnone]
    rfl
  · rw [segments_intercalate hnone hslash, List.map_map, List.filterMap_map]
    exact hread

def bareName (path extension : String) : String :=
  if extension? path = some extension then withExtension path "" else path

theorem outputName_eq (path extension : String) :
    outputName path extension = withExtension (bareName path extension) "html" ∨
      outputName path extension = bareName path extension := by
  have hbare : (if extension? path == some extension then withExtension path "" else path) =
      bareName path extension := by simp only [bareName, beq_iff_eq]
  unfold outputName
  rw [hbare]
  by_cases hnone : (extension? (bareName path extension)).isNone
  · exact .inl (if_pos hnone)
  · exact .inr (if_neg hnone)

theorem splitName_eq_dots_iff {name : String} : splitName name = ("..", some extension) ↔
    '.' ∉ extension.toList ∧ name = "..." ++ extension := by
  have hdots : ".." ++ "." ++ extension = "..." ++ extension := rfl
  rw [splitName_eq_iff, hdots]
  simp [and_comm]

/-- Taking the extension away from a name that is `...` with the extension leaves `..`. -/
theorem parent_mem_moves_bareName :
    Component.parent ∈ moves (bareName path extension) ↔ Component.parent ∈ moves path ∨
      '.' ∉ extension.toList ∧ fileName? path = some ("..." ++ extension) := by
  unfold bareName
  by_cases hext : extension? path = some extension
  · rw [if_pos hext, parent_mem_moves_withExtension (by decide)]
    refine or_congr_right ?_
    rw [extension?, Option.bind_eq_some_iff] at hext
    obtain ⟨name, hname, hext⟩ := hext
    have hstem : renamed name "" = ".." ↔ splitName name = ("..", some extension) := by
      rw [renamed, Prod.ext_iff]
      simp [hext]
    simp [hname, hstem, splitName_eq_dots_iff]
  · rw [if_neg hext]
    refine (or_iff_left ?_).symm
    rintro ⟨hdot, hname⟩
    apply hext
    rw [extension?, hname, Option.bind_some, splitName_eq_dots_iff.mpr ⟨hdot, rfl⟩]

theorem parent_mem_moves_html :
    Component.parent ∈ moves (withExtension path "html") ↔ Component.parent ∈ moves path := by
  rw [parent_mem_moves_withExtension (by decide)]
  refine or_iff_left ?_
  rintro ⟨name, -, hname⟩
  have hlast := congrArg (fun s : String => s.toList.getLast?) hname
  simp [renamed] at hlast

theorem parent_mem_moves_outputName :
    Component.parent ∈ moves (outputName path extension) ↔ Component.parent ∈ moves path ∨
      '.' ∉ extension.toList ∧ fileName? path = some ("..." ++ extension) := by
  rw [← parent_mem_moves_bareName]
  rcases outputName_eq path extension with h | h <;> rw [h]
  exact parent_mem_moves_html

theorem isAbsolute_outputName (h : isAbsolute path = false) (extension : String) :
    isAbsolute (outputName path extension) = false := by
  have hbare : isAbsolute (bareName path extension) = false := by
    unfold bareName
    split
    · exact isAbsolute_withExtension h (by decide)
    · exact h
  rcases outputName_eq path extension with hname | hname <;> rw [hname]
  · exact isAbsolute_withExtension hbare (by decide)
  · exact hbare

/-- What sanitizing leaves of the components of a path: the texts that lead anywhere. -/
def leftOf (names : List String) : List String :=
  (names.map sanitize).filter fun s => s ≠ "" ∧ s ≠ "."

def moveOf (text : String) : Component := if text = ".." then .parent else .name text

theorem component?_toList (text : String) :
    component? text.toList = if text ≠ "" ∧ text ≠ "." then some (moveOf text) else none := by
  have hne {cs : List Char} (ho : text ≠ String.ofList cs) : text.toList ≠ cs :=
    fun he => ho (by rw [← he, String.ofList_toList])
  by_cases hempty : text = ""
  · subst hempty
    rfl
  by_cases hdot : text = "."
  · subst hdot
    rfl
  by_cases hdots : text = ".."
  · subst hdots
    rfl
  rw [component?, if_neg (not_or.mpr ⟨hne hempty, hne hdot⟩), if_neg (hne hdots),
    if_pos ⟨hempty, hdot⟩, moveOf, if_neg hdots, String.ofList_toList]

theorem moves_sanitizePath (hpath : components path = names.map .name) :
    isAbsolute (sanitizePath path) = false ∧
      moves (sanitizePath path) = (leftOf names).map moveOf := by
  have hslash : ∀ t ∈ names.map sanitize, '/' ∉ t.toList := by
    intro t ht
    obtain ⟨n, hn, rfl⟩ := List.mem_map.mp ht
    refine not_mem_sanitize ?_
    have hcomponent : Component.name n ∈ start path ++ moves path := by
      rw [← components_eq, hpath]
      exact List.mem_map_of_mem hn
    rcases List.mem_append.mp hcomponent with hstart | hmoves
    · unfold start at hstart
      split at hstart
      · simp at hstart
      · split at hstart <;> simp at hstart
    · rcases of_mem_moves hmoves with he | ⟨name, he, hname⟩
      · cases he
      · cases he
        exact hname.2.2.2
  have htexts : (components path).map (fun c => sanitize c.text) = names.map sanitize := by
    rw [hpath, List.map_map]
    rfl
  obtain ⟨hrelative, hmoves⟩ := ofTexts_relative hslash
  rw [sanitizePath, htexts]
  refine ⟨hrelative, hmoves.trans ?_⟩
  rw [leftOf]
  generalize names.map sanitize = texts
  induction texts with
  | nil => rfl
  | cons t texts ih =>
    rw [List.filterMap_cons, List.filter_cons, component?_toList, ih]
    by_cases ht : t ≠ "" ∧ t ≠ "."
    · have hkept : decide (t ≠ "" ∧ t ≠ ".") = true := decide_eq_true ht
      simp only [if_pos ht, hkept, if_true, List.map_cons]
    · have hdropped : decide (t ≠ "" ∧ t ≠ ".") = false := decide_eq_false ht
      simp only [if_neg ht, hdropped, Bool.false_eq_true, if_false]

/-- The page of a template lies below the output directory, behind it by names only, exactly if no
component of its path becomes `..` when it is sanitized, and the last one that is left is not `...`
with the extension. -/
theorem template_below_output_iff (hpath : components path = names.map .name) (dir : String) :
    Below dir (outputPath dir (ofTemplate path extension)) ↔
      (∀ n ∈ names, sanitize n ≠ "..") ∧
        ('.' ∉ extension.toList → (leftOf names).getLast? ≠ some ("..." ++ extension)) := by
  obtain ⟨hrelative, hmoves⟩ := moves_sanitizePath hpath
  have hparent : Component.parent ∈ moves (sanitizePath path) ↔ ∃ n ∈ names, sanitize n = ".." := by
    have hmove (text : String) : moveOf text = .parent ↔ text = ".." := by simp [moveOf]
    rw [hmoves]
    simp only [List.mem_map, hmove, leftOf, List.mem_filter, decide_eq_true_eq]
    constructor
    · rintro ⟨_, ⟨⟨n, hn, rfl⟩, -⟩, hdots⟩
      exact ⟨n, hn, hdots⟩
    · rintro ⟨n, hn, hdots⟩
      exact ⟨"..", ⟨⟨n, hn, hdots⟩, by decide⟩, rfl⟩
  -- The name `...` with the extension is what becomes `..` when the extension is dropped.
  have hlast : fileName? (sanitizePath path) = some ("..." ++ extension) ↔
      (leftOf names).getLast? = some ("..." ++ extension) := by
    have hne : "..." ++ extension ≠ ".." := by
      intro he
      have hlength := congrArg String.length he
      have hthree : "...".length = 3 := rfl
      have htwo : "..".length = 2 := rfl
      rw [String.length_append] at hlength
      omega
    have hmove (text : String) : moveOf text = .name ("..." ++ extension) ↔
        text = "..." ++ extension := by
      unfold moveOf
      split
      · rename_i hdots
        simp [hdots, hne.symm]
      · simp
    rw [fileName?_eq_some_iff, ← List.getLast?_eq_some_iff, hmoves, List.getLast?_map,
      Option.map_eq_some_iff]
    simp [hmove]
  rw [below_outputPath_iff, ofTemplate,
    moves_of_components (isAbsolute_outputName hrelative extension), parent_mem_moves_outputName,
    hparent, hlast]
  simp

/-- A template two levels deep whose name keeps its inner dots. -/
theorem nested_template_below_output :
    components "posts/a b.c.sx" = ["posts", "a b.c.sx"].map Component.name ∧
      Below "/site/public" (outputPath "/site/public" (ofTemplate "posts/a b.c.sx" "sx")) := by
  have hpath : components "posts/a b.c.sx" = ["posts", "a b.c.sx"].map Component.name := by decide
  exact ⟨hpath, (template_below_output_iff hpath "/site/public").mpr (by decide +kernel)⟩

/-- A directory named `.:.` becomes `..`, and the page of a template in it leaves the output. -/
theorem template_leaves_output :
    components ".:./x.sx" = [".:.", "x.sx"].map Component.name ∧
      (∀ n ∈ [".:.", "x.sx"], IsName n) ∧
      components (outputPath "/site/public" (ofTemplate ".:./x.sx" "sx")) =
        [.root, .name "site", .name "public", .parent, .name "x.html"] := by
  refine ⟨by decide, ?_, by decide +kernel⟩
  simp [IsName]

end Url
end LayeredSite
