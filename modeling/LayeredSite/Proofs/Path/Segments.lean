import LayeredSite.Path.Basic
import Mathlib.Data.List.Basic
import Mathlib.Data.List.Induction

namespace LayeredSite.Path

variable {a b cs s : List Char} {front blanks : List (List Char)} {dir path name extension : String}

theorem segments_ne_nil (cs : List Char) : segments cs ≠ [] := by
  induction cs with
  | nil => simp [segments]
  | cons c cs ih =>
    unfold segments
    split
    · simp
    · split <;> simp

theorem segments_append (a b : List Char) :
    segments (a ++ '/' :: b) = segments a ++ segments b := by
  induction a with
  | nil => rfl
  | cons c a ih =>
    rw [List.cons_append, segments, segments]
    split
    · rw [ih]
      rfl
    · rw [ih]
      cases ha : segments a with
      | nil => exact absurd ha (segments_ne_nil a)
      | cons first more => rfl

theorem segments_of_not_mem (h : '/' ∉ s) : segments s = [s] := by
  induction s with
  | nil => rfl
  | cons c s ih =>
    rw [segments, if_neg (Ne.symm (List.ne_of_not_mem_cons h)),
      ih (List.not_mem_of_not_mem_cons h)]

/-- A text without slashes is at the end, behind the last slash if there is one. -/
theorem exists_last_segment (cs : List Char) :
    ∃ s, '/' ∉ s ∧ (cs = s ∨ ∃ a, cs = a ++ '/' :: s) := by
  induction cs with
  | nil => exact ⟨[], List.not_mem_nil, .inl rfl⟩
  | cons c cs ih =>
    obtain ⟨s, hs, rfl | ⟨a, rfl⟩⟩ := ih
    · by_cases hc : c = '/'
      · exact ⟨cs, hs, .inr ⟨[], by rw [hc]; rfl⟩⟩
      · exact ⟨c :: cs, List.not_mem_cons_of_ne_of_not_mem (Ne.symm hc) hs, .inl rfl⟩
    · exact ⟨s, hs, .inr ⟨c :: a, rfl⟩⟩

theorem segments_eq_concat_iff : segments cs = front ++ [s] ↔
    '/' ∉ s ∧ (front = [] ∧ cs = s ∨ ∃ a, cs = a ++ '/' :: s ∧ front = segments a) := by
  constructor
  · intro h
    obtain ⟨last, hlast, rfl | ⟨a, rfl⟩⟩ := exists_last_segment cs
    · rw [segments_of_not_mem hlast, ← List.nil_append [cs]] at h
      obtain ⟨rfl, hs⟩ := List.append_inj' h rfl
      obtain rfl := List.singleton_inj.mp hs
      exact ⟨hlast, .inl ⟨rfl, rfl⟩⟩
    · rw [segments_append, segments_of_not_mem hlast] at h
      obtain ⟨rfl, hs⟩ := List.append_inj' h rfl
      obtain rfl := List.singleton_inj.mp hs
      exact ⟨hlast, .inr ⟨a, rfl, rfl⟩⟩
  · rintro ⟨hs, ⟨rfl, rfl⟩ | ⟨a, rfl, rfl⟩⟩
    · exact segments_of_not_mem hs
    · rw [segments_append, segments_of_not_mem hs]

def IsName (s : String) : Prop := s ≠ "" ∧ s ≠ "." ∧ s ≠ ".." ∧ '/' ∉ s.toList

instance : DecidablePred IsName := fun s =>
  inferInstanceAs (Decidable (s ≠ "" ∧ s ≠ "." ∧ s ≠ ".." ∧ '/' ∉ s.toList))

/-- Where a path goes from where it starts: its names and its `..` in order. -/
def moves (path : String) : List Component := (segments path.toList).filterMap component?

theorem component?_eq_some {c : Component} (h : component? s = some c) (hs : '/' ∉ s) :
    c.text = String.ofList s ∧ (c = .parent ∨ ∃ name, c = .name name ∧ IsName name) := by
  unfold component? at h
  split at h
  · cases h
  · rename_i hblank
    split at h
    · rename_i hparent
      cases h
      exact ⟨by rw [hparent]; rfl, .inl rfl⟩
    · rename_i hparent
      cases h
      obtain ⟨hempty, hdot⟩ := not_or.mp hblank
      refine ⟨rfl, .inr ⟨_, rfl, ?_, ?_, ?_, by simpa using hs⟩⟩
      · simpa using hempty
      · exact fun he => hdot (by simpa using congrArg String.toList he)
      · exact fun he => hparent (by simpa using congrArg String.toList he)

theorem component?_eq_parent_iff : component? s = some .parent ↔ s = ['.', '.'] := by
  unfold component?
  split
  · rename_i hblank
    rcases hblank with rfl | rfl <;> simp
  · split
    · rename_i hparent
      simp [hparent]
    · rename_i hparent
      simp [hparent]

theorem component?_of_isName (h : IsName name) : component? name.toList = some (.name name) := by
  obtain ⟨hempty, hdot, hparent, -⟩ := h
  have hne {cs : List Char} (ho : name ≠ String.ofList cs) : name.toList ≠ cs :=
    fun he => ho (by rw [← he, String.ofList_toList])
  rw [component?, if_neg (not_or.mpr ⟨hne hempty, hne hdot⟩), if_neg (hne hparent),
    String.ofList_toList]

theorem not_mem_of_mem_segments (h : s ∈ segments cs) : '/' ∉ s := by
  induction cs generalizing s with
  | nil =>
    rw [segments, List.mem_singleton] at h
    exact h ▸ List.not_mem_nil
  | cons c cs ih =>
    unfold segments at h
    split at h
    · rcases List.mem_cons.mp h with rfl | h
      · exact List.not_mem_nil
      · exact ih h
    · rename_i hc
      split at h
      · rw [List.mem_singleton] at h
        simpa [h] using Ne.symm hc
      · rename_i first more hsegs
        rcases List.mem_cons.mp h with rfl | h
        · have hfirst : '/' ∉ first := ih (hsegs ▸ List.mem_cons_self)
          exact List.not_mem_cons_of_ne_of_not_mem (Ne.symm hc) hfirst
        · exact ih (hsegs ▸ List.mem_cons_of_mem _ h)

theorem of_mem_moves {c : Component} (h : c ∈ moves path) :
    c = .parent ∨ ∃ name, c = .name name ∧ IsName name := by
  obtain ⟨s, hs, hc⟩ := List.mem_filterMap.mp h
  exact (component?_eq_some hc (not_mem_of_mem_segments hs)).2

/-- What a path begins with, besides its moves. -/
def start (path : String) : List Component :=
  if isAbsolute path then [.root]
  else if (segments path.toList).head? = some ['.'] then [.current] else []

theorem isAbsolute_eq_false_iff :
    isAbsolute path = false ↔ ∀ rest, path.toList ≠ '/' :: rest := by
  constructor
  · intro h rest hslash
    simp [isAbsolute, hslash] at h
  · intro h
    rw [Bool.eq_false_iff]
    intro hhead
    obtain ⟨rest, hrest⟩ := List.head?_eq_some_iff.mp (beq_iff_eq.mp hhead)
    exact h rest hrest

theorem components_eq (path : String) : components path = start path ++ moves path := by
  unfold components componentsOf start moves
  dsimp only
  split
  · rename_i cs hcs
    simp [isAbsolute, hcs, segments, component?]
  · rename_i rest hsegs hrelative
    simp [isAbsolute_eq_false_iff.mpr hrelative, hsegs, component?]
  · rename_i hrelative hcurrent
    have hhead : (segments path.toList).head? ≠ some ['.'] := by
      intro hhead
      obtain ⟨rest, hsegs⟩ := List.head?_eq_some_iff.mp hhead
      exact hcurrent rest hsegs
    simp [isAbsolute_eq_false_iff.mpr hrelative, hhead]

theorem moves_join (h : isAbsolute path = false) (dir : String) :
    moves (join dir path) = moves dir ++ moves path := by
  unfold join
  rw [if_neg (by simp [h])]
  split
  · rename_i hdir
    rcases (Bool.or_eq_true _ _).mp hdir with hempty | hslash
    · obtain rfl : dir = "" := by simpa using hempty
      simp [moves, segments, component?]
    · obtain ⟨before, hbefore⟩ := List.getLast?_eq_some_iff.mp (by simpa using hslash)
      rw [moves, moves, moves, String.toList_append, hbefore, List.append_assoc,
        List.singleton_append, segments_append, segments_append, segments, List.filterMap_append,
        List.filterMap_append]
      simp [component?]
  · rw [moves, moves, moves, String.toList_append, String.toList_append, List.append_assoc]
    exact (congrArg _ (segments_append _ _)).trans List.filterMap_append

theorem isAbsolute_join (h : isAbsolute path = false) (dir : String) :
    isAbsolute (join dir path) = isAbsolute dir := by
  have happ (rest : String) (hrest : dir.toList = [] → isAbsolute rest = false) :
      isAbsolute (dir ++ rest) = isAbsolute dir := by
    unfold isAbsolute at hrest ⊢
    rw [String.toList_append]
    cases hdir : dir.toList with
    | nil => exact hrest hdir
    | cons c cs => rfl
  unfold join
  rw [if_neg (by simp [h])]
  split
  · exact happ path fun _ => h
  · rename_i hdir
    rw [String.append_assoc]
    refine happ _ fun hnil => absurd ?_ hdir
    obtain rfl : dir = "" := String.toList_injective hnil
    rfl

/-- The path leads from the directory down through names only. -/
def Below (dir path : String) : Prop :=
  ∃ names : List String, (∀ n ∈ names, IsName n) ∧
    (components path).filter (· ≠ .current) =
      (components dir).filter (· ≠ .current) ++ names.map .name

theorem filter_components (path : String) :
    (components path).filter (· ≠ .current) =
      (if isAbsolute path then [.root] else []) ++ moves path := by
  have hmoves : (moves path).filter (· ≠ .current) = moves path := by
    refine List.filter_eq_self.mpr fun c hc => ?_
    rcases of_mem_moves hc with rfl | ⟨name, rfl, -⟩
    · rfl
    · simp
  rw [components_eq, List.filter_append, hmoves, start]
  split
  · rfl
  · split <;> rfl

theorem exists_names {cs : List Component} (h : ∀ c ∈ cs, ∃ name, c = .name name ∧ IsName name) :
    ∃ names : List String, (∀ n ∈ names, IsName n) ∧ cs = names.map .name := by
  induction cs with
  | nil => exact ⟨[], fun _ hn => absurd hn List.not_mem_nil, rfl⟩
  | cons c cs ih =>
    obtain ⟨hc, hcs⟩ := List.forall_mem_cons.mp h
    obtain ⟨name, rfl, hname⟩ := hc
    obtain ⟨names, hnames, rfl⟩ := ih hcs
    exact ⟨name :: names, List.forall_mem_cons.mpr ⟨hname, hnames⟩, rfl⟩

/-- A path that goes on behind a directory leads below it if it never goes up from there. -/
theorem below_iff_of_moves {more : List Component} (hroot : isAbsolute path = isAbsolute dir)
    (hmoves : moves path = moves dir ++ more) : Below dir path ↔ Component.parent ∉ more := by
  have hpath : (components path).filter (· ≠ .current) =
      (components dir).filter (· ≠ .current) ++ more := by
    rw [filter_components, filter_components, hroot, hmoves, List.append_assoc]
  constructor
  · rintro ⟨names, -, hnames⟩ hparent
    rw [hpath] at hnames
    rw [List.append_cancel_left hnames] at hparent
    simp at hparent
  · intro hparent
    have hname : ∀ c ∈ more, ∃ name, c = .name name ∧ IsName name := fun c hc =>
      (of_mem_moves (hmoves ▸ List.mem_append_right _ hc)).resolve_left fun he => hparent (he ▸ hc)
    obtain ⟨names, hall, rfl⟩ := exists_names hname
    exact ⟨names, hall, hpath⟩

/-- An empty segment or a `.`, which leads nowhere. -/
def IsBlank (s : List Char) : Prop := s = [] ∨ s = ['.']

theorem component?_eq_none_iff : component? s = none ↔ IsBlank s := by
  unfold component? IsBlank
  split
  · rename_i hblank
    simpa using hblank
  · rename_i hblank
    split <;> simpa using hblank

/-- Slashes and `.` behind the last name do not belong to the text that the name ends. -/
theorem trimEnd_append_blank (h : IsBlank s) (cs : List Char) :
    trimEnd (cs ++ '/' :: s) = trimEnd cs := by
  rcases h with rfl | rfl
  · rw [trimEnd, List.reverse_append, List.reverse_singleton, List.singleton_append, dropSlashes,
      trimEnd]
  · have hreverse : (cs ++ ['/', '.']).reverse = '.' :: '/' :: cs.reverse := by simp
    rw [trimEnd, hreverse, dropSlashes, dropSlashes, trimEnd]

theorem trimEnd_of_segments (h : segments cs = front ++ [s]) (hs : ¬ IsBlank s) :
    trimEnd cs = cs := by
  obtain ⟨hslash, hcs⟩ := segments_eq_concat_iff.mp h
  obtain ⟨before, rfl⟩ : ∃ before, cs = before ++ s := by
    rcases hcs with ⟨-, rfl⟩ | ⟨a, rfl, -⟩
    · exact ⟨[], rfl⟩
    · exact ⟨a ++ ['/'], by simp⟩
  obtain ⟨hempty, hdot⟩ := not_or.mp hs
  obtain ⟨init, last, rfl⟩ := (List.eq_nil_or_concat' s).resolve_left hempty
  have hlast : last ≠ '/' := fun he => hslash (by simp [he])
  have hreverse : (before ++ (init ++ [last])).reverse =
      last :: (init.reverse ++ before.reverse) := by simp
  have hstop : ∀ rest, last :: (init.reverse ++ before.reverse) ≠ '.' :: '/' :: rest := by
    intro rest he
    obtain ⟨rfl, hrest⟩ := List.cons.inj he
    rcases List.eq_nil_or_concat' init with rfl | ⟨first, c, rfl⟩
    · exact hdot rfl
    · rw [List.reverse_append, List.reverse_singleton] at hrest
      obtain ⟨rfl, -⟩ := List.cons.inj hrest
      exact hslash (by simp)
  rw [trimEnd, hreverse, dropSlashes]
  · rw [← hreverse, List.reverse_reverse]
  · exact fun rest he => hlast (List.cons.inj he).1
  · exact hstop

theorem segments_trimEnd (h : segments cs = front ++ s :: blanks)
    (hblanks : ∀ b ∈ blanks, IsBlank b) (hs : ¬ IsBlank s) :
    segments (trimEnd cs) = front ++ [s] := by
  induction blanks using List.reverseRecOn generalizing cs with
  | nil => rw [trimEnd_of_segments h hs, h]
  | append_singleton blanks b ih =>
    rw [← List.cons_append, ← List.append_assoc] at h
    obtain ⟨hb, hblanks'⟩ : IsBlank b ∧ ∀ c ∈ blanks, IsBlank c :=
      ⟨hblanks b (by simp), fun c hc => hblanks c (by simp [hc])⟩
    obtain ⟨-, ⟨hnil, -⟩ | ⟨a, rfl, ha⟩⟩ := segments_eq_concat_iff.mp h
    · simp at hnil
    · rw [trimEnd_append_blank hb]
      exact ih ha.symm hblanks'

theorem fileName?_eq_some_iff :
    fileName? path = some name ↔ ∃ init, moves path = init ++ [.name name] := by
  have hstart : ∀ c ∈ start path, c ≠ .name name := by
    unfold start
    split
    · simp
    · split <;> simp
  have hlast : fileName? path = some name ↔ (components path).getLast? = some (.name name) := by
    unfold fileName?
    split <;> simp_all
  rw [hlast, components_eq, List.getLast?_eq_some_iff]
  constructor
  · rintro ⟨init, h⟩
    rcases List.eq_nil_or_concat' (moves path) with hmoves | ⟨first, last, hmoves⟩
    · rw [hmoves, List.append_nil] at h
      exact absurd rfl (hstart (.name name) (by simp [h]))
    · rw [hmoves, ← List.append_assoc] at h
      obtain ⟨-, hlast⟩ := List.append_inj' h rfl
      exact ⟨first, by rw [hmoves, hlast]⟩
  · rintro ⟨init, h⟩
    exact ⟨start path ++ init, by rw [h, List.append_assoc]⟩

/-- The last move of a path is a segment with nothing but blanks behind. -/
theorem segments_of_last {init : List Component} {last : Component}
    (h : moves path = init ++ [last]) :
    ∃ front s blanks, segments path.toList = front ++ s :: blanks ∧
      front.filterMap component? = init ∧ (∀ b ∈ blanks, IsBlank b) ∧ component? s = some last := by
  obtain ⟨front, rest, hsegs, hfront, hrest⟩ := List.filterMap_eq_append_iff.mp h
  obtain ⟨between, s, blanks, rfl, hbetween, hs, hblanks⟩ := List.filterMap_eq_cons_iff.mp hrest
  refine ⟨front ++ between, s, blanks, by rw [hsegs, List.append_assoc], ?_, fun b hb => ?_, hs⟩
  · rw [List.filterMap_append, hfront, List.filterMap_eq_nil_iff.mpr hbetween, List.append_nil]
  · exact component?_eq_none_iff.mp (List.filterMap_eq_nil_iff.mp hblanks b hb)

/-- If the last move is a name, the segment is the name. -/
theorem segments_of_moves {init : List Component} (h : moves path = init ++ [.name name]) :
    ∃ front blanks, segments path.toList = front ++ name.toList :: blanks ∧
      front.filterMap component? = init ∧ (∀ b ∈ blanks, IsBlank b) ∧ IsName name := by
  obtain ⟨front, s, blanks, hsegs, hfront, hblanks, hs⟩ := segments_of_last h
  have hmem : s ∈ segments path.toList := by simp [hsegs]
  obtain ⟨htext, hparent | ⟨other, hname, hother⟩⟩ :=
    component?_eq_some hs (not_mem_of_mem_segments hmem)
  · cases hparent
  · cases hname
    obtain rfl : s = name.toList := by
      rw [← String.toList_ofList (l := s), ← htext]
      rfl
    exact ⟨front, blanks, hsegs, hfront, hblanks, hother⟩

def renamed (name extension : String) : String :=
  (splitName name).1 ++ if extension.isEmpty then "" else "." ++ extension

theorem not_mem_renamed (h : '/' ∉ name.toList) (hext : '/' ∉ extension.toList) :
    '/' ∉ (renamed name extension).toList := by
  have hfirst : '/' ∉ (splitName name).1.toList := by
    unfold splitName
    dsimp only
    split
    · exact h
    · intro hmem
      rw [String.toList_ofList] at hmem
      have hdropped := List.mem_reverse.mp (List.dropLast_subset _ hmem)
      exact h (List.mem_reverse.mp ((List.dropWhile_suffix _).subset hdropped))
  rw [renamed, String.toList_append, List.mem_append]
  rintro (hmem | hmem)
  · exact hfirst hmem
  · split at hmem
    · simp at hmem
    · simp [hext] at hmem

/-- Replacing the extension changes the last name only. -/
theorem segments_withExtension {init : List Component} (h : moves path = init ++ [.name name])
    (hext : '/' ∉ extension.toList) :
    ∃ front blanks, segments path.toList = front ++ name.toList :: blanks ∧
      front.filterMap component? = init ∧
      segments (withExtension path extension).toList =
        front ++ [(renamed name extension).toList] := by
  obtain ⟨front, blanks, hsegs, hfront, hblanks, hname⟩ := segments_of_moves h
  refine ⟨front, blanks, hsegs, hfront, ?_⟩
  have hnonblank : ¬ IsBlank name.toList := by
    rw [← component?_eq_none_iff, component?_of_isName hname]
    simp
  have htrim := segments_trimEnd hsegs hblanks hnonblank
  obtain ⟨hslash, before, hbefore, hother⟩ : '/' ∉ name.toList ∧ ∃ before,
      trimEnd path.toList = before ++ name.toList ∧
      ∀ other, '/' ∉ other → segments (before ++ other) = front ++ [other] := by
    obtain ⟨hslash, ⟨rfl, htext⟩ | ⟨a, htext, rfl⟩⟩ := segments_eq_concat_iff.mp htrim
    · exact ⟨hslash, [], htext, fun other ho => segments_of_not_mem ho⟩
    · refine ⟨hslash, a ++ ['/'], by simpa using htext, fun other ho => ?_⟩
      rw [List.append_assoc, List.singleton_append, segments_append, segments_of_not_mem ho]
  have hwith : (withExtension path extension).toList =
      before ++ (renamed name extension).toList := by
    have hkept : (before ++ name.toList).take ((before ++ name.toList).length - name.length) =
        before := by
      rw [List.length_append, String.length_toList, Nat.add_sub_cancel, List.take_left]
    rw [withExtension, fileName?_eq_some_iff.mpr ⟨init, h⟩]
    dsimp only
    rw [hbefore, hkept, renamed]
    split <;> simp [String.append_assoc]
  rw [hwith]
  exact hother _ (not_mem_renamed hslash hext)

theorem moves_withExtension {init : List Component} (h : moves path = init ++ [.name name])
    (hext : '/' ∉ extension.toList) :
    moves (withExtension path extension) =
      init ++ (component? (renamed name extension).toList).toList := by
  obtain ⟨front, blanks, -, hfront, hsegs⟩ := segments_withExtension h hext
  rw [moves, hsegs, List.filterMap_append, hfront]
  cases hlast : component? (renamed name extension).toList <;> simp [hlast]

theorem withExtension_of_fileName? (h : fileName? path = none) (extension : String) :
    withExtension path extension = path := by
  rw [withExtension, h]

theorem isAbsolute_iff_segments :
    isAbsolute path = true ↔ ∃ s more, segments path.toList = [] :: s :: more := by
  rw [isAbsolute, beq_iff_eq, List.head?_eq_some_iff]
  constructor
  · rintro ⟨rest, hrest⟩
    obtain ⟨s, more, hsegs⟩ := List.exists_cons_of_ne_nil (segments_ne_nil rest)
    exact ⟨s, more, by rw [hrest, segments, if_pos rfl, hsegs]⟩
  · rintro ⟨s, more, h⟩
    cases hpath : path.toList with
    | nil => simp [hpath, segments] at h
    | cons c cs =>
      rw [hpath, segments] at h
      split at h
      · rename_i hc
        exact ⟨cs, by rw [hc]⟩
      · split at h <;> simp at h

theorem isAbsolute_withExtension (h : isAbsolute path = false) (hext : '/' ∉ extension.toList) :
    isAbsolute (withExtension path extension) = false := by
  cases hname : fileName? path with
  | none => rwa [withExtension_of_fileName? hname]
  | some name =>
    obtain ⟨init, hmoves⟩ := fileName?_eq_some_iff.mp hname
    obtain ⟨front, blanks, hbefore, -, hafter⟩ := segments_withExtension hmoves hext
    rw [Bool.eq_false_iff, ne_eq, isAbsolute_iff_segments] at h ⊢
    rintro ⟨s, more, hsegs⟩
    rw [hafter] at hsegs
    -- The first segment is the same, and there is one behind it.
    cases front with
    | nil => simp at hsegs
    | cons first front =>
      obtain ⟨rfl, -⟩ := List.cons.inj hsegs
      apply h
      rw [hbefore]
      cases front with
      | nil => exact ⟨_, _, rfl⟩
      | cons second front => exact ⟨_, _, rfl⟩

/-- A path goes up behind a new extension if it did so before, or if the name that is left is
`..`. -/
theorem parent_mem_moves_withExtension (hext : '/' ∉ extension.toList) :
    Component.parent ∈ moves (withExtension path extension) ↔ Component.parent ∈ moves path ∨
      ∃ name, fileName? path = some name ∧ renamed name extension = ".." := by
  cases hname : fileName? path with
  | none => simp [withExtension_of_fileName? hname]
  | some name =>
    obtain ⟨init, hmoves⟩ := fileName?_eq_some_iff.mp hname
    have hparent : component? (renamed name extension).toList = some .parent ↔
        renamed name extension = ".." := by
      rw [component?_eq_parent_iff, ← String.toList_inj]
      rfl
    rw [moves_withExtension hmoves hext, hmoves]
    simp [hparent, Option.mem_toList]

theorem splitName_append {stem : String} (hstem : stem ≠ "") (hext : '.' ∉ extension.toList) :
    splitName (stem ++ "." ++ extension) = (stem, some extension) := by
  have hreverse : (stem ++ "." ++ extension).toList.reverse =
      extension.toList.reverse ++ '.' :: stem.toList.reverse := by simp
  have hbehind : ∀ c ∈ extension.toList.reverse, (c != '.') = true := by
    intro c hc
    rw [bne_iff_ne]
    rintro rfl
    exact hext (List.mem_reverse.mp hc)
  have hne : stem.toList ≠ [] := fun he => hstem (String.toList_injective he)
  unfold splitName
  rw [hreverse, List.takeWhile_append_of_pos hbehind, List.dropWhile_append_of_pos hbehind]
  simp [hne]

/-- The extension is what stands behind the last dot, unless nothing is in front of it. -/
theorem splitName_eq_iff {stem : String} : splitName name = (stem, some extension) ↔
    name = stem ++ "." ++ extension ∧ stem ≠ "" ∧ '.' ∉ extension.toList := by
  constructor
  · intro h
    unfold splitName at h
    dsimp only at h
    split at h
    · cases h
    · rename_i hbefore
      obtain ⟨hstem, hext⟩ := Prod.mk.inj h
      have hall := List.takeWhile_append_dropWhile (p := (· != '.')) (l := name.toList.reverse)
      have hdot := List.head?_dropWhile_not (· != '.') name.toList.reverse
      have hbehind : ∀ c ∈ name.toList.reverse.takeWhile (· != '.'), (c != '.') = true :=
        List.all_eq_true.mp List.all_takeWhile
      generalize name.toList.reverse.takeWhile (· != '.') = behind at hall hbehind hext
      generalize name.toList.reverse.dropWhile (· != '.') = drop at hall hdot hbefore hstem
      cases drop with
      | nil => exact absurd rfl hbefore
      | cons c rest =>
        obtain rfl : c = '.' := by simpa using hdot
        rw [List.reverse_cons, List.dropLast_concat] at hstem hbefore
        obtain rfl := Option.some.inj hext
        have hname : name.toList = rest.reverse ++ '.' :: behind.reverse := by
          rw [← List.reverse_reverse name.toList, ← hall]
          simp
        refine ⟨String.toList_injective ?_, ?_, ?_⟩
        · rw [String.toList_append, String.toList_append, ← hstem, hname]
          simp
        · rw [← hstem]
          simpa using hbefore
        · rw [String.toList_ofList]
          intro hmem
          simpa using hbehind '.' (List.mem_reverse.mp hmem)
  · rintro ⟨rfl, hstem, hext⟩
    exact splitName_append hstem hext

end LayeredSite.Path
