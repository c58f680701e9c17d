import LayeredSite.Program
import LayeredSite.Proofs.Header.Lines

namespace LayeredSite.Markup

open Text

variable {c : Char} {cs s blanks pending : List Char}

/-- The character data between the tags, from inside of a tag or from outside. A `<` begins a tag if
a `>` follows, and the first one ends it. -/
def stretches : Bool → List Char → List (List Char)
  | true, [] => []
  | true, c :: rest => stretches (c != '>') rest
  | false, [] => [[]]
  | false, c :: rest =>
    if c = '<' ∧ '>' ∈ rest then [] :: stretches true rest
    else match stretches false rest with
      | [] => [[c]]
      | s :: more => (c :: s) :: more

def characterData (cs : List Char) : List (List Char) := stretches false cs

def wordsOf (s : List Char) : List (List Char) := (splitOn isBlank s).filter (· ≠ [])

def words (cs : List Char) : List (List Char) := (characterData cs).flatMap wordsOf

/-- A run of blanks, if no line ends in it. -/
def kept (blanks : List Char) : List Char := if '\n' ∈ blanks then [] else blanks

/-- Leaves out the runs of blanks in which a line ends; `pending` is the run so far. -/
def squeeze (pending : List Char) : List Char → List Char
  | [] => kept pending
  | c :: rest =>
    if isBlank c then squeeze (pending ++ [c]) rest else kept pending ++ c :: squeeze [] rest

section Squeezing

theorem squeeze_blank (h : isBlank c = true) (pending rest : List Char) :
    squeeze pending (c :: rest) = squeeze (pending ++ [c]) rest := by
  rw [squeeze, if_pos h]

theorem squeeze_cons (h : isBlank c = false) (pending rest : List Char) :
    squeeze pending (c :: rest) = kept pending ++ c :: squeeze [] rest := by
  rw [squeeze, if_neg (by simp [h])]

/-- Of a run in which a line has ended nothing is kept. -/
theorem squeeze_of_mem (h : '\n' ∈ pending) (rest : List Char) :
    squeeze pending rest = squeeze ['\n'] rest := by
  have hkept : kept pending = kept ['\n'] := by simp [kept, h]
  induction rest generalizing pending with
  | nil => rw [squeeze, hkept, squeeze]
  | cons c rest ih =>
    cases hc : isBlank c
    · rw [squeeze_cons hc, squeeze_cons hc, hkept]
    · rw [squeeze_blank hc, squeeze_blank hc, ih (by simp [h]) (by simp [kept, h]),
        ih (List.mem_append_left [c] (List.mem_singleton_self '\n')) (by simp [kept])]

/-- The rest of a line loses the blanks at its end. -/
theorem squeeze_line (hpending : ∀ c ∈ pending, isBlank c = true) (hbreak : '\n' ∉ pending)
    (hs : '\n' ∉ s) (rest : List Char) :
    squeeze pending (s ++ '\n' :: rest) = trimEnd (pending ++ s) ++ squeeze ['\n'] rest := by
  induction s generalizing pending with
  | nil =>
    have htrim : trimEnd ([] ++ pending) = [] := trimEnd_append_blank hpending []
    rw [List.nil_append, squeeze_blank rfl, squeeze_of_mem (by simp), List.append_nil,
      ← List.nil_append pending, htrim, List.nil_append]
  | cons c s ih =>
    obtain ⟨hc, hs⟩ := not_or.mp (mt List.mem_cons.mpr hs)
    cases hblank : isBlank c
    · rw [List.cons_append, squeeze_cons hblank, ih (by simp) (by simp) hs, List.nil_append, kept,
        if_neg hbreak, trimEnd_append_cons hblank, List.append_assoc, List.cons_append]
    · have hpending' : ∀ d ∈ pending ++ [c], isBlank d = true := by
        simpa [or_imp, forall_and, hblank] using hpending
      rw [List.cons_append, squeeze_blank hblank, ih hpending' (by simp [hbreak, hc]) hs,
        List.append_assoc, List.singleton_append]

/-- A whole line loses the blanks at both ends. -/
theorem squeeze_whole_line (hbreak : '\n' ∈ pending) (hs : '\n' ∉ s) (rest : List Char) :
    squeeze pending (s ++ '\n' :: rest) = trim s ++ squeeze ['\n'] rest := by
  induction s generalizing pending with
  | nil =>
    rw [List.nil_append, squeeze_blank rfl, squeeze_of_mem (by simp)]
    rfl
  | cons c s ih =>
    obtain ⟨hc, hs⟩ := not_or.mp (mt List.mem_cons.mpr hs)
    cases hblank : isBlank c
    · rw [List.cons_append, squeeze_cons hblank, squeeze_line (by simp) (by simp) hs,
        List.nil_append, kept, if_pos hbreak, List.nil_append]
      have htrim : trim (c :: s) = c :: trimEnd s := trim_append_cons hblank [] s
      rw [htrim, List.cons_append]
    · have htrim : trim (c :: s) = trim s := by
        rw [trim, ← List.singleton_append, trimStart_append_blank (by simpa using hblank), trim]
      rw [List.cons_append, squeeze_blank hblank, ih (by simp [hbreak]) hs, htrim]

/-- The end of a line is blank. -/
theorem trim_lineText (line : List Char) : trim (lineText line) = trim line := by
  rw [lineText]
  split
  · next rest h =>
    have hline : line = rest.reverse ++ ['\r', '\n'] := List.reverse_inj.mp (by simp [h])
    have hblank : ∀ c ∈ ['\r', '\n'], isBlank c = true :=
      List.forall_mem_cons.mpr ⟨rfl, List.forall_mem_singleton.mpr rfl⟩
    rw [hline, trim_append_blank hblank]
  · next rest _ h =>
    have hline : line = rest.reverse ++ ['\n'] := List.reverse_inj.mp (by simp [h])
    rw [hline, trim_append_blank (List.forall_mem_singleton.mpr rfl)]
  · rfl

theorem compactXml_eq_squeeze (cs : List Char) :
    compactXml cs = squeeze ['\n'] (cs ++ ['\n']) := by
  induction cs using lines_induction with
  | nil => rfl
  | last line hne hline =>
    rw [squeeze_whole_line (by simp) hline, compactXml, lines_of_not_mem hne hline]
    simp [trim_lineText, squeeze, kept]
  | cons line rest hline ih =>
    rw [List.append_assoc, List.cons_append, squeeze_whole_line (by simp) hline, ← ih, compactXml,
      lines_append_newline hline, List.map_cons, List.flatten_cons, trim_lineText,
      Header.trim_newline, compactXml]

end Squeezing

section Stretches

theorem stretches_ne_nil (cs : List Char) : stretches false cs ≠ [] := by
  cases cs with
  | nil => simp [stretches]
  | cons c rest =>
    rw [stretches]
    split
    · simp
    · split <;> simp

theorem stretches_tag (h : '>' ∈ cs) : stretches false ('<' :: cs) = [] :: stretches true cs := by
  rw [stretches, if_pos ⟨rfl, h⟩]

/-- A character that begins no tag belongs to the first stretch. -/
theorem stretches_cons {more : List (List Char)} (hc : ¬ (c = '<' ∧ '>' ∈ cs))
    (h : stretches false cs = s :: more) : stretches false (c :: cs) = (c :: s) :: more := by
  rw [stretches, if_neg hc, h]

theorem stretches_append {front : List Char} {more : List (List Char)} (hfront : '<' ∉ front)
    (h : stretches false cs = s :: more) :
    stretches false (front ++ cs) = (front ++ s) :: more := by
  induction front with
  | nil => exact h
  | cons c front ih =>
    obtain ⟨hc, hfront⟩ := not_or.mp (mt List.mem_cons.mpr hfront)
    exact stretches_cons (fun hopens => hc hopens.1.symm) (ih hfront)

theorem not_mem_kept (h : ∀ c ∈ blanks, isBlank c = true) (hc : isBlank c = false) :
    c ∉ kept blanks := by
  intro hmem
  have hmem : c ∈ blanks := by
    rw [kept] at hmem
    split at hmem
    · cases hmem
    · exact hmem
  exact Bool.false_ne_true (hc.symm.trans (h c hmem))

theorem blank_concat (h : ∀ c ∈ pending, isBlank c = true) (hc : isBlank c = true) :
    ∀ d ∈ pending ++ [c], isBlank d = true := by
  simpa [or_imp, forall_and, hc] using h

theorem mem_squeeze_iff (hc : isBlank c = false) (hpending : ∀ c ∈ pending, isBlank c = true)
    (cs : List Char) : c ∈ squeeze pending cs ↔ c ∈ cs := by
  induction cs generalizing pending with
  | nil => simp [squeeze, not_mem_kept hpending hc]
  | cons d cs ih =>
    cases hd : isBlank d
    · simp [squeeze_cons hd, ih (List.forall_mem_nil _), not_mem_kept hpending hc]
    · have hne : c ≠ d := fun he => Bool.false_ne_true (hc.symm.trans (he ▸ hd))
      simp [squeeze_blank hd, ih (blank_concat hpending hd), hne]

theorem stretches_skip {front : List Char} (h : '>' ∉ front) (cs : List Char) :
    stretches true (front ++ cs) = stretches true cs := by
  induction front with
  | nil => rfl
  | cons c front ih =>
    obtain ⟨hc, hfront⟩ := not_or.mp (mt List.mem_cons.mpr h)
    rw [List.cons_append, stretches, bne_iff_ne.mpr (Ne.symm hc), ih hfront]

/-- Tags stay, and every stretch between them is squeezed on its own. -/
structure SqueezesApart (pending cs : List Char) : Prop where
  text : ∀ s more, stretches false cs = s :: more →
    stretches false (squeeze pending cs) = squeeze pending s :: more.map (squeeze [])
  tag : stretches true (squeeze pending cs) = (stretches true cs).map (squeeze [])

theorem SqueezesApart.nil (hpending : ∀ c ∈ pending, isBlank c = true) :
    SqueezesApart pending [] where
  text s more h := by
    cases h
    have hnil : stretches false [] = [[]] := rfl
    have hend := stretches_append (not_mem_kept (c := '<') hpending rfl) hnil
    rwa [List.append_nil] at hend
  tag := by
    have hend := stretches_skip (not_mem_kept (c := '>') hpending rfl) []
    rwa [List.append_nil] at hend

theorem SqueezesApart.blank (h : SqueezesApart (pending ++ [c]) cs) (hc : isBlank c = true) :
    SqueezesApart pending (c :: cs) where
  text s more hs := by
    have hopens : ¬ (c = '<' ∧ '>' ∈ cs) := fun hopens => absurd hc (by rw [hopens.1]; decide)
    obtain ⟨s, more, hcs⟩ := List.exists_cons_of_ne_nil (stretches_ne_nil cs)
    rw [stretches_cons hopens hcs] at hs
    cases hs
    rw [squeeze_blank hc, h.text s more hcs, squeeze_blank hc]
  tag := by
    have hcloses : (c != '>') = true := bne_iff_ne.mpr fun he => absurd hc (by rw [he]; decide)
    rw [squeeze_blank hc, h.tag, stretches, hcloses]

theorem SqueezesApart.cons (h : SqueezesApart [] cs) (hpending : ∀ c ∈ pending, isBlank c = true)
    (hc : isBlank c = false) : SqueezesApart pending (c :: cs) where
  text s more hs := by
    rw [squeeze_cons hc]
    by_cases hopens : c = '<' ∧ '>' ∈ cs
    · obtain ⟨rfl, hcloses⟩ := hopens
      have hcloses' : '>' ∈ squeeze [] cs := (mem_squeeze_iff rfl (by simp) cs).mpr hcloses
      rw [stretches_tag hcloses] at hs
      cases hs
      rw [stretches_append (not_mem_kept hpending rfl) (stretches_tag hcloses'), h.tag,
        List.append_nil, squeeze]
    · have hopens' : ¬ (c = '<' ∧ '>' ∈ squeeze [] cs) := by
        rwa [mem_squeeze_iff rfl (by simp)]
      obtain ⟨s, more, hcs⟩ := List.exists_cons_of_ne_nil (stretches_ne_nil cs)
      rw [stretches_cons hopens hcs] at hs
      cases hs
      rw [stretches_append (not_mem_kept hpending rfl) (stretches_cons hopens' (h.text s more hcs)),
        squeeze_cons hc]
  tag := by
    obtain ⟨s, more, hcs⟩ := List.exists_cons_of_ne_nil (stretches_ne_nil cs)
    rw [squeeze_cons hc, stretches_skip (not_mem_kept hpending rfl), stretches, stretches]
    cases c != '>'
    · rw [h.text s more hcs, hcs, List.map_cons]
    · exact h.tag

theorem squeezesApart (hpending : ∀ c ∈ pending, isBlank c = true) (cs : List Char) :
    SqueezesApart pending cs := by
  induction cs generalizing pending with
  | nil => exact .nil hpending
  | cons c cs ih =>
    cases hc : isBlank c
    · exact .cons (ih (by simp)) hpending hc
    · exact .blank (ih (blank_concat hpending hc)) hc

theorem characterData_squeeze (cs : List Char) :
    characterData (squeeze [] cs) = (characterData cs).map (squeeze []) := by
  obtain ⟨s, more, hs⟩ := List.exists_cons_of_ne_nil (stretches_ne_nil cs)
  rw [characterData, (squeezesApart (by simp) cs).text s more hs, characterData, hs, List.map_cons]

/-- A line break at the end belongs to the last stretch. -/
theorem trimEnd_stretches_newline (inTag : Bool) (cs : List Char) :
    (stretches inTag (cs ++ ['\n'])).map trimEnd = (stretches inTag cs).map trimEnd := by
  induction cs generalizing inTag with
  | nil => cases inTag <;> rfl
  | cons c cs ih =>
    cases inTag
    · by_cases hopens : c = '<' ∧ '>' ∈ cs
      · obtain ⟨rfl, hcloses⟩ := hopens
        rw [List.cons_append, stretches_tag (List.mem_append_left _ hcloses), List.map_cons, ih,
          stretches_tag hcloses, List.map_cons]
      · obtain ⟨s, more, hs⟩ := List.exists_cons_of_ne_nil (stretches_ne_nil cs)
        obtain ⟨s', more', hs'⟩ := List.exists_cons_of_ne_nil (stretches_ne_nil (cs ++ ['\n']))
        have hopens' : ¬ (c = '<' ∧ '>' ∈ cs ++ ['\n']) := by simpa using hopens
        have hboth := ih false
        rw [hs, hs', List.map_cons, List.map_cons] at hboth
        obtain ⟨hfirst, hmore⟩ := List.cons.inj hboth
        rw [List.cons_append, stretches_cons hopens' hs', stretches_cons hopens hs, List.map_cons,
          List.map_cons, trimEnd_cons, hfirst, ← trimEnd_cons, hmore]
    · rw [List.cons_append, stretches, ih, stretches]

/-- Line breaks around a text are at the ends of its stretches. -/
theorem trim_characterData_newlines (cs : List Char) :
    (characterData ('\n' :: (cs ++ ['\n']))).map trim = (characterData cs).map trim := by
  obtain ⟨s, more, hs⟩ := List.exists_cons_of_ne_nil (stretches_ne_nil (cs ++ ['\n']))
  have htrim : ∀ s, trim ('\n' :: s) = trim s := fun s => by
    rw [trim, ← List.singleton_append,
      trimStart_append_blank (List.forall_mem_singleton.mpr rfl), trim]
  have hends : (characterData ('\n' :: (cs ++ ['\n']))).map trim =
      (stretches false (cs ++ ['\n'])).map trim := by
    rw [characterData, stretches_cons (by simp) hs, hs, List.map_cons, List.map_cons, htrim]
  have hcomp : (trim : List Char → List Char) = trim ∘ trimEnd :=
    funext fun s => (trim_trimEnd s).symm
  rw [hends, hcomp, ← List.map_map, trimEnd_stretches_newline, List.map_map, characterData]

end Stretches

section Words

/-- The words in front of a blank and those behind it. -/
theorem wordsOf_append (hc : isBlank c = true) (front behind : List Char) :
    wordsOf (front ++ c :: behind) = wordsOf front ++ wordsOf behind := by
  rw [wordsOf, splitOn_append hc, List.filter_append, wordsOf, wordsOf]

theorem wordsOf_blank_append (h : ∀ c ∈ blanks, isBlank c = true) (s : List Char) :
    wordsOf (blanks ++ s) = wordsOf s := by
  induction blanks with
  | nil => rfl
  | cons c blanks ih =>
    obtain ⟨hc, hblanks⟩ := List.forall_mem_cons.mp h
    exact (wordsOf_append hc [] (blanks ++ s)).trans (ih hblanks)

theorem wordsOf_append_blank (h : ∀ c ∈ blanks, isBlank c = true) (s : List Char) :
    wordsOf (s ++ blanks) = wordsOf s := by
  cases blanks with
  | nil => rw [List.append_nil]
  | cons c blanks =>
    obtain ⟨hc, hblanks⟩ := List.forall_mem_cons.mp h
    have hnone := wordsOf_blank_append hblanks []
    rw [List.append_nil] at hnone
    rw [wordsOf_append hc, hnone]
    exact List.append_nil _

/-- A character that is not blank begins a word, or goes on with one. -/
theorem wordsOf_cons (hc : isBlank c = false) (s : List Char) : ∃ word more,
    wordsOf (c :: s) = (c :: word) :: more ∧
      ∀ d, isBlank d = false → wordsOf (d :: c :: s) = (d :: c :: word) :: more := by
  obtain ⟨piece, more, hs⟩ := List.exists_cons_of_ne_nil (splitOn_ne_nil isBlank s)
  refine ⟨piece, more.filter (· ≠ []), ?_, fun d hd => ?_⟩
  · rw [wordsOf, splitOn_cons hc hs]
    rfl
  · rw [wordsOf, splitOn_cons hd (splitOn_cons hc hs)]
    rfl

theorem wordsOf_singleton (hc : isBlank c = false) : wordsOf [c] = [[c]] := by
  rw [wordsOf, splitOn_cons hc rfl]
  rfl

theorem wordsOf_trim (s : List Char) : wordsOf (trim s) = wordsOf s := by
  have hstart : s.takeWhile isBlank ++ trimStart s = s := List.takeWhile_append_dropWhile
  obtain ⟨blanks, hblanks, hend⟩ := exists_trimEnd_append (trimStart s)
  calc wordsOf (trim s) = wordsOf (trim s ++ blanks) := (wordsOf_append_blank hblanks _).symm
    _ = wordsOf (trimStart s) := by rw [trim, hend]
    _ = wordsOf (s.takeWhile isBlank ++ trimStart s) :=
      (wordsOf_blank_append (fun _ => List.mem_takeWhile_imp) _).symm
    _ = wordsOf s := by rw [hstart]

/-- A word of one character in front of blanks and a word. -/
theorem wordsOf_gap (hc : isBlank c = false) (hne : blanks ≠ [])
    (h : ∀ c ∈ blanks, isBlank c = true) (s : List Char) :
    wordsOf (c :: (blanks ++ s)) = [c] :: wordsOf s := by
  obtain ⟨b, blanks, rfl⟩ := List.exists_cons_of_ne_nil hne
  obtain ⟨hb, hblanks⟩ := List.forall_mem_cons.mp h
  have hsplit := wordsOf_append hb [c] (blanks ++ s)
  rwa [wordsOf_singleton hc, wordsOf_blank_append hblanks] at hsplit

theorem blank_kept (h : ∀ c ∈ blanks, isBlank c = true) : ∀ c ∈ kept blanks, isBlank c = true := by
  rw [kept]
  split
  · simp
  · exact h

/-- Squeezing makes no words, and it keeps them all exactly if `broken` does not hold. -/
structure Squeezed (front behind : List Char) (broken : Prop) : Prop where
  length_le : (wordsOf behind).length ≤ (wordsOf front).length
  eq_iff : wordsOf behind = wordsOf front ↔ ¬ broken

variable {d : Char} {front behind : List Char} {broken : Prop}

theorem Squeezed.letter (h : Squeezed (d :: front) (d :: behind) broken) (hc : isBlank c = false)
    (hd : isBlank d = false) : Squeezed (c :: d :: front) (c :: d :: behind) broken := by
  obtain ⟨word, more, hfront, hfront'⟩ := wordsOf_cons hd front
  obtain ⟨word', more', hbehind, hbehind'⟩ := wordsOf_cons hd behind
  have hle := h.length_le
  have hiff := h.eq_iff
  rw [hfront, hbehind] at hle hiff
  rw [List.cons.injEq, List.cons.injEq] at hiff
  constructor
  · rwa [hfront' c hc, hbehind' c hc]
  · rw [hfront' c hc, hbehind' c hc, ← hiff]
    simp

theorem Squeezed.gap (h : Squeezed front behind broken) (hc : isBlank c = false)
    (hne : blanks ≠ []) (hblanks : ∀ c ∈ blanks, isBlank c = true) :
    Squeezed (c :: (blanks ++ front)) (c :: (blanks ++ behind)) broken := by
  constructor
  · rw [wordsOf_gap hc hne hblanks, wordsOf_gap hc hne hblanks]
    exact Nat.succ_le_succ h.length_le
  · rw [wordsOf_gap hc hne hblanks, wordsOf_gap hc hne hblanks, List.cons_inj_right, h.eq_iff]

/-- Without the blanks between them two words are one. -/
theorem Squeezed.join (h : Squeezed (d :: front) (d :: behind) broken) (hc : isBlank c = false)
    (hd : isBlank d = false) (hne : blanks ≠ []) (hblanks : ∀ c ∈ blanks, isBlank c = true) :
    Squeezed (c :: (blanks ++ d :: front)) (c :: d :: behind) True := by
  obtain ⟨word, more, hbehind, hbehind'⟩ := wordsOf_cons hd behind
  have hle := h.length_le
  have hlt : (wordsOf (c :: d :: behind)).length <
      (wordsOf (c :: (blanks ++ d :: front))).length := by
    rw [hbehind, List.length_cons] at hle
    rw [hbehind' c hc, wordsOf_gap hc hne hblanks, List.length_cons, List.length_cons]
    omega
  refine ⟨hlt.le, ?_⟩
  rw [not_true_eq_false, iff_false]
  exact fun heq => hlt.ne (congrArg List.length heq)

/-- Behind a character of a word, the words stay if no line ends in front of another one. -/
theorem squeezed_cons (hc : isBlank c = false) (hpending : ∀ c ∈ pending, isBlank c = true)
    (s : List Char) :
    Squeezed (c :: (pending ++ s)) (c :: squeeze pending s) ('\n' ∈ trimEnd (pending ++ s)) := by
  induction s generalizing c pending with
  | nil =>
    have htrim : trimEnd ([] ++ pending) = [] := trimEnd_append_blank hpending []
    have hwords : wordsOf ([c] ++ kept pending) = wordsOf ([c] ++ pending) := by
      rw [wordsOf_append_blank (blank_kept hpending), wordsOf_append_blank hpending]
    rw [List.append_nil, squeeze, ← List.nil_append pending, htrim]
    exact ⟨(congrArg List.length hwords).le, by simpa using hwords⟩
  | cons d s ih =>
    cases hd : isBlank d
    · have hrest := ih hd (List.forall_mem_nil _)
      have hd' : '\n' ≠ d := fun he => absurd hd (he ▸ by decide)
      rw [squeeze_cons hd, trimEnd_append_cons hd, kept]
      by_cases hbreak : '\n' ∈ pending
      · have hjoin := hrest.join hc hd (List.ne_nil_of_mem hbreak) hpending
        simpa [hbreak] using hjoin
      · rcases eq_or_ne pending [] with rfl | hne
        · simpa [hd'] using hrest.letter hc hd
        · simpa [hbreak, hd'] using hrest.gap hc hne hpending
    · have happ : pending ++ d :: s = pending ++ [d] ++ s := List.append_cons pending d s
      rw [squeeze_blank hd, happ]
      exact ih hc (blank_concat hpending hd)

theorem squeezed (hpending : ∀ c ∈ pending, isBlank c = true) (s : List Char) :
    Squeezed s (squeeze pending s) ('\n' ∈ trim s) := by
  induction s generalizing pending with
  | nil =>
    have hwords := wordsOf_blank_append (blank_kept hpending) []
    rw [List.append_nil] at hwords
    exact ⟨(congrArg List.length hwords).le,
      by simpa [squeeze, trim, trimStart, trimEnd] using hwords⟩
  | cons c s ih =>
    cases hc : isBlank c
    · have hrest := squeezed_cons hc (List.forall_mem_nil _) s
      have hc' : '\n' ≠ c := fun he => absurd hc (he ▸ by decide)
      have htrim : trim (c :: s) = c :: trimEnd s := trim_append_cons hc [] s
      rw [squeeze_cons hc, htrim]
      constructor
      · rw [wordsOf_blank_append (blank_kept hpending)]
        exact hrest.length_le
      · rw [wordsOf_blank_append (blank_kept hpending)]
        simpa [hc'] using hrest.eq_iff
    · have hblank : ∀ d ∈ [c], isBlank d = true := by simpa using hc
      have htrim : trim (c :: s) = trim s := by
        rw [trim, ← List.singleton_append, trimStart_append_blank hblank, trim]
      have hwords : wordsOf (c :: s) = wordsOf s := wordsOf_blank_append hblank s
      obtain ⟨hle, hiff⟩ := ih (blank_concat hpending hc)
      rw [squeeze_blank hc, htrim]
      exact ⟨hwords ▸ hle, hwords ▸ hiff⟩

/-- The letters of the words are the characters that are not blank. -/
theorem flatten_wordsOf (s : List Char) : (wordsOf s).flatten = s.filter (!isBlank ·) := by
  have hsplit : (splitOn isBlank s).flatten = s.filter (!isBlank ·) := by
    induction s with
    | nil => rfl
    | cons c s ih =>
      obtain ⟨piece, more, hs⟩ := List.exists_cons_of_ne_nil (splitOn_ne_nil isBlank s)
      cases hc : isBlank c
      · rw [splitOn_cons hc hs, List.filter_cons_of_pos (by simp [hc]), ← ih, hs,
          List.flatten_cons, List.cons_append, List.flatten_cons]
      · rw [splitOn, if_pos hc, List.filter_cons_of_neg (by simp [hc]), ← ih, List.flatten_cons,
          List.nil_append]
  rw [wordsOf, ← hsplit]
  exact List.flatten_filter_ne_nil

theorem filter_squeeze (hpending : ∀ c ∈ pending, isBlank c = true) (s : List Char) :
    (squeeze pending s).filter (!isBlank ·) = s.filter (!isBlank ·) := by
  have hkept : ∀ {blanks : List Char}, (∀ c ∈ blanks, isBlank c = true) →
      (kept blanks).filter (!isBlank ·) = [] := fun h =>
    List.filter_eq_nil_iff.mpr fun c hc => by simp [blank_kept h c hc]
  induction s generalizing pending with
  | nil => exact hkept hpending
  | cons c s ih =>
    cases hc : isBlank c
    · rw [squeeze_cons hc, List.filter_append, hkept hpending, List.nil_append,
        List.filter_cons, ih (by simp), List.filter_cons]
    · rw [squeeze_blank hc, ih (blank_concat hpending hc), List.filter_cons_of_neg (by simp [hc])]

end Words

theorem words_newlines (cs : List Char) : words ('\n' :: (cs ++ ['\n'])) = words cs := by
  have hwords : ∀ cs, words cs = ((characterData cs).map trim).flatMap wordsOf := fun cs => by
    rw [words, List.flatMap_map]
    exact List.flatMap_congr fun s _ => (wordsOf_trim s).symm
  rw [hwords, trim_characterData_newlines, ← hwords]

/-- Compact XML has the letters of the words in their order. It has the same words exactly if no
line ends between two words that stand between the same tags. -/
theorem words_compact_iff [Toolkit] (text : String) :
    (words (compact .xml text).toList).flatten = (words text.toList).flatten ∧
    (words (compact .xml text).toList = words text.toList ↔
      ∀ s ∈ characterData text.toList, '\n' ∉ trim s) := by
  have hcompact : (compact .xml text).toList = squeeze [] ('\n' :: (text.toList ++ ['\n'])) := by
    rw [compact, String.toList_ofList, compactXml_eq_squeeze, squeeze_blank rfl, List.nil_append]
  have hblank : ∀ c ∈ ([] : List Char), isBlank c = true := by simp
  rw [← words_newlines text.toList, hcompact, words, characterData_squeeze, List.flatMap_map, words]
  constructor
  · rw [← List.flatMap_id, List.flatMap_assoc, ← List.flatMap_id, List.flatMap_assoc]
    refine List.flatMap_congr fun s _ => ?_
    rw [List.flatMap_id, flatten_wordsOf, filter_squeeze hblank, List.flatMap_id, flatten_wordsOf]
  · rw [flatMap_eq_iff fun s _ => (squeezed hblank s).length_le]
    calc (∀ s ∈ characterData ('\n' :: (text.toList ++ ['\n'])), wordsOf (squeeze [] s) = wordsOf s)
        ↔ ∀ s ∈ characterData ('\n' :: (text.toList ++ ['\n'])), '\n' ∉ trim s :=
          forall₂_congr fun s _ => (squeezed hblank s).eq_iff
      _ ↔ ∀ s ∈ (characterData ('\n' :: (text.toList ++ ['\n']))).map trim, '\n' ∉ s :=
          by rw [List.forall_mem_map]
      _ ↔ ∀ s ∈ characterData text.toList, '\n' ∉ trim s := by
          rw [trim_characterData_newlines, List.forall_mem_map]

/-- A line break between two words goes, and they are one. -/
theorem wrapped_words_join :
    compact .xml "<p>one\ntwo</p>" = "<p>onetwo</p>" ∧
      words "<p>one\ntwo</p>".toList = ["one".toList, "two".toList] ∧
      words (compact .xml "<p>one\ntwo</p>").toList = ["onetwo".toList] := by
  decide

example : ∀ s ∈ characterData "<feed>\n\n  <entry>Hello</entry>\n</feed>".toList,
    '\n' ∉ trim s := by
  decide

end LayeredSite.Markup
