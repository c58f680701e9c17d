import LayeredSite.Proofs.Reader.Descent
import LayeredSite.Proofs.Reader.Places

namespace LayeredSite.Form

open Cursor Grammar Position Token

variable {call : Call} {opener : Option (Bracket × Position)} {c d : Cursor}
  {r : Except ReadError (List Form)}

/-- What the reader makes of the rest of a text, behind forms and in open brackets. -/
def readOn (c : Cursor) (level : List Form) (outer : List Frame) : Except ReadError (List Form) :=
  assemble (scan c.position c.rest).fault level outer (scan c.position c.rest).tokens

/-- Skipping is what the scanner does in a comment and between tokens. -/
theorem scanFrom_skip (p : Position) (cs : List Char) :
    scanFrom .comment p cs = scan (skip true p cs).position (skip true p cs).rest ∧
      scanFrom .between p cs = scan (skip false p cs).position (skip false p cs).rest := by
  induction cs generalizing p with
  | nil => exact ⟨rfl, rfl⟩
  | cons c rest ih =>
    obtain ⟨hcomment, hbetween⟩ := ih (p.after c)
    constructor
    · by_cases hc : c = '\n'
      · subst hc
        exact (scanFrom_silent rfl rest).trans hbetween
      · rw [skip, if_pos ⟨rfl, hc⟩]
        exact (scanFrom_silent (by simp [step, hc]) rest).trans hcomment
    · rw [skip, if_neg fun h => absurd h.1 Bool.false_ne_true]
      split
      · rename_i hc
        subst hc
        exact (scanFrom_silent rfl rest).trans hcomment
      · split
        · rename_i hblank
          refine (scanFrom_silent ?_ rest).trans hbetween
          rcases hblank with hblank | rfl
          · simp [step, begin_blank hblank]
          · rfl
        · rfl

theorem readOn_trimmed (c : Cursor) (level : List Form) (outer : List Frame) :
    readOn c.trimmed level outer = readOn c level outer := by
  have hscan : scan c.position c.rest = scan c.trimmed.position c.trimmed.rest :=
    (scanFrom_skip c.position c.rest).2
  rw [readOn, ← hscan, readOn]

theorem readOn_of_scan {p : Position} {cs : List Char} {t : Token}
    (h : scan p cs = (scan d.position d.rest).push t) (level : List Form) (outer : List Frame) :
    readOn ⟨p, cs⟩ level outer =
      assemble (scan d.position d.rest).fault level outer
        (t :: (scan d.position d.rest).tokens) := by
  rw [readOn, h]
  rfl

theorem readOn_of_fault {p : Position} {cs : List Char} {e : ReadError}
    (h : scan p cs = ⟨[], some e⟩) (level : List Form) (outer : List Frame) :
    readOn ⟨p, cs⟩ level outer = .error e := by
  rw [readOn, h]
  rfl

theorem readOn_of_leaf {p : Position} {cs : List Char} {l : Leaf}
    (h : scan p cs = (scan d.position d.rest).push ⟨p, .leaf l⟩) (level : List Form)
    (outer : List Frame) : readOn ⟨p, cs⟩ level outer = readOn d (l.toForm p :: level) outer :=
  readOn_of_scan h level outer

theorem scan_bracket {p : Position} {x : Char} {t : Token} (h : begin p x = (some t, .between))
    (rest : List Char) : scan p (x :: rest) = (scan (p.after x) rest).push t :=
  scanFrom_token (by simp [step, h]) rest

/-- A string is one token, or the text has a fault in it. -/
theorem scanFrom_string (start : Position) (reversed : List Char) (p : Position) (cs : List Char) :
    scanFrom (.string start reversed) p cs = match Cursor.string start reversed p cs with
      | (.error e, _) => ⟨[], some e⟩
      | (.ok l, d) => (scan d.position d.rest).push ⟨start, .leaf l⟩ := by
  fun_induction Cursor.string start reversed p cs with
  | case1 => rfl
  | case2 => rfl
  | case3 reversed p c rest d hd ih => rw [scanFrom_escape hd, ih]
  | case4 reversed p c rest hnone => simp [scanFrom, step, hnone]
  | case5 => exact scanFrom_token rfl _
  | case6 =>
    rename_i c rest hslash hlast hquote ih
    have hplain : c ≠ '\\' := by
      rintro rfl
      cases rest with
      | nil => exact hslash rfl rfl
      | cons d rest => exact hlast d rest rfl rfl
    rw [scanFrom_plain hquote hplain, ih]

theorem atEnd_dropWhile (cs : List Char) : AtEnd (cs.dropWhile (!isDelimiter ·)) := by
  intro x hx
  have hhead := List.head?_dropWhile_not (!isDelimiter ·) cs
  rw [hx] at hhead
  simpa using hhead

theorem noDelimiter_name (cs : List Char) : NoDelimiter (name cs) := fun x hx => by
  simpa using List.all_eq_true.mp List.all_takeWhile x hx

/-- A mode that gathers the characters of a name comes to its end. -/
theorem scanFrom_name (gather : List Char → Mode)
    (hstep : ∀ p c r, isDelimiter c = false → step p c (gather r) = .ok ([], gather (c :: r)))
    (reversed : List Char) (p : Position) (cs : List Char) :
    scanFrom (gather reversed) p cs =
      scanFrom (gather ((name cs).reverse ++ reversed)) (behindName p cs).position
        (behindName p cs).rest := by
  rw [behindName, Position.advance, ← scanFrom_run hstep (noDelimiter_name cs), name,
    List.takeWhile_append_dropWhile]

theorem scan_keyword (p : Position) (rest : List Char) :
    scan p (':' :: rest) = if name rest = [] then ⟨[], some ⟨p, .emptyKeyword⟩⟩
      else (scan (behindName (p.after ':') rest).position (behindName (p.after ':') rest).rest).push
        ⟨p, .leaf (.literal (.keyword (String.ofList (name rest))))⟩ := by
  have hbegin : scan p (':' :: rest) = scanFrom (.keyword p []) (p.after ':') rest :=
    scanFrom_silent rfl rest
  have hend := atEnd_dropWhile rest
  rw [hbegin, scanFrom_name (.keyword p) (fun _ _ _ hc => by simp [step, hc])]
  split
  · rename_i hempty
    rw [hempty, behindName, hempty]
    cases hdrop : rest.dropWhile (!isDelimiter ·) with
    | nil => rfl
    | cons x more => simp [scanFrom, step, hend x (by rw [hdrop]; rfl)]
  · rename_i hne
    rw [behindName, scanFrom_keyword_end hend (by simpa using hne), keywordToken, scan]
    simp

theorem scan_atom {p : Position} {x : Char} (h : isDelimiter x = false) (hcolon : x ≠ ':')
    (rest : List Char) : scan p (x :: rest) =
      (scan (behindName p (x :: rest)).position (behindName p (x :: rest)).rest).push
        ⟨p, .leaf (.ofSpelling (name (x :: rest)))⟩ := by
  have hbegin : scan p (x :: rest) = scanFrom (.atom p [x]) (p.after x) rest :=
    scanFrom_silent (by simp [step, begin_atom h hcolon]) rest
  have hname : name (x :: rest) = x :: name rest := by simp [name, h]
  have hdrop : (x :: rest).dropWhile (!isDelimiter ·) = rest.dropWhile (!isDelimiter ·) := by
    simp [h]
  rw [hbegin, scanFrom_name (.atom p) (fun _ _ _ hc => by simp [step, hc]), behindName,
    scanFrom_atom_end (atEnd_dropWhile rest), atomToken, behindName, hname, hdrop]
  simp [scan, Position.advance]

def opener? (outer : List Frame) : Option (Bracket × Position) :=
  outer.head?.map fun frame => (frame.bracket, frame.position)

def leave (outer : List Frame) (items : List Form) (d : Cursor) : Except ReadError (List Form) :=
  match outer with
  | [] => .ok items
  | frame :: outer => do
    let form ← enclose frame.bracket frame.position items
    readOn d (form :: frame.before) outer

/-- From what a call reads and where it stops the reader goes on as it would from its beginning. -/
def Call.Agrees : Call → Cursor → Except ReadError (List Form) → Cursor → Prop
  | .form, c, r, d => c.Solid → ∀ level outer, Asks (opener? outer) c →
    readOn c level outer = r.bind fun forms => readOn d (forms.reverse ++ level) outer
  | .forms opener, c, r, d => ∀ level outer, opener? outer = opener →
    readOn c level outer = r.bind fun items => leave outer (level.reverse ++ items) d

theorem readOn_opening (b : Bracket) (p : Position) (rest : List Char) (level : List Form)
    (outer : List Frame) : readOn ⟨p, b.opening :: rest⟩ level outer =
      readOn ⟨p.after b.opening, rest⟩ [] (⟨b, p, level⟩ :: outer) :=
  readOn_of_scan (d := ⟨p.after b.opening, rest⟩) (scan_bracket (begin_opener b p) rest) level outer

theorem readOn_closing (b : Bracket) (p : Position) (rest : List Char) (level : List Form)
    (outer : List Frame) : readOn ⟨p, b.closing :: rest⟩ level outer =
      if (opener? outer).map Prod.fst = some b then
        leave outer level.reverse ⟨p.after b.closing, rest⟩
      else .error ⟨p, .unexpected b⟩ := by
  have hscan := scan_bracket (begin_closer b p) rest
  rw [readOn_of_scan (d := ⟨p.after b.closing, rest⟩) hscan, assemble]
  cases outer with
  | nil => rfl
  | cons frame outer =>
    by_cases hb : frame.bracket = b
    · subst hb
      simp [opener?, leave, readOn]
    · simp [opener?, hb]

theorem Reads.agrees (h : Reads call c r d) : call.Agrees c r d := by
  induction h with
  | @bracketed b p rest r d _ ih =>
    intro _ level outer _
    rw [readOn_opening, ih [] (⟨b, p, level⟩ :: outer) rfl]
    cases r with
    | error e => rfl
    | ok items => cases he : enclose b p items <;> simp [Except.bind, Except.map, leave, he, bind]
  | @unexpected b p rest =>
    intro _ level outer hasks
    rw [readOn_closing, if_neg]
    · rfl
    · intro hclosing
      obtain ⟨⟨b', q⟩, hopener, rfl⟩ := Option.map_eq_some_iff.mp hclosing
      exact hasks.2 b' q hopener rfl
  | @string p rest =>
    intro _ level outer _
    have hscan : scan p ('"' :: rest) = scanFrom (.string p []) (p.after '"') rest :=
      scanFrom_silent rfl rest
    rw [scanFrom_string] at hscan
    generalize Cursor.string p [] (p.after '"') rest = read at hscan ⊢
    rcases read with ⟨e | l, d⟩
    · exact readOn_of_fault hscan level outer
    · exact readOn_of_leaf hscan level outer
  | @keyword p rest =>
    intro _ level outer _
    have hscan := scan_keyword p rest
    split at hscan
    · rename_i hempty
      rw [if_pos hempty]
      exact readOn_of_fault hscan level outer
    · rename_i hne
      rw [if_neg hne]
      exact readOn_of_leaf hscan level outer
  | @atom p x rest hbracket hquote hcolon =>
    intro hsolid level outer _
    have hname := hsolid.not_isDelimiter hbracket hquote
    exact readOn_of_leaf (scan_atom hname hcolon rest) level outer
  | @done c hrest =>
    intro level outer hopener
    obtain rfl : outer = [] := by simpa [opener?] using hopener
    rw [← readOn_trimmed, readOn, hrest]
    simp [scan, scanFrom, finish, assemble, Except.bind, leave]
  | @unclosed b p c hrest =>
    intro level outer hopener
    obtain ⟨frame, more, rfl⟩ := List.exists_cons_of_ne_nil
      (show outer ≠ [] from fun he => by simp [he, opener?] at hopener)
    obtain ⟨rfl, rfl⟩ := Prod.mk.inj (Option.some.inj hopener)
    rw [← readOn_trimmed, readOn, hrest]
    rfl
  | @closed b p c rest hrest =>
    intro level outer hopener
    have hcursor : c.trimmed = ⟨c.trimmed.position, b.closing :: rest⟩ := by rw [← hrest]
    rw [← readOn_trimmed, hcursor, readOn_closing, hopener, Option.map_some, if_pos rfl]
    simp [Except.bind]
  | @failed opener c d e hasks _ ih =>
    intro level outer hopener
    rw [← readOn_trimmed, ih (solid_trimmed c) level outer (hopener ▸ hasks)]
    rfl
  | @next opener c d d' f r hasks _ _ ihform ihrest =>
    intro level outer hopener
    rw [← readOn_trimmed, ihform (solid_trimmed c) level outer (hopener ▸ hasks)]
    refine (ihrest (f :: level) outer hopener).trans ?_
    cases r <;> simp [Except.bind, Except.map]

/-- However the whole text is read by descent, the outcome is the reader's. -/
theorem Reads.eq_readFrom {p : Position} {cs : List Char} (h : Reads (.forms none) ⟨p, cs⟩ r d) :
    r = readFrom p cs := by
  have hagrees : readOn ⟨p, cs⟩ [] [] = r.bind fun items => leave [] items d := h.agrees [] [] rfl
  rw [readFrom]
  refine Eq.trans ?_ hagrees.symm
  cases r <;> rfl

/-- A symbol is spelled as nothing else could be, and a keyword has a name. -/
def Legible : Form → Prop
  | .symbol _ name => name ≠ "" ∧ NoDelimiter name.toList ∧ name.toList.head? ≠ some ':' ∧
      name ≠ "nil" ∧ name ≠ "true" ∧ name ≠ "false" ∧ Number.parseInt64 name.toList = none
  | .literal _ (.keyword name) => name ≠ "" ∧ NoDelimiter name.toList
  | _ => True

mutual

theorem leaf_mem_lexemes {l : Leaf} {p : Position} : (f : Form) → l.toForm p ∈ subforms f →
    .leaf l ∈ lexemes f
  | .literal _ _, h => by
    have heq := List.mem_singleton.mp h
    cases l <;> cases heq
    exact List.mem_singleton_self _
  | .symbol _ _, h => by
    have heq := List.mem_singleton.mp h
    cases l <;> cases heq
    exact List.mem_singleton_self _
  | .call _ items, h => by
    rcases List.mem_cons.mp h with heq | h
    · cases l <;> cases heq
    · exact List.mem_cons_of_mem _ (List.mem_append_left _ (leaf_mem_lexemesAll items h))
  | .vector _ items, h => by
    rcases List.mem_cons.mp h with heq | h
    · cases l <;> cases heq
    · exact List.mem_cons_of_mem _ (List.mem_append_left _ (leaf_mem_lexemesAll items h))
  | .map _ pairs, h => by
    rcases List.mem_cons.mp h with heq | h
    · cases l <;> cases heq
    · exact List.mem_cons_of_mem _ (List.mem_append_left _ (leaf_mem_lexemesPairs pairs h))

theorem leaf_mem_lexemesAll {l : Leaf} {p : Position} : (forms : List Form) →
    l.toForm p ∈ subformsAll forms → .leaf l ∈ lexemesAll forms
  | [], h => absurd h List.not_mem_nil
  | f :: rest, h => by
    rcases List.mem_append.mp h with h | h
    · exact List.mem_append_left _ (leaf_mem_lexemes f h)
    · exact List.mem_append_right _ (leaf_mem_lexemesAll rest h)

theorem leaf_mem_lexemesPairs {l : Leaf} {p : Position} : (pairs : List (Form × Form)) →
    l.toForm p ∈ subformsPairs pairs → .leaf l ∈ lexemesPairs pairs
  | [], h => absurd h List.not_mem_nil
  | (k, v) :: rest, h => by
    rcases List.mem_append.mp h with h | h
    · exact List.mem_append_left _ (leaf_mem_lexemes k h)
    · rcases List.mem_append.mp h with h | h
      · exact List.mem_append_right _ (List.mem_append_left _ (leaf_mem_lexemes v h))
      · exact List.mem_append_right _ (List.mem_append_right _ (leaf_mem_lexemesPairs rest h))

end

theorem exists_spelling {ls : List Lexeme} {cs : List Char} (h : Written ls cs) {l : Lexeme}
    (hl : l ∈ ls) : ∃ spelling, Spells l spelling := by
  induction h with
  | done => exact absurd hl List.not_mem_nil
  | lexeme _ hs _ _ ih =>
    rcases List.mem_cons.mp hl with rfl | hl
    · exact ⟨_, hs⟩
    · exact ih hl

theorem legible_of_spells {l : Leaf} {spelling : List Char} (h : Spells (.leaf l) spelling)
    (p : Position) : (l.toForm p).Legible := by
  have hempty {cs : List Char} (hne : cs ≠ []) : String.ofList cs ≠ "" := by simpa using hne
  cases h with
  | string => trivial
  | @keyword name hne hname => exact ⟨hempty hne, by rwa [String.toList_ofList]⟩
  | atom hne hname hcolon hdenotes =>
    cases hdenotes with
    | symbol hint hfloat hnil htrue hfalse =>
      refine ⟨hempty hne, ?_, ?_, Spelling.ofList_ne hnil, Spelling.ofList_ne htrue,
        Spelling.ofList_ne hfalse, ?_⟩
      · rwa [String.toList_ofList]
      · rwa [String.toList_ofList]
      · rw [String.toList_ofList]
        exact Spelling.parseInt64_eq_none hint
    | _ => trivial

theorem legible_of_readFrom {p : Position} {cs : List Char} {forms : List Form}
    (h : readFrom p cs = .ok forms) : ∀ f ∈ subformsAll forms, f.Legible := by
  intro f hf
  have hleaf {l : Leaf} {q : Position} (hl : f = l.toForm q) : f.Legible := by
    subst hl
    obtain ⟨spelling, hs⟩ := exists_spelling (readFrom_eq_ok h) (leaf_mem_lexemesAll forms hf)
    exact legible_of_spells hs q
  cases f with
  | literal q l => exact hleaf (l := .literal l) rfl
  | symbol q name => exact hleaf (l := .symbol name) rfl
  | _ => trivial

/-- Reading always moves on. Every call for forms ends, wherever it begins, and it calls for a form
only where that fails or moves on over at least one character; no call goes back. So reading ends on
every text: in one way, with what the reader gives, and where that is forms, over all of the text.
Each symbol and keyword in these is spelled as nothing else could be. -/
theorem reading_moves_on (text : String) (n : ℕ) :
    (∀ opener c, (∃ r d, Reads (.forms opener) c r d) ∧
      (Asks opener c.trimmed → (∃ r d, Reads .form c.trimmed r d) ∧
        ∀ r d, Reads .form c.trimmed r d → ∃ taken, Over taken c.trimmed d ∧
          ((∃ e, r = .error e) ∨ (∃ f, r = .ok [f]) ∧ taken ≠ []))) ∧
    (∃ d taken, Reads (.forms none) ⟨⟨n, 1⟩, text.toList⟩ (readAll text n) d ∧
      Over taken ⟨⟨n, 1⟩, text.toList⟩ d ∧
      ∀ forms, readAll text n = .ok forms → taken = text.toList ∧
        ∀ f ∈ subformsAll forms, f.Legible) ∧
    ∀ r d, Reads (.forms none) ⟨⟨n, 1⟩, text.toList⟩ r d → r = readAll text n := by
  refine ⟨fun opener c => ⟨exists_reads_forms c opener, fun hasks => ⟨?_, fun r d h =>
    h.progress (solid_trimmed c)⟩⟩, ?_, fun r d h => h.eq_readFrom⟩
  · exact exists_reads_form hasks.1 fun d _ opener => exists_reads_forms d opener
  · obtain ⟨r, d, h⟩ := exists_reads_forms ⟨⟨n, 1⟩, text.toList⟩ none
    obtain rfl : r = readAll text n := h.eq_readFrom
    obtain ⟨taken, hover⟩ := h.exists_taken
    refine ⟨d, taken, h, hover, fun forms hok => ⟨?_, legible_of_readFrom hok⟩⟩
    have hrest := hover.rest
    rw [h.rest_eq_nil hok, List.append_nil] at hrest
    exact hrest.symm

end LayeredSite.Form
