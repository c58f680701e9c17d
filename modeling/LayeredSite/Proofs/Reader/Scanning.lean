import LayeredSite.Proofs.Reader.Grammar

namespace LayeredSite.Token

open Grammar

def Scan.Finds (s : Scan) (ls : List Lexeme) : Prop :=
  s.fault = none ∧ s.tokens.map Token.lexeme = ls

theorem Scan.Finds.push {s : Scan} {ls : List Lexeme} (h : s.Finds ls) (t : Token) :
    (s.push t).Finds (t.lexeme :: ls) := by
  obtain ⟨hf, hl⟩ := h
  exact ⟨hf, by rw [Scan.push, List.map_cons, hl]⟩

theorem begin_blank {c : Char} (h : Text.isBlank c = true) (p : Position) :
    begin p c = (none, .between) := by
  unfold begin
  split <;> first | rfl | exact absurd h (by decide) | rw [if_pos h]

theorem begin_atom {c : Char} (h : isDelimiter c = false) (hc : c ≠ ':') (p : Position) :
    begin p c = (none, .atom p [c]) := by
  have hblank : Text.isBlank c = false := by
    simp only [isDelimiter, Bool.or_eq_false_iff] at h
    exact h.1.1.1.1.1.1.1.1.1
  unfold begin
  split <;> first | exact absurd h (by decide) | exact absurd rfl hc | simp [hblank]

theorem begin_opener (b : Bracket) (p : Position) :
    begin p b.opening = (some ⟨p, .opener b⟩, .between) := by
  cases b <;> rfl

theorem begin_closer (b : Bracket) (p : Position) :
    begin p b.closing = (some ⟨p, .closer b⟩, .between) := by
  cases b <;> rfl

section
variable {start p : Position} {reversed : List Char}

theorem scanFrom_silent {c : Char} {mode mode' : Mode} (h : step p c mode = .ok ([], mode'))
    (rest : List Char) : scanFrom mode p (c :: rest) = scanFrom mode' (p.after c) rest := by
  simp [scanFrom, h]

theorem scanFrom_token {c : Char} {mode mode' : Mode} {t : Token}
    (h : step p c mode = .ok ([t], mode')) (rest : List Char) :
    scanFrom mode p (c :: rest) = (scanFrom mode' (p.after c) rest).push t := by
  simp [scanFrom, h, Scan.push]

/-- At its end an atom is one more token in front of the rest. -/
theorem scanFrom_atom_end {rest : List Char} (h : AtEnd rest) :
    scanFrom (.atom start reversed) p rest =
      (scanFrom .between p rest).push (atomToken start reversed) := by
  cases rest with
  | nil => rfl
  | cons c rest =>
    have hc := h c rfl
    simp only [scanFrom, step, hc, if_true]
    rfl

theorem scanFrom_keyword_end {rest : List Char} (h : AtEnd rest) (hr : reversed ≠ []) :
    scanFrom (.keyword start reversed) p rest =
      (scanFrom .between p rest).push (keywordToken start reversed) := by
  have he : reversed.isEmpty = false := List.isEmpty_eq_false_iff.mpr hr
  cases rest with
  | nil => simp [scanFrom, finish, he, Scan.push]
  | cons c rest =>
    have hc := h c rfl
    simp only [scanFrom, step, hc, if_true, he]
    rfl

/-- A mode that only gathers characters goes through all of them. -/
theorem scanFrom_run {gather : List Char → Mode} {ok : Char → Prop}
    (hstep : ∀ p c r, ok c → step p c (gather r) = .ok ([], gather (c :: r))) {cs : List Char}
    (hc : ∀ c ∈ cs, ok c) (reversed : List Char) (p : Position) (rest : List Char) :
    scanFrom (gather reversed) p (cs ++ rest) =
      scanFrom (gather (cs.reverse ++ reversed)) (cs.foldl Position.after p) rest := by
  induction cs generalizing reversed p with
  | nil => rfl
  | cons c cs ih =>
    obtain ⟨hfirst, hothers⟩ := List.forall_mem_cons.mp hc
    rw [List.cons_append, scanFrom_silent (hstep p c reversed hfirst),
      ih hothers (c :: reversed) (p.after c), List.reverse_cons, List.append_assoc,
      List.singleton_append, List.foldl_cons]

theorem scanFrom_comment {body : List Char} (hb : '\n' ∉ body) (p : Position)
    (rest : List Char) :
    ∃ q, scanFrom .comment p (body ++ rest) = scanFrom .comment q rest := by
  have hstep (p : Position) (c : Char) (_ : List Char) (hc : c ≠ '\n') :
      step p c .comment = .ok ([], .comment) := by
    rw [step, if_neg hc]
  have hall : ∀ c ∈ body, c ≠ '\n' := fun c hc he => hb (he ▸ hc)
  exact ⟨_, scanFrom_run hstep hall [] p rest⟩

theorem finds_comment {body rest : List Char} {ls : List Lexeme} (hb : '\n' ∉ body)
    (h : ∀ p, (scanFrom .between p rest).Finds ls) (p : Position) :
    (scanFrom .comment p (body ++ '\n' :: rest)).Finds ls := by
  obtain ⟨q, hq⟩ := scanFrom_comment hb p ('\n' :: rest)
  have hstep : step q '\n' .comment = .ok ([], .between) := rfl
  rw [hq, scanFrom_silent hstep]
  exact h _

theorem finds_last_comment {body : List Char} (hb : '\n' ∉ body) (p : Position) :
    (scanFrom .comment p body).Finds [] := by
  obtain ⟨q, hq⟩ := scanFrom_comment hb p []
  rw [List.append_nil] at hq
  rw [hq]
  exact ⟨rfl, rfl⟩

theorem finds_trivia {t rest : List Char} {ls : List Lexeme} (ht : Trivia t)
    (h : ∀ p, (scanFrom .between p rest).Finds ls) (p : Position) :
    (scanFrom .between p (t ++ rest)).Finds ls := by
  induction ht generalizing p with
  | nil => exact h p
  | @blank c cs hc _ ih =>
    have hstep : step p c .between = .ok ([], .between) := by
      rcases hc with hc | rfl
      · simp [step, begin_blank hc]
      · rfl
    rw [List.cons_append, scanFrom_silent hstep]
    exact ih _
  | @comment body cs hb _ ih =>
    have hshift : (';' :: body ++ '\n' :: cs) ++ rest = ';' :: (body ++ '\n' :: (cs ++ rest)) := by
      simp
    have hstep : step p ';' .between = .ok ([], .comment) := rfl
    rw [hshift, scanFrom_silent hstep]
    exact finds_comment hb ih _

theorem scanFrom_plain {c : Char} (hq : c ≠ '"') (hb : c ≠ '\\') (rest : List Char) :
    scanFrom (.string start reversed) p (c :: rest) =
      scanFrom (.string start (c :: reversed)) (p.after c) rest :=
  scanFrom_silent (by rw [step, if_neg hq, if_neg hb]) rest

theorem scanFrom_escape {c d : Char} (h : unescape? c = some d) (rest : List Char) :
    scanFrom (.string start reversed) p ('\\' :: c :: rest) =
      scanFrom (.string start (d :: reversed)) ((p.after '\\').after c) rest := by
  have hslash : step p '\\' (.string start reversed) = .ok ([], .escape start p reversed) := rfl
  have hescape : step (p.after '\\') c (.escape start p reversed) =
      .ok ([], .string start (d :: reversed)) := by
    rw [step]
    simp only [h]
  rw [scanFrom_silent hslash, scanFrom_silent hescape]

theorem finds_string {s w rest : List Char} {ls : List Lexeme} (hs : StringBody s w)
    (h : ∀ p, (scanFrom .between p rest).Finds ls) (p : Position) (reversed : List Char) :
    (scanFrom (.string start reversed) p (w ++ '"' :: rest)).Finds
      (.leaf (.literal (.str (String.ofList (reversed.reverse ++ s)))) :: ls) := by
  have hshift (d : Char) (reversed s : List Char) :
      reversed.reverse ++ d :: s = (d :: reversed).reverse ++ s := by simp
  -- Along the body: what is written for a character puts this character on what was read.
  induction hs generalizing p reversed with
  | nil =>
    have hstep : step p '"' (.string start reversed) =
      .ok ([stringToken start reversed], .between) := rfl
    rw [List.nil_append, scanFrom_token hstep, List.append_nil]
    exact (h _).push _
  | quote _ ih =>
    rw [List.cons_append, List.cons_append, scanFrom_escape rfl, hshift]
    exact ih _ _
  | backslash _ ih =>
    rw [List.cons_append, List.cons_append, scanFrom_escape rfl, hshift]
    exact ih _ _
  | newline _ ih =>
    rw [List.cons_append, List.cons_append, scanFrom_escape rfl, hshift]
    exact ih _ _
  | tab _ ih =>
    rw [List.cons_append, List.cons_append, scanFrom_escape rfl, hshift]
    exact ih _ _
  | plain hq hb _ ih =>
    rw [List.cons_append, scanFrom_plain hq hb, hshift]
    exact ih _ _

theorem finds_atom {cs rest : List Char} {ls : List Lexeme} (hc : NoDelimiter cs)
    (hend : AtEnd rest) (h : ∀ p, (scanFrom .between p rest).Finds ls) (p : Position)
    (reversed : List Char) :
    (scanFrom (.atom start reversed) p (cs ++ rest)).Finds
      (.leaf (.ofSpelling (reversed.reverse ++ cs)) :: ls) := by
  have hstep (p : Position) (c : Char) (r : List Char) (hc : isDelimiter c = false) :
      step p c (.atom start r) = .ok ([], .atom start (c :: r)) := by
    simp [step, hc]
  have hspelling : reversed.reverse ++ cs = (cs.reverse ++ reversed).reverse := by simp
  rw [scanFrom_run hstep hc, scanFrom_atom_end hend, hspelling]
  exact (h _).push _

theorem finds_keyword {cs rest : List Char} {ls : List Lexeme} (hc : NoDelimiter cs)
    (hend : AtEnd rest) (h : ∀ p, (scanFrom .between p rest).Finds ls) (p : Position)
    (hne : cs ≠ []) :
    (scanFrom (.keyword start []) p (cs ++ rest)).Finds
      (.leaf (.literal (.keyword (String.ofList cs))) :: ls) := by
  have hstep (p : Position) (c : Char) (r : List Char) (hc : isDelimiter c = false) :
      step p c (.keyword start r) = .ok ([], .keyword start (c :: r)) := by
    simp [step, hc]
  have hr : cs.reverse ++ [] ≠ [] := by simpa using hne
  have hname : cs = (cs.reverse ++ []).reverse := by simp
  rw [scanFrom_run hstep hc, scanFrom_keyword_end hend hr]
  nth_rewrite 3 [hname]
  exact (h _).push _

theorem finds_spelling {l : Lexeme} {spelling rest : List Char} {ls : List Lexeme}
    (hs : Spells l spelling) (hend : lasts l = true → AtEnd rest)
    (h : ∀ p, (scanFrom .between p rest).Finds ls) (p : Position) :
    (scanFrom .between p (spelling ++ rest)).Finds (l :: ls) := by
  cases hs with
  | opener b =>
    have hstep : step p b.opening .between = .ok ([⟨p, .opener b⟩], .between) := by
      simp [step, begin_opener]
    rw [List.singleton_append, scanFrom_token hstep]
    exact (h _).push _
  | closer b =>
    have hstep : step p b.closing .between = .ok ([⟨p, .closer b⟩], .between) := by
      simp [step, begin_closer]
    rw [List.singleton_append, scanFrom_token hstep]
    exact (h _).push _
  | @string s w hw =>
    have hstep : step p '"' .between = .ok ([], .string p []) := rfl
    have hshift : ('"' :: w ++ ['"']) ++ rest = '"' :: (w ++ '"' :: rest) := by simp
    rw [hshift, scanFrom_silent hstep]
    exact finds_string hw h _ []
  | @keyword name hne hname =>
    have hstep : step p ':' .between = .ok ([], .keyword p []) := rfl
    rw [List.cons_append, scanFrom_silent hstep]
    exact finds_keyword hname (hend rfl) h _ hne
  | @atom cs l hne hcs hcolon hden =>
    obtain ⟨c, cs, rfl⟩ := List.exists_cons_of_ne_nil hne
    have hc : c ≠ ':' := fun he => hcolon (he ▸ rfl)
    have hstep : step p c .between = .ok ([], .atom p [c]) := by
      simp [step, begin_atom (hcs c List.mem_cons_self) hc]
    have hlast : lasts (.leaf l) = true := by
      cases hden <;> rfl
    rw [List.cons_append, scanFrom_silent hstep, ← Spelling.ofSpelling_of_denotes hden]
    exact finds_atom (fun d hd => hcs d (List.mem_cons_of_mem _ hd)) (hend hlast) h _ [c]

/-- What is written is found. -/
theorem finds_of_written {ls : List Lexeme} {cs : List Char} (h : Written ls cs) (p : Position) :
    (scanFrom .between p cs).Finds ls := by
  induction h generalizing p with
  | done hl =>
    rcases hl with hl | ⟨front, body, hf, hb, rfl⟩
    · have hfinds := finds_trivia hl (fun q => (⟨rfl, rfl⟩ : (scanFrom .between q []).Finds [])) p
      rwa [List.append_nil] at hfinds
    -- The last comment may lack the newline that ends it.
    · refine finds_trivia hf (fun q => ?_) p
      have hstep : step q ';' .between = .ok ([], .comment) := rfl
      rw [scanFrom_silent hstep]
      exact finds_last_comment hb _
  | lexeme ht hs hend _ ih =>
    exact finds_trivia ht (finds_spelling hs hend ih) p

end

end LayeredSite.Token
