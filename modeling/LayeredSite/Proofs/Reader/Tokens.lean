import LayeredSite.Proofs.Reader.Positions
import LayeredSite.Proofs.Reader.Scanning

namespace LayeredSite.Token

open Grammar Position

variable {place : List Char → Position} {before : List Char} {s : Scan}

inductive Faulty (place : List Char → Position) (before : List Char) :
    List Char → ReadError → Prop
  /-- The text ends in a string, perhaps in an escape. -/
  | unterminated {cs w last : List Char} : StringBody cs w → last = [] ∨ last = ['\\'] →
      Faulty place before ('"' :: (w ++ last)) ⟨place before, .unterminatedString⟩
  | unknownEscape {cs w rest : List Char} {c : Char} : StringBody cs w → unescape? c = none →
      Faulty place before ('"' :: (w ++ '\\' :: c :: rest))
        ⟨place (before ++ '"' :: w), .unknownEscape c⟩
  | emptyKeyword {rest : List Char} : AtEnd rest →
      Faulty place before (':' :: rest) ⟨place before, .emptyKeyword⟩

/-- What scanning a text finds in it, up to its end or to a faulty lexeme, behind other text. -/
inductive Scanned (place : List Char → Position) : List Char → List Char → Scan → Prop
  | done {before text : List Char} : LastTrivia text → Scanned place before text ⟨[], none⟩
  | lexeme {before trivia spelling rest : List Char} {l : Lexeme} {s : Scan} :
      Trivia trivia → Spells l spelling → (lasts l = true → AtEnd rest) →
      Scanned place (before ++ trivia ++ spelling) rest s →
      Scanned place before (trivia ++ (spelling ++ rest)) (s.push ⟨place (before ++ trivia), l⟩)
  | fault {before trivia text : List Char} {e : ReadError} : Trivia trivia →
      Faulty place (before ++ trivia) text e →
      Scanned place before (trivia ++ text) ⟨[], some e⟩

namespace Scanned

theorem first {l : Lexeme} {spelling rest : List Char} (hs : Spells l spelling)
    (hend : lasts l = true → AtEnd rest) (h : Scanned place (before ++ spelling) rest s) :
    Scanned place before (spelling ++ rest) (s.push ⟨place before, l⟩) := by
  have hfirst :
      Scanned place before ([] ++ (spelling ++ rest)) (s.push ⟨place (before ++ []), l⟩) :=
    .lexeme .nil hs hend (by rwa [List.append_nil])
  rwa [List.append_nil] at hfirst

theorem faulty {text : List Char} {e : ReadError} (he : Faulty place before text e) :
    Scanned place before text ⟨[], some e⟩ :=
  .fault .nil (by rwa [List.append_nil])

/-- More trivia may be put in front of a scanned text. -/
theorem trivia {t rest : List Char} (ht : Trivia t) (h : Scanned place (before ++ t) rest s) :
    Scanned place before (t ++ rest) s := by
  cases h with
  | done hlast =>
    rcases hlast with hlast | ⟨front, body, hfront, hbody, rfl⟩
    · exact .done (.inl (ht.append hlast))
    · exact .done (.inr ⟨t ++ front, body, ht.append hfront, hbody, by simp⟩)
  | lexeme ht' hs hend hrest =>
    rw [List.append_assoc before] at hrest ⊢
    rw [← List.append_assoc t]
    exact .lexeme (ht.append ht') hs hend hrest
  | fault ht' he =>
    rw [List.append_assoc before] at he
    rw [← List.append_assoc t]
    exact .fault (ht.append ht') he

/-- A text that is scanned without a fault is the lexemes of the tokens in writing. -/
theorem written {text : List Char} (h : Scanned place before text s) (hf : s.fault = none) :
    Written (s.tokens.map Token.lexeme) text := by
  induction h with
  | done hlast => exact .done hlast
  | lexeme ht hs hend _ ih => exact .lexeme ht hs hend (ih hf)
  | fault ht he => cases hf

end Scanned

/-- The text that a mode has read since the last lexeme ended, and where it began. -/
inductive Pending (place : List Char → Position) (before : List Char) : Mode → List Char → Prop
  | between : Pending place before .between []
  | comment {body : List Char} : '\n' ∉ body → Pending place before .comment (';' :: body)
  | string {reversed w : List Char} : StringBody reversed.reverse w →
      Pending place before (.string (place before) reversed) ('"' :: w)
  | escape {reversed w : List Char} : StringBody reversed.reverse w →
      Pending place before (.escape (place before) (place (before ++ '"' :: w)) reversed)
        ('"' :: (w ++ ['\\']))
  | atom {reversed : List Char} : reversed ≠ [] → NoDelimiter reversed →
      reversed.reverse.head? ≠ some ':' →
      Pending place before (.atom (place before) reversed) reversed.reverse
  | keyword {reversed : List Char} : NoDelimiter reversed →
      Pending place before (.keyword (place before) reversed) (':' :: reversed.reverse)

/-- What the tokens and the mode after some text stand for: whatever is scanned behind the last part
of the text, which the mode still has to do with, is scanned behind all of it with the tokens in
front. -/
def Carries (place : List Char → Position) (before text : List Char) (tokens : List Token)
    (mode : Mode) : Prop :=
  ∃ moved pending, text = moved ++ pending ∧ Pending place (before ++ moved) mode pending ∧
    ∀ rest s, Scanned place (before ++ moved) (pending ++ rest) s →
      Scanned place before (text ++ rest) ⟨tokens ++ s.tokens, s.fault⟩

theorem isDelimiter_iff {c : Char} : isDelimiter c = true ↔
    Text.isBlank c = true ∨ c = '(' ∨ c = ')' ∨ c = '[' ∨ c = ']' ∨ c = '{' ∨ c = '}' ∨ c = '"' ∨
      c = ';' ∨ c = ',' := by
  simp only [isDelimiter, Bool.or_eq_true, beq_iff_eq, or_assoc]

/-- All of the text belongs to the mode. -/
theorem carries_silent {mode : Mode} {text : List Char} (h : Pending place before mode text) :
    Carries place before text [] mode :=
  ⟨[], text, rfl, by rwa [List.append_nil], fun _ _ hs => by rwa [List.append_nil] at hs⟩

theorem carries_trivia {t : List Char} (ht : Trivia t) : Carries place before t [] .between :=
  ⟨t, [], (List.append_nil t).symm, .between, fun _ _ hs => hs.trivia ht⟩

theorem carries_lexeme {l : Lexeme} {spelling : List Char} (hs : Spells l spelling)
    (hl : lasts l = false) : Carries place before spelling [⟨place before, l⟩] .between :=
  ⟨spelling, [], (List.append_nil _).symm, .between, fun _ _ h =>
    .first hs (fun h' => absurd (hl.symm.trans h') Bool.false_ne_true) h⟩

theorem carries_begin (place : List Char → Position) (before : List Char) (c : Char) :
    Carries place before [c] (begin (place before) c).1.toList (begin (place before) c).2 := by
  unfold begin
  split
  · exact carries_lexeme (.opener .round) rfl
  · exact carries_lexeme (.opener .square) rfl
  · exact carries_lexeme (.opener .curly) rfl
  · exact carries_lexeme (.closer .round) rfl
  · exact carries_lexeme (.closer .square) rfl
  · exact carries_lexeme (.closer .curly) rfl
  · exact carries_silent (.comment List.not_mem_nil)
  · exact carries_trivia (.blank (.inr rfl) .nil)
  · exact carries_silent (.string .nil)
  · exact carries_silent (.keyword fun _ h => absurd h List.not_mem_nil)
  · split
    · exact carries_trivia (.blank (.inl ‹_›) .nil)
    -- Every delimiter has been dealt with, so this is the first character of an atom.
    · rename_i hblank
      have hc : isDelimiter c = false := by
        rw [Bool.eq_false_iff]
        intro h
        rcases isDelimiter_iff.mp h with h | h | h | h | h | h | h | h | h | h <;> contradiction
      refine carries_silent (.atom (List.cons_ne_nil _ _) ?_ ?_)
      · intro d hd
        exact List.mem_singleton.mp hd ▸ hc
      · intro h
        exact absurd (Option.some.inj h) ‹_›

/-- A lexeme that lasts up to a delimiter is followed by what begins with the delimiter. -/
theorem carries_end {c : Char} {l : Lexeme} {spelling : List Char} (hs : Spells l spelling)
    (hc : isDelimiter c = true) :
    Carries place before (spelling ++ [c])
      (⟨place before, l⟩ :: (begin (place (before ++ spelling)) c).1.toList)
      (begin (place (before ++ spelling)) c).2 := by
  obtain ⟨moved, pending, htext, hp, hw⟩ := carries_begin place (before ++ spelling) c
  rw [List.append_assoc] at hp
  refine ⟨spelling ++ moved, pending, by rw [htext, List.append_assoc], hp, fun rest s h => ?_⟩
  rw [← List.append_assoc] at h
  rw [List.append_assoc]
  refine .first hs (fun _ d hd => ?_) (hw rest s h)
  obtain rfl := Option.some.inj hd
  exact hc

theorem unescape?_body {c d : Char} (h : unescape? c = some d) : StringBody [d] ['\\', c] := by
  unfold unescape? at h
  split at h
  · exact Option.some.inj h ▸ .newline .nil
  · exact Option.some.inj h ▸ .tab .nil
  · exact Option.some.inj h ▸ .quote .nil
  · exact Option.some.inj h ▸ .backslash .nil
  · simp at h

theorem spells_atom {reversed : List Char} (hne : reversed ≠ []) (hd : NoDelimiter reversed)
    (hc : reversed.reverse.head? ≠ some ':') :
    Spells (.leaf (.ofSpelling reversed.reverse)) reversed.reverse :=
  .atom (by simpa using hne) (fun c hm => hd c (List.mem_reverse.mp hm)) hc
    (Spelling.ofSpelling_eq_iff.mp rfl)

theorem spells_keyword {reversed : List Char} (hne : reversed ≠ []) (hd : NoDelimiter reversed) :
    Spells (.leaf (.literal (.keyword (String.ofList reversed.reverse))))
      (':' :: reversed.reverse) :=
  .keyword (by simpa using hne) (fun c hm => hd c (List.mem_reverse.mp hm))

theorem noDelimiter_cons {c : Char} {cs : List Char} (hc : ¬ isDelimiter c = true)
    (h : NoDelimiter cs) : NoDelimiter (c :: cs) := by
  intro d hd
  rcases List.mem_cons.mp hd with rfl | hd
  · exact Bool.eq_false_iff.mpr hc
  · exact h d hd

variable {c : Char} {mode mode' : Mode} {tokens : List Token} {pending : List Char} {e : ReadError}

theorem carries_step (h : step (place (before ++ pending)) c mode = .ok (tokens, mode'))
    (hp : Pending place before mode pending) :
    Carries place before (pending ++ [c]) tokens mode' := by
  -- A character either joins the pending text or ends it; only a delimiter ends it from behind.
  cases hp with
  | between =>
    obtain ⟨rfl, rfl⟩ := Prod.mk.inj (Except.ok.inj h)
    rw [List.append_nil]
    exact carries_begin place before c
  | @comment body hb =>
    obtain ⟨rfl, rfl⟩ := Prod.mk.inj (Except.ok.inj h)
    split
    · rename_i hc
      subst hc
      exact carries_trivia (.comment hb .nil)
    · rename_i hc
      exact carries_silent (.comment (by simpa [hb] using Ne.symm hc))
  | @string reversed w hw =>
    rw [step] at h
    split at h
    · rename_i hc
      subst hc
      obtain ⟨rfl, rfl⟩ := Prod.mk.inj (Except.ok.inj h)
      exact carries_lexeme (.string hw) rfl
    · split at h
      · rename_i hc
        subst hc
        obtain ⟨rfl, rfl⟩ := Prod.mk.inj (Except.ok.inj h)
        exact carries_silent (.escape hw)
      · rename_i hq hb
        obtain ⟨rfl, rfl⟩ := Prod.mk.inj (Except.ok.inj h)
        refine carries_silent (.string ?_)
        rw [List.reverse_cons]
        exact hw.append (.plain hq hb .nil)
  | @escape reversed w hw =>
    rw [step] at h
    split at h
    · rename_i d hd
      obtain ⟨rfl, rfl⟩ := Prod.mk.inj (Except.ok.inj h)
      have hshift : ('"' :: (w ++ ['\\'])) ++ [c] = '"' :: (w ++ ['\\', c]) := by simp
      rw [hshift]
      refine carries_silent (.string ?_)
      rw [List.reverse_cons]
      exact hw.append (unescape?_body hd)
    · simp at h
  | @atom reversed hne hd hc =>
    rw [step] at h
    split at h
    · rename_i hdelim
      obtain ⟨rfl, rfl⟩ := Prod.mk.inj (Except.ok.inj h)
      exact carries_end (spells_atom hne hd hc) hdelim
    · rename_i hdelim
      obtain ⟨rfl, rfl⟩ := Prod.mk.inj (Except.ok.inj h)
      rw [← List.reverse_cons]
      refine carries_silent (.atom (List.cons_ne_nil _ _) (noDelimiter_cons hdelim hd) ?_)
      have hne' : reversed.reverse ≠ [] := by simpa using hne
      obtain ⟨d, ds, hr⟩ := List.exists_cons_of_ne_nil hne'
      rw [hr] at hc
      rw [List.reverse_cons, hr]
      exact hc
  | @keyword reversed hd =>
    rw [step] at h
    split at h
    · rename_i hdelim
      split at h
      · simp at h
      · rename_i hne
        obtain ⟨rfl, rfl⟩ := Prod.mk.inj (Except.ok.inj h)
        exact carries_end (spells_keyword (by simpa using hne) hd) hdelim
    · rename_i hdelim
      obtain ⟨rfl, rfl⟩ := Prod.mk.inj (Except.ok.inj h)
      rw [List.cons_append, ← List.reverse_cons]
      exact carries_silent (.keyword (noDelimiter_cons hdelim hd))

theorem atEnd_of_isDelimiter (h : isDelimiter c = true) (rest : List Char) : AtEnd (c :: rest) :=
  fun _ hd => Option.some.inj hd ▸ h

theorem faulty_step (h : step (place (before ++ pending)) c mode = .error e)
    (hp : Pending place before mode pending) (rest : List Char) :
    Faulty place before (pending ++ c :: rest) e := by
  cases hp with
  | between => cases h
  | comment hb => cases h
  | string hw =>
    rw [step] at h
    split at h
    · cases h
    · split at h <;> cases h
  | @escape reversed w hw =>
    rw [step] at h
    split at h
    · cases h
    · rename_i hnone
      cases h
      have hshift : ('"' :: (w ++ ['\\'])) ++ c :: rest = '"' :: (w ++ '\\' :: c :: rest) := by simp
      rw [hshift]
      exact .unknownEscape hw hnone
  | atom hne hd hc =>
    rw [step] at h
    split at h <;> cases h
  | @keyword reversed hd =>
    rw [step] at h
    split at h
    · rename_i hdelim
      split at h
      · rename_i hempty
        cases h
        obtain rfl := List.isEmpty_iff.mp hempty
        exact .emptyKeyword (atEnd_of_isDelimiter hdelim rest)
      · cases h
    · cases h

theorem scanned_finish (hp : Pending place before mode pending) :
    Scanned place before pending (finish mode) := by
  have hend : AtEnd [] := fun _ hd => by simp at hd
  have hlast {l : Lexeme} {spelling : List Char} (hs : Spells l spelling) :
      Scanned place before spelling ⟨[⟨place before, l⟩], none⟩ := by
    have hfirst : Scanned place before (spelling ++ []) ⟨[⟨place before, l⟩], none⟩ :=
      .first hs (fun _ => hend) (.done (.inl .nil))
    rwa [List.append_nil] at hfirst
  cases hp with
  | between => exact .done (.inl .nil)
  | @comment body hb => exact .done (.inr ⟨[], body, .nil, hb, rfl⟩)
  | @string _ w hw =>
    rw [← List.append_nil w]
    exact .faulty (.unterminated hw (.inl rfl))
  | escape hw => exact .faulty (.unterminated hw (.inr rfl))
  | atom hne hd hc => exact hlast (spells_atom hne hd hc)
  | @keyword reversed hd =>
    rw [finish]
    split
    · rename_i hempty
      obtain rfl := List.isEmpty_iff.mp hempty
      exact .faulty (.emptyKeyword hend)
    · rename_i hne
      exact hlast (spells_keyword (by simpa using hne) hd)

/-- Scanning finds what is in the text, everything at its place. -/
theorem scanned_of_scanFrom (hplace : Follows place) (hp : Pending place before mode pending)
    (cs : List Char) :
    Scanned place before (pending ++ cs) (scanFrom mode (place (before ++ pending)) cs) := by
  -- The mode in front of a character is all that the rest needs to know of the text before it.
  induction cs generalizing mode before pending with
  | nil =>
    rw [List.append_nil]
    exact scanned_finish hp
  | cons c cs ih =>
    rw [scanFrom]
    cases hs : step (place (before ++ pending)) c mode with
    | error e => exact .faulty (faulty_step hs hp cs)
    | ok r =>
      obtain ⟨tokens, mode'⟩ := r
      obtain ⟨moved, pending', htext, hp', hw⟩ := carries_step hs hp
      have hrest := hw cs _ (ih hp')
      rw [List.append_assoc] at hrest
      rwa [← hplace, List.append_assoc, htext, ← List.append_assoc before]

theorem scanned_of_scan (hplace : Follows place) (text : List Char) :
    Scanned place [] text (scan (place []) text) :=
  scanned_of_scanFrom hplace .between text

theorem scan_finds_iff {p : Position} {cs : List Char} {ls : List Lexeme} :
    (scan p cs).Finds ls ↔ Written ls cs := by
  refine ⟨?_, fun h => finds_of_written h p⟩
  rintro ⟨hf, rfl⟩
  exact (scanned_of_scan (follows_advance p) cs).written hf

end LayeredSite.Token
