import LayeredSite.Proofs.Reader.Tokens
import LayeredSite.Template.Reader

namespace LayeredSite

open Grammar

structure Cursor where
  position : Position
  rest : List Char

namespace Cursor

structure Over (taken : List Char) (c d : Cursor) : Prop where
  rest : c.rest = taken ++ d.rest
  position : d.position = c.position.advance taken

/-- Skips blanks, commas and comments; in a comment, everything up to the end of its line. -/
def skip (comment : Bool) (p : Position) : List Char → Cursor
  | [] => ⟨p, []⟩
  | c :: rest =>
    if comment ∧ c ≠ '\n' then skip true (p.after c) rest
    else if c = ';' then skip true (p.after c) rest
    else if Text.isBlank c ∨ c = ',' then skip false (p.after c) rest
    else ⟨p, c :: rest⟩

def trimmed (c : Cursor) : Cursor := skip false c.position c.rest

def name (cs : List Char) : List Char := cs.takeWhile (!Token.isDelimiter ·)

def behindName (p : Position) (cs : List Char) : Cursor :=
  ⟨p.advance (name cs), cs.dropWhile (!Token.isDelimiter ·)⟩

/-- Reads a string behind its opening quote; what is read so far is kept in reverse. -/
def string (start : Position) (reversed : List Char) (p : Position) :
    List Char → Except ReadError Leaf × Cursor
  | [] => (.error ⟨start, .unterminatedString⟩, ⟨p, []⟩)
  | ['\\'] => (.error ⟨start, .unterminatedString⟩, ⟨p.after '\\', []⟩)
  | '\\' :: c :: rest => match Token.unescape? c with
    | some d => string start (d :: reversed) ((p.after '\\').after c) rest
    | none => (.error ⟨p, .unknownEscape c⟩, ⟨(p.after '\\').after c, rest⟩)
  | c :: rest =>
    if c = '"' then (.ok (.literal (.str (String.ofList reversed.reverse))), ⟨p.after c, rest⟩)
    else string start (c :: reversed) (p.after c) rest

namespace Over

variable {c d e : Cursor} {taken more : List Char}

theorem refl (c : Cursor) : Over [] c c := ⟨rfl, rfl⟩

theorem trans (h : Over taken c d) (h' : Over more d e) : Over (taken ++ more) c e where
  rest := by rw [h.rest, h'.rest, List.append_assoc]
  position := by rw [h'.position, h.position, Position.advance, Position.advance, Position.advance,
    List.foldl_append]

theorem cons {p : Position} {x : Char} {rest : List Char} (h : Over taken ⟨p.after x, rest⟩ d) :
    Over (x :: taken) ⟨p, x :: rest⟩ d where
  rest := congrArg (x :: ·) h.rest
  position := h.position

theorem length_eq (h : Over taken c d) : c.rest.length = taken.length + d.rest.length := by
  rw [h.rest, List.length_append]

end Over

theorem over_skip (comment : Bool) (p : Position) (cs : List Char) :
    ∃ taken, Over taken ⟨p, cs⟩ (skip comment p cs) := by
  induction cs generalizing comment p with
  | nil => exact ⟨[], .refl _⟩
  | cons c rest ih =>
    have hnext (comment : Bool) :
        ∃ taken, Over taken ⟨p, c :: rest⟩ (skip comment (p.after c) rest) := by
      obtain ⟨taken, h⟩ := ih comment (p.after c)
      exact ⟨c :: taken, h.cons⟩
    unfold skip
    split
    · exact hnext true
    · split
      · exact hnext true
      · split
        · exact hnext false
        · exact ⟨[], .refl _⟩

theorem over_trimmed (c : Cursor) : ∃ taken, Over taken c c.trimmed := over_skip false _ _

theorem over_behindName (p : Position) (cs : List Char) :
    Over (name cs) ⟨p, cs⟩ (behindName p cs) :=
  ⟨List.takeWhile_append_dropWhile.symm, rfl⟩

theorem over_string (start : Position) (reversed : List Char) (p : Position) (cs : List Char) :
    ∃ taken, Over taken ⟨p, cs⟩ (string start reversed p cs).2 := by
  fun_induction string start reversed p cs with
  | case1 => exact ⟨[], .refl _⟩
  | case2 => exact ⟨['\\'], (Over.refl _).cons⟩
  | case3 reversed p c rest d hd ih =>
    obtain ⟨taken, h⟩ := ih
    exact ⟨'\\' :: c :: taken, h.cons.cons⟩
  | case4 reversed p c rest => exact ⟨['\\', c], (Over.refl _).cons.cons⟩
  | case5 => exact ⟨['"'], (Over.refl _).cons⟩
  | case6 =>
    rename_i c rest _ _ _ ih
    obtain ⟨taken, h⟩ := ih
    exact ⟨c :: taken, h.cons⟩

/-- What is in front is nothing to skip. -/
def Solid (c : Cursor) : Prop :=
  ∀ x ∈ c.rest.head?, Text.isBlank x = false ∧ x ≠ ',' ∧ x ≠ ';'

theorem solid_skip (comment : Bool) (p : Position) (cs : List Char) :
    (skip comment p cs).Solid := by
  induction cs generalizing comment p with
  | nil => exact fun _ hx => absurd hx nofun
  | cons c rest ih =>
    unfold skip
    split
    · exact ih true _
    · split
      · exact ih true _
      · split
        · exact ih false _
        · rename_i hcomment hblank
          intro x hx
          obtain rfl := Option.some.inj hx
          rw [not_or] at hblank
          exact ⟨Bool.eq_false_iff.mpr hblank.1, hblank.2, hcomment⟩

theorem solid_trimmed (c : Cursor) : c.trimmed.Solid := solid_skip false _ _

/-- An atom ends at just the characters that are skipped or begin something else. -/
theorem Solid.not_isDelimiter {p : Position} {x : Char} {rest : List Char}
    (h : Solid ⟨p, x :: rest⟩) (hbracket : ∀ b : Bracket, x ≠ b.opening ∧ x ≠ b.closing)
    (hquote : x ≠ '"') : Token.isDelimiter x = false := by
  obtain ⟨hblank, hcomma, hcomment⟩ := h x rfl
  rw [Bool.eq_false_iff, Ne, Token.isDelimiter_iff]
  have hround := hbracket .round
  have hsquare := hbracket .square
  have hcurly := hbracket .curly
  simp only [Bracket.opening, Bracket.closing] at hround hsquare hcurly
  simp [hblank, hcomma, hcomment, hquote, hround, hsquare, hcurly]

theorem name_ne_nil {x : Char} (h : Token.isDelimiter x = false) (rest : List Char) :
    name (x :: rest) ≠ [] := by
  rw [name, List.takeWhile_cons_of_pos (by simp [h])]
  exact List.cons_ne_nil _ _

end Cursor

namespace Form

open Cursor Position Token

/-- What a call is to read: one form, or all forms up to the closing bracket of one that was opened
or, outside of brackets, up to the end of the text. -/
inductive Call
  | form
  | forms (opener : Option (Bracket × Position))

/-- There is something to read, and it is not the closing bracket. -/
def Asks (opener : Option (Bracket × Position)) (c : Cursor) : Prop :=
  c.rest ≠ [] ∧ ∀ b p, opener = some (b, p) → c.rest.head? ≠ some b.closing

/-- What a call reads from a cursor, and the cursor where it stops. -/
inductive Reads : Call → Cursor → Except ReadError (List Form) → Cursor → Prop
  | bracketed {b : Bracket} {p : Position} {rest : List Char} {r : Except ReadError (List Form)}
      {d : Cursor} : Reads (.forms (some (b, p))) ⟨p.after b.opening, rest⟩ r d →
      Reads .form ⟨p, b.opening :: rest⟩
        (r.bind fun items => (enclose b p items).map fun form => [form]) d
  | unexpected {b : Bracket} {p : Position} {rest : List Char} :
      Reads .form ⟨p, b.closing :: rest⟩ (.error ⟨p, .unexpected b⟩) ⟨p, b.closing :: rest⟩
  | string {p : Position} {rest : List Char} :
      Reads .form ⟨p, '"' :: rest⟩
        ((Cursor.string p [] (p.after '"') rest).1.map fun l => [l.toForm p])
        (Cursor.string p [] (p.after '"') rest).2
  | keyword {p : Position} {rest : List Char} :
      Reads .form ⟨p, ':' :: rest⟩
        (if name rest = [] then .error ⟨p, .emptyKeyword⟩
          else .ok [.literal p (.keyword (String.ofList (name rest)))])
        (behindName (p.after ':') rest)
  | atom {p : Position} {c : Char} {rest : List Char} :
      (∀ b : Bracket, c ≠ b.opening ∧ c ≠ b.closing) → c ≠ '"' → c ≠ ':' →
      Reads .form ⟨p, c :: rest⟩ (.ok [(Leaf.ofSpelling (name (c :: rest))).toForm p])
        (behindName p (c :: rest))
  | done {c : Cursor} : c.trimmed.rest = [] → Reads (.forms none) c (.ok []) c.trimmed
  | unclosed {b : Bracket} {p : Position} {c : Cursor} : c.trimmed.rest = [] →
      Reads (.forms (some (b, p))) c (.error ⟨p, .unclosed b⟩) c.trimmed
  | closed {b : Bracket} {p : Position} {c : Cursor} {rest : List Char} :
      c.trimmed.rest = b.closing :: rest →
      Reads (.forms (some (b, p))) c (.ok []) ⟨c.trimmed.position.after b.closing, rest⟩
  | failed {opener : Option (Bracket × Position)} {c d : Cursor} {e : ReadError} :
      Asks opener c.trimmed → Reads .form c.trimmed (.error e) d →
      Reads (.forms opener) c (.error e) d
  | next {opener : Option (Bracket × Position)} {c d d' : Cursor} {f : Form}
      {r : Except ReadError (List Form)} : Asks opener c.trimmed →
      Reads .form c.trimmed (.ok [f]) d → Reads (.forms opener) d r d' →
      Reads (.forms opener) c (r.map (f :: ·)) d'

variable {call : Call} {opener : Option (Bracket × Position)} {c d : Cursor}
  {r : Except ReadError (List Form)}

namespace Reads

/-- No call goes back. -/
theorem exists_taken (h : Reads call c r d) : ∃ taken, Over taken c d := by
  induction h with
  | bracketed _ ih =>
    obtain ⟨taken, h⟩ := ih
    exact ⟨_, h.cons⟩
  | unexpected => exact ⟨[], .refl _⟩
  | @string p rest =>
    obtain ⟨taken, h⟩ := over_string p [] (p.after '"') rest
    exact ⟨_, h.cons⟩
  | keyword => exact ⟨_, (over_behindName _ _).cons⟩
  | atom => exact ⟨_, over_behindName _ _⟩
  | @done c _ => exact over_trimmed c
  | @unclosed _ _ c _ => exact over_trimmed c
  | @closed b p c rest hrest =>
    obtain ⟨taken, h⟩ := over_trimmed c
    have hlast : Over [b.closing] c.trimmed ⟨c.trimmed.position.after b.closing, rest⟩ :=
      ⟨hrest, rfl⟩
    exact ⟨_, h.trans hlast⟩
  | @failed _ c _ _ _ _ ih =>
    obtain ⟨taken, h⟩ := over_trimmed c
    obtain ⟨more, hmore⟩ := ih
    exact ⟨_, h.trans hmore⟩
  | @next _ c _ _ _ _ _ _ _ ihform ihrest =>
    obtain ⟨taken, h⟩ := over_trimmed c
    obtain ⟨more, hmore⟩ := ihform
    obtain ⟨last, hlast⟩ := ihrest
    exact ⟨_, (h.trans hmore).trans hlast⟩

/-- Where there is nothing to skip, a call for a form fails, or it reads one form and moves on. -/
theorem progress (h : Reads .form c r d) (hsolid : c.Solid) :
    ∃ taken, Over taken c d ∧ ((∃ e, r = .error e) ∨ (∃ f, r = .ok [f]) ∧ taken ≠ []) := by
  cases h with
  | @bracketed b p rest r _ hitems =>
    obtain ⟨taken, hover⟩ := hitems.exists_taken
    refine ⟨_, hover.cons, ?_⟩
    cases r with
    | error e => exact .inl ⟨e, rfl⟩
    | ok items =>
      cases he : enclose b p items with
      | error e => exact .inl ⟨e, by simp [Except.bind, Except.map, he]⟩
      | ok form => exact .inr ⟨⟨form, by simp [Except.bind, Except.map, he]⟩, List.cons_ne_nil _ _⟩
  | unexpected => exact ⟨[], .refl _, .inl ⟨_, rfl⟩⟩
  | @string p rest =>
    obtain ⟨taken, hover⟩ := over_string p [] (p.after '"') rest
    refine ⟨_, hover.cons, ?_⟩
    cases hread : (Cursor.string p [] (p.after '"') rest).1 with
    | error e => exact .inl ⟨e, rfl⟩
    | ok l => exact .inr ⟨⟨_, rfl⟩, List.cons_ne_nil _ _⟩
  | keyword =>
    refine ⟨_, (over_behindName _ _).cons, ?_⟩
    split
    · exact .inl ⟨_, rfl⟩
    · exact .inr ⟨⟨_, rfl⟩, List.cons_ne_nil _ _⟩
  | atom hbracket hquote _ =>
    have hname := name_ne_nil (hsolid.not_isDelimiter hbracket hquote)
    exact ⟨_, over_behindName _ _, .inr ⟨⟨_, rfl⟩, hname _⟩⟩

/-- Reading up to the end of the text leaves nothing of it. -/
theorem rest_eq_nil (h : Reads (.forms none) c r d) {forms : List Form} (hok : r = .ok forms) :
    d.rest = [] := by
  generalize hcall : Call.forms none = call at h
  induction h generalizing forms with
  | done hrest => exact hrest
  | @next _ _ _ _ _ r _ _ _ _ ih =>
    cases r with
    | error e => cases hok
    | ok more => exact ih rfl hcall
  | failed => cases hok
  | _ => cases hcall

end Reads

theorem exists_reads_form (hne : c.rest ≠ [])
    (h : ∀ d : Cursor, d.rest.length < c.rest.length → ∀ opener, ∃ r e,
      Reads (.forms opener) d r e) : ∃ r d, Reads .form c r d := by
  obtain ⟨p, cs⟩ := c
  obtain ⟨x, rest, rfl⟩ := List.exists_cons_of_ne_nil hne
  by_cases hopening : ∃ b : Bracket, x = b.opening
  · obtain ⟨b, rfl⟩ := hopening
    obtain ⟨r, d, hitems⟩ := h ⟨p.after b.opening, rest⟩ (Nat.lt_succ_self _) (some (b, p))
    exact ⟨_, d, .bracketed hitems⟩
  by_cases hclosing : ∃ b : Bracket, x = b.closing
  · obtain ⟨b, rfl⟩ := hclosing
    exact ⟨_, _, .unexpected⟩
  by_cases hquote : x = '"'
  · subst hquote
    exact ⟨_, _, .string⟩
  by_cases hcolon : x = ':'
  · subst hcolon
    exact ⟨_, _, .keyword⟩
  exact ⟨_, _, .atom (fun b => ⟨fun he => hopening ⟨b, he⟩, fun he => hclosing ⟨b, he⟩⟩)
    hquote hcolon⟩

/-- Every call ends: one for forms calls for a form only where that moves on or fails. -/
theorem exists_reads_forms (c : Cursor) (opener : Option (Bracket × Position)) :
    ∃ r d, Reads (.forms opener) c r d := by
  -- On the length of what is left: a form that was read has taken something, and a form that failed
  -- ends the call.
  induction hlength : c.rest.length using Nat.strong_induction_on generalizing c opener with
  | h n ih =>
    obtain ⟨taken, hover⟩ := over_trimmed c
    have hle := hover.length_eq
    by_cases hrest : c.trimmed.rest = []
    · rcases opener with - | ⟨b, p⟩
      · exact ⟨_, _, .done hrest⟩
      · exact ⟨_, _, .unclosed hrest⟩
    by_cases hasks : Asks opener c.trimmed
    · obtain ⟨r, d, hform⟩ := exists_reads_form hrest fun d hd opener =>
        ih d.rest.length (by omega) d opener rfl
      obtain ⟨more, hmore, ⟨e, rfl⟩ | ⟨⟨f, rfl⟩, hne⟩⟩ := hform.progress (solid_trimmed c)
      · exact ⟨_, d, .failed hasks hform⟩
      · have hlt := hmore.length_eq
        have hpos := List.length_pos_iff.mpr hne
        obtain ⟨r, e, hmany⟩ := ih d.rest.length (by omega) d opener rfl
        exact ⟨_, e, .next hasks hform hmany⟩
    · -- What is in front is then the closing bracket.
      rw [Asks, not_and_or] at hasks
      have hclosing := hasks.resolve_left (not_not.mpr hrest)
      push Not at hclosing
      obtain ⟨b, p, rfl, hhead⟩ := hclosing
      obtain ⟨rest, hrest⟩ := List.head?_eq_some_iff.mp hhead
      exact ⟨_, _, .closed hrest⟩

end Form
end LayeredSite
