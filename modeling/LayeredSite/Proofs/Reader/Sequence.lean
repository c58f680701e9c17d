import LayeredSite.Proofs.Reader.Bracketing
import LayeredSite.Proofs.Reader.Positions

namespace LayeredSite

namespace Token

def Scan.followedBy (s later : Scan) : Scan := ⟨s.tokens ++ later.tokens, later.fault⟩

/-- A newline ends the text so far, and the scanner is between tokens behind it. -/
theorem scanFrom_newline {mode : Mode} (h : (finish mode).fault = none) (p : Position)
    (rest : List Char) :
    scanFrom mode p ('\n' :: rest) =
      (finish mode).followedBy (scanFrom .between (p.after '\n') rest) := by
  cases mode with
  | between => rfl
  | comment => rfl
  | atom start reversed => rfl
  | keyword start reversed =>
    cases reversed with
    | nil => cases h
    | cons c reversed => rfl
  | string start reversed => cases h
  | escape start backslash reversed => cases h

theorem scanFrom_append_newline {mode : Mode} {cs : List Char} {p : Position}
    (h : (scanFrom mode p cs).fault = none) (rest : List Char) :
    scanFrom mode p (cs ++ '\n' :: rest) =
      (scanFrom mode p cs).followedBy (scanFrom .between ((p.advance cs).after '\n') rest) := by
  induction cs generalizing mode p with
  | nil => exact scanFrom_newline h p rest
  | cons c cs ih =>
    rw [List.cons_append, scanFrom, scanFrom]
    rw [scanFrom] at h
    cases hstep : step p c mode with
    | error e =>
      rw [hstep] at h
      cases h
    | ok next =>
      obtain ⟨tokens, mode'⟩ := next
      rw [hstep] at h
      simp only [ih h, Scan.followedBy, List.append_assoc]
      rfl

end Token

namespace Form

open Token

/-- Tokens that give forms are done with when others come behind them. -/
theorem assemble_append {tokens : List Token} {level : List Form} {outer : List Frame}
    {forms : List Form} (h : assemble none level outer tokens = .ok forms)
    (fault : Option ReadError) (more : List Token) :
    assemble fault level outer (tokens ++ more) = assemble fault forms.reverse [] more := by
  induction tokens generalizing level outer with
  | nil =>
    cases outer with
    | nil =>
      cases h
      rw [List.nil_append, List.reverse_reverse]
    | cons frame outer => cases h
  | cons t tokens ih =>
    rw [List.cons_append, assemble]
    rw [assemble] at h
    cases hl : t.lexeme with
    | leaf l =>
      rw [hl] at h
      exact ih h
    | opener b =>
      rw [hl] at h
      exact ih h
    | closer b =>
      rw [hl] at h
      cases outer with
      | nil => cases h
      | cons frame outer =>
        dsimp only at h ⊢
        split at h
        · rename_i hb
          rw [if_pos hb]
          cases he : enclose b frame.position level.reverse with
          | error e =>
            rw [he] at h
            cases h
          | ok form =>
            rw [he] at h
            exact ih h
        · cases h

/-- A level and the levels around it, with more forms in front of all of them. -/
def inFront (base : List Form) : List Form → List Frame → List Form × List Frame
  | level, [] => (level ++ base, [])
  | level, frame :: outer =>
    (level, { frame with before := (inFront base frame.before outer).1 } ::
      (inFront base frame.before outer).2)

theorem inFront_cons (base : List Form) (f : Form) (level : List Form) (outer : List Frame) :
    inFront base (f :: level) outer =
      (f :: (inFront base level outer).1, (inFront base level outer).2) := by
  cases outer <;> rfl

theorem assemble_inFront (base : List Form) (fault : Option ReadError) (level : List Form)
    (outer : List Frame) (tokens : List Token) :
    assemble fault (inFront base level outer).1 (inFront base level outer).2 tokens =
      (assemble fault level outer tokens).map (base.reverse ++ ·) := by
  induction tokens generalizing level outer with
  | nil =>
    cases fault with
    | some e => rfl
    | none =>
      cases outer with
      | nil => simp [inFront, assemble, Except.map]
      | cons frame outer => rfl
  | cons t tokens ih =>
    rw [assemble, assemble]
    cases hl : t.lexeme with
    | leaf l =>
      have hrest := ih (l.toForm t.position :: level) outer
      rw [inFront_cons] at hrest
      exact hrest
    | opener b => exact ih [] (⟨b, t.position, level⟩ :: outer)
    | closer b =>
      -- The base lies below the outermost level, so no bracket encloses any of it.
      cases outer with
      | nil => rfl
      | cons frame outer =>
        simp only [inFront]
        split
        · cases he : enclose b frame.position level.reverse with
          | error e => rfl
          | ok form =>
            have hrest := ih (form :: frame.before) outer
            rw [inFront_cons] at hrest
            exact hrest
        · rfl

theorem assemble_behind (forms : List Form) (fault : Option ReadError) (tokens : List Token) :
    assemble fault forms.reverse [] tokens = (assemble fault [] [] tokens).map (forms ++ ·) := by
  have hbase := assemble_inFront forms.reverse fault [] [] tokens
  rwa [List.reverse_reverse] at hbase

theorem readFrom_append_newline {p : Position} {cs : List Char} {forms : List Form}
    (h : readFrom p cs = .ok forms) (rest : List Char) :
    readFrom p (cs ++ '\n' :: rest) =
      (readFrom ((p.advance cs).after '\n') rest).map (forms ++ ·) := by
  -- What has been read has no fault, so the scan goes on behind it, and no bracket is left open.
  have hforms : assemble (scan p cs).fault [] [] (scan p cs).tokens = .ok forms := h
  have hfault := (lexemes_of_assemble hforms).1
  rw [hfault] at hforms
  rw [readFrom, scan, scanFrom_append_newline hfault, Scan.followedBy]
  rw [← scan, ← scan, assemble_append hforms, assemble_behind]
  rfl

/-- Below a text that can be read, another one is read as if it stood alone, from the line on which
it begins: its forms come behind those of the first text, or its error is the error. -/
theorem readAll_append_newline {a : String} {n : ℕ} {forms : List Form}
    (h : readAll a n = .ok forms) (b : String) :
    readAll (a ++ "\n" ++ b) n =
      (readAll b (n + 1 + a.toList.count '\n')).map (forms ++ ·) := by
  have htext : (a ++ "\n" ++ b).toList = a.toList ++ '\n' :: b.toList := by simp
  rw [readAll, htext, readFrom_append_newline h, Position.after_newline, Nat.add_right_comm,
    readAll]

/-- An atom that the end of a line ends, and below a comment a bracket that nothing has opened. -/
theorem readAll_below_comment :
    readAll "(f\n x) :k" 3 = .ok [.call ⟨3, 1⟩ [.symbol ⟨3, 2⟩ "f", .symbol ⟨4, 2⟩ "x"],
      .literal ⟨4, 5⟩ (.keyword "k")] ∧
    readAll ("(f\n x) :k" ++ "\n" ++ "y ; z") 3 = .ok [.call ⟨3, 1⟩ [.symbol ⟨3, 2⟩ "f",
      .symbol ⟨4, 2⟩ "x"], .literal ⟨4, 5⟩ (.keyword "k"), .symbol ⟨5, 1⟩ "y"] ∧
    readAll ("(f\n x) :k" ++ "\n" ++ "; z\n ]") 3 = .error ⟨⟨6, 2⟩, .unexpected .square⟩ := by
  have hread : readAll "(f\n x) :k" 3 = .ok [.call ⟨3, 1⟩ [.symbol ⟨3, 2⟩ "f",
      .symbol ⟨4, 2⟩ "x"], .literal ⟨4, 5⟩ (.keyword "k")] := by rfl
  exact ⟨hread, readAll_append_newline hread "y ; z", readAll_append_newline hread "; z\n ]"⟩

end Form
end LayeredSite
