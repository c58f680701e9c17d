import LayeredSite.Proofs.Reader.Positions
import LayeredSite.Proofs.Reader.Scanning
import LayeredSite.Template.Layer

namespace LayeredSite

namespace Text

theorem lines_eq_nil_iff {cs : List Char} : lines cs = [] ↔ cs = [] := by
  constructor
  · intro h
    simpa [h] using (lines_flatten cs).symm
  · rintro rfl
    rfl

/-- The first line ends at the first newline, or it is the whole text. -/
theorem lines_eq_cons {cs line : List Char} {more : List (List Char)}
    (h : lines cs = line :: more) :
    ∃ rest, cs = line ++ rest ∧ lines rest = more ∧
      ((∃ front, '\n' ∉ front ∧ line = front ++ ['\n']) ∨ '\n' ∉ line ∧ rest = []) := by
  induction cs generalizing line with
  | nil => cases h
  | cons c cs ih =>
    unfold lines at h
    split at h
    · rename_i hc
      obtain ⟨rfl, rfl⟩ := List.cons.inj h
      exact ⟨cs, rfl, rfl, .inl ⟨[], List.not_mem_nil, by rw [hc]; rfl⟩⟩
    · rename_i hc
      have hmem {front : List Char} (hf : '\n' ∉ front) : '\n' ∉ c :: front :=
        List.not_mem_cons_of_ne_of_not_mem (Ne.symm hc) hf
      split at h
      · rename_i hnone
        obtain ⟨rfl, rfl⟩ := List.cons.inj h
        obtain rfl := lines_eq_nil_iff.mp hnone
        exact ⟨[], rfl, rfl, .inr ⟨hmem List.not_mem_nil, rfl⟩⟩
      · rename_i first others hfirst
        obtain ⟨rfl, rfl⟩ := List.cons.inj h
        obtain ⟨rest, hcs, hrest, hends⟩ := ih hfirst
        refine ⟨rest, by rw [hcs]; rfl, hrest, ?_⟩
        rcases hends with ⟨front, hfront, rfl⟩ | ⟨hnone, hempty⟩
        · exact .inl ⟨c :: front, hmem hfront, rfl⟩
        · exact .inr ⟨hmem hnone, hempty⟩

/-- Trimming the end of a text keeps a first character that is not blank. -/
theorem head?_trim (cs : List Char) : (trim cs).head? = (cs.dropWhile isBlank).head? := by
  have hhead := List.head?_dropWhile_not isBlank cs
  rw [trim, trimStart, trimEnd]
  cases hd : cs.dropWhile isBlank with
  | nil => rfl
  | cons c rest =>
    have hc : isBlank c = false := by simpa [hd] using hhead
    rw [List.reverse_cons, List.dropWhile_append]
    split <;> simp [hc]

end Text

namespace Token

variable {p : Position}

/-- A mode that a class of characters does not end goes through all of them. -/
theorem scanFrom_through {mode : Mode} {ok : Char → Prop} {cs : List Char}
    (hstep : ∀ p c, ok c → step p c mode = .ok ([], mode)) (hcs : ∀ c ∈ cs, ok c)
    (p : Position) (rest : List Char) :
    scanFrom mode p (cs ++ rest) = scanFrom mode (p.advance cs) rest := by
  induction cs generalizing p with
  | nil => rfl
  | cons c cs ih =>
    obtain ⟨hc, hcs⟩ := List.forall_mem_cons.mp hcs
    rw [List.cons_append, scanFrom_silent (hstep p c hc), ih hcs]
    rfl

theorem step_between_blank {c : Char} (h : Text.isBlank c = true) (p : Position) :
    step p c .between = .ok ([], .between) := by
  simp [step, begin_blank h]

theorem step_comment {c : Char} (h : c ≠ '\n') (p : Position) :
    step p c .comment = .ok ([], .comment) := by
  rw [step, if_neg h]

end Token

namespace Header

theorem isHeaderLine_iff {line : List Char} :
    isHeaderLine line = true ↔ ∀ c, (line.dropWhile Text.isBlank).head? = some c → c = ';' := by
  rw [isHeaderLine, ← Text.head?_trim]
  cases Text.trim line with
  | nil => simp
  | cons c rest => simp

theorem isHeaderLine_of_newline {front : List Char} (h : isHeaderLine (front ++ ['\n']) = true) :
    isHeaderLine front = true := by
  rw [isHeaderLine_iff] at h ⊢
  intro c hc
  apply h c
  rw [List.dropWhile_append]
  cases hd : front.dropWhile Text.isBlank with
  | nil => simp [hd] at hc
  | cons d rest => simpa [hd] using hc

end Header

namespace Token
open Header

/-- A header line has no tokens: the scanner is between tokens or in a comment behind it. -/
theorem scanFrom_headerLine {line : List Char} (h : isHeaderLine line = true) (hn : '\n' ∉ line)
    (p : Position) :
    ∃ mode, (mode = .between ∨ mode = .comment) ∧
      ∀ rest, scanFrom .between p (line ++ rest) = scanFrom mode (p.advance line) rest := by
  have hblanks : ∀ c ∈ line.takeWhile Text.isBlank, Text.isBlank c = true :=
    List.all_eq_true.mp List.all_takeWhile
  have htail := isHeaderLine_iff.mp h
  rw [← List.takeWhile_append_dropWhile (p := Text.isBlank) (l := line)] at hn ⊢
  generalize line.takeWhile Text.isBlank = blanks at hblanks hn ⊢
  generalize line.dropWhile Text.isBlank = tail at htail hn ⊢
  cases tail with
  | nil =>
    rw [List.append_nil]
    exact ⟨.between, .inl rfl, scanFrom_through (fun p c => (step_between_blank · p)) hblanks p⟩
  | cons c body =>
    obtain rfl := htail c rfl
    have hbody : ∀ c ∈ body, c ≠ '\n' := fun c hc he =>
      hn (List.mem_append_right _ (List.mem_cons_of_mem _ (he ▸ hc)))
    refine ⟨.comment, .inr rfl, fun rest => ?_⟩
    have hstep (p : Position) : step p ';' .between = .ok ([], .comment) := rfl
    rw [List.append_assoc, scanFrom_through (fun p c => (step_between_blank · p)) hblanks,
      List.cons_append, scanFrom_silent (hstep _),
      scanFrom_through (fun p c => (step_comment · p)) hbody, Position.advance,
      Position.advance, Position.advance, List.foldl_append, List.foldl_cons]

/-- What follows a header is scanned as if it began on a line of its own. -/
theorem scanFrom_body (cs : List Char) (n : ℕ) :
    scanFrom .between ⟨n, 1⟩ cs =
      scanFrom .between ⟨(headerChars cs).count '\n' + n, 1⟩ (bodyChars cs) := by
  -- Along the lines of the text; only the last one can lack its newline.
  induction hlines : Text.lines cs generalizing cs n with
  | nil =>
    obtain rfl := Text.lines_eq_nil_iff.mp hlines
    rfl
  | cons line more ih =>
    by_cases hheader : isHeaderLine line = true
    · obtain ⟨rest, rfl, rfl, hends⟩ := Text.lines_eq_cons hlines
      have hhead : headerChars (line ++ rest) = line ++ headerChars rest := by
        rw [headerChars, headerLines, hlines, List.takeWhile_cons_of_pos hheader]
        rfl
      have hbody : bodyChars (line ++ rest) = bodyChars rest := by
        rw [bodyChars, hlines, List.dropWhile_cons_of_pos hheader, bodyChars]
      rw [hhead, hbody]
      rcases hends with ⟨front, hfront, rfl⟩ | ⟨hnone, rfl⟩
      · obtain ⟨mode, hmode, hscan⟩ :=
          scanFrom_headerLine (isHeaderLine_of_newline hheader) hfront ⟨n, 1⟩
        have hnewline (p : Position) : step p '\n' mode = .ok ([], .between) := by
          rcases hmode with rfl | rfl <;> rfl
        have hafter : (Position.advance ⟨n, 1⟩ front).after '\n' = ⟨n + 1, 1⟩ := by
          rw [Position.after_newline, List.count_eq_zero.mpr hfront]
        have hcount : (front ++ ['\n'] ++ headerChars rest).count '\n' + n =
            (headerChars rest).count '\n' + (n + 1) := by
          rw [List.count_append, List.count_append, List.count_eq_zero.mpr hfront,
            List.count_singleton_self]
          omega
        rw [List.append_assoc, hscan, List.singleton_append, scanFrom_silent (hnewline _), hafter,
          ih rest (n + 1) rfl, hcount]
      · obtain ⟨mode, hmode, hscan⟩ := scanFrom_headerLine hheader hnone ⟨n, 1⟩
        rw [hscan []]
        rcases hmode with rfl | rfl <;> rfl
    · rw [headerChars, headerLines, bodyChars, hlines, List.takeWhile_cons_of_neg hheader,
        List.dropWhile_cons_of_neg hheader, ← hlines, Text.lines_flatten, List.flatten_nil,
        List.count_nil, Nat.zero_add]

end Token

theorem Form.readAll_body (raw : String) :
    Form.readAll (Header.parse raw).2 (Layer.firstLine raw.toList) = Form.readAll raw 1 := by
  rw [Form.readAll, Form.readAll, Form.readFrom, Form.readFrom, Token.scan, Token.scan,
    Header.parse, Layer.firstLine, String.toList_ofList, ← Token.scanFrom_body]

/-- Reading a body from the line on which it begins is reading the whole text from its first line.
So a compiled form, or the error of a text that is not compiled, has its position in the file. -/
theorem positions_are_of_the_file (raw : String) :
    Form.readAll (Header.parse raw).2 (Layer.firstLine raw.toList) = Form.readAll raw 1 ∧
    ∀ name, Layer.compile name raw =
      match Form.readAll raw 1 with
      | .ok forms => .ok ⟨(Header.parse raw).1, ⟨name, forms⟩⟩
      | .error e => .error (.malformed name e) := by
  refine ⟨Form.readAll_body raw, fun name => ?_⟩
  have hbody := Form.readAll_body raw
  rw [Layer.compile]
  simp only [Body.compile, hbody]
  cases Form.readAll raw 1 <;> rfl

end LayeredSite
