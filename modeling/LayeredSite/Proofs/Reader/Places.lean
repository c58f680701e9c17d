import LayeredSite.Proofs.Reader.Bracketing
import LayeredSite.Proofs.Reader.Tokens

namespace LayeredSite.Form

theorem readFrom_eq_ok {p : Position} {cs : List Char} {read : List Form}
    (h : readFrom p cs = .ok read) : Grammar.Renders read cs := by
  obtain ⟨hf, hl⟩ := lexemes_of_assemble h
  exact Token.scan_finds_iff.mp ⟨hf, hl.symm⟩

theorem exists_readFrom {cs : List Char} {forms : List Form} (h : Grammar.Renders forms cs)
    (p : Position) : ∃ read, readFrom p cs = .ok read ∧ bareAll read = bareAll forms := by
  obtain ⟨hf, hl⟩ := (Token.scan_finds_iff (p := p)).mpr h
  obtain ⟨read, ha, hread⟩ := exists_assemble hl
  refine ⟨read, ?_, hread⟩
  rw [readFrom, hf]
  exact ha

/-- A text is read as some forms, whatever their positions, if and only if it is a rendering of
them. -/
theorem readAll_iff_renders (text : String) (firstLine : ℕ) (forms : List Form) :
    (∃ read, readAll text firstLine = .ok read ∧ bareAll read = bareAll forms) ↔
      Grammar.Renders forms text.toList := by
  constructor
  · rintro ⟨read, h, hb⟩
    have hr := readFrom_eq_ok h
    rw [Grammar.Renders, ← lexemesAll_bare, hb, lexemesAll_bare] at hr
    exact hr
  · intro h
    exact exists_readFrom h ⟨firstLine, 1⟩

end LayeredSite.Form

namespace LayeredSite.Form

open Grammar Position Token

variable {place : List Char → Position} {before rest : List Char} {level : List Form}
  {outer : List Frame}

/-- Forms in writing behind some text and in front of other text: trivia, and forms at the places
where their spellings or their brackets begin, the forms in a bracket being between its ends. -/
inductive Standing (place : List Char → Position) :
    List Char → List Form → List Char → List Char → Prop
  | nil {before rest : List Char} : Standing place before [] [] rest
  | trivia {before text t rest : List Char} {forms : List Form} :
      Standing place before forms text (t ++ rest) → Trivia t →
      Standing place before forms (text ++ t) rest
  | leaf {before text spelling rest : List Char} {forms : List Form} {l : Leaf} :
      Standing place before forms text (spelling ++ rest) → Spells (.leaf l) spelling →
      (lasts (.leaf l) = true → AtEnd rest) →
      Standing place before (forms ++ [l.toForm (place (before ++ text))]) (text ++ spelling) rest
  | enclosed {before text inner rest : List Char} {forms items : List Form} {b : Bracket}
      {form : Form} :
      Standing place before forms text (b.opening :: (inner ++ b.closing :: rest)) →
      Standing place (before ++ text ++ [b.opening]) items inner (b.closing :: rest) →
      enclose b (place (before ++ text)) items = .ok form →
      Standing place before (forms ++ [form]) (text ++ b.opening :: (inner ++ [b.closing])) rest

/-- The rest of a text stands in open brackets, behind forms of the innermost one. -/
inductive Open (place : List Char → Position) :
    List Char → List Form → List Frame → List Char → Prop
  | top {text rest : List Char} {level : List Form} : Standing place [] level.reverse text rest →
      Open place text level [] rest
  | inner {front text rest : List Char} {level forms : List Form} {outer : List Frame}
      {b : Bracket} : Open place front level outer (b.opening :: (text ++ rest)) →
      Standing place (front ++ [b.opening]) forms.reverse text rest →
      Open place (front ++ b.opening :: text) forms (⟨b, place front, level⟩ :: outer) rest

/-- Why a character cannot be read, with what is in front of it and what is behind. -/
inductive Offends (place : List Char → Position) : List Char → Char → List Char → ReadFault → Prop
  /-- All brackets that begin behind the opener are closed, and the text ends. -/
  | unclosed {before inner last : List Char} {level items : List Form} {outer : List Frame}
      {b : Bracket} : Open place before level outer (b.opening :: (inner ++ last)) →
      Standing place (before ++ [b.opening]) items inner last → LastTrivia last →
      Offends place before b.opening (inner ++ last) (.unclosed b)
  /-- The innermost open bracket is another one, or there is none. -/
  | unexpected {before rest : List Char} {level : List Form} {outer : List Frame} {b : Bracket} :
      Open place before level outer (b.closing :: rest) →
      (∀ frame, outer.head? = some frame → frame.bracket ≠ b) →
      Offends place before b.closing rest (.unexpected b)
  | unterminatedString {before cs w last : List Char} {level : List Form} {outer : List Frame} :
      Open place before level outer ('"' :: (w ++ last)) → StringBody cs w →
      last = [] ∨ last = ['\\'] → Offends place before '"' (w ++ last) .unterminatedString
  | unknownEscape {before cs w rest : List Char} {level : List Form} {outer : List Frame}
      {c : Char} : Open place before level outer ('"' :: (w ++ '\\' :: c :: rest)) →
      StringBody cs w → unescape? c = none →
      Offends place (before ++ '"' :: w) '\\' (c :: rest) (.unknownEscape c)
  | emptyKeyword {before rest : List Char} {level : List Form} {outer : List Frame} :
      Open place before level outer (':' :: rest) → AtEnd rest →
      Offends place before ':' rest .emptyKeyword
  | oddMap {before inner rest : List Char} {level items : List Form} {outer : List Frame} :
      Open place before level outer ('{' :: (inner ++ '}' :: rest)) →
      Standing place (before ++ ['{']) items inner ('}' :: rest) → items.length % 2 = 1 →
      Offends place before '{' (inner ++ '}' :: rest) .oddMap

/-- The forms of a text stand in it, or its error is at a character of it. -/
def Placed (place : List Char → Position) (source : List Char) :
    Except ReadError (List Form) → Prop
  | .ok forms => ∃ text last, source = text ++ last ∧ Standing place [] forms text last ∧
      LastTrivia last
  | .error e => ∃ before c rest, source = before ++ c :: rest ∧ e.position = place before ∧
      Offends place before c rest e.fault

namespace Open

/-- What goes on behind the forms of the innermost bracket goes on behind all of the text. -/
theorem extend {more : List Char} {new : List Form}
    (h : Open place before level outer (more ++ rest))
    (hnew : ∀ {front text : List Char} {forms : List Form}, front ++ text = before →
      Standing place front forms text (more ++ rest) →
      Standing place front (forms ++ new) (text ++ more) rest) :
    Open place (before ++ more) (new.reverse ++ level) outer rest := by
  have hlevel (forms : List Form) : (new.reverse ++ forms).reverse = forms.reverse ++ new := by simp
  cases h with
  | top hs => exact .top (by rw [hlevel]; exact hnew rfl hs)
  | @inner front text _ _ forms _ b ho hs =>
    rw [← List.append_assoc text] at ho
    rw [List.append_assoc, List.cons_append]
    refine .inner ho ?_
    rw [hlevel]
    exact hnew (by simp) hs

theorem trivia {t : List Char} (h : Open place before level outer (t ++ rest)) (ht : Trivia t) :
    Open place (before ++ t) level outer rest := by
  have hnew {front text : List Char} {forms : List Form} (_ : front ++ text = before)
      (hs : Standing place front forms text (t ++ rest)) :
      Standing place front (forms ++ []) (text ++ t) rest := by
    rw [List.append_nil]
    exact hs.trivia ht
  exact h.extend hnew

theorem leaf {spelling : List Char} {l : Leaf}
    (h : Open place before level outer (spelling ++ rest)) (hs : Spells (.leaf l) spelling)
    (hend : lasts (.leaf l) = true → AtEnd rest) :
    Open place (before ++ spelling) (l.toForm (place before) :: level) outer rest := by
  have hnew {front text : List Char} {forms : List Form} (hfront : front ++ text = before)
      (hstanding : Standing place front forms text (spelling ++ rest)) :
      Standing place front (forms ++ [l.toForm (place before)]) (text ++ spelling) rest :=
    hfront ▸ hstanding.leaf hs hend
  exact h.extend hnew

theorem opener {b : Bracket} (h : Open place before level outer (b.opening :: rest)) :
    Open place (before ++ [b.opening]) [] (⟨b, place before, level⟩ :: outer) rest :=
  .inner h .nil

/-- Behind the closing bracket the form is one more of the forms around it. -/
theorem closer {front text : List Char} {b : Bracket} {items : List Form} {form : Form}
    (h : Open place front level outer (b.opening :: (text ++ b.closing :: rest)))
    (hs : Standing place (front ++ [b.opening]) items text (b.closing :: rest))
    (he : enclose b (place front) items = .ok form) :
    Open place (front ++ b.opening :: (text ++ [b.closing])) (form :: level) outer rest := by
  have hshift : b.opening :: (text ++ b.closing :: rest) =
      (b.opening :: (text ++ [b.closing])) ++ rest := by simp
  have hnew {start before : List Char} {forms : List Form} (hstart : start ++ before = front)
      (hstanding :
        Standing place start forms before ((b.opening :: (text ++ [b.closing])) ++ rest)) :
      Standing place start (forms ++ [form]) (before ++ b.opening :: (text ++ [b.closing]))
        rest := by
    subst hstart
    rw [← hshift] at hstanding
    exact hstanding.enclosed hs he
  rw [hshift] at h
  exact h.extend hnew

end Open

theorem enclose_eq_error {b : Bracket} {p : Position} {items : List Form} {e : ReadError}
    (h : enclose b p items = .error e) :
    b = .curly ∧ e = ⟨p, .oddMap⟩ ∧ items.length % 2 = 1 := by
  unfold enclose at h
  split at h
  · cases h
  · cases h
  · split at h
    · cases h
    · rename_i hodd
      cases h
      refine ⟨rfl, rfl, ?_⟩
      fun_induction pairUp items with
      | case1 => cases hodd
      | case2 k v rest ih =>
        have hrest := ih (Option.map_eq_none_iff.mp hodd)
        simp only [List.length_cons]
        omega
      | case3 => rfl

/-- A closing bracket ends the innermost form, or that form or the bracket cannot be read. -/
theorem assemble_closing {b : Bracket} (h : Open place before level outer (b.closing :: rest))
    (fault : Option ReadError) (tokens : List Token) :
    (∃ level' outer', Open place (before ++ [b.closing]) level' outer' rest ∧
      assemble fault level outer (⟨place before, .closer b⟩ :: tokens) =
        assemble fault level' outer' tokens) ∨
    Placed place (before ++ b.closing :: rest)
      (assemble fault level outer (⟨place before, .closer b⟩ :: tokens)) := by
  rw [assemble]
  have hopen := h
  cases h with
  | top => exact .inr ⟨before, b.closing, rest, rfl, rfl, .unexpected hopen (by simp)⟩
  | @inner front text _ level' forms outer' b' ho hs =>
    dsimp only
    -- The bracket closes the form that is open, or it is of another kind.
    split
    · rename_i hbracket
      subst hbracket
      cases he : enclose b' (place front) level.reverse with
      | error e =>
        obtain ⟨rfl, rfl, hodd⟩ := enclose_eq_error he
        have hoffends : Offends place front '{' (text ++ '}' :: rest) .oddMap := .oddMap ho hs hodd
        exact .inr ⟨front, '{', text ++ '}' :: rest,
          by simp [Bracket.opening, Bracket.closing], rfl, hoffends⟩
      | ok form =>
        have hread := ho.closer hs he
        rw [← List.cons_append, ← List.append_assoc] at hread
        exact .inl ⟨_, _, hread, rfl⟩
    · rename_i hbracket
      refine .inr ⟨front ++ b'.opening :: text, b.closing, rest, rfl, rfl,
        .unexpected hopen fun frame hframe => ?_⟩
      obtain rfl := Option.some.inj hframe
      exact hbracket

/-- One token at its place: what follows is assembled behind it, or there is an error. -/
theorem assemble_token {l : Lexeme} {spelling : List Char}
    (h : Open place before level outer (spelling ++ rest)) (hs : Spells l spelling)
    (hend : lasts l = true → AtEnd rest) (fault : Option ReadError) (tokens : List Token) :
    (∃ level' outer', Open place (before ++ spelling) level' outer' rest ∧
      assemble fault level outer (⟨place before, l⟩ :: tokens) =
        assemble fault level' outer' tokens) ∨
    Placed place (before ++ (spelling ++ rest))
      (assemble fault level outer (⟨place before, l⟩ :: tokens)) := by
  cases l with
  | leaf l =>
    refine .inl ⟨_, _, h.leaf hs hend, ?_⟩
    rw [assemble]
  | opener b =>
    cases hs
    exact .inl ⟨_, _, h.opener, assemble_opener rfl fault level outer tokens⟩
  | closer b =>
    cases hs
    exact assemble_closing h fault tokens

/-- Tokens that stand in a text are assembled into forms that stand in it. -/
theorem placed_assemble {s : Scan} (h : Scanned place before rest s)
    (ho : Open place before level outer rest) :
    Placed place (before ++ rest) (assemble s.fault level outer s.tokens) := by
  -- One token after another; between two of them the open forms hold all that has been read.
  induction h generalizing level outer with
  | @done before rest hlast =>
    unfold assemble
    cases ho with
    | top hs => exact ⟨before, rest, rfl, hs, hlast⟩
    | @inner front text _ _ forms _ b ho hs =>
      exact ⟨front, b.opening, text ++ rest, by simp, rfl, .unclosed ho hs hlast⟩
  | @fault before trivia text e ht he =>
    unfold assemble
    have hopen := ho.trivia ht
    cases he with
    | @unterminated cs w last hw hlast =>
      exact ⟨before ++ trivia, '"', w ++ last, by simp, rfl, .unterminatedString hopen hw hlast⟩
    | @unknownEscape cs w rest c hw hc =>
      exact ⟨before ++ trivia ++ '"' :: w, '\\', c :: rest, by simp, rfl,
        .unknownEscape hopen hw hc⟩
    | @emptyKeyword rest hend =>
      exact ⟨before ++ trivia, ':', rest, by simp, rfl, .emptyKeyword hopen hend⟩
  | @lexeme before trivia spelling rest l s ht hs hend _ ih =>
    rw [← List.append_assoc, Scan.push]
    rcases assemble_token (ho.trivia ht) hs hend s.fault s.tokens with
      ⟨level', outer', hopen, hnext⟩ | hplaced
    · rw [hnext, ← List.append_assoc]
      exact ih hopen
    · exact hplaced

theorem placed_readFrom (hplace : Follows place) (text : List Char) :
    Placed place text (readFrom (place []) text) :=
  placed_assemble (scanned_of_scan hplace text) (.top .nil)

mutual

def subforms : Form → List Form
  | .literal p l => [.literal p l]
  | .symbol p name => [.symbol p name]
  | .call p items => .call p items :: subformsAll items
  | .vector p items => .vector p items :: subformsAll items
  | .map p pairs => .map p pairs :: subformsPairs pairs

def subformsAll : List Form → List Form
  | [] => []
  | f :: rest => subforms f ++ subformsAll rest

def subformsPairs : List (Form × Form) → List Form
  | [] => []
  | (k, v) :: rest => subforms k ++ (subforms v ++ subformsPairs rest)

end

def children : Form → List Form
  | .call _ items => items
  | .vector _ items => items
  | .map _ pairs => unpair pairs
  | _ => []

theorem subformsAll_append (a b : List Form) :
    subformsAll (a ++ b) = subformsAll a ++ subformsAll b := by
  induction a with
  | nil => rfl
  | cons f a ih => rw [List.cons_append, subformsAll, subformsAll, ih, List.append_assoc]

theorem subformsPairs_eq (pairs : List (Form × Form)) :
    subformsPairs pairs = subformsAll (unpair pairs) := by
  induction pairs with
  | nil => rfl
  | cons e pairs ih => rw [subformsPairs, unpair, subformsAll, subformsAll, ih]

theorem mem_subforms (f : Form) : f ∈ subforms f := by
  cases f <;> exact List.mem_cons_self

theorem mem_subformsAll {f : Form} {forms : List Form} (h : f ∈ forms) : f ∈ subformsAll forms := by
  obtain ⟨a, b, rfl⟩ := List.append_of_mem h
  rw [subformsAll_append, subformsAll]
  exact List.mem_append_right _ (List.mem_append_left _ (mem_subforms f))

/-- What stands first in the text of a form, and all of it for an atom. -/
def Begins : Form → List Char → Prop
  | .call _ _, text => text.head? = some '('
  | .vector _ _, text => text.head? = some '['
  | .map _ _, text => text.head? = some '{'
  | .literal _ (.str _), text => text.head? = some '"'
  | .literal _ (.keyword _), text => text.head? = some ':'
  | .literal _ l, text => Spells (.leaf (.literal l)) text
  | .symbol _ name, text => Spells (.leaf (.symbol name)) text

/-- A form is written between two parts of a text and has the position of its first character. -/
structure Occupies (place : List Char → Position) (source : List Char) (f : Form)
    (front text tail : List Char) : Prop where
  source : source = front ++ (text ++ tail)
  position : f.position = place front
  begins : f.Begins text
  standing : Standing place front [f] text tail

theorem enclose_eq_ok {b : Bracket} {p : Position} {items : List Form} {form : Form}
    (h : enclose b p items = .ok form) :
    form.position = p ∧ form.children = items ∧ subforms form = form :: subformsAll items ∧
      ∀ text, form.Begins (b.opening :: text) := by
  unfold enclose at h
  split at h
  · cases h
    exact ⟨rfl, rfl, rfl, fun _ => rfl⟩
  · cases h
    exact ⟨rfl, rfl, rfl, fun _ => rfl⟩
  · split at h
    · rename_i pairs hpairs
      cases h
      have hitems := unpair_of_pairUp hpairs
      exact ⟨rfl, hitems, by rw [subforms, subformsPairs_eq, hitems], fun _ => rfl⟩
    · cases h

theorem subformsAll_enclosed {b : Bracket} {p : Position} {items : List Form} {form : Form}
    (h : enclose b p items = .ok form) : subformsAll [form] = form :: subformsAll items := by
  rw [subformsAll, (enclose_eq_ok h).2.2.1, subformsAll, List.append_nil]

theorem subformsAll_leaf (l : Leaf) (p : Position) : subformsAll [l.toForm p] = [l.toForm p] := by
  cases l <;> rfl

theorem position_leaf (l : Leaf) (p : Position) : (l.toForm p).position = p := by
  cases l <;> rfl

theorem begins_of_spells {l : Leaf} {spelling : List Char} (h : Spells (.leaf l) spelling)
    (p : Position) : (l.toForm p).Begins spelling := by
  cases h with
  | string hw => rfl
  | keyword hne hname => rfl
  | atom hne hcs hcolon hden =>
    have hs := Spells.atom hne hcs hcolon hden
    cases hden <;> exact hs

theorem ne_nil_of_spells {l : Lexeme} {spelling : List Char} (h : Spells l spelling) :
    spelling ≠ [] := by
  cases h with
  | atom hne => exact hne
  | _ => exact List.cons_ne_nil _ _

namespace Standing

variable {text : List Char} {forms : List Form}

theorem single_leaf {spelling : List Char} {l : Leaf} (hs : Spells (.leaf l) spelling)
    (hend : lasts (.leaf l) = true → AtEnd rest) :
    Standing place before [l.toForm (place before)] spelling rest := by
  have h : Standing place before ([] ++ [l.toForm (place (before ++ []))]) ([] ++ spelling) rest :=
    .leaf .nil hs hend
  rwa [List.append_nil] at h

theorem single_enclosed {inner : List Char} {items : List Form} {b : Bracket} {form : Form}
    (hitems : Standing place (before ++ [b.opening]) items inner (b.closing :: rest))
    (he : enclose b (place before) items = .ok form) :
    Standing place before [form] (b.opening :: (inner ++ [b.closing])) rest := by
  have h : Standing place before ([] ++ [form]) ([] ++ b.opening :: (inner ++ [b.closing])) rest :=
    .enclosed .nil (by rwa [List.append_nil]) (by rwa [List.append_nil])
  exact h

/-- The positions of all forms increase, from where the text begins up to its end. -/
theorem increasing (hplace : Follows place) (h : Standing place before forms text rest) :
    (subformsAll forms).Pairwise (·.position < ·.position) ∧
      ∀ f ∈ subformsAll forms, place before ≤ f.position ∧
        f.position < place (before ++ text) := by
  induction h with
  | nil => exact ⟨.nil, fun _ hf => absurd hf List.not_mem_nil⟩
  | @trivia before text t rest forms _ _ ih =>
    refine ⟨ih.1, fun f hf => ⟨(ih.2 f hf).1, ?_⟩⟩
    rw [← List.append_assoc]
    exact (ih.2 f hf).2.trans_le (hplace.le _ t)
  | @leaf before text spelling rest forms l _ hs _ ih =>
    have hposition := position_leaf l (place (before ++ text))
    have hlast := hplace.lt (before ++ text) (ne_nil_of_spells hs)
    rw [subformsAll_append, subformsAll_leaf, ← List.append_assoc]
    refine ⟨List.pairwise_append.mpr ⟨ih.1, List.pairwise_singleton _ _, ?_⟩, ?_⟩
    · intro f hf g hg
      rw [List.mem_singleton.mp hg, hposition]
      exact (ih.2 f hf).2
    · intro f hf
      rcases List.mem_append.mp hf with hf | hf
      · exact ⟨(ih.2 f hf).1, (ih.2 f hf).2.trans hlast⟩
      · rw [List.mem_singleton.mp hf, hposition]
        exact ⟨hplace.le before text, hlast⟩
  -- The form itself stands at its bracket, before all that is in it.
  | @enclosed before text inner rest forms items b form _ _ he ih ihitems =>
    have hposition := (enclose_eq_ok he).1
    have hopening := hplace.lt (before ++ text) (List.cons_ne_nil b.opening [])
    have hclosing : place (before ++ text ++ [b.opening] ++ inner) <
        place (before ++ (text ++ b.opening :: (inner ++ [b.closing]))) := by
      have hlast := hplace.lt (before ++ text ++ [b.opening] ++ inner)
        (List.cons_ne_nil b.closing [])
      have hassoc : before ++ (text ++ b.opening :: (inner ++ [b.closing])) =
          before ++ text ++ [b.opening] ++ inner ++ [b.closing] := by simp
      rwa [hassoc]
    have hinner : place (before ++ text) <
        place (before ++ (text ++ b.opening :: (inner ++ [b.closing]))) :=
      hopening.trans_le ((hplace.le _ inner).trans hclosing.le)
    have hitem {f : Form} (hf : f ∈ subformsAll items) : place (before ++ text) < f.position :=
      hopening.trans_le (ihitems.2 f hf).1
    rw [subformsAll_append, subformsAll_enclosed he]
    refine ⟨List.pairwise_append.mpr ⟨ih.1, List.pairwise_cons.mpr ⟨?_, ihitems.1⟩, ?_⟩, ?_⟩
    · intro f hf
      rw [hposition]
      exact hitem hf
    · intro f hf g hg
      have hbefore := (ih.2 f hf).2
      rcases List.mem_cons.mp hg with rfl | hg
      · rwa [hposition]
      · exact hbefore.trans (hitem hg)
    · intro f hf
      rcases List.mem_append.mp hf with hf | hf
      · exact ⟨(ih.2 f hf).1, (ih.2 f hf).2.trans hinner⟩
      · rcases List.mem_cons.mp hf with rfl | hf
        · rw [hposition]
          exact ⟨hplace.le before text, hinner⟩
        · exact ⟨(hplace.le before text).trans (hitem hf).le,
            (ihitems.2 f hf).2.trans hclosing⟩

/-- Every form occupies a part of the text, and those in its brackets occupy smaller parts of
that. -/
theorem occupies (h : Standing place before forms text rest) {source : List Char}
    (hsource : source = before ++ (text ++ rest)) : ∀ f ∈ subformsAll forms,
    ∃ front spelling tail, Occupies place source f front spelling tail ∧
      before.length ≤ front.length ∧ rest.length ≤ tail.length ∧
      ∀ child ∈ f.children, ∃ front' spelling' tail',
        Occupies place source child front' spelling' tail' ∧ front.length < front'.length ∧
          tail.length < tail'.length := by
  induction h with
  | nil => exact fun _ hf => absurd hf List.not_mem_nil
  | @trivia before text t rest forms _ _ ih =>
    intro f hf
    obtain ⟨front, spelling, tail, hf, hfront, htail, hchildren⟩ :=
      ih (by rw [hsource, List.append_assoc]) f hf
    rw [List.length_append] at htail
    exact ⟨front, spelling, tail, hf, hfront, by omega, hchildren⟩
  | @leaf before text spelling rest forms l _ hs hend ih =>
    intro f hf
    rw [subformsAll_append, subformsAll_leaf] at hf
    rcases List.mem_append.mp hf with hf | hf
    · obtain ⟨front, spelling', tail, hf, hfront, htail, hchildren⟩ :=
        ih (by rw [hsource, List.append_assoc]) f hf
      rw [List.length_append] at htail
      exact ⟨front, spelling', tail, hf, hfront, by omega, hchildren⟩
    · rw [List.mem_singleton.mp hf]
      refine ⟨before ++ text, spelling, rest, ⟨by rw [hsource]; simp, position_leaf l _,
        begins_of_spells hs _, single_leaf hs hend⟩, by simp, le_rfl, ?_⟩
      cases l <;> exact fun _ hc => absurd hc List.not_mem_nil
  | @enclosed before text inner rest forms items b form _ hitems he ih ihitems =>
    obtain ⟨hposition, hchildren, -, hbegins⟩ := enclose_eq_ok he
    have houter : source = before ++ (text ++ (b.opening :: (inner ++ b.closing :: rest))) := by
      rw [hsource]
      simp
    have hinner : source =
        before ++ text ++ [b.opening] ++ (inner ++ b.closing :: rest) := by
      rw [hsource]
      simp
    intro f hf
    rw [subformsAll_append, subformsAll_enclosed he] at hf
    rcases List.mem_append.mp hf with hf | hf
    · obtain ⟨front, spelling, tail, hf, hfront, htail, hchildren⟩ := ih houter f hf
      simp only [List.length_cons, List.length_append] at htail
      exact ⟨front, spelling, tail, hf, hfront, by omega, hchildren⟩
    · rcases List.mem_cons.mp hf with rfl | hf
      · refine ⟨before ++ text, b.opening :: (inner ++ [b.closing]), rest,
          ⟨by rw [hsource]; simp, hposition, hbegins _, single_enclosed hitems he⟩, by simp, le_rfl,
          fun child hchild => ?_⟩
        rw [hchildren] at hchild
        obtain ⟨front, spelling, tail, hoccupies, hfront, htail, -⟩ :=
          ihitems hinner child (mem_subformsAll hchild)
        simp only [List.length_cons, List.length_append, List.length_nil] at hfront htail
        refine ⟨front, spelling, tail, hoccupies, ?_, htail⟩
        rw [List.length_append]
        omega
      · obtain ⟨front, spelling, tail, hoccupies, hfront, htail, hrest⟩ := ihitems hinner f hf
        simp only [List.length_cons, List.length_append, List.length_nil] at hfront htail
        exact ⟨front, spelling, tail, hoccupies, by omega, by omega, hrest⟩

end Standing

/-- Positions are exact. The forms of a text stand in it, every form and every form in it at the
line and column of its first character; in the order of the text they increase, and what is in the
brackets of a form lies between them. An error is at the line and column of the character that is to
blame. -/
theorem readAll_positions (text : String) (n : ℕ) :
    (∀ forms, readAll text n = .ok forms →
      (∃ body last, text.toList = body ++ last ∧ Standing (behind n) [] forms body last ∧
        LastTrivia last) ∧
      (subformsAll forms).Pairwise (·.position < ·.position) ∧
      ∀ f ∈ subformsAll forms, ∃ front spelling tail,
        Occupies (behind n) text.toList f front spelling tail ∧
        ∀ child ∈ f.children, ∃ front' spelling' tail',
          Occupies (behind n) text.toList child front' spelling' tail' ∧
            front.length < front'.length ∧ tail.length < tail'.length) ∧
    ∀ e, readAll text n = .error e → ∃ before c rest, text.toList = before ++ c :: rest ∧
      e.position = behind n before ∧ Offends (behind n) before c rest e.fault := by
  have hplaced : Placed (behind n) text.toList (readAll text n) :=
    placed_readFrom (follows_behind n) text.toList
  refine ⟨fun forms h => ?_, fun e h => ?_⟩
  · rw [h] at hplaced
    obtain ⟨body, last, htext, hs, hlast⟩ := hplaced
    refine ⟨⟨body, last, htext, hs, hlast⟩, (hs.increasing (follows_behind n)).1, fun f hf => ?_⟩
    obtain ⟨front, spelling, tail, hoccupies, -, -, hchildren⟩ := hs.occupies htext f hf
    exact ⟨front, spelling, tail, hoccupies, hchildren⟩
  · rw [h] at hplaced
    exact hplaced

/-- A call over two lines of a file, and a bracket that nothing has opened. -/
theorem readAll_positions_of_lines :
    (∃ forms, readAll "(a\n [:b])" 3 = .ok forms ∧
      (subformsAll forms).map Form.position = [⟨3, 1⟩, ⟨3, 2⟩, ⟨4, 2⟩, ⟨4, 3⟩] ∧
      (subformsAll forms).Pairwise (·.position < ·.position)) ∧
    ∃ before c rest, "(\n ]".toList = before ++ c :: rest ∧ ⟨2, 2⟩ = behind 1 before ∧
      Offends (behind 1) before c rest (.unexpected .square) := by
  have hcall : readAll "(a\n [:b])" 3 = .ok [.call ⟨3, 1⟩ [.symbol ⟨3, 2⟩ "a",
      .vector ⟨4, 2⟩ [.literal ⟨4, 3⟩ (.keyword "b")]]] := by rfl
  have hbracket : readAll "(\n ]" 1 = .error ⟨⟨2, 2⟩, .unexpected .square⟩ := by rfl
  exact ⟨⟨_, hcall, rfl, ((readAll_positions _ 3).1 _ hcall).2.1⟩,
    (readAll_positions _ 1).2 _ hbracket⟩

end LayeredSite.Form
