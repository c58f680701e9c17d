import LayeredSite.Proofs.Reader.Spelling
import LayeredSite.Template.Reader

namespace LayeredSite

namespace Grammar

/-- What may stand between lexemes. A comment goes to the end of its line. -/
inductive Trivia : List Char → Prop
  | nil : Trivia []
  | blank {c : Char} {cs : List Char} : Text.isBlank c = true ∨ c = ',' → Trivia cs →
      Trivia (c :: cs)
  | comment {body cs : List Char} : '\n' ∉ body → Trivia cs → Trivia (';' :: body ++ '\n' :: cs)

/-- What may stand behind the last lexeme, where a comment may also go to the end of the text. -/
def LastTrivia (cs : List Char) : Prop :=
  Trivia cs ∨ ∃ front body, Trivia front ∧ '\n' ∉ body ∧ cs = front ++ ';' :: body

inductive StringBody : List Char → List Char → Prop
  | nil : StringBody [] []
  | quote {s w : List Char} : StringBody s w → StringBody ('"' :: s) ('\\' :: '"' :: w)
  | backslash {s w : List Char} : StringBody s w → StringBody ('\\' :: s) ('\\' :: '\\' :: w)
  | newline {s w : List Char} : StringBody s w → StringBody ('\n' :: s) ('\\' :: 'n' :: w)
  | tab {s w : List Char} : StringBody s w → StringBody ('\t' :: s) ('\\' :: 't' :: w)
  | plain {c : Char} {s w : List Char} : c ≠ '"' → c ≠ '\\' → StringBody s w →
      StringBody (c :: s) (c :: w)

def NoDelimiter (cs : List Char) : Prop := ∀ c ∈ cs, Token.isDelimiter c = false

def AtEnd (cs : List Char) : Prop := ∀ c, cs.head? = some c → Token.isDelimiter c = true

inductive Spells : Lexeme → List Char → Prop
  | opener (b : Bracket) : Spells (.opener b) [b.opening]
  | closer (b : Bracket) : Spells (.closer b) [b.closing]
  | string {s w : List Char} : StringBody s w →
      Spells (.leaf (.literal (.str (String.ofList s)))) ('"' :: w ++ ['"'])
  | keyword {name : List Char} : name ≠ [] → NoDelimiter name →
      Spells (.leaf (.literal (.keyword (String.ofList name)))) (':' :: name)
  | atom {cs : List Char} {l : Leaf} : cs ≠ [] → NoDelimiter cs → cs.head? ≠ some ':' →
      Spelling.Denotes cs l → Spells (.leaf l) cs

/-- Atoms and keywords last up to the next delimiter; brackets and strings end by themselves. -/
def lasts : Lexeme → Bool
  | .opener _ => false
  | .closer _ => false
  | .leaf (.literal (.str _)) => false
  | .leaf _ => true

inductive Written : List Lexeme → List Char → Prop
  | done {cs : List Char} : LastTrivia cs → Written [] cs
  | lexeme {l : Lexeme} {ls : List Lexeme} {trivia spelling rest : List Char} :
      Trivia trivia → Spells l spelling → (lasts l = true → AtEnd rest) → Written ls rest →
      Written (l :: ls) (trivia ++ (spelling ++ rest))

end Grammar

namespace Form

mutual

def bare : Form → Form
  | .literal _ l => .literal ⟨1, 1⟩ l
  | .symbol _ name => .symbol ⟨1, 1⟩ name
  | .call _ items => .call ⟨1, 1⟩ (bareAll items)
  | .vector _ items => .vector ⟨1, 1⟩ (bareAll items)
  | .map _ pairs => .map ⟨1, 1⟩ (barePairs pairs)

def bareAll : List Form → List Form
  | [] => []
  | f :: rest => bare f :: bareAll rest

def barePairs : List (Form × Form) → List (Form × Form)
  | [] => []
  | (k, v) :: rest => (bare k, bare v) :: barePairs rest

end

mutual

/-- The lexemes of a form: a call, vector or map is its items between its brackets, the items of a
map being its keys and values in turn. -/
def lexemes : Form → List Lexeme
  | .literal _ l => [.leaf (.literal l)]
  | .symbol _ name => [.leaf (.symbol name)]
  | .call _ items => .opener .round :: (lexemesAll items ++ [.closer .round])
  | .vector _ items => .opener .square :: (lexemesAll items ++ [.closer .square])
  | .map _ pairs => .opener .curly :: (lexemesPairs pairs ++ [.closer .curly])

def lexemesAll : List Form → List Lexeme
  | [] => []
  | f :: rest => lexemes f ++ lexemesAll rest

def lexemesPairs : List (Form × Form) → List Lexeme
  | [] => []
  | (k, v) :: rest => lexemes k ++ (lexemes v ++ lexemesPairs rest)

end

end Form

def Grammar.Renders (forms : List Form) (cs : List Char) : Prop :=
  Written (Form.lexemesAll forms) cs

namespace Grammar

theorem Trivia.append {a b : List Char} (ha : Trivia a) (hb : Trivia b) : Trivia (a ++ b) := by
  induction ha with
  | nil => exact hb
  | blank hc _ ih => exact .blank hc ih
  | comment hbody _ ih =>
    rw [List.append_assoc]
    exact .comment hbody ih

theorem StringBody.append {s w s' w' : List Char} (h : StringBody s w) (h' : StringBody s' w') :
    StringBody (s ++ s') (w ++ w') := by
  induction h with
  | nil => exact h'
  | quote _ ih => exact .quote ih
  | backslash _ ih => exact .backslash ih
  | newline _ ih => exact .newline ih
  | tab _ ih => exact .tab ih
  | plain hq hb _ ih => exact .plain hq hb ih

end Grammar
end LayeredSite
