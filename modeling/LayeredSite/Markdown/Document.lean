import LayeredSite.Markdown.Content
import LayeredSite.Markdown.Structure

namespace LayeredSite.Markdown

def Piece.ofToken (t : Spanned Token) : Spanned Piece := t.map .token

def Cell.read (definitions : Definitions) (containers : List Container) (c : Cell) :
    List Element :=
  Content.Setting.read ⟨definitions, containers, c.stop⟩ (c.tokens.map Piece.ofToken)

def Leaf.piece (definitions : Definitions) (containers : List Container) (stop : Nat) :
    Leaf → Piece
  | .paragraph tokens => .element (.paragraph (Cell.read definitions containers ⟨tokens, stop⟩))
  | .heading level tokens =>
    .element (.heading level (Cell.read definitions containers ⟨tokens, stop⟩))
  | .rule => .element .rule
  | .code info text => .element (.codeBlock info text)
  | .html token => .token token
  | .table alignments head rows =>
    let line (cells : List Cell) := cells.map (Cell.read definitions containers)
    .element (.table alignments (line head) (rows.map line))

/-- An item that begins with a paragraph without any text shows nothing in a tight list. -/
def hidesItem : List Block → Bool
  | .leaf _ _ (.paragraph []) :: _ => true
  | _ => false

mutual

def Block.piece (definitions : Definitions) (containers : List Container) :
    Block → Spanned Piece
  | .leaf place stop l => ⟨place, stop, l.piece definitions containers stop⟩
  | .within place stop c blocks =>
    let tight := containers.getLast?.any Container.isTight
    let inner := containers ++ [c]
    let pieces := if tight && hidesItem blocks then []
      else Block.pieces definitions inner tight blocks
    let content := Content.Setting.read ⟨definitions, inner, stop⟩ pieces
    ⟨place, stop, .element (c.element content)⟩

/-- The pieces of blocks, paragraphs in a tight list being their tokens. -/
def Block.pieces (definitions : Definitions) (containers : List Container) (tight : Bool) :
    List Block → List (Spanned Piece)
  | [] => []
  | .leaf place stop l :: rest =>
    let pieces := match tight, l with
      | true, .paragraph (t :: tokens) => (t :: tokens).map Piece.ofToken
      | _, _ => [⟨place, stop, l.piece definitions containers stop⟩]
    pieces ++ Block.pieces definitions containers tight rest
  | .within place stop c blocks :: rest =>
    Block.piece definitions containers (.within place stop c blocks) ::
      Block.pieces definitions containers tight rest

end

def readDocument (source : List Char) : List Element :=
  let (blocks, definitions) := readBlocks source
  Content.Setting.read ⟨definitions, [], source.length⟩
    (Block.pieces definitions [] false blocks)

end LayeredSite.Markdown
