/-
**What one line of a chart says.**

A line is read on its own, after trimming. It is blank, a comment, a directive that only concerns
drawing, a statement, or not understood. A statement declares a node with a shape, or draws an
edge between two nodes, each of which may carry its shape along. Of a line with several arrows only
the first edge is read.

* `Line.read`: the reading of a trimmed line.
* `Line.outcome` and `Line.detail`: the reading in words.
* `Reading.ofSource`: the numbered readings of a whole chart, one for each line.
-/

import ChartGuide.Text.Word
import ChartGuide.Token

namespace ChartGuide

/-- What the brackets after an id say: their shape and the text between them, which may be empty. -/
structure Face where
  shape : Shape
  text : String
  deriving DecidableEq, Repr

/-- An end of an edge: the id of a node, and its face if the line declares it. -/
structure Endpoint where
  id : String
  face : Option Face
  deriving DecidableEq, Repr

/-- What a line adds to a chart. -/
inductive Statement where
  | declaration (id : String) (face : Face)
  | edge (source : Endpoint) (label : Option String) (target : Endpoint)
  deriving DecidableEq, Repr

/-- Why a line is not understood. -/
inductive LineFault where
  | noDeclaration
  | missingSource
  | missingTarget
  deriving DecidableEq, Repr

def LineFault.message : LineFault → String
  | noDeclaration => "no node declaration"
  | missingSource => "missing source"
  | missingTarget => "missing target"

/-- What a line says. -/
inductive Line where
  | blank
  | comment
  | directive
  | statement (statement : Statement)
  | unrecognized (fault : LineFault)
  deriving DecidableEq, Repr

namespace Line

def directiveWords : List (List Char) :=
  ["flowchart", "graph", "style", "classDef", "class", "linkStyle", "click", "subgraph",
    "direction"].map String.toList

/-- Whether a word ends where this text follows it. -/
def endsWord (after : List Char) : Bool := !after.head?.any Text.isWordChar

/-- Whether a line only concerns drawing: a rule of hyphens, the end of a block, or a line that
opens with a directive word. -/
def isDirective (text : List Char) : Bool :=
  ['-', '-', '-'].isPrefixOf text || text == ['e', 'n', 'd'] ||
    directiveWords.any fun word => (word.isPrefixOf? text).any endsWord

/-- The face right after the leading id of some tokens. -/
def leadingFace? : List Token → Option Face
  | ⟨.ident, _, _, _⟩ :: ⟨.shape shape, text, _, _⟩ :: _ => some ⟨shape, text⟩
  | _ => none

/-- The end of an edge at the head of some tokens. -/
def endpoint? : List Token → Option Endpoint
  | tokens@(⟨.ident, id, _, _⟩ :: _) => some ⟨id, leadingFace? tokens⟩
  | _ => none

/-- The label at the head of some tokens, and the tokens after it. -/
def splitLabel : List Token → Option String × List Token
  | ⟨.label, text, _, _⟩ :: rest => (some text, rest)
  | tokens => (none, tokens)

def isArrow (token : Token) : Bool :=
  match token.kind with
  | .arrow _ => true
  | _ => false

/-- The statement that some tokens make: an edge if there is an arrow, and else a declaration. -/
def statement? (tokens : List Token) : Except LineFault Statement :=
  match tokens.span (fun token => !isArrow token) with
  | (left, _ :: afterArrow) =>
    let (label, right) := splitLabel afterArrow
    match endpoint? left, endpoint? right with
    | none, _ => .error .missingSource
    | some _, none => .error .missingTarget
    | some source, some target => .ok (.edge source label target)
  | (tokens, []) =>
    match endpoint? tokens with
    | some ⟨id, some face⟩ => .ok (.declaration id face)
    | _ => .error .noDeclaration

/-- The reading of a trimmed line. -/
def read (text : List Char) : Line :=
  if text.isEmpty then blank
  else if ['%', '%'].isPrefixOf text then comment
  else if isDirective text then directive
  else match statement? (Token.scan text) with
    | .ok found => statement found
    | .error fault => unrecognized fault

def outcome : Line → String
  | blank => "blank"
  | comment => "comment"
  | directive => "directive"
  | statement (.declaration _ _) => "declaration"
  | statement (.edge _ _ _) => "edge"
  | unrecognized _ => "unrecognized"

/-- What there is to say about a reading: the ids it is about, or the fault. -/
def detail : Line → String
  | statement (.declaration id _) => id
  | statement (.edge source _ target) => source.id ++ " -> " ++ target.id
  | unrecognized fault => fault.message
  | _ => ""

def fault? : Line → Option LineFault
  | unrecognized fault => some fault
  | _ => none

end Line

/-- A line of a chart: its number, counted from one, its trimmed text, and what it says. -/
structure Reading where
  number : Nat
  text : String
  line : Line
  deriving DecidableEq, Repr

namespace Reading

/-- The reading of a line with its number. -/
def ofLine (number : Nat) (line : List Char) : Reading :=
  let text := Text.trim line
  ⟨number, String.ofList text, Line.read text⟩

/-- The readings of a chart, one for each line. -/
def ofSource (source : String) : List Reading :=
  ((source.toList.splitOn '\n').zipIdx 1).map fun (line, number) => ofLine number line

end Reading

end ChartGuide
