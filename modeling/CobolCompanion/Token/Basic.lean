import CobolCompanion.Text.Position

namespace CobolCompanion

/-- What a token is, as far as the outline of a program is concerned. -/
inductive TokenKind where
  | word
  | whitespace
  | newLine
  | endOfInput
  | other
  deriving DecidableEq, Inhabited

/-- A piece of source text with the place where it starts and the bytes it was cut from. -/
@[ext]
structure Token where
  kind : TokenKind
  lexeme : String
  position : Position
  span : Span
  deriving DecidableEq, Inhabited

namespace Token

def endOfInput (position : Position) (offset : Nat) : Token :=
  ⟨.endOfInput, "", position, ⟨offset, offset⟩⟩

def isEndOfInput (t : Token) : Bool :=
  t.kind == .endOfInput

def isWord (t : Token) : Bool :=
  t.kind == .word

/-- Blanks, comments and line breaks: what stands between the tokens that matter. -/
def isTrivia (t : Token) : Bool :=
  t.kind == .whitespace || t.kind == .newLine

def isSignificant (t : Token) : Bool :=
  !t.isTrivia

def isTerminator (t : Token) : Bool :=
  t.kind == .other && t.lexeme == "."

/-- The number of columns of a token. A line break has one, however it is written. -/
def width (t : Token) : Nat :=
  if t.kind = .newLine then 1 else t.lexeme.length

/-- The range of a token. It stays on one line. -/
def range (t : Token) : Range :=
  ⟨t.span, t.position, ⟨t.position.line, t.position.column + t.width⟩⟩

def render (t : Token) : String :=
  match t.kind with
  | .endOfInput => "<eof>"
  | .newLine => "\\n"
  | _ => t.lexeme

end Token

def lexemes (tokens : List Token) : String :=
  String.join (tokens.map Token.lexeme)

end CobolCompanion
