import CobolCompanion.Token.Scan

namespace CobolCompanion

/-- The first tokens of a list that a test does not skip, at most as many as asked for. -/
def firstKept (skip : Token → Bool) : Nat → List Token → List Token
  | 0, _ => []
  | _, [] => []
  | n + 1, t :: ts => if skip t then firstKept skip (n + 1) ts else t :: firstKept skip n ts

def firstSignificant (n : Nat) (tokens : List Token) : List Token :=
  firstKept Token.isTrivia n tokens

/-- A list of tokens with those that are still unread, and the token that ends it. -/
structure TokenStream where
  tokens : List Token
  unread : List Token
  sentinel : Token

namespace TokenStream

def ofTokens (tokens : List Token) (sentinel : Token) : TokenStream :=
  ⟨tokens, tokens, sentinel⟩

def ofText (text : String) : TokenStream :=
  let stop := Place.start.after text.toList
  ofTokens (scan text) (.endOfInput stop.position stop.offset)

def hasMore (s : TokenStream) : Bool :=
  !s.unread.isEmpty

def peek (s : TokenStream) : Token :=
  s.unread.headD s.sentinel

def forward (s : TokenStream) : TokenStream :=
  { s with unread := s.unread.tail }

/-- The next tokens that are not skipped. The end of input is not among them. -/
def peekKept (s : TokenStream) (n : Nat) (skip : Token → Bool) : List Token :=
  firstKept skip n s.unread

end TokenStream

end CobolCompanion
