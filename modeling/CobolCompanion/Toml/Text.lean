import CobolCompanion.Text.Numeral
import CobolCompanion.Toml.Value

namespace CobolCompanion.Toml

/-- What was read, and the text after it. -/
abbrev Reading (α : Type) :=
  Option (α × List Char)

def isSpace (c : Char) : Bool :=
  c == ' ' || c == '\t'

/-- The characters that may stand in a comment: no control characters but the tab. -/
def isCommentChar (c : Char) : Bool :=
  c == '\t' || 0x20 ≤ c.toNat && c.toNat != 0x7F

def skipSpaces (text : List Char) : List Char :=
  text.dropWhile isSpace

def lineEnd? : List Char → Option (List Char)
  | '\n' :: rest => some rest
  | '\r' :: '\n' :: rest => some rest
  | _ => none

def skipComment : List Char → List Char
  | '#' :: rest => rest.dropWhile isCommentChar
  | text => text

/-- Reads what may follow on the line of a statement, up to the start of the next line. -/
def restOfLine? (text : List Char) : Option (List Char) :=
  match skipComment (skipSpaces text) with
  | [] => some []
  | rest => lineEnd? rest

/-- Where a reader of blanks between values stands. -/
inductive Gap where
  | blank
  | comment
  deriving DecidableEq

/-- Skips spaces, line ends and comments. A comment goes up to the end of its line. -/
def skipGap : Gap → List Char → List Char
  | .blank, ' ' :: rest => skipGap .blank rest
  | .blank, '\t' :: rest => skipGap .blank rest
  | .blank, '\n' :: rest => skipGap .blank rest
  | .blank, '\r' :: '\n' :: rest => skipGap .blank rest
  | .blank, '#' :: rest => skipGap .comment rest
  | .blank, text => text
  | .comment, '\n' :: rest => skipGap .blank rest
  | .comment, '\r' :: '\n' :: rest => skipGap .blank rest
  | .comment, c :: rest => if isCommentChar c then skipGap .comment rest else c :: rest
  | .comment, [] => []

def scalar? (digits : List Char) : Option Char :=
  (Numeral.natural? 16 digits).bind fun n => if n.isValidChar then some (Char.ofNat n) else none

/-- The characters that stand for themselves in a quoted string. -/
def isPlain (quote c : Char) : Bool :=
  c == '\t' || 0x20 ≤ c.toNat && c.toNat != 0x7F && c != quote

/-- The characters that a letter after a backslash stands for. -/
def shortEscape? : Char → Option Char
  | 'b' => some '\x08'
  | 't' => some '\t'
  | 'n' => some '\n'
  | 'f' => some '\x0C'
  | 'r' => some '\r'
  | '"' => some '"'
  | '\\' => some '\\'
  | _ => none

def prepend (c : Char) : Reading (List Char) → Reading (List Char) :=
  Option.map fun (body, rest) => (c :: body, rest)

/-- Reads the inside of a string with escapes and its closing quote. -/
def basicBody? : List Char → Reading (List Char)
  | [] => none
  | '"' :: rest => some ([], rest)
  | '\\' :: 'u' :: a :: b :: c :: d :: rest =>
    (scalar? [a, b, c, d]).bind fun e => prepend e (basicBody? rest)
  | '\\' :: 'U' :: a :: b :: c :: d :: e :: f :: g :: h :: rest =>
    (scalar? [a, b, c, d, e, f, g, h]).bind fun i => prepend i (basicBody? rest)
  | '\\' :: c :: rest => (shortEscape? c).bind fun e => prepend e (basicBody? rest)
  | c :: rest => if isPlain '"' c && c != '\\' then prepend c (basicBody? rest) else none

/-- Reads the inside of a string without escapes and its closing quote. -/
def literalBody? : List Char → Reading (List Char)
  | [] => none
  | c :: rest =>
    if c = '\'' then some ([], rest)
    else if isPlain '\'' c then prepend c (literalBody? rest)
    else none

/-- Whether the rest of a line is blank, so that a backslash before it joins the lines. -/
def joinsLines (text : List Char) : Bool :=
  (lineEnd? (skipSpaces text)).isSome

/--
The end of a string over several lines that starts with a quote: up to two quotes may stand
before the three that close it. Yields the number of those two, and nothing if the string goes
on.
-/
def closing? (quote : Char) (text : List Char) : Reading Nat :=
  let run := min 5 (text.takeWhile (· == quote)).length
  if 3 ≤ run then some (run - 3, text.drop run) else none

/--
Reads the inside of a string with escapes over several lines, and the quotes that close it.
-/
def multilineBody? (joining : Bool) : List Char → Reading (List Char)
  | [] => none
  | '\\' :: 'u' :: a :: b :: c :: d :: rest =>
    (scalar? [a, b, c, d]).bind fun e => prepend e (multilineBody? false rest)
  | '\\' :: 'U' :: a :: b :: c :: d :: e :: f :: g :: h :: rest =>
    (scalar? [a, b, c, d, e, f, g, h]).bind fun i => prepend i (multilineBody? false rest)
  | '\\' :: c :: rest =>
    if joinsLines (c :: rest) then multilineBody? true (c :: rest)
    else (shortEscape? c).bind fun e => prepend e (multilineBody? false rest)
  | '\r' :: '\n' :: rest =>
    if joining then multilineBody? true rest else prepend '\n' (multilineBody? false rest)
  | c :: rest =>
    if joining && (isSpace c || c == '\n') then multilineBody? true rest
    else if c = '"' then
      match closing? '"' (c :: rest) with
      | some (quotes, rest') => some (List.replicate quotes '"', rest')
      | none => prepend c (multilineBody? false rest)
    else if c = '\n' || isPlain '"' c && c != '\\' then prepend c (multilineBody? false rest)
    else none

/--
Reads the inside of a string without escapes over several lines, and the quotes that close it.
-/
def multilineLiteralBody? : List Char → Reading (List Char)
  | [] => none
  | '\r' :: '\n' :: rest => prepend '\n' (multilineLiteralBody? rest)
  | c :: rest =>
    if c = '\'' then
      match closing? '\'' (c :: rest) with
      | some (quotes, rest') => some (List.replicate quotes '\'', rest')
      | none => prepend c (multilineLiteralBody? rest)
    else if c = '\n' || isPlain '\'' c then prepend c (multilineLiteralBody? rest)
    else none

/-- A line end right after the opening quotes does not belong to the string. -/
def skipFirstLineEnd (text : List Char) : List Char :=
  (lineEnd? text).getD text

def string? (text : List Char) : Reading String :=
  let body := match text with
    | '"' :: '"' :: '"' :: rest => multilineBody? false (skipFirstLineEnd rest)
    | '\'' :: '\'' :: '\'' :: rest => multilineLiteralBody? (skipFirstLineEnd rest)
    | '"' :: rest => basicBody? rest
    | '\'' :: rest => literalBody? rest
    | _ => none
  body.map fun (body, rest) => (String.ofList body, rest)

def isBareKeyChar (c : Char) : Bool :=
  c.isAlphanum || c == '_' || c == '-'

def simpleKey? : List Char → Reading String
  | '"' :: rest => (basicBody? rest).map fun (body, rest) => (String.ofList body, rest)
  | '\'' :: rest => (literalBody? rest).map fun (body, rest) => (String.ofList body, rest)
  | text =>
    let key := text.takeWhile isBareKeyChar
    if key.isEmpty then none else some (String.ofList key, text.dropWhile isBareKeyChar)

/-- Reads a key: parts with points between them. Yields the way to it and its last part. -/
def key? : Nat → List Char → Reading (List String × String)
  | 0, _ => none
  | fuel + 1, text =>
    (simpleKey? (skipSpaces text)).bind fun (first, rest) =>
      match skipSpaces rest with
      | '.' :: rest =>
        (key? fuel rest).map fun ((path, last), rest) => ((first :: path, last), rest)
      | rest => some (([], first), rest)

end CobolCompanion.Toml
