import CobolCompanion.Toml.Moment

namespace CobolCompanion.Toml

/-- Lists and tables as values may be nested only so deep. -/
def nestingLimit : Nat :=
  79

/-- Reads digits with single underscores between them. Yields the digits alone. -/
def grouped? (isDigit : Char → Bool) : List Char → Reading (List Char)
  | [] => none
  | c :: rest =>
    if isDigit c then
      match rest with
      | '_' :: rest' => prepend c (grouped? isDigit rest')
      | d :: rest' => if isDigit d then prepend c (grouped? isDigit (d :: rest'))
        else some ([c], rest)
      | [] => some ([c], [])
    else none

def sign? : List Char → List Char × List Char
  | '+' :: rest => ([], rest)
  | '-' :: rest => (['-'], rest)
  | text => ([], text)

/-- Reads a decimal integer: no zero stands before another digit. -/
def decimal? (text : List Char) : Reading (List Char) :=
  let (sign, digits) := sign? text
  match digits with
  | '0' :: rest => some (sign ++ ['0'], rest)
  | _ => (grouped? Char.isDigit digits).map fun (digits, rest) => (sign ++ digits, rest)

def exponentPart? : List Char → Reading (List Char)
  | c :: rest =>
    if c = 'e' ∨ c = 'E' then
      let (sign, digits) := sign? rest
      (grouped? Char.isDigit digits).map fun (digits, rest) => ('e' :: sign ++ digits, rest)
    else none
  | [] => none

def floatTail? : List Char → Option (List Char × List Char)
  | '.' :: rest => do
    let (digits, rest) ← grouped? Char.isDigit rest
    match rest with
    | c :: _ =>
      if c = 'e' ∨ c = 'E' then
        let (exponent, rest) ← exponentPart? rest
        return ('.' :: digits ++ exponent, rest)
      else return ('.' :: digits, rest)
    | [] => return ('.' :: digits, rest)
  | rest => exponentPart? rest

/-- A float that is not too large. The words for infinity are read elsewhere. -/
def finiteOrBelow? (x : Float) : Option Float :=
  if x == 1.0 / 0.0 then none else some x

def specialFloat? (text : List Char) : Reading Value :=
  let (sign, rest) := sign? text
  match rest with
  | 'i' :: 'n' :: 'f' :: rest =>
    (Numeral.float? (sign ++ "inf".toList)).map fun x => (.float x, rest)
  | 'n' :: 'a' :: 'n' :: rest =>
    (Numeral.float? (sign ++ "nan".toList)).map fun x => (.float x, rest)
  | _ => none

def basedInteger? (base : Nat) (text : List Char) : Option (Value × List Char) := do
  let isDigit := fun c => (Numeral.digit? c).any (· < base)
  let (digits, rest) ← grouped? isDigit text
  let n ← Numeral.natural? base digits
  let n ← Numeral.fitting? n
  return (.integer n, rest)

def number? (text : List Char) : Option (Value × List Char) :=
  match text with
  | '0' :: 'x' :: rest => basedInteger? 16 rest
  | '0' :: 'o' :: rest => basedInteger? 8 rest
  | '0' :: 'b' :: rest => basedInteger? 2 rest
  | _ =>
    match decimal? text with
    | none => specialFloat? text
    | some (whole, rest) =>
      let isFloat := match rest with
        | c :: _ => c == '.' || c == 'e' || c == 'E'
        | [] => false
      if isFloat then do
        let (tail, rest) ← floatTail? rest
        let x ← Numeral.float? (whole ++ tail)
        let x ← finiteOrBelow? x
        return (.float x, rest)
      else do
        let n ← Numeral.integer? whole
        return (.integer n, rest)

def scalarValue? (text : List Char) : Reading Value :=
  match text with
  | 't' :: 'r' :: 'u' :: 'e' :: rest => some (.boolean true, rest)
  | 'f' :: 'a' :: 'l' :: 's' :: 'e' :: rest => some (.boolean false, rest)
  | '"' :: _ => (string? text).map fun (s, rest) => (.text s, rest)
  | '\'' :: _ => (string? text).map fun (s, rest) => (.text s, rest)
  | _ =>
    match moment? text with
    | some (m, rest) => some (.moment m, rest)
    | none => number? text

mutual
/-- Reads a value. The fuel bounds the steps, the depth the nesting. -/
def value? : Nat → Nat → List Char → Reading Value
  | 0, _, _ => none
  | fuel + 1, depth, text =>
    match text with
    | '[' :: rest =>
      if depth = 0 then none
      else (members? fuel (depth - 1) (skipGap .blank rest)).map fun (vs, rest) =>
        (.list vs, rest)
    | '{' :: rest =>
      if depth = 0 then none
      else
        match skipSpaces rest with
        | '}' :: rest => some (.table [], rest)
        | rest =>
          (pairs? fuel (depth - 1) [] rest).map fun (entries, rest) =>
            (.table (Entries.toValues entries), rest)
    | _ => scalarValue? text

def members? : Nat → Nat → List Char → Reading (List Value)
  | 0, _, _ => none
  | fuel + 1, depth, text =>
    match text with
    | ']' :: rest => some ([], rest)
    | _ =>
      (value? fuel depth text).bind fun (v, rest) =>
        match skipGap .blank rest with
        | ']' :: rest => some ([v], rest)
        | ',' :: rest =>
          (members? fuel depth (skipGap .blank rest)).map fun (vs, rest) => (v :: vs, rest)
        | _ => none

/-- Reads the entries of a table that is written as a value, and the brace that closes it. -/
def pairs? : Nat → Nat → Entries → List Char → Reading Entries
  | 0, _, _, _ => none
  | fuel + 1, depth, entries, text =>
    (key? nestingLimit text).bind fun ((path, key), rest) =>
      match rest with
      | '=' :: rest =>
        (value? fuel depth (skipSpaces rest)).bind fun (v, rest) =>
          (entries.addDotted? v path key).bind fun entries =>
            match skipSpaces rest with
            | '}' :: rest => some (entries, rest)
            | ',' :: rest => pairs? fuel depth entries rest
            | _ => none
      | _ => none
end

/-- What a line of a document does. -/
inductive Statement where
  | nothing
  | assign (path : List String) (key : String) (v : Value)
  | header (path : List String) (key : String)
  | listedHeader (path : List String) (key : String)

def statement? (text : List Char) : Option (Statement × List Char) :=
  match text with
  | '[' :: '[' :: rest => do
    let ((path, key), rest) ← key? nestingLimit rest
    let rest ← char? ']' rest
    let rest ← char? ']' rest
    let rest ← restOfLine? rest
    return (.listedHeader path key, rest)
  | '[' :: rest => do
    let ((path, key), rest) ← key? nestingLimit rest
    let rest ← char? ']' rest
    let rest ← restOfLine? rest
    return (.header path key, rest)
  | _ =>
    match restOfLine? text with
    | some rest => some (.nothing, rest)
    | none => do
      let ((path, key), rest) ← key? nestingLimit text
      let rest ← char? '=' rest
      let (v, rest) ← value? (2 * rest.length + 2) nestingLimit (skipSpaces rest)
      let rest ← restOfLine? rest
      return (.assign path key v, rest)

/-- Carries out a statement. Values go to the table at the end of the current path. -/
def Statement.carryOut? (current : List String) (root : Entries) :
    Statement → Option (List String × Entries)
  | nothing => some (current, root)
  | assign path key v => (root.below? (·.addDotted? v path key) current).map (current, ·)
  | header path key => (root.below? (·.openTable? key) path).map (path ++ [key], ·)
  | listedHeader path key => (root.below? (·.openListed? key) path).map (path ++ [key], ·)

def lines? : Nat → List String → Entries → List Char → Option Entries
  | _, _, root, [] => some root
  | 0, _, _, _ => none
  | fuel + 1, current, root, text =>
    (statement? (skipSpaces text)).bind fun (statement, rest) =>
      (statement.carryOut? current root).bind fun (current, root) =>
        lines? fuel current root rest

/-- The entries of a valid document. A byte order mark in front of it does no harm. -/
def document? (text : String) : Option (List (String × Value)) :=
  let chars := match text.toList with
    | '\uFEFF' :: rest => rest
    | chars => chars
  (lines? (chars.length + 1) [] [] chars).map Entries.toValues

end CobolCompanion.Toml
