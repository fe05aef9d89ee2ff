import CobolCompanion.Text.Pieces
import CobolCompanion.Uri.Encoding

namespace CobolCompanion.Uri

/-- A segment with its escaped points written out, for the comparison with points. -/
def plainPoints : List Char → List Char
  | '%' :: '2' :: c :: rest =>
    if c = 'e' ∨ c = 'E' then '.' :: plainPoints rest else '%' :: '2' :: plainPoints (c :: rest)
  | c :: rest => c :: plainPoints rest
  | [] => []

def isHere (segment : List Char) : Bool :=
  plainPoints segment == ['.']

def isOneUp (segment : List Char) : Bool :=
  plainPoints segment == ['.', '.']

/-- Whether a segment names a drive: a letter and a colon or a bar. -/
def isDrive : List Char → Bool
  | [letter, mark] => letter.isAlpha && (mark == ':' || mark == '|')
  | _ => false

def startsWithDrive : List Char → Bool
  | letter :: mark :: '\\' :: _ => isDrive [letter, mark]
  | segment => isDrive segment

def normalDrive : List Char → List Char
  | [letter, _] => [letter, ':']
  | segment => segment

/-- The characters that count nowhere in an identifier. -/
def isSkipped (c : Char) : Bool :=
  c == '\t' || c == '\n' || c == '\r'

def withoutSkipped (text : List Char) : List Char :=
  text.filter fun c => !isSkipped c

/-- A drive that skipped characters separate from the rest of its segment, and that rest. -/
def separateDrive? (segment : List Char) : Option (List Char × List Char) :=
  match segment.dropWhile isSkipped with
  | [] => none
  | letter :: rest =>
    match rest.dropWhile isSkipped with
    | ':' :: c :: rest =>
      let rest := withoutSkipped rest
      if letter.isAlpha && isSkipped c && !rest.isEmpty then
        some ([letter, ':'], rest) else none
    | _ => none

/-- The segments of a path, and whether they start with a drive. -/
structure Resolved where
  segments : List (List Char)
  hasDrive : Bool

/-- Leaves the last of the segments so far, latest first. A drive stays. -/
def leave : List (List Char) → List (List Char)
  | [] => []
  | last :: before => if startsWithDrive last then last :: before else before

/-- Resolves segments. Those before are kept with the latest first. -/
def resolve (isFile hasDrive : Bool) (before : List (List Char)) : List (List Char) → Resolved
  | [] => ⟨before.reverse, hasDrive⟩
  | raw :: rest =>
    let segment := withoutSkipped raw
    let atRoot := isFile && before.isEmpty
    match if atRoot then separateDrive? raw else none with
    | some (drive, more) => resolve isFile hasDrive [encode isPathEscaped more, drive] rest
    | none =>
      if isOneUp segment || isHere segment then
        let before := if isOneUp segment then leave before else before
        if rest.isEmpty then ⟨([] :: before).reverse, hasDrive⟩
        else resolve isFile hasDrive before rest
      else if atRoot && isDrive segment then resolve isFile true [normalDrive segment] rest
      else resolve isFile hasDrive (encode isPathEscaped segment :: before) rest

def pathText (segments : List (List Char)) : List Char :=
  segments.flatMap ('/' :: ·)

def normalPath (path : List Char) : List Char :=
  pathText (resolve false false [] (pieces '/' path)).segments

/-- The normal form of the path of a file. It starts with only one slash. -/
def filePath (path : Resolved) : List Char :=
  '/' :: (pathText path.segments).dropWhile (· = '/')

end CobolCompanion.Uri
