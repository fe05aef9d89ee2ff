import CobolCompanion.Text.Position

namespace CobolCompanion

def byteLength : List Char → Nat
  | [] => 0
  | c :: text => c.utf8Size + byteLength text

/-- The characters that make up the first bytes of a text, unless the cut falls inside one. -/
def takeBytes? : Nat → List Char → Option (List Char)
  | 0, _ => some []
  | _ + 1, [] => none
  | n + 1, c :: text =>
    if c.utf8Size ≤ n + 1 then (takeBytes? (n + 1 - c.utf8Size) text).map (c :: ·) else none

/-- What is left of a text after its first bytes, unless the cut falls inside a character. -/
def dropBytes? : Nat → List Char → Option (List Char)
  | 0, text => some text
  | _ + 1, [] => none
  | n + 1, c :: text =>
    if c.utf8Size ≤ n + 1 then dropBytes? (n + 1 - c.utf8Size) text else none

/-- The characters at a span, if both of its ends are boundaries between characters. -/
def slice? (text : List Char) (s : Span) : Option (List Char) :=
  if s.start ≤ s.stop then (dropBytes? s.start text).bind (takeBytes? (s.stop - s.start))
  else none

/--
A place that moves through a text: the position and the byte offset of the next character.
Offsets count bytes in UTF-8, and only a line feed ends a line.
-/
@[ext]
structure Place where
  position : Position
  offset : Nat
  deriving DecidableEq, Inhabited

namespace Place

def start : Place :=
  ⟨⟨0, 0⟩, 0⟩

def next (p : Place) (c : Char) : Place where
  position := if c = '\n' then ⟨p.position.line + 1, 0⟩
    else ⟨p.position.line, p.position.column + 1⟩
  offset := p.offset + c.utf8Size

def after (p : Place) (text : List Char) : Place :=
  text.foldl next p

@[simp] theorem after_nil (p : Place) : p.after [] = p := rfl

@[simp] theorem after_cons (p : Place) (c : Char) (text : List Char) :
    p.after (c :: text) = (p.next c).after text := rfl

theorem after_append (p : Place) (s t : List Char) :
    p.after (s ++ t) = (p.after s).after t := List.foldl_append

end Place

/-- The offsets at which lines start, given the offset of the text itself. -/
def lineStartsFrom (offset : Nat) : List Char → List Nat
  | [] => []
  | c :: text =>
    if c = '\n' then (offset + 1) :: lineStartsFrom (offset + 1) text
    else lineStartsFrom (offset + c.utf8Size) text

/--
What a search among increasing numbers tells: where a number stands, or where it would stand.
-/
inductive Search where
  | found (index : Nat)
  | missing (index : Nat)
  deriving DecidableEq

/-- Searches increasing numbers for one of them. -/
def search (numbers : List Nat) (n : Nat) : Search :=
  match numbers.idxOf? n with
  | some index => .found index
  | none => .missing (numbers.countP (· < n))

/-- A text with the byte offsets at which its lines start. -/
structure LineMap where
  text : List Char
  starts : List Nat

namespace LineMap

/-- The first line starts at zero, and every other line right after a line feed. -/
def ofText (text : List Char) : LineMap :=
  ⟨text, 0 :: lineStartsFrom 0 text⟩

def lineCount (m : LineMap) : Nat :=
  m.starts.length

/--
The line that starts at an offset, or else the one before the line that would start there.
-/
def lineAt (m : LineMap) (offset : Nat) : Nat :=
  match search m.starts offset with
  | .found line => line
  | .missing next => next - 1

/--
The position of a byte offset; an offset beyond the end counts as the end. An offset inside a
character has the number of bytes since the start of its line as its column.
-/
def position (m : LineMap) (offset : Nat) : Position :=
  let offset := min offset (byteLength m.text)
  let line := m.lineAt offset
  let start := m.starts.getD line 0
  let column := (slice? m.text ⟨start, offset⟩).elim (offset - start) List.length
  ⟨line, column⟩

def range (m : LineMap) (s : Span) : Range :=
  ⟨s, m.position s.start, m.position s.stop⟩

end LineMap

end CobolCompanion
