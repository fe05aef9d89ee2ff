import CobolCompanion.Symbols.Basic
import CobolCompanion.Text.Blank

namespace CobolCompanion

/-- The level numbers, written with one digit or two: 1 to 49, 66, 77 and 88. -/
def levelNumber? (t : Token) : Option Nat :=
  let digits := t.lexeme.toList
  if t.isWord && !digits.isEmpty && digits.length ≤ 2 && digits.all Char.isDigit then
    let level := digits.foldl (fun n c => 10 * n + (c.toNat - '0'.toNat)) 0
    if 1 ≤ level && level ≤ 49 || level == 66 || level == 77 || level == 88 then some level
    else none
  else none

/-- The tokens between periods. The last stretch counts too, unless it is empty. -/
def sentences : List Token → List (List Token)
  | [] => []
  | t :: ts =>
    if t.isTerminator then [] :: sentences ts
    else
      match sentences ts with
      | [] => [[t]]
      | sentence :: rest => (t :: sentence) :: rest

/-- A sentence on one line: every blank is one space, and there is none at the ends. -/
def sentenceLine (sentence : List Token) : String :=
  squeezeBlanks (String.join (sentence.map fun t => if t.isTrivia then " " else t.lexeme))

/--
A sentence that declares a data item: its level, the token of its name, and all its tokens.
-/
structure DataEntry where
  level : Nat
  name : Token
  sentence : List Token

/-- A sentence declares a data item if it begins with a level number and a word. -/
def DataEntry.ofSentence? (sentence : List Token) : Option DataEntry :=
  match sentence.filter Token.isSignificant with
  | first :: second :: _ =>
    match levelNumber? first with
    | some level => if second.isWord then some ⟨level, second, sentence⟩ else none
    | none => none
  | _ => none

def DataEntry.extent (e : DataEntry) : Range :=
  (Range.boundingBox ((e.sentence.filter Token.isSignificant).map Token.range)).getD
    e.name.range

def dataEntries (tokens : List Token) : List DataEntry :=
  (sentences tokens).filterMap DataEntry.ofSentence?

/--
The groups that are open at a place, the innermost first, each with its level and its number. An
entry of level 1 or 77 starts anew, one of the levels 2 to 49 belongs to the nearest with a
lower level, and one of the levels 66 and 88 to the entry just before it.
-/
abbrev OpenGroups :=
  List (Nat × Nat)

namespace OpenGroups

/-- The groups that stay open before an entry of a level. -/
def before (groups : OpenGroups) (level : Nat) : OpenGroups :=
  if level = 1 ∨ level = 77 then []
  else if level = 66 ∨ level = 88 then groups
  else groups.dropWhile (level ≤ ·.1)

def innermost? (groups : OpenGroups) : Option Nat :=
  groups.head?.map (·.2)

/-- The groups that are open after an entry. Renamings and conditions open none. -/
def after (groups : OpenGroups) (level number : Nat) : OpenGroups :=
  if level = 66 ∨ level = 88 then groups else (level, number) :: groups

end OpenGroups

/-- Adds an entry to the data items, and its number to the children of its parent. -/
def addDataEntry (program : Option Nat) (state : OpenGroups × List DataItem) (e : DataEntry) :
    OpenGroups × List DataItem :=
  let (groups, items) := state
  let groups := groups.before e.level
  let number := items.length
  let item : DataItem :=
    { level := e.level
      name := e.name.lexeme
      range := e.name.range
      extent := e.extent
      line := sentenceLine e.sentence
      parent := groups.innermost?
      children := []
      program }
  let items :=
    match groups.innermost? with
    | some p => items.modify p fun d => { d with children := d.children ++ [number] }
    | none => items
  (groups.after e.level number, items ++ [item])

def addDataEntries (program : Option Nat) (items : List DataItem) (entries : List DataEntry) :
    List DataItem :=
  (entries.foldl (addDataEntry program) ([], items)).2

end CobolCompanion
