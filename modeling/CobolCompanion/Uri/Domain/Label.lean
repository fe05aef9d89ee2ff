import CobolCompanion.Text.Normal.Form
import CobolCompanion.Uri.Domain.Punycode
import CobolCompanion.Uri.Domain.Tables

namespace CobolCompanion.Domain

/-- How the written form of a label that is not ASCII starts. -/
def opening : List Char :=
  "xn--".toList

/-- What a character of a name stands for, if it may be in one. -/
def mapped? (c : Char) : Option (List Char) :=
  if Punycode.isAscii c then some [c.toLower]
  else if ignored.covers c then some []
  else if !allowed.covers c then none
  else some ((replacements.row? c).elim [c] (·.image c))

/-- Whether a label consists of characters that stand for themselves, in their normal form. -/
def isStable (label : List Char) : Bool :=
  label.all (fun c => mapped? c == some [c]) && NormalForm.composed label == label

/-- The mark that keeps two letters from joining, and the one that makes them join. -/
def nonJoiner : Char :=
  '\u200c'

def joiner : Char :=
  '\u200d'

/-- Whether the first character that joining does not look through is in a table. -/
def reaches (table : CharTable) (text : List Char) : Bool :=
  (text.find? fun c => table.covers c || !transparent.covers c).any table.covers

/-- The class of the marks that take the vowel of a letter away. -/
def vowelKiller : Nat :=
  9

/--
Whether joiners stand only where they are needed: after a vowel killer, or for the one that
keeps letters apart, between two letters that would join. The text before is given with the
latest first.
-/
def joinersFit (before : List Char) : List Char → Bool
  | [] => true
  | c :: rest =>
    let afterKiller := before.head?.any fun last => NormalForm.markClass last == vowelKiller
    let apart := c == nonJoiner && reaches joiningAhead before && reaches joiningBehind rest
    (c != nonJoiner && c != joiner || afterKiller || apart) && joinersFit (c :: before) rest

def isLabel (label : List Char) : Bool :=
  !label.head?.any marks.covers && joinersFit [] label

/-- The label of a written form. The form is only for labels that need it. -/
def label? (text : List Char) : Option (List Char) :=
  if opening.isPrefixOf text then
    (Punycode.decode? (text.drop opening.length)).bind fun label =>
      if label.all Punycode.isAscii || opening.isPrefixOf label || !isStable label then none
      else some label
  else some text

def written (label : List Char) : List Char :=
  if label.all Punycode.isAscii then label else opening ++ Punycode.encode label

end CobolCompanion.Domain
