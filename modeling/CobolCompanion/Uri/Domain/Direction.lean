import CobolCompanion.Uri.Domain.Tables

namespace CobolCompanion.Domain

/-- What a character does to the direction of the text around it. -/
inductive Direction where
  | left
  | right
  | arabicNumber
  | europeanNumber
  | nonspacing
  | neutral
  deriving DecidableEq

def Direction.ofChar (c : Char) : Direction :=
  if rightToLeft.covers c then .right
  else if arabicNumbers.covers c then .arabicNumber
  else if europeanNumbers.covers c then .europeanNumber
  else if nonspacingMarks.covers c then .nonspacing
  else if neutrals.covers c then .neutral
  else .left

def Direction.isDemanding (d : Direction) : Bool :=
  d == .right || d == .arabicNumber

/-- Whether the rest of a label fits to its first character. Marks at its end do not count. -/
def fitsDirection (first : Direction) (rest : List Direction) : Bool :=
  let rest := (rest.reverse.dropWhile (· == .nonspacing)).reverse
  match first with
  | .left =>
    rest.all (fun d => d != .right && d != .arabicNumber) &&
      rest.getLast?.all fun d => d == .left || d == .europeanNumber
  | .right =>
    rest.all (· != .left) &&
      rest.getLast?.all (fun d => d == .right || d == .arabicNumber || d == .europeanNumber) &&
      !(rest.contains .arabicNumber && rest.contains .europeanNumber)
  | _ => false

def keepsDirection (label : List Char) : Bool :=
  match label.map Direction.ofChar with
  | [] => true
  | first :: rest => fitsDirection first rest

end CobolCompanion.Domain
