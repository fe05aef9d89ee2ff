import CobolCompanion.Uri.Domain.Direction
import CobolCompanion.Uri.Domain.Label

namespace CobolCompanion.Domain

/-- The characters that no name may have once it is in its normal form. -/
def isForbidden (c : Char) : Bool :=
  c.toNat ≤ 0x20 || c.toNat == 0x7F ||
    ['#', '%', '/', ':', '<', '>', '?', '@', '[', '\\', ']', '^', '|'].contains c

def labels? (text : List Char) : Option (List (List Char)) := do
  let name := NormalForm.composed (← text.mapM mapped?).flatten
  if name.any isForbidden then none
  else
    let labels ← (pieces '.' name).mapM label?
    let demanding := labels.any (·.any fun c => (Direction.ofChar c).isDemanding)
    if labels.all isLabel && (!demanding || labels.all keepsDirection) then
      some labels else none

def name? (text : List Char) : Option (List Char) :=
  (labels? text).map fun labels => joined '.' (labels.map written)

end CobolCompanion.Domain
