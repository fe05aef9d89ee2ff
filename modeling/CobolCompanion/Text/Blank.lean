namespace CobolCompanion

/-- Whether a character is white space: the twenty-five characters of the Unicode property. -/
def isBlank (c : Char) : Bool :=
  let n := c.toNat
  0x09 ≤ n && n ≤ 0x0D || n == 0x20 || n == 0x85 || n == 0xA0 || n == 0x1680 ||
    0x2000 ≤ n && n ≤ 0x200A || n == 0x2028 || n == 0x2029 || n == 0x202F || n == 0x205F ||
    n == 0x3000

/-- The longest runs of characters that are not blank, in order. -/
def blankSeparated : List Char → List (List Char)
  | [] => []
  | [c] => if isBlank c then [] else [[c]]
  | c :: d :: text =>
    if isBlank c then blankSeparated (d :: text)
    else if isBlank d then [c] :: blankSeparated (d :: text)
    else
      match blankSeparated (d :: text) with
      | [] => [[c]]
      | word :: words => (c :: word) :: words

/-- The words of a text with one space between neighbours. -/
def squeezeBlanks (text : String) : String :=
  " ".intercalate ((blankSeparated text.toList).map String.ofList)

end CobolCompanion
