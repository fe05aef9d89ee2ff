import CobolCompanion.Text.Numeral

namespace CobolCompanion.Uri

def hexDigit (n : Nat) : Char :=
  if n < 10 then Char.ofNat ('0'.toNat + n) else Char.ofNat ('A'.toNat + n - 10)

/-- The bytes of a character, each as a percent sign and two digits. -/
def escaped (c : Char) : List Char :=
  c.toString.toUTF8.toList.flatMap fun byte =>
    ['%', hexDigit (byte.toNat / 16), hexDigit (byte.toNat % 16)]

/-- Whether a character is escaped everywhere: control characters and all beyond ASCII. -/
def isControl (c : Char) : Bool :=
  c.toNat < 0x20 || 0x7F ≤ c.toNat

def isFragmentEscaped (c : Char) : Bool :=
  isControl c || [' ', '"', '<', '>', '\x60'].contains c

def isPathEscaped (c : Char) : Bool :=
  isFragmentEscaped c || ['#', '?', '\x7b', '\x7d'].contains c

def isUserEscaped (c : Char) : Bool :=
  isPathEscaped c || ['/', ':', ';', '=', '@', '[', '\\', ']', '^', '|'].contains c

/-- Whether a character is escaped in a query. Well-known schemes escape the apostrophe too. -/
def isQueryEscaped (special : Bool) (c : Char) : Bool :=
  isControl c || [' ', '"', '#', '<', '>'].contains c || special && c == '\''

def encode (isEscaped : Char → Bool) (text : List Char) : List Char :=
  text.flatMap fun c => if isEscaped c then escaped c else [c]

/-- The bytes of a text. A percent sign and two digits stand for one of them. -/
def bytes : List Char → List UInt8
  | [] => []
  | '%' :: high :: low :: rest =>
    match Numeral.digit? high, Numeral.digit? low with
    | some high, some low => UInt8.ofNat (16 * high + low) :: bytes rest
    | _, _ => '%'.toString.toUTF8.toList ++ bytes (high :: low :: rest)
  | c :: rest => c.toString.toUTF8.toList ++ bytes rest

def decoded? (text : List Char) : Option (List Char) :=
  (String.fromUTF8? ⟨(bytes text).toArray⟩).map String.toList

end CobolCompanion.Uri
