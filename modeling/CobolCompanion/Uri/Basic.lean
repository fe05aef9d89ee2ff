import CobolCompanion.Uri.Host
import CobolCompanion.Uri.Path

namespace CobolCompanion

/-- The identifier of a document, in its normal form. -/
structure Uri where
  text : String
  deriving DecidableEq

namespace Uri

/-- An identifier taken apart at the marks for its query and its fragment. -/
structure Parts where
  body : List Char
  query : Option (List Char)
  fragment : Option (List Char)

def splitAt (mark : Char) (text : List Char) : List Char × Option (List Char) :=
  match text.dropWhile (· ≠ mark) with
  | [] => (text, none)
  | _ :: rest => (text.takeWhile (· ≠ mark), some rest)

/-- The text up to the last occurrence of a mark, if it is there, and the text after it. -/
def splitAtLast (mark : Char) (text : List Char) : Option (List Char) × List Char :=
  match splitAt mark text.reverse with
  | (after, some before) => (some before.reverse, after.reverse)
  | (_, none) => (none, text)

def parts (text : List Char) : Parts :=
  let (text, fragment) := splitAt '#' text
  let (body, query) := splitAt '?' text
  { body, query, fragment }

def isOuterBlank (c : Char) : Bool :=
  c.toNat ≤ 0x20

def trimmed (text : List Char) : List Char :=
  ((text.dropWhile isOuterBlank).reverse.dropWhile isOuterBlank).reverse

def isSchemeChar (c : Char) : Bool :=
  c.isAlphanum || c == '+' || c == '-' || c == '.'

def scheme? (text : List Char) : Option (String × List Char) :=
  match splitAt ':' text with
  | (name, some after) =>
    let name := withoutSkipped name
    if name.head?.any Char.isAlpha && name.all isSchemeChar then
      some (String.ofList (name.map Char.toLower), after)
    else none
  | (_, none) => none

/--
The schemes whose identifiers always have a host, with the service number that is taken for
granted.
-/
def hostSchemes : List (String × Nat) :=
  [("http", 80), ("https", 443), ("ws", 80), ("wss", 443), ("ftp", 21)]

def user : Option (List Char) → List Char
  | none => []
  | some text =>
    match splitAt ':' text with
    | (name, password) =>
      let password := (password.filter fun p => !p.isEmpty).map fun p =>
        ':' :: encode isUserEscaped p
      let user := encode isUserEscaped name ++ password.getD []
      if user.isEmpty then [] else user ++ ['@']

/--
The host at the front of a text, up to a colon outside of brackets, and the text after it.
-/
def splitHost (inBrackets : Bool) : List Char → List Char × List Char
  | [] => ([], [])
  | c :: rest =>
    if c = ':' ∧ !inBrackets then ([], c :: rest)
    else
      let (host, after) := splitHost (c == '[' || inBrackets && c != ']') rest
      (c :: host, after)

/--
The number of a service, with its colon, and the text after it. It is left out if it is the one
taken for granted.
-/
def service (usual : Option Nat) : List Char → Except Fault (List Char × List Char)
  | ':' :: text =>
    let digits := text.takeWhile Char.isDigit
    let rest := text.dropWhile Char.isDigit
    let number := (Numeral.natural? 10 digits).getD 0
    if 65535 < number || rest.head?.any (· ≠ '\\') then .error .badService
    else if digits.isEmpty || usual = some number then .ok ([], rest)
    else .ok (':' :: (toString number).toList, rest)
  | text => .ok ([], text)

/--
What stands between the two slashes and the path, and what belongs to the path already. With a
user there has to be a host, and the mark of a user alone may stand only at the very end.
-/
def authority (usual : Option Nat) (text path : List Char) (isLast : Bool) :
    Except Fault (List Char × List Char) := do
  let (userText, rest) := splitAtLast '@' text
  if userText = some [] ∧ rest = [] ∧ !isLast then .error .emptyHost
  else
    let (hostText, after) := splitHost false rest
    if hostText.isEmpty && usual.isSome then .error .emptyHost
    else
      let host ← if usual.isSome then Host.known hostText else Host.other hostText
      if hostText.isEmpty && (!after.isEmpty || !(user userText).isEmpty) then .error .emptyHost
      else
        let (serviceText, after) ← service usual after
        return (user userText ++ host.text ++ serviceText, after ++ path)

def slashed (c : Char) : Char :=
  if c = '\\' then '/' else c

/--
The normal form of an identifier of a file with a host, after the two slashes. A drive has no
host.
-/
def hostedFile (text : List Char) : Except Fault (List Char) :=
  let hostText := withoutSkipped (text.takeWhile (· ≠ '/'))
  let path := text.dropWhile (· ≠ '/')
  let rooted := fun path => filePath (resolve true false [] (pieces '/' path))
  if isDrive hostText then .ok (rooted text)
  else if hostText.isEmpty then .ok (rooted path)
  else
    (Host.known hostText).map fun host =>
      if host = .name "localhost".toList then rooted path
      else
        let resolved := resolve true false [] (pieces '/' (path.drop 1))
        (if resolved.hasDrive then [] else host.text) ++ filePath resolved

/-- The normal form of an identifier of a file, after its scheme. -/
def fileBody (body : List Char) : Except Fault (List Char) :=
  let rooted := fun path => filePath (resolve true false [] (pieces '/' path))
  let text := match (body.map slashed).dropWhile isSkipped with
    | '/' :: rest =>
      match rest.dropWhile isSkipped with
      | '/' :: rest => hostedFile rest
      | _ => .ok (rooted rest)
    | rest => .ok (rooted rest)
  text.map ("//".toList ++ ·)

/-- The normal form of an identifier with a host, after its scheme. -/
def hostBody (usual : Nat) (body : List Char) : Except Fault (List Char) :=
  let rest := (body.map slashed).dropWhile (· = '/')
  let path := rest.dropWhile (· ≠ '/')
  (authority (some usual) (rest.takeWhile (· ≠ '/')) path false).map fun (authority, path) =>
    "//".toList ++ authority ++ normalPath (path.drop 1)

/-- The path after the authority of any other scheme. It may be empty. -/
def otherPath : List Char → List Char
  | [] => []
  | '/' :: path => normalPath path
  | path => normalPath path

/-- The normal form of an identifier with any other scheme, after its scheme. -/
def otherBody (body : List Char) (isLast : Bool) : Except Fault (List Char) :=
  match body with
  | '/' :: '/' :: rest =>
    let path := rest.dropWhile (· ≠ '/')
    (authority none (rest.takeWhile (· ≠ '/')) path (isLast && path.isEmpty)).map
      fun (authority, path) => "//".toList ++ authority ++ otherPath path
  | '/' :: path =>
    let normal := normalPath path
    -- Without an authority two slashes must not stand at the front.
    .ok (if "//".toList.isPrefixOf normal then "/.".toList ++ normal else normal)
  | _ => .ok (encode isControl body)

def marked (mark : Char) (isEscaped : Char → Bool) : Option (List Char) → List Char
  | none => []
  | some text => mark :: encode isEscaped (withoutSkipped text)

def parse (text : String) : Except Fault Uri :=
  match scheme? (trimmed text.toList) with
  | none => .error .relative
  | some (scheme, rest) =>
    let parts := parts rest
    let usual := hostSchemes.lookup scheme
    let body :=
      if scheme = "file" then fileBody parts.body
      else
        match usual with
        | some usual => hostBody usual (withoutSkipped parts.body)
        | none =>
          otherBody (withoutSkipped parts.body) (parts.query.isNone && parts.fragment.isNone)
    body.map fun body =>
      let special := scheme == "file" || usual.isSome
      let tail := marked '?' (isQueryEscaped special) parts.query ++
        marked '#' isFragmentEscaped parts.fragment
      ⟨scheme ++ ":" ++ String.ofList (body ++ tail)⟩

def extension? (uri : Uri) : Option String :=
  match splitAtLast '.' uri.text.toList with
  | (some _, after) => some (String.ofList after)
  | (none, _) => none

end Uri

end CobolCompanion
