import CobolCompanion.Text.Blank
import CobolCompanion.Tree.Basic

namespace CobolCompanion

def NodeKind.icon : NodeKind → String
  | sourceUnit => "⧉"
  | programUnit => "▣"
  | identificationDivision => "Ⓘ"
  | environmentDivision => "Ⓔ"
  | dataDivision => "Ⓓ"
  | procedureDivision => "Ⓟ"
  | skipped => "∅"
  | custom => "✱"

/-- Cuts a text down to its first characters, with dots in place of the others. -/
def ellipsis (limit : Nat) (text : String) : String :=
  if limit < text.length then String.ofList (text.toList.take limit) ++ "..." else text

def twoDigits (n : Nat) : String :=
  if n < 10 then "0" ++ toString n else toString n

namespace Node

def detail (n : Node) : String :=
  match n.kind with
  | .programUnit => n.name.getD ""
  | .custom => n.dialect.getD ""
  | .skipped => squeezeBlanks n.text
  | _ => ""

def label (n : Node) : String :=
  ellipsis 30 (if n.detail = "" then n.kind.render else n.kind.render ++ " " ++ n.detail)

/-- The column with the line on which a node starts, counted from one. -/
def lineNumber (n : Node) : String :=
  match n.range? with
  | some r => twoDigits (r.start.line + 1) ++ " "
  | none => "   "

def title (n : Node) : String :=
  n.kind.icon ++ " " ++ n.label

end Node

namespace Element

mutual
/-- The lines of an element. The indent stands for the nesting of its parent. -/
def dumpLines (numbered : Bool) (indent : String) (last : Bool) : Element → List String
  | token _ => []
  | node heading children =>
    let n : Node := ⟨heading, children⟩
    let number := if numbered then n.lineNumber else ""
    (number ++ indent ++ (if last then "└─" else "├─") ++ " " ++ n.title) ::
      dumpLinesAll numbered (indent ++ if last then "  " else "│ ") children

/-- The lines of the children of one node. The last node among them closes the nesting. -/
def dumpLinesAll (numbered : Bool) (indent : String) : List Element → List String
  | [] => []
  | e :: es =>
    dumpLines numbered indent (!es.any isNode) e ++ dumpLinesAll numbered indent es
end

end Element

namespace Node

/-- The lines of the drawing of a tree. The line of the root bears no number. -/
def dumpLines (numbered : Bool) (n : Node) : List String :=
  n.title :: Element.dumpLinesAll numbered "" n.children

def dump (n : Node) (numbered : Bool := false) : String :=
  String.join ((n.dumpLines numbered).map (· ++ "\n"))

/--
Whether a drawing is to have line numbers. Every setting of them but `false` asks for them.
-/
def showsLines (settings : List (String × String)) : Bool :=
  (settings.lookup "show-linum").any (· != "false")

def dumpWith (n : Node) (settings : List (String × String)) : String :=
  n.dump (showsLines settings)

def expectKind (n : Node) (kind : NodeKind) : Except String Node :=
  match n.firstOfKind? kind with
  | some found => .ok found
  | none => .error s!"no {kind.render} in tree:\n{n.dump}"

end Node

end CobolCompanion
