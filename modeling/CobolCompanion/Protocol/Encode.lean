import CobolCompanion.Protocol.Position
import CobolCompanion.Server.Request
import CobolCompanion.Server.Session

namespace CobolCompanion

namespace Protocol

def Position.encode (p : Position) : Protocol.Value :=
  .object [("line", .natural p.line.toNat), ("character", .natural p.character.toNat)]

def Range.encode (r : Range) : Protocol.Value :=
  .object [("start", r.start.encode), ("end", r.stop.encode)]

def Diagnostic.encode (d : Diagnostic) : Protocol.Value :=
  .present
    [("range", d.range.encode), ("severity", Protocol.Value.natural d.severity.code),
      ("code", d.code.map .text), ("source", Protocol.Value.text d.source),
      ("message", Protocol.Value.text d.message)]

end Protocol

def Range.encode (r : Range) : Protocol.Value :=
  (Protocol.Range.ofRange r).encode

def Hover.encode (h : Hover) : Protocol.Value :=
  .object
    [("contents", .object [("kind", .text "markdown"), ("value", .text h.contents)]),
      ("range", h.range.encode)]

def Candidate.encode (c : Candidate) : Protocol.Value :=
  .object [("label", .text c.label), ("kind", .natural c.kind.code), ("detail", .text c.detail)]

def Range.toLocation (uri : Uri) (r : Range) : Protocol.Value :=
  .object [("uri", .text uri.text), ("range", r.encode)]

mutual
/-- A symbol of the outline. Its children are left out if it has none. -/
def OutlineSymbol.encode : OutlineSymbol → Protocol.Value
  | ⟨name, detail, kind, range, selection, children⟩ =>
    .present
      [("name", Protocol.Value.text name), ("detail", detail.map .text),
        ("kind", Protocol.Value.natural kind.code), ("range", range.encode),
        ("selectionRange", selection.encode),
        ("children", if children.isEmpty then none
          else some (.list (OutlineSymbol.encodeAll children)))]

def OutlineSymbol.encodeAll : List OutlineSymbol → List Protocol.Value
  | [] => []
  | s :: rest => s.encode :: OutlineSymbol.encodeAll rest
end

def capabilities : Protocol.Value :=
  .object
    [("capabilities", .object
        [("textDocumentSync", .natural 1),
          ("hoverProvider", .boolean true),
          ("completionProvider", .object []),
          ("definitionProvider", .boolean true),
          ("referencesProvider", .boolean true),
          ("documentHighlightProvider", .boolean true),
          ("documentSymbolProvider", .boolean true),
          ("executeCommandProvider", .object [("commands", .texts [showTreeCommand])])]),
      ("serverInfo", .object [("name", .text "cobol-lsp"), ("version", .text "0.1.0")])]

def Answer.encode : Answer → Protocol.Value
  | nothing => .null
  | capabilities => CobolCompanion.capabilities
  | hover h => h.encode
  | candidates cs => .list (cs.map Candidate.encode)
  | locations uri ranges => .list (ranges.map (Range.toLocation uri))
  | highlights hs =>
    .list (hs.map fun (range, kind) =>
      .object [("range", range.encode), ("kind", .natural kind.code)])
  | symbols ss => .list (OutlineSymbol.encodeAll ss)
  | dump text => .text text

end CobolCompanion
