import CobolCompanion.Editor.Outline

namespace CobolCompanion

inductive CompletionKind where
  | label
  | dataItem
  | program
  | keyword
  | condition
  deriving DecidableEq, Inhabited

/-- The number of a kind in the language server protocol. -/
def CompletionKind.code : CompletionKind → Nat
  | label => 3
  | dataItem => 6
  | program => 9
  | keyword => 14
  | condition => 20

structure Candidate where
  label : String
  detail : String
  kind : CompletionKind
  deriving DecidableEq, Inhabited

namespace Completion

/-- The lines of a text without their line feeds. There is at least one. -/
def splitLines : List Char → List (List Char)
  | [] => [[]]
  | c :: text =>
    if c = '\n' then [] :: splitLines text
    else
      match splitLines text with
      | [] => [[c]]
      | line :: lines => (c :: line) :: lines

def dropLastWhile (test : Char → Bool) (text : List Char) : List Char :=
  (text.reverse.dropWhile test).reverse

def takeLastWhile (test : Char → Bool) (text : List Char) : List Char :=
  (text.reverse.takeWhile test).reverse

/-- The part of a word left of a position, as it stands in the text. -/
def typedWord (text : String) (p : Position) : String :=
  match (splitLines text.toList)[p.line]? with
  | none => ""
  | some line =>
    let before := (dropLastWhile (· == '\r') line).take p.column
    String.ofList (takeLastWhile isWordPart before)

/-- The names of a document as suggestions: data items, labels, programs. -/
def symbolCandidates (index : SymbolIndex) : List Candidate :=
  let items := (index.dataItems.filter (!·.isFiller)).map fun d =>
    ⟨d.name, d.line, if d.isCondition then .condition else .dataItem⟩
  let labels := index.labels.map fun l => ⟨l.name, l.kind.word, .label⟩
  let programs := index.programs.map fun p => ⟨p.name, "program", .program⟩
  items ++ labels ++ programs

def keywordCandidates (keywords : List String) : List Candidate :=
  keywords.map fun keyword => ⟨keyword, "keyword", .keyword⟩

/-- The first suggestion for each label in upper case, apart from the labels already seen. -/
def firstPerLabel (seen : List String) : List Candidate → List Candidate
  | [] => []
  | c :: cs =>
    if seen.contains (upper c.label) then firstPerLabel seen cs
    else c :: firstPerLabel (upper c.label :: seen) cs

def begins (word label : String) : Bool :=
  (upper word).toList.isPrefixOf (upper label).toList

end Completion

open Completion in
def Analysis.completions (a : Analysis) (text : String) (p : Position)
    (keywords : List String) :
    List Candidate :=
  let word := typedWord text p
  firstPerLabel []
    ((symbolCandidates a.index ++ keywordCandidates keywords).filter (begins word ·.label))

end CobolCompanion
