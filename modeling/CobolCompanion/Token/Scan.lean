import CobolCompanion.Text.Location
import CobolCompanion.Token.Basic

namespace CobolCompanion

def isSpacing (c : Char) : Bool :=
  c == ' ' || c == '\t' || c == '\x0C'

def isLineBreak (c : Char) : Bool :=
  c == '\r' || c == '\n'

/-- The characters a word may begin with: ASCII letters and digits. -/
def isWordStart (c : Char) : Bool :=
  c.isAlphanum

def isWordPart (c : Char) : Bool :=
  c.isAlphanum || c == '_' || c == '-'

/-- The characters that open a literal. The same character closes it. -/
def isQuote (c : Char) : Bool :=
  c == '\'' || c == '"'

/-- A token without its place, and the text after it. -/
structure Cut where
  kind : TokenKind
  lexeme : List Char
  rest : List Char

/-- Cuts off one character and those after it that satisfy a test. -/
def Cut.run (kind : TokenKind) (test : Char → Bool) (c : Char) (text : List Char) : Cut :=
  ⟨kind, c :: text.takeWhile test, text.dropWhile test⟩

def isInsideLiteral (quote c : Char) : Bool :=
  c != quote && !isLineBreak c

/-- Cuts off a literal. It ends at its closing quote, before a line break or at the end. -/
def Cut.literal (quote : Char) (text : List Char) : Cut :=
  match text.dropWhile (isInsideLiteral quote) with
  | [] => ⟨.other, quote :: text, []⟩
  | c :: rest =>
    let inside := text.takeWhile (isInsideLiteral quote)
    if c = quote then ⟨.other, quote :: (inside ++ [c]), rest⟩
    else ⟨.other, quote :: inside, c :: rest⟩

/-- Cuts off a line break. A carriage return takes a line feed right after it along. -/
def Cut.lineBreak (c : Char) (text : List Char) : Cut :=
  match text with
  | '\n' :: rest => if c = '\r' then ⟨.newLine, ['\r', '\n'], rest⟩ else ⟨.newLine, [c], text⟩
  | _ => ⟨.newLine, [c], text⟩

/-- Cuts off the longest token of a text that is not empty. -/
def Cut.first (c : Char) (text : List Char) : Cut :=
  if isSpacing c then .run .whitespace isSpacing c text
  else if isLineBreak c then .lineBreak c text
  else if isWordStart c then .run .word isWordPart c text
  else if isQuote c then .literal c text
  else if c = '*' ∧ text.head? = some '>' then .run .whitespace (!isLineBreak ·) c text
  else ⟨.other, [c], text⟩

namespace Cut

/-- A cut takes something off a text and loses nothing of it. -/
structure Splits (cut : Cut) (text : List Char) : Prop where
  lexeme_ne_nil : cut.lexeme ≠ []
  append_eq : cut.lexeme ++ cut.rest = text

theorem run_splits (kind : TokenKind) (test : Char → Bool) (c : Char) (text : List Char) :
    (run kind test c text).Splits (c :: text) :=
  ⟨by simp [run], by simp [run]⟩

theorem literal_splits (quote : Char) (text : List Char) :
    (literal quote text).Splits (quote :: text) := by
  have h := List.takeWhile_append_dropWhile (p := isInsideLiteral quote) (l := text)
  unfold literal
  split
  · exact ⟨by simp, by simp⟩
  · next c rest hd =>
    rw [hd] at h
    dsimp only
    split <;> exact ⟨by simp, by simpa using h⟩

theorem lineBreak_splits (c : Char) (text : List Char) :
    (lineBreak c text).Splits (c :: text) := by
  unfold lineBreak
  split
  · split
    · next hc => exact ⟨by simp, by simp [hc]⟩
    · exact ⟨by simp, by simp⟩
  · exact ⟨by simp, by simp⟩

theorem first_splits (c : Char) (text : List Char) : (first c text).Splits (c :: text) := by
  unfold first
  repeat' split
  · exact run_splits ..
  · exact lineBreak_splits ..
  · exact run_splits ..
  · exact literal_splits ..
  · exact run_splits ..
  · exact ⟨by simp, by simp⟩

theorem Splits.rest_length_lt {cut : Cut} {text : List Char} (h : cut.Splits text) :
    cut.rest.length < text.length := by
  have hpos := List.length_pos_iff.2 h.lexeme_ne_nil
  have hlength := congrArg List.length h.append_eq
  rw [List.length_append] at hlength
  omega

end Cut

def scanFrom (place : Place) : List Char → List Token
  | [] => []
  | c :: text =>
    let cut := Cut.first c text
    let after := place.after cut.lexeme
    ⟨cut.kind, String.ofList cut.lexeme, place.position, ⟨place.offset, after.offset⟩⟩ ::
      scanFrom after cut.rest
termination_by text => text.length
decreasing_by exact (Cut.first_splits c text).rest_length_lt

def scan (text : String) : List Token :=
  scanFrom .start text.toList

end CobolCompanion
