import Sqlwright.Dialect.Basic
import Sqlwright.Error
import Sqlwright.Identifier

/-!
Quoted identifiers and string literals. A quoted identifier is a row of segments joined by dots;
inside a segment the closing mark is written twice. A string literal stands between single quotes,
which are written twice inside it; where the database reads backslashes as escapes they are written
twice as well.
-/

namespace Sqlwright

open Text

namespace QuotePair

def wrap (pair : QuotePair) (segment : List Char) : List Char :=
  let closing := pair.closing.toList
  pair.opening.toList ++ replaceAll closing (closing ++ closing) segment ++ closing

/-- Where a reader of quoted segments stands: before a segment, inside one, or behind a closing
mark that may still turn out to be the first of two. Characters read are held last first. -/
inductive Position
  | outside
  | inside (read : List Char)
  | closed (read : List Char)

/-- Whether a mark consists of just this character. -/
def isMark (mark : String) (c : Char) : Bool := mark.toList == [c]

/-- Reads segments joined by dots. A dot at the end is passed over. -/
def readSegments (pair : QuotePair) : Position → List Char → Option (List (List Char))
  | .outside, [] => some []
  | .inside _, [] => none
  | .closed read, [] => some [read.reverse]
  | .outside, c :: rest =>
    if isMark pair.opening c then readSegments pair (.inside []) rest else none
  | .inside read, c :: rest =>
    if isMark pair.closing c then readSegments pair (.closed read) rest
    else readSegments pair (.inside (c :: read)) rest
  | .closed read, c :: rest =>
    if isMark pair.closing c then readSegments pair (.inside (c :: read)) rest
    else if c = '.' then (readSegments pair .outside rest).map (read.reverse :: ·)
    else none

end QuotePair

namespace Dialect

/-- A name, qualified or not, with each of its segments quoted. -/
def quoteIdentifier (d : Dialect) (name : String) : Except Error String :=
  if Identifier.isQualified name.toList then
    .ok (join "." ((pieces (· == '.') name.toList).map fun segment =>
      String.ofList (d.quotes.wrap segment)))
  else .error (.invalidIdentifier (quoted name))

theorem eq_of_quoteIdentifier_error {d : Dialect} {name : String} {e : Error}
    (h : d.quoteIdentifier name = .error e) : e = .invalidIdentifier (quoted name) := by
  unfold quoteIdentifier at h
  split at h
  · cases h
  · cases h
    rfl

def quoteValue (d : Dialect) : Value → Except Error String
  | .text name => d.quoteIdentifier name
  | given => .error (.invalidIdentifier given.inspect)

def quoteKey (d : Dialect) : Key → Except Error String
  | .text name => d.quoteIdentifier name
  | .other shown => .error (.invalidIdentifier shown)

def unquoteIdentifier (d : Dialect) (text : String) : Except Error String :=
  match d.quotes.readSegments .outside text.toList with
  | some segments => .ok (join "." (segments.map String.ofList))
  | none => .error (.invalidIdentifier (quoted text))

def quoteList (d : Dialect) (names : List String) : Except Error String := do
  return join ", " (← names.mapM d.quoteIdentifier)

def literalChar (backslashEscapes : Bool) (c : Char) : List Char :=
  if c = '\'' then ['\'', '\'']
  else if c = '\\' && backslashEscapes then ['\\', '\\']
  else [c]

/-- Quotes are written twice, and so are backslashes that would escape; all else stands for
itself. -/
theorem literalChar_cases (backslashEscapes : Bool) (c : Char) :
    (c = '\'' ∧ literalChar backslashEscapes c = ['\'', '\'']) ∨
      (c = '\\' ∧ backslashEscapes = true ∧ literalChar backslashEscapes c = ['\\', '\\']) ∨
      (c ≠ '\'' ∧ ¬(c = '\\' && backslashEscapes) = true ∧
        literalChar backslashEscapes c = [c]) := by
  unfold literalChar
  by_cases quote : c = '\''
  · exact Or.inl ⟨quote, if_pos quote⟩
  · rw [if_neg quote]
    by_cases escape : (c = '\\' && backslashEscapes) = true
    · have both : c = '\\' ∧ backslashEscapes = true := by simpa using escape
      exact Or.inr (Or.inl ⟨both.1, both.2, if_pos escape⟩)
    · exact Or.inr (Or.inr ⟨quote, escape, if_neg escape⟩)

def quoteString (d : Dialect) (text : String) : String :=
  String.ofList
    ('\'' :: text.toList.flatMap (literalChar (d.can .backslashEscapes)) ++ ['\''])

end Dialect

end Sqlwright
