import Sqlwright.Dialect.Quoting
import Sqlwright.Text.Capital

/-!
What a caller writes for a column or a table, read into its parts, and the parts quoted for a
database. Reading never fails: a text of no special form counts as a plain name, and quoting then
refuses it if it is none.
-/

namespace Sqlwright

open Text

/-- The last word of a text and what stands before the blanks in front of it. A text of one word has
no such split. -/
def splitLastWord? (text : List Char) : Option (List Char × List Char) :=
  match text.reverse.dropWhile (!isBlank ·) with
  | [] => none
  | _ :: before =>
    some ((before.dropWhile isBlank).reverse, (text.reverse.takeWhile (!isBlank ·)).reverse)

theorem length_splitLastWord? {text before word : List Char}
    (h : splitLastWord? text = some (before, word)) : before.length < text.length := by
  unfold splitLastWord? at h
  split at h
  · simp at h
  · rename_i c rest found
    simp only [Option.some.injEq, Prod.mk.injEq] at h
    have inner := (List.dropWhile_sublist isBlank (l := rest)).length_le
    have outer := (List.dropWhile_sublist (!isBlank ·) (l := text.reverse)).length_le
    simp only [found, List.length_cons, List.length_reverse] at outer
    rw [← h.1, List.length_reverse]
    omega

/-- What a caller selects, compares or orders by. -/
inductive ColumnTerm
  | star
  | allOf (owner : List Char)
  | aggregate (function : List Char) (distinct : Bool) (argument : List Char)
  | plain (name : List Char)
  | aliased (base : ColumnTerm) (name : List Char)

namespace ColumnTerm

def aggregates : List String := ["COUNT", "SUM", "AVG", "MIN", "MAX"]

def splitDistinct (text : List Char) : Bool × List Char :=
  let word := text.takeWhile (!isBlank ·)
  let rest := text.dropWhile (!isBlank ·)
  if spells "DISTINCT".toList word && !rest.isEmpty then (true, rest.dropWhile isBlank)
  else (false, text)

/-- Reads a call of an aggregate function: its name, parentheses, and between them an argument
without a closing parenthesis. -/
def readAggregate? (text : List Char) : Option ColumnTerm :=
  match cutAt '(' text with
  | none => none
  | some (function, rest) =>
    match rest.reverse with
    | ')' :: reversed =>
      let inside := reversed.reverse
      if aggregates.any (spells ·.toList function) && !inside.contains ')' then
        let (distinct, argument) := splitDistinct (inside.dropWhile isBlank)
        some (.aggregate function distinct (stripChars argument))
      else none
    | _ => none

/-- Splits off an alias: a last word with AS before it and some text on one line before that. -/
def splitAlias? (text : List Char) : Option (List Char × List Char) :=
  match splitLastWord? text with
  | none => none
  | some (before, name) =>
    match splitLastWord? before with
    | none => none
    | some (base, keyword) =>
      if spells "AS".toList keyword && !base.isEmpty && !base.contains '\n' then some (base, name)
      else none

def readSimple (text : List Char) : ColumnTerm :=
  if text = ['*'] then .star
  else if ".*".toList.isSuffixOf text then .allOf (text.take (text.length - 2))
  else (readAggregate? text).getD (.plain text)

theorem length_stripChars (text : List Char) : (stripChars text).length ≤ text.length := by
  unfold stripChars
  have outer := (List.dropWhile_sublist isBlank (l := (text.dropWhile isBlank).reverse)).length_le
  have inner := (List.dropWhile_sublist isBlank (l := text)).length_le
  simp only [List.length_reverse] at outer ⊢
  omega

/-- What is left in front of an alias is shorter. -/
theorem length_splitAlias? {text base name : List Char}
    (h : splitAlias? text = some (base, name)) : base.length < text.length := by
  unfold splitAlias? at h
  split at h
  · simp at h
  · rename_i before word outer
    split at h
    · simp at h
    · rename_i base' keyword inner
      split at h
      · simp only [Option.some.injEq, Prod.mk.injEq] at h
        have h₁ := length_splitLastWord? outer
        have h₂ := length_splitLastWord? inner
        rw [← h.1]
        omega
      · simp at h

/-- Reads what a caller wrote for a column. An alias may follow an alias. -/
def read (text : List Char) : ColumnTerm :=
  match _split : splitAlias? (stripChars text) with
  | some (base, name) => .aliased (read base) name
  | none => readSimple (stripChars text)
termination_by text.length
decreasing_by
  have := length_splitAlias? _split
  have := length_stripChars text
  omega

def render (d : Dialect) : ColumnTerm → Except Error String
  | .star => .ok "*"
  | .allOf owner => do
    let owner ← d.quoteIdentifier (String.ofList owner)
    return owner ++ ".*"
  | .aggregate function distinct argument => do
    let argument ←
      if argument = ['*'] then .ok "*" else d.quoteIdentifier (String.ofList argument)
    return String.ofList (capitals function) ++ "(" ++ (if distinct then "DISTINCT " else "") ++
      argument ++ ")"
  | .plain name => d.quoteIdentifier (String.ofList name)
  | .aliased base name => do
    let base ← base.render d
    let name ← d.quoteIdentifier (String.ofList name)
    return base ++ " AS " ++ name

end ColumnTerm

/-- What a caller wrote for a column, quoted. -/
def Dialect.column (d : Dialect) (text : String) : Except Error String :=
  (ColumnTerm.read text.toList).render d

/-- What a caller writes for a table: its name and perhaps an alias. -/
structure TableTerm where
  name : String
  alias? : Option String

namespace TableTerm

/-- Reads a table name, with an alias behind it or behind AS. Any other text counts as the name. -/
def read (text : String) : TableTerm :=
  match wordLists text.toList with
  | [name, second] => ⟨String.ofList name, some (String.ofList second)⟩
  | [name, keyword, second] =>
    if spells "AS".toList keyword then ⟨String.ofList name, some (String.ofList second)⟩
    else ⟨strip text, none⟩
  | _ => ⟨strip text, none⟩

def render (d : Dialect) (term : TableTerm) : Except Error String := do
  let name ← d.quoteIdentifier term.name
  match term.alias? with
  | none => return name
  | some second =>
    let second ← d.quoteIdentifier second
    return name ++ " " ++ second

end TableTerm

end Sqlwright
