import Sqlwright.Dialect.Quoting

/-!
Statements as rows of pieces. A piece is kept as what it stands for: a keyword, a word of the
database, a name, a text in single quotes, or a text that the caller wrote in SQL; the database's
quotes come in when the row is rendered. What can be said of a statement whatever was declared is
said of its row: which texts stand between single quotes (`Piece.literals`), and what is left once
names, literals and the caller's SQL are blotted out (`Piece.outline`).
-/

namespace Sqlwright

open Text

/-- A piece of a statement, by who it comes from: keywords and punctuation are the same for every
definition, words are the database's, numbers, or words of options. -/
inductive Piece
  | plain (text : String)
  | word (text : String)
  | name (text : String)
  | literal (text : String)
  | free (text : String)

namespace Dialect

def spell (d : Dialect) (name : String) : String :=
  join "." ((pieces (· == '.') name.toList).map fun segment =>
    String.ofList (d.quotes.wrap segment))

/-- A name is accepted if its segments are names, and is then spelled segment by segment. -/
theorem quoteIdentifier_eq_ok {d : Dialect} {name text : String} :
    d.quoteIdentifier name = .ok text ↔
      Identifier.isQualified name.toList = true ∧ d.spell name = text := by
  unfold quoteIdentifier
  split
  · rename_i valid
    simp [valid, spell]
  · rename_i invalid
    simp [invalid]

end Dialect

namespace Piece

variable {d : Dialect}

def sql (d : Dialect) : Piece → String
  | plain text | word text | free text => text
  | name text => d.spell text
  | literal text => d.quoteString text

def render (d : Dialect) : List Piece → String
  | [] => ""
  | piece :: rest => piece.sql d ++ render d rest

def joined (separator : String) : List (List Piece) → List Piece
  | [] => []
  | [row] => row
  | row :: next :: rest => row ++ plain separator :: joined separator (next :: rest)

@[simp]
def literal? : Piece → Option String
  | literal text => some text
  | _ => none

/-- The texts between single quotes, from left to right. -/
def literals (row : List Piece) : List String := row.filterMap literal?

/-- What is left of a piece once names, literals and the caller's SQL are blotted out, and words too
unless they are to be shown. -/
def shown (words : Bool) : Piece → List Char
  | plain text => text.toList
  | word text => if words then text.toList else ['?']
  | _ => ['?']

def outline (words : Bool) (row : List Piece) : List Char := row.flatMap (shown words)

@[simp] theorem render_nil : render d [] = "" := rfl

@[simp] theorem render_cons (piece : Piece) (row : List Piece) :
    render d (piece :: row) = piece.sql d ++ render d row := rfl

@[simp] theorem render_append (a b : List Piece) :
    render d (a ++ b) = render d a ++ render d b := by
  induction a with
  | nil => simp
  | cons piece rest ih => simp [ih, String.append_assoc]

@[simp] theorem render_joined (separator : String) (rows : List (List Piece)) :
    render d (joined separator rows) = join separator (rows.map (render d)) := by
  induction rows using joined.induct with
  | case1 => rfl
  | case2 row => rfl
  | case3 row next rest ih =>
    rw [joined, render_append, render_cons, ih]
    simp [join, sql, String.append_assoc]

theorem forall_joined {P : Piece → Prop} {separator : String} {rows : List (List Piece)}
    (hseparator : P (plain separator)) (hrows : ∀ row ∈ rows, ∀ piece ∈ row, P piece) :
    ∀ piece ∈ joined separator rows, P piece := by
  induction rows using joined.induct with
  | case1 => simp [joined]
  | case2 row => exact hrows row (by simp)
  | case3 row next rest ih =>
    rw [joined]
    refine List.forall_mem_append.mpr ⟨hrows row (by simp), List.forall_mem_cons.mpr
      ⟨hseparator, ih fun other member => hrows other (by simp [List.mem_cons.mp member])⟩⟩

@[simp] theorem literals_nil : literals [] = [] := rfl

@[simp] theorem literals_append (a b : List Piece) :
    literals (a ++ b) = literals a ++ literals b := List.filterMap_append

@[simp] theorem literals_cons (piece : Piece) (row : List Piece) :
    literals (piece :: row) = piece.literal?.toList ++ literals row := by
  rw [literals, List.filterMap_cons]
  cases piece.literal? <;> rfl

@[simp] theorem literals_joined (separator : String) (rows : List (List Piece)) :
    literals (joined separator rows) = rows.flatMap literals := by
  induction rows using joined.induct with
  | case1 => rfl
  | case2 row => simp [joined]
  | case3 row next rest ih =>
    rw [joined, literals_append, literals_cons, ih]
    simp

end Piece

end Sqlwright
