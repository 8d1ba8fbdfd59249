import Sqlwright.Dialect.Basic
import Sqlwright.Error
import Sqlwright.Text.Digit

/-!
Columns of a table definition. What a caller declares is kept as it was declared; what follows from
the whole of it (whether the column admits NULL, which default it has) is read off at the end, so
that the order of the declarations does not matter. Main definition: `Column.apply`, what one
declaration does.
-/

namespace Sqlwright

open Number Text

/-- One column as declared so far. -/
structure Column where
  name : String
  type : Option ColumnType := none
  size : Option Size := none
  values : List String := []
  check : Option String := none
  comment : Option String := none
  declaredNull : Bool := false
  default? : Option Value := none
  unsigned : Bool := false
  auto : Bool := false
  primary : Bool := false
  unique : Bool := false
  indexed : Bool := false

/-- One declaration on a column. Lengths, values and defaults are what the caller gave. -/
inductive ColumnCall
  | typed (type : ColumnType) (length : Value)
  | typedAs (word : Value) (length : Value)
  | decimal (precision scale : Value)
  | enum (values : List Value)
  | set (values : List Value)
  | length (size : Value)
  | unsigned
  | null
  | notNull
  | default (value : Value)
  | useCurrent
  | auto
  | primary
  | unique
  | index
  | check (expression : String)
  | comment (text : Option String)

/-- Whether a declaration makes the column the primary key. -/
def ColumnCall.claims : ColumnCall → Bool
  | .auto | .primary => true
  | _ => false

namespace Column

def isKey (c : Column) : Bool := c.primary || c.auto

def isSpatial (c : Column) : Bool := (c.type.map ColumnType.isSpatial).getD false

/-- Whether the column admits NULL, beside a composite primary key. -/
def nullable (c : Column) (composite : Option (List String)) : Bool :=
  c.declaredNull && !c.isKey && !c.unique && !(composite.getD []).contains c.name

/-- The default in force. Columns that count by themselves, unique columns and spatial columns have
none. -/
def effectiveDefault (c : Column) : Option Value :=
  if c.auto || c.unique || c.isSpatial then none else c.default?

def inspect (c : Column) (table : String) : String :=
  "ColumnSpec(" ++ table ++ "." ++ c.name ++ ", type=" ++
    (c.type.map ColumnType.name).getD Value.null.inspect ++ ")"

/-- Whether a text is a size: a number, two numbers around a comma, or MAX. -/
def isSizeText (text : List Char) : Bool :=
  let digits := text.takeWhile isDecimalDigit
  let rest := text.dropWhile isDecimalDigit
  let second :=
    match rest.dropWhile isBlank with
    | ',' :: after =>
      let after := after.dropWhile isBlank
      !after.isEmpty && after.all isDecimalDigit
    | _ => false
  text = "MAX".toList || (!digits.isEmpty && (rest.isEmpty || second))

/-- The size that a caller gave for a column. Spaces in a text are left out. -/
def readSize (column : String) : Value → Except Error Size
  | .int n => if n ≤ 0 then .error (.lengthNotPositive column) else .ok (.count n)
  | .text s =>
    if isSizeText (stripChars s.toList) then
      .ok (.text (String.ofList (s.toList.filter (· != ' '))))
    else .error (.invalidLength column (.text s))
  | given => .error (.invalidLength column given)

/-- Values with the collections among them opened by one level. A text counts as one value. -/
def flatten : List Value → List Value
  | [] => []
  | .text s :: rest => .text s :: flatten rest
  | v :: rest =>
    match v.members? with
    | some items => items ++ flatten rest
    | none => v :: flatten rest

def textsOf (column : String) : List Value → Except Error (List String)
  | [] => .ok []
  | .text s :: rest => do return s :: (← textsOf column rest)
  | v :: _ => .error (.valueNotText column v)

def withoutRepeats : List String → List String
  | [] => []
  | s :: rest => s :: (withoutRepeats rest).filter (· ≠ s)

def readValues (column : String) (given : List Value) : Except Error (List String) :=
  match flatten given with
  | [] => .error (.noValues column)
  | flat => (textsOf column flat).map withoutRepeats

/-- The column with a size, if one was given. A refused size leaves it as it was. -/
def sized (c : Column) : Value → Except Error Unit × Column
  | .null => (.ok (), c)
  | given =>
    match readSize c.name given with
    | .ok size => (.ok (), { c with size := some size })
    | .error e => (.error e, c)

def valued (c : Column) (given : List Value) : Except Error Unit × Column :=
  match readValues c.name given with
  | .ok values => (.ok (), { c with values })
  | .error e => (.error e, c)

def readType : Value → Except Error ColumnType
  | .text word =>
    match ColumnType.ofName? word with
    | some type => .ok type
    | none => .error .unknownColumnType
  | _ => .error .unknownColumnType

/-- What a declaration does to a column. The type is set before a size or values are looked at. -/
def apply (c : Column) : ColumnCall → Except Error Unit × Column
  | .typed type length => { c with type := some type }.sized length
  | .typedAs word length =>
    match readType word with
    | .ok type => { c with type := some type }.sized length
    | .error e => (.error e, c)
  | .decimal precision scale =>
    let c := { c with type := some .decimal }
    match precision, scale with
    | .null, .null => (.ok (), c)
    | .null, _ => (.error (.scaleWithoutPrecision c.name), c)
    | precision, .null => c.sized precision
    | precision, scale => c.sized (.text (precision.plain ++ "," ++ scale.plain))
  | .enum values => { c with type := some .enum }.valued values
  | .set values => { c with type := some .set }.valued values
  | .length size =>
    match readSize c.name size with
    | .ok size => (.ok (), { c with size := some size })
    | .error e => (.error e, c)
  | .unsigned => (.ok (), { c with unsigned := true })
  | .null => (.ok (), { c with declaredNull := true })
  | .notNull => (.ok (), { c with declaredNull := false })
  | .default .null => (.ok (), { c with declaredNull := true, default? := none })
  | .default value => (.ok (), { c with default? := some value })
  | .useCurrent => (.ok (), { c with default? := some (.raw "CURRENT_TIMESTAMP") })
  | .auto => (.ok (), { c with auto := true, primary := true })
  | .primary => (.ok (), { c with primary := true })
  | .unique => (.ok (), { c with unique := true })
  | .index => (.ok (), { c with indexed := true })
  | .check expression =>
    let text := strip expression
    if text.isEmpty then (.error (.emptyCheck c.name), c) else (.ok (), { c with check := some text })
  | .comment text => (.ok (), { c with comment := text })

end Column

end Sqlwright
