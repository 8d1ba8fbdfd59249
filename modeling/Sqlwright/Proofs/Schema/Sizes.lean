import Sqlwright.Proofs.Dialect.Pagination
import Sqlwright.Proofs.Schema.Reception
import Sqlwright.Proofs.Schema.Reordering
import Sqlwright.Proofs.Schema.SizeText

/-!
The sizes of the columns of a definition. A column has the size that the last declaration set which
was given one that could be read; it is canonical exactly if it was given plainly. A count and its
text are accepted alike and make the same type, but for zero, which is taken as a text only. Main
statement: `Blueprint.sizes_canonical_iff`.
-/

namespace Sqlwright

open Number Text

/-- The value that a declaration gives for the size, where it comes to look at one. -/
def ColumnCall.sizeGiven? : ColumnCall → Option Value
  | .typed _ given => some given
  | .typedAs word given =>
    match Column.readType word with
    | .ok _ => some given
    | .error _ => none
  | .decimal precision .null => some precision
  | .decimal .null _ => none
  | .decimal precision scale => some (.text (precision.plain ++ "," ++ scale.plain))
  | .length given => some given
  | _ => none

/-- The size that a declaration sets. All columns read values as sizes alike. -/
def ColumnCall.size? (call : ColumnCall) : Option Size :=
  call.sizeGiven?.bind fun given => (Column.readSize "" given).toOption

namespace Column

variable {c : Column}

/-- The column is named by a refusal only, and makes no difference for the size. -/
theorem toOption_readSize (column other : String) (given : Value) :
    (readSize column given).toOption = (readSize other given).toOption := by
  unfold readSize
  split
  · split <;> rfl
  · split <;> rfl
  · rfl

theorem size_sized (c : Column) (given : Value) :
    (c.sized given).2.size = ((readSize "" given).toOption).or c.size := by
  rw [toOption_readSize "" c.name]
  unfold sized
  split
  · rfl
  · cases readSize c.name given <;> rfl

theorem size_valued (c : Column) (given : List Value) : (c.valued given).2.size = c.size := by
  rcases valued_cases c given with same | ⟨values, valued⟩
  · rw [same]
  · rw [valued]

theorem size_decimal (c : Column) (precision scale : Value) :
    (c.apply (.decimal precision scale)).2.size =
      (ColumnCall.size? (.decimal precision scale)).or c.size := by
  by_cases whole : scale = .null
  · subst whole
    have same : c.apply (.decimal precision .null) =
        { c with type := some .decimal }.sized precision := by cases precision <;> rfl
    rw [same]
    exact size_sized { c with type := some .decimal } precision
  · by_cases bare : precision = .null
    · subst bare
      cases scale <;> rfl
    · have given : ColumnCall.sizeGiven? (.decimal precision scale) =
          some (.text (precision.plain ++ "," ++ scale.plain)) := by
        unfold ColumnCall.sizeGiven?
        split <;> simp_all
      have same : c.apply (.decimal precision scale) = { c with type := some .decimal }.sized
          (.text (precision.plain ++ "," ++ scale.plain)) := by
        unfold apply
        dsimp only
        split
        · exact absurd rfl bare
        · exact absurd rfl bare
        · exact absurd rfl whole
        · rfl
      rw [same, ColumnCall.size?, given]
      exact size_sized { c with type := some .decimal } _

/-- A declaration sets the size that it gives, if it gives one that is read. -/
theorem size_apply (c : Column) (call : ColumnCall) :
    (c.apply call).2.size = call.size?.or c.size := by
  cases call with
  | typed type given => exact size_sized { c with type := some type } given
  | typedAs word given =>
    unfold apply ColumnCall.size? ColumnCall.sizeGiven?
    dsimp only
    cases readType word with
    | ok type => exact size_sized { c with type := some type } given
    | error e => rfl
  | decimal precision scale => exact c.size_decimal precision scale
  | length given =>
    rw [ColumnCall.size?, ColumnCall.sizeGiven?, Option.bind_some, toOption_readSize "" c.name]
    unfold apply
    dsimp only
    cases readSize c.name given <;> rfl
  | enum values => exact size_valued _ values
  | set values => exact size_valued _ values
  | check expression =>
    unfold apply
    dsimp only
    split <;> rfl
  | default value => cases value <;> rfl
  | auto | primary | unsigned | null | notNull | useCurrent | unique | index | comment => rfl

/-- The size of a column is the one that was set last. -/
theorem size_grown (name : String) (calls : List ColumnCall) :
    (grown name calls).size = lastOf ColumnCall.size? calls := by
  induction calls using List.reverseRecOn with
  | nil => rfl
  | append_singleton calls call ih => rw [grown_concat, size_apply, lastOf_concat, ih]

section Spelled

/-- Digits are the text of a size. -/
theorem isSizeText_of_digits {text : List Char} (present : text ≠ [])
    (digits : ∀ c ∈ text, isDecimalDigit c = true) : isSizeText text = true := by
  have first : text.takeWhile isDecimalDigit = text := List.takeWhile_eq_self_iff.mpr digits
  have rest : text.dropWhile isDecimalDigit = [] := List.dropWhile_eq_nil_iff.mpr digits
  unfold isSizeText
  rw [first, rest]
  simp [present]

theorem readSize_of_digits (column : String) {text : String} (present : text.toList ≠ [])
    (digits : ∀ c ∈ text.toList, c.isDigit = true) :
    readSize column (.text text) = .ok (.text text) := by
  have decimal : ∀ c ∈ text.toList, isDecimalDigit c = true := fun c member =>
    isDecimalDigit_of_isDigit (digits c member)
  have whole := stripChars_eq fun c member => not_isBlank_of_isDigit (digits c member)
  rw [readSize, whole, isSizeText_of_digits present decimal, if_pos rfl, filter_digits decimal,
    String.ofList_toList]

/-- The text of a number is read as a size unless the number is negative. -/
theorem readSize_intText (column : String) (n : Int) :
    readSize column (.text (intText n)) =
      if 0 ≤ n then .ok (.text (intText n))
      else .error (.invalidLength column (.text (intText n))) := by
  split
  · rename_i natural
    have letters := toList_intText natural
    refine readSize_of_digits column ?_ ?_
    · rw [letters]
      exact Nat.toDigits_ne_nil
    · rw [letters]
      exact fun c => isDigit_of_mem_decimalDigits
  · rename_i negative
    have letters : (intText n).toList = '-' :: decimalDigits n.natAbs := by
      simp [intText, Int.not_le.mp negative]
    have blankless : ∀ c ∈ (intText n).toList, isBlank c = false := by
      rw [letters]
      exact List.forall_mem_cons.mpr ⟨rfl, fun c member =>
        not_isBlank_of_isDigit (isDigit_of_mem_decimalDigits member)⟩
    have invalid : ¬ isSizeText (stripChars (intText n).toList) = true := by
      rw [stripChars_eq blankless, letters]
      intro valid
      rcases isSizeText_cases valid with unbounded | ⟨present, -⟩
      · cases unbounded
      · exact present rfl
    rw [readSize, if_neg invalid]

end Spelled

end Column

namespace TypeName

/-- A type with a size is a matter of the text of the size. -/
theorem render_of_render {size other : Size} (same : size.render = other.render) (type : TypeName) :
    type.render (some size) = type.render (some other) := by
  unfold render
  rw [Option.some_or, Option.some_or]
  dsimp only
  rw [same]

end TypeName

namespace Definition

/-- Sizes that are written alike make the same type. -/
theorem columnType_of_render {c : Column} {size other : Size} (same : size.render = other.render)
    (d : Dialect) (table : String) :
    columnType d table { c with size := some size } =
      columnType d table { c with size := some other } := by
  have each (type : ColumnType) := TypeName.render_of_render same (d.types type)
  unfold columnType
  dsimp only
  split
  · rfl
  · unfold enumType
    dsimp only
    rw [each]
    rfl
  · unfold setType
    dsimp only
    rw [each]
    rfl
  · rw [each]

end Definition

namespace Column

/-- A count is accepted if it is positive, its text if the number is not negative, and where both
are accepted they make the same type on every database. -/
theorem apply_length_iff (c : Column) (n : Int) :
    ((c.apply (.length (.int n))).1 = .ok () ↔ 0 < n) ∧
    ((c.apply (.length (.text (intText n)))).1 = .ok () ↔ 0 ≤ n) ∧
    (0 < n → ∀ (d : Dialect) (table : String),
      Definition.columnType d table (c.apply (.length (.int n))).2 =
        Definition.columnType d table (c.apply (.length (.text (intText n)))).2) := by
  have count : readSize c.name (.int n) =
      if n ≤ 0 then .error (.lengthNotPositive c.name) else .ok (.count n) := rfl
  have text := readSize_intText c.name n
  unfold apply
  dsimp only
  rw [count, text]
  by_cases positive : 0 < n
  · rw [if_neg (Int.not_le.mpr positive), if_pos (Int.le_of_lt positive)]
    exact ⟨iff_of_true rfl positive, iff_of_true rfl (Int.le_of_lt positive), fun _ d table =>
      Definition.columnType_of_render rfl d table⟩
  · rw [if_pos (Int.not_lt.mp positive)]
    refine ⟨iff_of_false nofun positive, ?_, fun h => absurd h positive⟩
    by_cases natural : 0 ≤ n
    · rw [if_pos natural]
      exact iff_of_true rfl natural
    · rw [if_neg natural]
      exact iff_of_false nofun natural

end Column

namespace Blueprint

variable {b : Blueprint}

/-- Over any run of steps, the size of a column is the one that the last declaration on it set, and
is canonical exactly if it was given plainly. A count other than zero is accepted as a size exactly
if its text is, and they make the same type on every database; zero is refused as a count and taken
as a text. -/
theorem sizes_canonical_iff {table : Value} {deletedAtColumn : String}
    (h : Blueprint.start table deletedAtColumn = .ok b) (steps : List BlueprintStep) :
    (∀ c ∈ (b.run steps).columns,
      c.size = lastOf ColumnCall.size? (history c.name (b.receivedIn steps)) ∧
      ∀ size, c.size = some size →
        ∃ call ∈ history c.name (b.receivedIn steps), ∃ given, call.sizeGiven? = some given ∧
          Column.readSize c.name given = .ok size ∧ (size.Canonical ↔ given.PlainSize)) ∧
    ∀ (c : Column) (n : Int),
      (n ≠ 0 → ((c.apply (.length (.int n))).1 = .ok () ↔
        (c.apply (.length (.text (intText n)))).1 = .ok ())) ∧
      ((c.apply (.length (.int n))).1 = .ok () → ∀ (d : Dialect) (table : String),
        Definition.columnType d table (c.apply (.length (.int n))).2 =
          Definition.columnType d table (c.apply (.length (.text (intText n)))).2) ∧
      (c.apply (.length (.int 0))).1 = .error (.lengthNotPositive c.name) ∧
      (c.apply (.length (.text (intText 0)))).1 = .ok () := by
  have told := tracks_run h steps
  constructor
  · intro c member
    have last : c.size = lastOf ColumnCall.size? (history c.name (b.receivedIn steps)) :=
      (congrArg Column.size (told.columns c member)).trans (Column.size_grown _ _)
    refine ⟨last, fun size sized => ?_⟩
    rw [sized] at last
    obtain ⟨call, inside, set⟩ := List.exists_of_findSome?_eq_some last.symm
    obtain ⟨given, gives, read⟩ := Option.bind_eq_some_iff.mp set
    have here : Column.readSize c.name given = .ok size :=
      eq_ok_of_toOption ((Column.toOption_readSize c.name "" given).trans read)
    exact ⟨call, List.mem_reverse.mp inside, given, gives, here,
      Column.canonical_iff_of_readSize here⟩
  · intro c n
    obtain ⟨count, text, alike⟩ := c.apply_length_iff n
    refine ⟨fun other => ?_, fun accepted => alike (count.mp accepted), rfl,
      (c.apply_length_iff 0).2.1.mpr (Int.le_refl 0)⟩
    rw [count, text]
    omega

def parcels : List BlueprintStep :=
  [.call (.column (.text "weight")), .call (.onColumn "weight" (.decimal (.int 10) (.int 4)))]

theorem sizes_canonical_iff_parcels :
    ∃ b, Blueprint.start (.text "parcels") "deleted_at" = .ok b ∧
      ∃ c ∈ (b.run parcels).columns, c.size = some (.text "10,4") ∧
        ∃ given, Column.readSize c.name given = .ok (.text "10,4") ∧
          ((Size.text "10,4").Canonical ↔ given.PlainSize) := by
  have started : Blueprint.start (.text "parcels") "deleted_at" = .ok { table := "parcels" } := rfl
  obtain ⟨each, -⟩ := sizes_canonical_iff started parcels
  have weight : { name := "weight", type := some .decimal, size := some (.text "10,4") } ∈
      (Blueprint.run { table := "parcels" } parcels).columns := List.mem_singleton.mpr rfl
  obtain ⟨-, given⟩ := each _ weight
  obtain ⟨-, -, given, -, read, plain⟩ := given _ rfl
  exact ⟨_, started, _, weight, rfl, given, read, plain⟩

def blanks : Blueprint :=
  Blueprint.run { table := "blanks" }
    [.call (.column (.text "filler")), .call (.onColumn "filler" (.typed .varchar .null)),
      .call (.onColumn "filler" (.length (.text "0")))]

/-- Zero is refused as a count, and taken and kept as a text. -/
theorem zero_length_kept :
    blanks.Reachable ∧
      blanks.columns = [{ name := "filler", type := some .varchar, size := some (.text "0") }] ∧
      (∀ c ∈ blanks.columns,
        (c.apply (.length (.int 0))).1 = .error (.lengthNotPositive "filler")) ∧
      ¬ (Size.text "0").Canonical := by
  refine ⟨?_, rfl, fun c member => ?_, fun canonical => ?_⟩
  · exact (Reachable.start (show Blueprint.start (.text "blanks") "deleted_at" = _ from rfl)).run _
  · obtain rfl := List.mem_singleton.mp member
    rfl
  · rcases Column.positive_of_canonical canonical with unbounded | positive
    · cases unbounded
    · exact Nat.lt_irrefl 0 positive

end Blueprint

end Sqlwright
