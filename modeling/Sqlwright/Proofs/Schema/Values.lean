import Sqlwright.Proofs.Schema.Reception

/-!
The declared values of enumerations and sets. A declaration of values that is accepted gives texts,
with collections among the arguments opened by one level, and the column keeps them without later
repetitions (`Column.readValues_eq_ok`). What a column has is from the last such declaration,
whatever type it was given before or after (`Blueprint.Tracks.lastDeclared`). So it has no values
exactly if none was accepted, which does not keep its type from being that of an enumeration or a
set.
-/

namespace Sqlwright

open Text

variable {b : Blueprint} {c : Column} {log : List (String × ColumnCall)}
  {values texts : List String}

theorem lastOf_eq_some_iff {α : Type} {read : ColumnCall → Option α} {calls : List ColumnCall}
    {item : α} : lastOf read calls = some item ↔
      ∃ before call after, calls = before ++ call :: after ∧ read call = some item ∧
        ∀ other ∈ after, read other = none := by
  rw [lastOf, List.findSome?_eq_some_iff]
  constructor
  · rintro ⟨after, call, before, cut, found, none⟩
    refine ⟨before.reverse, call, after.reverse, ?_, found, fun other member => ?_⟩
    · simpa using congrArg List.reverse cut
    · exact none other (List.mem_reverse.mp member)
  · rintro ⟨before, call, after, rfl, found, none⟩
    refine ⟨after.reverse, call, before.reverse, by simp, found, fun other member => ?_⟩
    exact none other (List.mem_reverse.mp member)

theorem lastOf_eq_none_iff {α : Type} {read : ColumnCall → Option α} {calls : List ColumnCall} :
    lastOf read calls = none ↔ ∀ call ∈ calls, read call = none := by
  simp [lastOf, List.findSome?_eq_none_iff]

namespace Column

def opened : Value → List Value
  | .text s => [.text s]
  | v => v.members?.getD [v]

theorem flatten_eq (given : List Value) : flatten given = given.flatMap opened := by
  induction given with
  | nil => rfl
  | cons v rest ih => cases v <;> simp [flatten, opened, Value.members?, ih]

theorem textsOf_eq_ok {column : String} {flat : List Value} :
    textsOf column flat = .ok texts ↔ flat = texts.map .text := by
  induction flat generalizing texts with
  | nil => cases texts <;> simp [textsOf]
  | cons v rest ih =>
    cases v with
    | text s =>
      rw [textsOf]
      constructor
      · intro h
        obtain ⟨others, read, h⟩ := bind_eq_ok.mp h
        cases h
        rw [List.map_cons, ih.mp read]
      · intro h
        cases texts with
        | nil => cases h
        | cons first others =>
          obtain ⟨same, later⟩ := List.cons.inj h
          cases same
          exact bind_eq_ok.mpr ⟨others, ih.mpr later, rfl⟩
    | _ =>
      refine iff_of_false nofun fun h => ?_
      cases texts with
      | nil => cases h
      | cons first others => cases (List.cons.inj h).1

theorem withoutRepeats_filter (keep : String → Bool) (texts : List String) :
    withoutRepeats (texts.filter keep) = (withoutRepeats texts).filter keep := by
  induction texts with
  | nil => rfl
  | cons s rest ih =>
    by_cases kept : keep s = true
    · rw [List.filter_cons_of_pos kept, withoutRepeats, withoutRepeats, ih,
        List.filter_cons_of_pos kept, List.filter_filter, List.filter_filter]
      simp only [Bool.and_comm]
    · have same : (withoutRepeats rest).filter keep =
          ((withoutRepeats rest).filter (· ≠ s)).filter keep := by
        rw [List.filter_filter]
        refine List.filter_congr fun other _ => ?_
        by_cases here : other = s <;> simp [here, kept]
      rw [List.filter_cons_of_neg kept, withoutRepeats, List.filter_cons_of_neg kept, ih, same]

theorem nodup_withoutRepeats (texts : List String) : (withoutRepeats texts).Nodup := by
  induction texts with
  | nil => exact .nil
  | cons s rest ih =>
    rw [withoutRepeats, List.nodup_cons]
    exact ⟨by simp, ih.filter _⟩

/-- Of the texts that are the same the first one stays. -/
theorem withoutRepeats_eq (texts : List String) : withoutRepeats texts = texts.eraseDups := by
  match texts with
  | [] => rfl
  | s :: rest =>
    rw [withoutRepeats, List.eraseDups_cons, ← withoutRepeats_eq, withoutRepeats_filter]
    simp [beq_eq_decide]
termination_by texts.length
decreasing_by exact Nat.lt_succ_of_le (List.length_filter_le _ _)

end Column

/-- What a declaration of values declares: the texts among its arguments and in them, if there is at
least one and nothing else, each once. -/
def ColumnCall.Declares (call : ColumnCall) (values : List String) : Prop :=
  ∃ given texts, (call = .enum given ∨ call = .set given) ∧ texts ≠ [] ∧
    given.flatMap Column.opened = texts.map .text ∧ values = texts.eraseDups

/-- The values that the last declaration of values declares that declares any. -/
def LastDeclared (calls : List ColumnCall) (values : List String) : Prop :=
  ∃ before call after, calls = before ++ call :: after ∧ call.Declares values ∧
    ∀ other ∈ after, ∀ values, ¬ other.Declares values

def ColumnCall.values? (column : String) : ColumnCall → Option (List String)
  | .enum given | .set given => (Column.readValues column given).toOption
  | _ => none

namespace Column

/-- Values are accepted if they are texts, at least one, and are kept once each in their order. -/
theorem readValues_eq_ok {column : String} {given : List Value} :
    readValues column given = .ok values ↔
      ∃ texts, texts ≠ [] ∧ given.flatMap opened = texts.map .text ∧ values = texts.eraseDups := by
  unfold readValues
  rw [flatten_eq]
  split
  · rename_i empty
    refine iff_of_false nofun ?_
    rintro ⟨texts, present, flat, -⟩
    rw [empty] at flat
    exact present (List.map_eq_nil_iff.mp flat.symm)
  · rename_i flat present
    rw [map_eq_ok]
    constructor
    · rintro ⟨texts, read, rfl⟩
      rw [textsOf_eq_ok] at read
      refine ⟨texts, ?_, read, (withoutRepeats_eq texts)⟩
      rintro rfl
      exact present read
    · rintro ⟨texts, -, flat, rfl⟩
      exact ⟨texts, textsOf_eq_ok.mpr flat, withoutRepeats_eq texts⟩

theorem values?_eq_some {column : String} {call : ColumnCall} :
    call.values? column = some values ↔ call.Declares values := by
  have read (given : List Value) : (readValues column given).toOption = some values ↔
      readValues column given = .ok values := by
    cases readValues column given <;> simp [Except.toOption]
  unfold ColumnCall.values? ColumnCall.Declares
  split
  · rename_i given
    rw [read, readValues_eq_ok]
    simp
  · rename_i given
    rw [read, readValues_eq_ok]
    simp
  · rename_i enum set
    refine iff_of_false nofun ?_
    rintro ⟨given, -, rfl | rfl, -⟩
    · exact enum given rfl
    · exact set given rfl

theorem values_sized {type : Option ColumnType} (given : Value) :
    ({ c with type }.sized given).2.values = c.values := by
  rcases Column.sized_cases { c with type } given with same | ⟨size, -, sized⟩
  · rw [same]
  · rw [sized]

theorem values_valued {type : Option ColumnType} (given : List Value) :
    ({ c with type }.valued given).2.values =
      (readValues c.name given).toOption.getD c.values := by
  unfold valued
  dsimp only
  cases readValues c.name given <;> rfl

/-- A declaration changes the values exactly if it declares values. -/
theorem values_apply (c : Column) (call : ColumnCall) :
    (c.apply call).2.values = (call.values? c.name).getD c.values := by
  cases call with
  | typed type length => exact values_sized length
  | typedAs word length =>
    unfold apply
    dsimp only
    split
    · exact values_sized length
    · rfl
  | decimal precision scale =>
    unfold apply
    dsimp only
    split
    · rfl
    · rfl
    · exact values_sized _
    · exact values_sized _
  | enum given => exact values_valued given
  | set given => exact values_valued given
  | length given =>
    unfold apply
    dsimp only
    split <;> rfl
  | check expression =>
    unfold apply
    dsimp only
    split <;> rfl
  | default value => cases value <;> rfl
  | _ => rfl

theorem name_grown (name : String) (calls : List ColumnCall) : (grown name calls).name = name := by
  induction calls using List.reverseRecOn with
  | nil => rfl
  | append_singleton calls call ih => rw [grown_concat, (follows_apply _ call).name, ih]

theorem values_grown (name : String) (calls : List ColumnCall) :
    (grown name calls).values = (lastOf (ColumnCall.values? name) calls).getD [] := by
  induction calls using List.reverseRecOn with
  | nil => rfl
  | append_singleton calls call ih =>
    rw [grown_concat, values_apply, lastOf_concat, ih, name_grown]
    cases call.values? name <;> rfl

end Column

theorem ColumnCall.Declares.nodup {call : ColumnCall} (h : call.Declares values) :
    values.Nodup := by
  obtain ⟨given, texts, -, -, -, rfl⟩ := h
  rw [← Column.withoutRepeats_eq]
  exact Column.nodup_withoutRepeats texts

theorem ColumnCall.Declares.ne_nil {call : ColumnCall} (h : call.Declares values) :
    values ≠ [] := by
  obtain ⟨given, texts, -, present, -, rfl⟩ := h
  obtain ⟨s, rest, rfl⟩ := List.exists_cons_of_ne_nil present
  rw [List.eraseDups_cons]
  exact List.cons_ne_nil _ _

namespace Blueprint.Tracks

variable (h : b.Tracks log) (member : c ∈ b.columns)

include h member

/-- A column has the values that were declared last, or none. -/
theorem values_eq :
    c.values = (lastOf (ColumnCall.values? c.name) (history c.name log)).getD [] := by
  rw [← Column.values_grown, ← h.columns c member]

/-- The values of a column are those that were declared last. -/
theorem lastDeclared (declared : c.values ≠ []) : LastDeclared (history c.name log) c.values := by
  have values := h.values_eq member
  cases last : lastOf (ColumnCall.values? c.name) (history c.name log) with
  | none => exact absurd (by rw [values, last]; rfl) declared
  | some found =>
    obtain rfl : c.values = found := by rw [values, last]; rfl
    obtain ⟨before, call, after, cut, read, none⟩ := lastOf_eq_some_iff.mp last
    refine ⟨before, call, after, cut, Column.values?_eq_some.mp read, ?_⟩
    intro other inside values declares
    have read : other.values? c.name = some values := Column.values?_eq_some.mpr declares
    rw [none other inside] at read
    cases read

theorem values_eq_nil_iff :
    c.values = [] ↔ ∀ call ∈ history c.name log, ∀ values, ¬ call.Declares values := by
  constructor
  · intro empty call inside values declares
    cases last : lastOf (ColumnCall.values? c.name) (history c.name log) with
    | none =>
      have read : call.values? c.name = some values := Column.values?_eq_some.mpr declares
      rw [lastOf_eq_none_iff.mp last call inside] at read
      cases read
    | some found =>
      obtain ⟨_, call, _, -, read, -⟩ := lastOf_eq_some_iff.mp last
      refine (Column.values?_eq_some.mp read).ne_nil ?_
      rw [← empty, h.values_eq member, last]
      rfl
  · intro none
    by_contra declared
    obtain ⟨before, call, after, cut, declares, -⟩ := h.lastDeclared member declared
    exact none call (by simp [cut]) _ declares

theorem nodup_values : c.values.Nodup := by
  by_cases empty : c.values = []
  · rw [empty]
    exact .nil
  · obtain ⟨_, call, _, -, declares, -⟩ := h.lastDeclared member empty
    exact declares.nodup

end Blueprint.Tracks

end Sqlwright
