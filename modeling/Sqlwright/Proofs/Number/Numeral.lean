import Sqlwright.Number.Decimal
import Sqlwright.Number.Shortest

/-!
The characters of numbers as they are written: decimal digits, the point, signs, the mark of a power
of ten, and the letters of the names of what is no number or not finite.
-/

namespace Sqlwright.Number

def isNumeral (c : Char) : Bool :=
  c.isDigit ||
    ['.', '-', '+', 'e', 'E', 'n', 'a', 'i', 'f', 't', 'y', 's', 'N', 'I'].contains c

theorem isNumeral_of_isDigit {c : Char} (h : c.isDigit = true) : isNumeral c = true := by
  rw [isNumeral, h, Bool.true_or]

theorem isNumeral_digit {n : Nat} : ∀ c ∈ decimalDigits n, isNumeral c = true := fun _ member =>
  isNumeral_of_isDigit (isDigit_of_mem_decimalDigits member)

theorem isNumeral_replicate {n : Nat} : ∀ c ∈ List.replicate n '0', isNumeral c = true := by
  intro c member
  rw [List.eq_of_mem_replicate member]
  rfl

theorem isNumeral_sign (negative : Bool) :
    ∀ c ∈ (if negative then ['-'] else []), isNumeral c = true := by
  cases negative <;> exact List.all_eq_true.mp (by decide)

theorem isNumeral_intText (n : Int) : ∀ c ∈ (intText n).toList, isNumeral c = true := by
  have digits : ∀ c ∈ (String.ofList (decimalDigits n.natAbs)).toList, isNumeral c = true := by
    rw [String.toList_ofList]
    exact isNumeral_digit
  unfold intText
  split
  · rw [String.toList_append]
    exact List.forall_mem_append.mpr ⟨List.all_eq_true.mp (by decide), digits⟩
  · exact digits

section Double

theorem isNumeral_shortestDigits (mantissa : Nat) (exponent : Int) :
    ∀ c ∈ (shortestDigits mantissa exponent).digits, isNumeral c = true := by
  unfold shortestDigits
  dsimp only
  split
  · intro c member
    have inside := List.mem_reverse.mp member
    exact isNumeral_digit c (List.mem_reverse.mp ((List.dropWhile_sublist _).subset inside))
  · exact List.all_eq_true.mp (by decide)

variable {s : Scientific} (h : ∀ c ∈ s.digits, isNumeral c = true)

include h

theorem isNumeral_positional : ∀ c ∈ positional s, isNumeral c = true := by
  unfold positional
  dsimp only
  split
  · exact List.forall_mem_append.mpr ⟨List.forall_mem_cons.mpr ⟨by decide,
      List.forall_mem_cons.mpr ⟨by decide, isNumeral_replicate⟩⟩, h⟩
  · split
    · exact List.forall_mem_append.mpr ⟨List.forall_mem_append.mpr ⟨h, isNumeral_replicate⟩,
        List.all_eq_true.mp (by decide)⟩
    · exact List.forall_mem_append.mpr ⟨fun c member => h c (List.mem_of_mem_take member),
        List.forall_mem_cons.mpr ⟨by decide, fun c member => h c (List.mem_of_mem_drop member)⟩⟩

theorem isNumeral_exponential : ∀ c ∈ exponential s, isNumeral c = true := by
  have power (n : Int) : ∀ c ∈ powerText n, isNumeral c = true := by
    unfold powerText
    dsimp only
    refine List.forall_mem_append.mpr ⟨List.forall_mem_cons.mpr ⟨by decide,
      List.forall_mem_cons.mpr ⟨?_, isNumeral_replicate⟩⟩, isNumeral_digit⟩
    split <;> decide
  unfold exponential
  dsimp only
  refine List.forall_mem_append.mpr ⟨?_, power _⟩
  split
  · exact nofun
  · rename_i d digits
    exact digits ▸ h
  · rename_i d rest _ digits
    rw [digits] at h
    obtain ⟨first, others⟩ := List.forall_mem_cons.mp h
    exact List.forall_mem_cons.mpr ⟨first, List.forall_mem_cons.mpr ⟨by decide, others⟩⟩

end Double

theorem Double.isNumeral_text (x : Double) : ∀ c ∈ x.text.toList, isNumeral c = true := by
  unfold Double.text
  split
  · exact List.all_eq_true.mp (by decide)
  · split <;> exact List.all_eq_true.mp (by decide)
  · rename_i negative mantissa exponent
    have digits := isNumeral_shortestDigits mantissa exponent
    dsimp only
    split
    · rw [String.toList_ofList]
      exact List.forall_mem_append.mpr ⟨isNumeral_sign negative, List.all_eq_true.mp (by decide)⟩
    · split <;> rw [String.toList_ofList]
      · exact List.forall_mem_append.mpr ⟨isNumeral_sign negative, isNumeral_positional digits⟩
      · exact List.forall_mem_append.mpr ⟨isNumeral_sign negative, isNumeral_exponential digits⟩

theorem Decimal.isNumeral_finiteText {digits : List Char} (power : Int)
    (h : ∀ c ∈ digits, isNumeral c = true) :
    ∀ c ∈ finiteText digits power, isNumeral c = true := by
  have body (point : Int) : ∀ c ∈
      if point ≤ 0 then '0' :: '.' :: List.replicate point.natAbs '0' ++ digits
      else if (digits.length : Int) ≤ point then
        digits ++ List.replicate (point - digits.length).toNat '0'
      else digits.take point.toNat ++ '.' :: digits.drop point.toNat, isNumeral c = true := by
    split
    · exact List.forall_mem_append.mpr ⟨List.forall_mem_cons.mpr ⟨by decide,
        List.forall_mem_cons.mpr ⟨by decide, isNumeral_replicate⟩⟩, h⟩
    · split
      · exact List.forall_mem_append.mpr ⟨h, isNumeral_replicate⟩
      · exact List.forall_mem_append.mpr ⟨fun c member => h c (List.mem_of_mem_take member),
          List.forall_mem_cons.mpr ⟨by decide, fun c member => h c (List.mem_of_mem_drop member)⟩⟩
  unfold finiteText
  dsimp only
  generalize (if (decide (power ≤ 0) && decide (-6 < power + digits.length)) = true
    then power + digits.length else 1) = point
  split
  · exact body point
  · refine List.forall_mem_append.mpr ⟨body point, List.forall_mem_cons.mpr ⟨by decide,
      List.forall_mem_cons.mpr ⟨?_, isNumeral_digit⟩⟩⟩
    split <;> decide

theorem Decimal.isNumeral_text (n : Decimal) : ∀ c ∈ n.text.toList, isNumeral c = true := by
  cases n with
  | finite negative digits power =>
    rw [Decimal.text, String.toList_ofList]
    exact List.forall_mem_append.mpr
      ⟨isNumeral_sign negative, isNumeral_finiteText power isNumeral_digit⟩
  | infinite negative => cases negative <;> exact List.all_eq_true.mp (by decide)
  | nan negative signalling payload =>
    have names : ∀ c ∈ ((if negative then "-" else "") ++
        (if signalling then "sNaN" else "NaN")).toList, isNumeral c = true := by
      cases negative <;> cases signalling <;> exact List.all_eq_true.mp (by decide)
    have digits : ∀ digit : Fin 10, isNumeral digit.val.digitChar = true := by decide
    rw [Decimal.text, String.toList_append, String.toList_ofList]
    refine List.forall_mem_append.mpr ⟨names, fun c member => ?_⟩
    obtain ⟨digit, -, rfl⟩ := List.mem_map.mp member
    exact digits digit

end Sqlwright.Number
