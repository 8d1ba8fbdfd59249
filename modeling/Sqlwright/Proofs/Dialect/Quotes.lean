import Sqlwright.Dialect.BuiltIn
import Sqlwright.Dialect.Quoting
import Sqlwright.Proofs.Text.Name

/-!
Quotation marks that stand for nothing else. The characters that statements are written with outside
quotation marks, those that end or begin something in SQL, and the quotation marks of the databases
known from the start, which are among neither.
-/

namespace Sqlwright

open Text

namespace Text

/-- Control characters: those before the blank, the one that deletes, and the block behind it. -/
def isControl (c : Char) : Bool := c.toNat < 0x20 || 0x7f ≤ c.toNat && c.toNat ≤ 0x9f

/-- The characters that stand outside quotation marks. The dotted capital I is among them because
the name of a function may be given with it. -/
def isPlain (c : Char) : Bool :=
  Identifier.isTail c ||
    [' ', '.', ',', '*', '(', ')', '?', '=', '!', '<', '>', '+', 'İ'].contains c

/-- The characters that end or begin something in SQL, quotation marks and the minus aside. -/
def breaking : List Char := [';', '\'', '\\', '#', '/']

theorem isPlain_of_isTail {c : Char} (h : Identifier.isTail c = true) : isPlain c = true := by
  rw [isPlain, h, Bool.true_or]

theorem not_isControl_of_isTail {c : Char} (h : Identifier.isTail c = true) :
    isControl c = false := by
  have range := toNat_of_isTail h
  simp only [isControl, Bool.or_eq_false_iff, Bool.and_eq_false_iff, decide_eq_false_iff_not]
  omega

theorem not_isControl_of_isPlain {c : Char} (h : isPlain c = true) : isControl c = false := by
  rw [isPlain, Bool.or_eq_true, List.contains_iff_mem] at h
  rcases h with letter | mark
  · exact not_isControl_of_isTail letter
  · have all : [' ', '.', ',', '*', '(', ')', '?', '=', '!', '<', '>', '+', 'İ'].all
        (!isControl ·) = true := by decide
    simpa using List.all_eq_true.mp all c mark

theorem not_mem_breaking_of_isPlain {c : Char} (h : isPlain c = true) : c ∉ breaking := by
  intro member
  have all : breaking.all (!isPlain ·) = true := by decide
  have foreign := List.all_eq_true.mp all c member
  rw [h] at foreign
  cases foreign

end Text

namespace QuotePair

/-- Quotation marks of one character each that stand for nothing else. -/
structure Apart (pair : QuotePair) (opening closing : Char) : Prop where
  opens : pair.opening.toList = [opening]
  closes : pair.closing.toList = [closing]
  foreign : ∀ c ∈ [opening, closing],
    isPlain c = false ∧ c ≠ '-' ∧ c ∉ breaking ∧ isControl c = false

variable {pair : QuotePair} {opening closing : Char} {text : List Char}

namespace Apart

theorem opening_foreign (apart : pair.Apart opening closing) : isPlain opening = false :=
  (apart.foreign opening (by simp)).1

theorem closing_foreign (apart : pair.Apart opening closing) : isPlain closing = false :=
  (apart.foreign closing (by simp)).1

/-- Nothing in a name has to be doubled. -/
theorem wrap_eq (apart : pair.Apart opening closing) (h : Identifier.isName text = true) :
    pair.wrap text = opening :: (text ++ [closing]) := by
  have absent : closing ∉ text := by
    intro member
    have plain := isPlain_of_isTail (Identifier.isName_tail h member)
    rw [apart.closing_foreign] at plain
    cases plain
  simp [wrap, apart.opens, apart.closes, replaceAll_of_not_mem absent]

/-- No plain character is mistaken for a quotation mark. -/
theorem not_mark (apart : pair.Apart opening closing) {c : Char}
    (h : isPlain c = true ∨ c = '-') :
    c ∉ pair.opening.toList ∧ c ∉ pair.closing.toList := by
  have other : ∀ mark ∈ [opening, closing], c ≠ mark := by
    rintro mark member rfl
    obtain ⟨plain, minus, -, -⟩ := apart.foreign c member
    rcases h with h | h
    · rw [plain] at h
      cases h
    · exact minus h
  rw [apart.opens, apart.closes, List.mem_singleton, List.mem_singleton]
  exact ⟨other opening (by simp), other closing (by simp)⟩

end Apart

end QuotePair

namespace Dialect

variable {d : Dialect}

def quoteMarks : List Char := ['\x60', '"', '[', ']']

/-- The usual quotation marks stand for nothing else. -/
theorem apart_of_quoteMarks {pair : QuotePair} {opening closing : Char}
    (opens : pair.opening.toList = [opening]) (closes : pair.closing.toList = [closing])
    (known : ∀ c ∈ [opening, closing], c ∈ quoteMarks) : pair.Apart opening closing where
  opens := opens
  closes := closes
  foreign := by
    have all : quoteMarks.all (fun c =>
        isPlain c = false ∧ c ≠ '-' ∧ c ∉ breaking ∧ isControl c = false) = true := by decide
    intro c member
    exact of_decide_eq_true (List.all_eq_true.mp all c (known c member))

/-- The databases known from the start have quotation marks of one character each. -/
theorem quoteMarks_of_mem_builtIn (h : d ∈ builtIn) :
    ∃ opening closing, d.quotes.opening.toList = [opening] ∧ d.quotes.closing.toList = [closing] ∧
      ∀ c ∈ [opening, closing], c ∈ quoteMarks := by
  have double : ∀ c ∈ ['"', '"'], c ∈ quoteMarks := by simp [quoteMarks]
  simp only [builtIn, List.mem_cons, List.not_mem_nil, or_false] at h
  rcases h with rfl | rfl | rfl | rfl | rfl | rfl
  · exact ⟨'\x60', '\x60', rfl, rfl, by simp [quoteMarks]⟩
  · exact ⟨_, _, rfl, rfl, double⟩
  · exact ⟨_, _, rfl, rfl, double⟩
  · exact ⟨'[', ']', rfl, rfl, by simp [quoteMarks]⟩
  · exact ⟨_, _, rfl, rfl, double⟩
  · exact ⟨_, _, rfl, rfl, double⟩

/-- The quotation marks of the databases known from the start stand for nothing else. -/
theorem apart_of_mem_builtIn (h : d ∈ builtIn) :
    ∃ opening closing, d.quotes.Apart opening closing := by
  obtain ⟨opening, closing, opens, closes, known⟩ := quoteMarks_of_mem_builtIn h
  exact ⟨opening, closing, apart_of_quoteMarks opens closes known⟩

end Dialect

end Sqlwright
