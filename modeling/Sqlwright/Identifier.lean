/-!
The grammar of names. A name is a letter or an underscore followed by letters, digits and
underscores; a qualified name is one name or two joined by a dot. Letters and digits are those of
ASCII.
-/

namespace Sqlwright.Identifier

def isHead (c : Char) : Bool := c.isAlpha || c == '_'

def isTail (c : Char) : Bool := c.isAlphanum || c == '_'

def isName : List Char → Bool
  | [] => false
  | c :: rest => isHead c && rest.all isTail

/-- Whether a text continues a qualified name after its first character: name characters up to the
end, or up to a dot with one name behind it. -/
def isQualifiedTail : List Char → Bool
  | [] => true
  | c :: rest => if c = '.' then isName rest else isTail c && isQualifiedTail rest

/-- Whether a text is one name or two joined by a dot. -/
def isQualified : List Char → Bool
  | [] => false
  | c :: rest => isHead c && isQualifiedTail rest

/-- Whether a text is a word of an option: letters, digits and underscores in any order. -/
def isOption (text : List Char) : Bool := !text.isEmpty && text.all isTail

theorem isTail_of_isHead {c : Char} (h : isHead c = true) : isTail c = true := by
  simp only [isHead, isTail, Char.isAlphanum, Bool.or_eq_true] at h ⊢
  rcases h with h | h
  · exact Or.inl (Or.inl h)
  · exact Or.inr h

/-- A dot is no name character. -/
theorem ne_dot_of_isTail {c : Char} (h : isTail c = true) : c ≠ '.' := by
  rintro rfl
  exact absurd h (by decide)

theorem isQualifiedTail_of_all {text : List Char} (h : text.all isTail = true) :
    isQualifiedTail text = true := by
  induction text with
  | nil => rfl
  | cons c rest ih =>
    simp only [List.all_cons, Bool.and_eq_true] at h
    simp [isQualifiedTail, ne_dot_of_isTail h.1, h.1, ih h.2]

/-- A single name is a qualified name. -/
theorem isQualified_of_isName {text : List Char} (h : isName text = true) :
    isQualified text = true := by
  cases text with
  | nil => simp [isName] at h
  | cons c rest =>
    simp only [isName, Bool.and_eq_true] at h
    simp [isQualified, h.1, isQualifiedTail_of_all h.2]

end Sqlwright.Identifier
