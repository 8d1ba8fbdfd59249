import Sqlwright.Text.Blank

/-!
Cutting a text into pieces, putting pieces together, and replacing one piece by another. All
functions work on the list of characters; the versions on strings wrap them.
-/

namespace Sqlwright.Text

/-- The pieces between the characters that satisfy `cut`, empty pieces included. There is always at
least one piece. -/
def pieces (cut : Char → Bool) : List Char → List (List Char)
  | [] => [[]]
  | c :: rest =>
    if cut c then [] :: pieces cut rest
    else
      match pieces cut rest with
      | [] => [[c]]
      | piece :: others => (c :: piece) :: others

def splitOn (separator : Char) (text : String) : List String :=
  (pieces (· == separator) text.toList).map String.ofList

/-- The words of a text: its longest runs of characters that are not blank. -/
def wordLists (text : List Char) : List (List Char) :=
  (pieces isBlank text).filter (!·.isEmpty)

def words (text : String) : List String :=
  (wordLists text.toList).map String.ofList

def join (separator : String) : List String → String
  | [] => ""
  | [part] => part
  | part :: next :: rest => part ++ separator ++ join separator (next :: rest)

/-- The text with each run of blanks made one space and none at the ends. -/
def squeeze (text : String) : String := join " " (words text)

def substitute (target : Char) (by' : List Char) (text : List Char) : List Char :=
  text.flatMap fun c => if c = target then by' else [c]

/-- Skips `skip` characters, then replaces the occurrences of `pattern` from left to right. -/
def replaceFrom (pattern by' : List Char) (skip : Nat) : List Char → List Char
  | [] => []
  | c :: rest =>
    match skip with
    | n + 1 => replaceFrom pattern by' n rest
    | 0 =>
      if pattern.isPrefixOf (c :: rest) then by' ++ replaceFrom pattern by' (pattern.length - 1) rest
      else c :: replaceFrom pattern by' 0 rest

/-- Replaces the occurrences of a text, which do not overlap, from left to right. The empty text
has no occurrence. -/
def replaceAll (pattern by' text : List Char) : List Char :=
  if pattern.isEmpty then text else replaceFrom pattern by' 0 text

/-- Whether `part` stands somewhere in the text. -/
def hasPart (part : List Char) : List Char → Bool
  | [] => part.isEmpty
  | c :: rest => part.isPrefixOf (c :: rest) || hasPart part rest

/-- What stands before and after the first occurrence of a character, if it occurs. -/
def cutAt (mark : Char) : List Char → Option (List Char × List Char)
  | [] => none
  | c :: rest =>
    if c = mark then some ([], rest)
    else (cutAt mark rest).map fun (before, after) => (c :: before, after)

/-- What stands before and after the last occurrence of a character, if it occurs. -/
def cutAtLast (mark : Char) : List Char → Option (List Char × List Char)
  | [] => none
  | c :: rest =>
    match cutAtLast mark rest with
    | some (before, after) => some (c :: before, after)
    | none => if c = mark then some ([], rest) else none

theorem pieces_ne_nil (cut : Char → Bool) (text : List Char) : pieces cut text ≠ [] := by
  induction text with
  | nil => simp [pieces]
  | cons c rest ih =>
    unfold pieces
    split
    · simp
    · split <;> simp

/-- A text that holds no separator is its own only piece. -/
theorem pieces_eq_singleton {cut : Char → Bool} {text : List Char}
    (h : ∀ c ∈ text, cut c = false) : pieces cut text = [text] := by
  induction text with
  | nil => rfl
  | cons c rest ih =>
    have hc := h c (by simp)
    have hr := ih fun d hd => h d (by simp [hd])
    simp [pieces, hc, hr]

/-- A cut loses one occurrence of the mark and nothing else. -/
theorem eq_append_of_cutAt {mark : Char} {text before after : List Char}
    (h : cutAt mark text = some (before, after)) : text = before ++ mark :: after := by
  induction text generalizing before after with
  | nil => simp [cutAt] at h
  | cons c rest ih =>
    unfold cutAt at h
    split at h
    · rename_i hc
      simp only [Option.some.injEq, Prod.mk.injEq] at h
      simp [← h.1, ← h.2, hc]
    · obtain ⟨⟨b, a⟩, hb, heq⟩ := Option.map_eq_some_iff.1 h
      simp only [Prod.mk.injEq] at heq
      simp [← heq.1, ← heq.2, ih hb]

theorem cutAt_append {mark : Char} {before : List Char} (absent : mark ∉ before)
    (after : List Char) : cutAt mark (before ++ mark :: after) = some (before, after) := by
  induction before with
  | nil => simp [cutAt]
  | cons c rest ih =>
    rw [List.mem_cons, not_or] at absent
    simp [cutAt, Ne.symm absent.1, ih absent.2]

end Sqlwright.Text
