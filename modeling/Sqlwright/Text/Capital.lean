/-!
Capital forms that lie in ASCII. Keywords hold ASCII letters only, so a character whose capital form
does not lie in ASCII can be kept as it is: it never makes a keyword either way.
-/

namespace Sqlwright.Text

/-- The capital form of a character when that form is ASCII, else the character itself. The sharp
s, the dotless i, the long s and the Latin ligatures have such forms. -/
def capitalChar (c : Char) : List Char :=
  match c with
  | 'ß' => ['S', 'S']
  | 'ı' => ['I']
  | 'ſ' => ['S']
  | 'ﬀ' => ['F', 'F']
  | 'ﬁ' => ['F', 'I']
  | 'ﬂ' => ['F', 'L']
  | 'ﬃ' => ['F', 'F', 'I']
  | 'ﬄ' => ['F', 'F', 'L']
  | 'ﬅ' => ['S', 'T']
  | 'ﬆ' => ['S', 'T']
  | c => [c.toUpper]

/-- The text with every character in its ASCII capital form where it has one. -/
def capitals (text : List Char) : List Char := text.flatMap capitalChar

/-- Whether a character is read as the given ASCII capital when case is disregarded: the letter in
either case, the long s for S, and the dotted capital and the dotless small i for I. -/
def readsAs (capital c : Char) : Bool :=
  c.toUpper == capital || (capital == 'S' && c == 'ſ') ||
    (capital == 'I' && (c == 'ı' || c == 'İ'))

/-- Whether a text spells a word of ASCII capitals when case is disregarded. -/
def spells : (word text : List Char) → Bool
  | [], [] => true
  | w :: ws, c :: cs => readsAs w c && spells ws cs
  | _, _ => false

end Sqlwright.Text
