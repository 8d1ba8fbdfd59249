import Sqlwright.Text.Alphanumeric
import Sqlwright.Text.LowerCase
import Sqlwright.Text.Utf8
import Sqlwright.Value

/-!
Hiding secrets in values before they are logged. A text is hidden when it holds a telling word, and
any value is hidden that stands under a telling key. Keys are read without punctuation, so that a
word is found however it is spaced.
-/

namespace Sqlwright.Redaction

open Text

def hidden : String := "***"

def tellingWords : List String :=
  ["password", "passwd", "pwd", "secret", "token", "apikey", "api_key", "access_key", "private_key",
    "bearer", "authorization"]

def compact (text : String) : List Char := (lower text).toList.filter isAlphanumeric

def isSensitiveKey (key : String) : Bool :=
  tellingWords.any fun word => hasPart (compact word) (compact key)

def isSensitive (text : String) : Bool :=
  tellingWords.any fun word => hasPart word.toList (lower text).toList

/-- Whether octets read as a text with a telling word. Octets that are no UTF-8 are left out. -/
def isSensitiveOctets (octets : List UInt8) : Bool :=
  isSensitive (String.ofList (Utf8.decodeSkipping octets))

mutual

def redact : Value → Value
  | .text s => if isSensitive s then .text hidden else .text s
  | .octets bytes => if isSensitiveOctets bytes then .text hidden else .octets bytes
  | .list items => .list (redactAll items)
  | .tuple items => .tuple (redactAll items)
  | .map entries => .map (redactEntries entries)
  | v => v

def redactAll : List Value → List Value
  | [] => []
  | v :: rest => redact v :: redactAll rest

def redactEntries : List (Value × Value) → List (Value × Value)
  | [] => []
  | (key, v) :: rest =>
    (key, if isSensitiveKey key.plain then .text hidden else redact v) :: redactEntries rest

end

def redactUnder (key : String) (v : Value) : Value :=
  if isSensitiveKey key then .text hidden else redact v

def redactRow (row : Row) : Row := row.map fun (key, v) => (key, redactUnder key.plain v)

theorem redactAll_eq_map (values : List Value) : redactAll values = values.map redact := by
  induction values with
  | nil => rfl
  | cons v rest ih => simp [redactAll, ih]

theorem redactEntries_eq_map (entries : List (Value × Value)) :
    redactEntries entries =
      entries.map fun entry => (entry.1, redactUnder entry.1.plain entry.2) := by
  induction entries with
  | nil => rfl
  | cons entry rest ih => simp [redactEntries, redactUnder, ih]

end Sqlwright.Redaction
