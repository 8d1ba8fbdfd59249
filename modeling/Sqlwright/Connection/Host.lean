import Sqlwright.Connection.Percent

/-!
Hosts in brackets: addresses of eight groups of hexadecimal digits, where one run of zero groups may
be left out and the last two groups may be written as four decimal numbers, and addresses of later
versions, which begin with the letter v.
-/

namespace Sqlwright.Host

open Text

/-- Whether a text is one of the four decimal numbers: 0 to 255, without leading zeros. -/
def isByte (text : List Char) : Bool :=
  !text.isEmpty && text.all Char.isDigit && text.length ≤ 3 &&
    (text.head? != some '0' || text.length = 1) &&
    text.foldl (fun n c => n * 10 + (c.toNat - '0'.toNat)) 0 ≤ 255

def isDotted (text : List Char) : Bool :=
  let parts := pieces (· == '.') text
  parts.length = 4 && parts.all isByte

def isGroup (text : List Char) : Bool :=
  !text.isEmpty && text.length ≤ 4 && text.all fun c => (Percent.digit? c).isSome

/-- The number of groups in a list of pieces that ends the address. The last may be dotted, and
counts as two. -/
def countGroups : List (List Char) → Option Nat
  | [] => some 0
  | [last] => if isGroup last then some 1 else if isDotted last then some 2 else none
  | piece :: rest => if isGroup piece then (countGroups rest).map (· + 1) else none

/-- The pieces of a side of an address. An empty side has none. -/
def sidePieces (text : List Char) : List (List Char) :=
  if text.isEmpty then [] else pieces (· == ':') text

/-- What stands before and after the first two colons in a row, if there are any. -/
def cutAtGap : List Char → Option (List Char × List Char)
  | ':' :: ':' :: rest => some ([], rest)
  | c :: rest => (cutAtGap rest).map fun (before, after) => (c :: before, after)
  | [] => none

def isGrouped (text : List Char) : Bool :=
  match cutAtGap text with
  | none => countGroups (sidePieces text) = some 8
  | some (before, after) =>
    let left := sidePieces before
    match countGroups (sidePieces after) with
    | some right => left.all isGroup && left.length + right ≤ 7
    | none => false

/-- Whether a text is an address of groups, with or without the name of its zone. -/
def isAddress (text : List Char) : Bool :=
  match cutAt '%' text with
  | none => isGrouped text
  | some (address, zone) => isGrouped address && !zone.isEmpty && !zone.contains '%'

/-- Whether a text is an address of a later version: the letter v, the version in hexadecimal
digits, a dot and more. -/
def isLater (text : List Char) : Bool :=
  match text with
  | 'v' :: rest =>
    let version := rest.takeWhile fun c => (Percent.digit? c).isSome
    match rest.drop version.length with
    | '.' :: more => !version.isEmpty && !more.isEmpty
    | _ => false
  | _ => false

def fitsBrackets (text : List Char) : Bool :=
  if text.head? = some 'v' then isLater text else isAddress text

/-- Characters that are read as a mark of the address (a slash, a question mark, a hash, a colon or
an at sign) once they are put into their compatible form. -/
def hiddenMarks : List Char :=
  ['\u2047', '\u2048', '\u2049', '\u2100', '\u2101', '\u2105', '\u2106', '\u2a74', '\ufe13', '\ufe16',
    '\ufe55', '\ufe56', '\ufe5f', '\ufe6b', '\uff03', '\uff0f', '\uff1a', '\uff1f', '\uff20']

/-- Whether what stands behind the user, in an address with brackets, is well formed: nothing stands
before the brackets, what is in them may stand there, and only a port follows. Where the brackets are
those of the user, the host is held to the same. -/
def isBracketed (place : List Char) : Bool :=
  match cutAt '[' place with
  | none => fitsBrackets (place.takeWhile (· != ':'))
  | some (before, rest) =>
    let behind := (rest.dropWhile (· != ']')).drop 1
    before.isEmpty && (behind.isEmpty || behind.head? = some ':') &&
      fitsBrackets (rest.takeWhile (· != ']'))

/-- Whether the part of an address that names the host is well formed: brackets come in pairs and as
they should, and no mark is hidden in it. -/
def isWellFormed (authority : List Char) : Bool :=
  let opened := authority.contains '['
  let closed := authority.contains ']'
  (opened == closed) &&
    (!opened || isBracketed (((cutAtLast '@' authority).map (·.2)).getD authority)) &&
    !authority.any fun c => hiddenMarks.contains c

end Sqlwright.Host
