/-!
UTF-8 in both directions. Reading never fails: each longest run of octets that begins a character
and breaks off, and each octet that begins none, is reported as one fault, and the caller chooses
what a fault turns into.
-/

namespace Sqlwright.Text.Utf8

/-- What the octets read so far ask for: how many continuation octets are owed, the least and the
greatest value that the next one may have, and the code point collected. -/
structure Pending where
  owed : Nat
  least : Nat
  greatest : Nat
  code : Nat

/-- The demand of a character's first octet, or `none` for an octet that begins no character of
several octets. -/
def Pending.ofLead? (octet : Nat) : Option Pending :=
  if 0xc2 ≤ octet && octet ≤ 0xdf then some ⟨1, 0x80, 0xbf, octet - 0xc0⟩
  else if octet = 0xe0 then some ⟨2, 0xa0, 0xbf, 0⟩
  else if octet = 0xed then some ⟨2, 0x80, 0x9f, 0xd⟩
  else if 0xe1 ≤ octet && octet ≤ 0xef then some ⟨2, 0x80, 0xbf, octet - 0xe0⟩
  else if octet = 0xf0 then some ⟨3, 0x90, 0xbf, 0⟩
  else if 0xf1 ≤ octet && octet ≤ 0xf3 then some ⟨3, 0x80, 0xbf, octet - 0xf0⟩
  else if octet = 0xf4 then some ⟨3, 0x80, 0x8f, 4⟩
  else none

/-- The demand after the continuation octet `octet`, if it may stand here. -/
def Pending.push? (pending : Pending) (octet : Nat) : Option Pending :=
  if pending.least ≤ octet && octet ≤ pending.greatest then
    some ⟨pending.owed - 1, 0x80, 0xbf, pending.code * 64 + (octet - 0x80)⟩
  else none

/-- One octet at the start of a character: what it yields at once and what it leaves pending. -/
def lead (octet : Nat) : List (Option Char) × Option Pending :=
  if octet < 0x80 then ([some (Char.ofNat octet)], none)
  else
    match Pending.ofLead? octet with
    | some pending => ([], some pending)
    | none => ([none], none)

/-- Reads octets. A character is given as it stands and a fault as `none`. -/
def readFrom : Option Pending → List UInt8 → List (Option Char)
  | none, [] => []
  | some _, [] => [none]
  | none, octet :: rest =>
    let (now, pending) := lead octet.toNat
    now ++ readFrom pending rest
  | some pending, octet :: rest =>
    match pending.push? octet.toNat with
    | some next =>
      if next.owed = 0 then some (Char.ofNat next.code) :: readFrom none rest
      else readFrom (some next) rest
    | none =>
      let (now, later) := lead octet.toNat
      none :: now ++ readFrom later rest

/-- The text of the octets with U+FFFD for each fault. -/
def decodeReplacing (octets : List UInt8) : List Char :=
  (readFrom none octets).map (·.getD '\uFFFD')

def decodeSkipping (octets : List UInt8) : List Char :=
  (readFrom none octets).filterMap id

def encodeChar (c : Char) : List UInt8 :=
  let n := c.toNat
  if n < 0x80 then [n.toUInt8]
  else if n < 0x800 then [(0xc0 + n / 64).toUInt8, (0x80 + n % 64).toUInt8]
  else if n < 0x10000 then
    [(0xe0 + n / 4096).toUInt8, (0x80 + n / 64 % 64).toUInt8, (0x80 + n % 64).toUInt8]
  else
    [(0xf0 + n / 262144).toUInt8, (0x80 + n / 4096 % 64).toUInt8, (0x80 + n / 64 % 64).toUInt8,
      (0x80 + n % 64).toUInt8]

def encode (text : List Char) : List UInt8 := text.flatMap encodeChar

end Sqlwright.Text.Utf8
