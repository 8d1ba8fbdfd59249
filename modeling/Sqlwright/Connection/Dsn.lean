import Sqlwright.Connection.Host
import Sqlwright.Error
import Sqlwright.Keyed
import Sqlwright.Text.LowerCase

/-!
Addresses of databases: a scheme, who connects, where to, the path of the database, and parameters.
An address that goes into a log hides the password.
-/

namespace Sqlwright

open Number Text

structure Dsn where
  scheme : String
  username : Option String
  password : Option String
  host : Option String
  port : Option Nat
  path : String
  query : Keyed String

namespace Dsn

structure Parts where
  scheme : List Char
  authority : List Char
  path : List Char
  query : List Char

/-- The text without controls and spaces at its start and without tabs and line ends anywhere. -/
def clean (text : List Char) : List Char :=
  (text.dropWhile (·.toNat ≤ 0x20)).filter fun c => c != '\t' && c != '\r' && c != '\n'

def isSchemeChar (c : Char) : Bool := c.isAlphanum || c = '+' || c = '-' || c = '.'

/-- The scheme of an address and what stands behind its colon. Without a scheme the whole text is
left. -/
def cutScheme (text : List Char) : List Char × List Char :=
  match cutAt ':' text with
  | some (scheme, rest) =>
    if (scheme.head?.any Char.isAlpha) && scheme.all isSchemeChar then
      (scheme.map Char.toLower, rest)
    else ([], text)
  | none => ([], text)

/-- The part behind two slashes, and the rest of the address. -/
def cutAuthority : List Char → List Char × List Char
  | '/' :: '/' :: rest =>
    let stays := fun c => c != '/' && c != '?' && c != '#'
    (rest.takeWhile stays, rest.dropWhile stays)
  | rest => ([], rest)

/-- Schemes whose last step of the path may carry parameters of its own behind a semicolon. -/
def schemesWithParameters : List String :=
  ["", "ftp", "hdl", "prospero", "http", "imap", "https", "shttp", "rtsp", "rtsps", "rtspu", "sip",
    "sips", "mms", "sftp", "tel"]

def cutParameters (scheme path : List Char) : List Char :=
  if schemesWithParameters.contains (String.ofList scheme) then
    match cutAtLast '/' path with
    | some (before, last) => before ++ '/' :: last.takeWhile (· != ';')
    | none => path.takeWhile (· != ';')
  else path

/-- Takes an address apart. What stands behind a hash sign is dropped. -/
def Parts.read (text : List Char) : Except Error Parts :=
  let (scheme, rest) := cutScheme (clean text)
  let (authority, rest) := cutAuthority rest
  if Host.isWellFormed authority then
    let rest := rest.takeWhile (· != '#')
    let (path, query) := (cutAt '?' rest).getD (rest, [])
    .ok { scheme, authority, path := cutParameters scheme path, query }
  else .error .malformedAddress

/-- Who connects: a user name and a password, each if it is there. -/
def user (authority : List Char) : Option (List Char) × Option (List Char) :=
  match cutAtLast '@' authority with
  | none => (none, none)
  | some (user, _) =>
    match cutAt ':' user with
    | some (name, password) => (some name, some password)
    | none => (some user, none)

def place (authority : List Char) : List Char × List Char :=
  let place := ((cutAtLast '@' authority).map (·.2)).getD authority
  let behindColon (text : List Char) : List Char := ((cutAt ':' text).map (·.2)).getD []
  match cutAt '[' place with
  | some (_, bracketed) =>
    (bracketed.takeWhile (· != ']'), behindColon (((cutAt ']' bracketed).map (·.2)).getD []))
  | none => (place.takeWhile (· != ':'), behindColon place)

/-- A host in lower case, up to the name of its zone. -/
def readHost (host : List Char) : Option String :=
  if host.isEmpty then none
  else
    some (lower (String.ofList (host.takeWhile (· != '%'))) ++
      String.ofList (host.dropWhile (· != '%')))

/-- A port: decimal digits for a number up to 65535, or nothing. -/
def readPort (scheme : String) (port : List Char) : Except Error (Option Nat) :=
  if port.isEmpty then .ok none
  else
    let n := port.foldl (fun n c => n * 10 + (c.toNat - '0'.toNat)) 0
    if port.all Char.isDigit && n ≤ 65535 then .ok (some n) else .error (.invalidPort scheme)

/-- One parameter with its value. Without a value it counts for nothing. -/
def readParameter (text : List Char) : Option (String × String) :=
  match cutAt '=' text with
  | some (name, value) =>
    if value.isEmpty then none
    else some (String.ofList (Percent.decode name), String.ofList (Percent.decode value))
  | none => none

/-- The parameters. The first value under a name stays. -/
def readQuery (query : List Char) : Keyed String :=
  ((pieces (· == '&') query).filterMap readParameter).foldl
    (fun known (name, value) => if known.has name then known else known.put name value) []

/-- Reads an address. A missing scheme is noticed before a port that is none. -/
def read (text : String) : Except Error Dsn := do
  let parts ← Parts.read text.toList
  if parts.scheme.isEmpty then throw (.missingScheme text)
  let scheme := String.ofList parts.scheme
  let (host, portText) := place parts.authority
  let port ← readPort scheme portText
  let (username, password) := user parts.authority
  return {
    scheme
    username := username.map String.ofList
    password := password.map String.ofList
    host := readHost host
    port
    path := String.ofList parts.path
    query := readQuery parts.query }

def database (d : Dsn) : Option String :=
  let name := d.path.toList.dropWhile (· == '/')
  if name.isEmpty then none else some (String.ofList name)

/-- The driver: the scheme up to a plus sign. -/
def driver (d : Dsn) : String := String.ofList (d.scheme.toList.takeWhile (· != '+'))

/-- The part of the log text that says who connects. Of the password it says only that there is
one. -/
def shownUser (d : Dsn) : String :=
  let name := d.username.getD ""
  if name.isEmpty then ""
  else name ++ (if (d.password.getD "").isEmpty then "" else ":***") ++ "@"

def shownPlace (d : Dsn) : String :=
  let port := d.port.getD 0
  d.host.getD "" ++ (if port = 0 then "" else ":" ++ intText port)

def shownQuery (query : Keyed String) : String :=
  join "&" (query.map fun (name, value) => Percent.encode name ++ "=" ++ Percent.encode value)

def redacted (d : Dsn) : String :=
  d.scheme ++ "://" ++ d.shownUser ++ d.shownPlace ++ d.path ++
    (if d.query.isEmpty then "" else "?" ++ shownQuery d.query)

end Dsn

end Sqlwright
