import Tributary.Text.Ascii
import Tributary.Url.Basic

/-!
# Reading URLs

A URL is read from any text that a user may type: controls and spaces around it and line breaks
within it are passed over, slashes may lean either way under a special scheme, and every character
that a part does not hold as it is gets percent-encoded. Reading what reading has written changes
nothing more.
-/

namespace Tributary.Url

open Text

/-- The text without controls and spaces around it and without tabs and line breaks. -/
def cleaned (cs : List Char) : List Char :=
  let isOuter (c : Char) : Bool := c.toNat ≤ 0x20
  ((cs.dropWhile isOuter).reverse.dropWhile isOuter).reverse.filter fun c =>
    c != '\t' && c != '\n' && c != '\r'

def isSchemeCharacter (c : Char) : Bool :=
  c.isAlphanum || c == '+' || c == '-' || c == '.'

def splitScheme? (cs : List Char) : Option (String × List Char) :=
  match cs.takeWhile isSchemeCharacter, cs.dropWhile isSchemeCharacter with
  | c :: scheme, ':' :: rest =>
    if c.isAlpha then some (String.ofList ((c :: scheme).map Char.toLower), rest) else none
  | _, _ => none

def defaultPort? (scheme : String) : Option Nat :=
  if scheme = "http" ∨ scheme = "ws" then some 80
  else if scheme = "https" ∨ scheme = "wss" then some 443
  else if scheme = "ftp" then some 21
  else none

def endsAuthority (kind : SchemeKind) (c : Char) : Bool :=
  c == '?' || c == '#' || Path.isSeparator kind c

def splitLast? (mark : Char) (cs : List Char) : Option (List Char × List Char) :=
  match cs.reverse.dropWhile (· != mark) with
  | [] => none
  | _ :: front => some (front.reverse, (cs.reverse.takeWhile (· != mark)).reverse)

/-- The credentials in front of a host, if there are any, and what follows them. -/
def splitUserinfo (authority : List Char) : Option (List Char) × List Char :=
  match splitLast? '@' authority with
  | none => (none, authority)
  | some (front, back) => (some front, back)

def keepsInCredentials (c : Char) : Bool :=
  Path.keeps c && !(['/', ':', ';', '=', '@', '[', '\\', ']', '^', '|'].contains c)

/-- Reads credentials: what stands after the first colon, if anything, is the password. -/
def readCredentials (cs : List Char) : List Char × Option (List Char) :=
  let username := cs.takeWhile (· != ':')
  let password := (cs.dropWhile (· != ':')).drop 1
  (percentEncode keepsInCredentials username,
    if password.isEmpty then none else some (percentEncode keepsInCredentials password))

/-- The host in front of a port: all up to a colon that does not stand in brackets. -/
def hostPart (bracketed : Bool) : List Char → List Char × List Char
  | [] => ([], [])
  | c :: cs =>
    if c = ':' ∧ bracketed = false then ([], c :: cs)
    else
      let inside := if c = '[' then true else if c = ']' then false else bracketed
      (c :: (hostPart inside cs).1, (hostPart inside cs).2)

/-- The value of the digits of a port, which fits 16 bits. -/
def portValue? (digits : List Char) : Option Nat :=
  digits.foldl
    (fun value c => do
      let v ← value
      let d ← digit? c
      if 10 * v + d ≤ 65535 then some (10 * v + d) else none)
    (some 0)

/-- Reads what follows a host: nothing, or a colon and a port. The port of the scheme is left out.
Returns what follows the port, which can only be a backslash under a scheme that is not special. -/
def readPort (scheme : String) : List Char → Except Fault (Option Nat × List Char)
  | [] => .ok (none, [])
  | _ :: cs =>
    let digits := cs.takeWhile fun c => (digit? c).isSome
    let rest := cs.dropWhile fun c => (digit? c).isSome
    match portValue? digits with
    | none => .error .invalidPort
    | some port =>
      if rest.isEmpty || rest.head? == some '\\' then
        .ok (if digits.isEmpty || defaultPort? scheme == some port then none else some port, rest)
      else .error .invalidPort

def keepsInQuery (kind : SchemeKind) (c : Char) : Bool :=
  0x20 < c.toNat && c.toNat != 0x7F && !(['"', '#', '<', '>'].contains c) &&
    !(c == '\'' && kind != .other)

def keepsInFragment (c : Char) : Bool :=
  0x20 < c.toNat && c.toNat != 0x7F && !(['"', '<', '>', '\x60'].contains c)

def endsPath (c : Char) : Bool := c == '?' || c == '#'

def readFragment : List Char → Option (List Char)
  | [] => none
  | _ :: rest => some (percentEncode keepsInFragment rest)

def readTail (kind : SchemeKind) (cs : List Char) : Option (List Char) × Option (List Char) :=
  match cs with
  | '?' :: rest =>
    (some (percentEncode (keepsInQuery kind) (rest.takeWhile (· != '#'))),
      readFragment (rest.dropWhile (· != '#')))
  | cs => (none, readFragment cs)

/-- Puts a URL together with the query and the fragment that follow its path. -/
def withTail (u : Url) (rest : List Char) : Url :=
  let (query, fragment) := readTail u.kind (rest.dropWhile fun c => !endsPath c)
  { u with query, fragment }

/-- Reads what follows the two slashes in front of a host. -/
def readAuthority (scheme : String) (cs : List Char) : Except Fault Url := do
  let kind := SchemeKind.of scheme
  let authority := cs.takeWhile fun c => !endsAuthority kind c
  let rest := cs.dropWhile fun c => !endsAuthority kind c
  let (userinfo, hostAndPort) := splitUserinfo authority
  let (username, password) := readCredentials (userinfo.getD [])
  let (hostText, portText) := hostPart false hostAndPort
  if hostText.isEmpty &&
      (kind == .special || !portText.isEmpty || !username.isEmpty || password.isSome ||
        (userinfo == some [] && !rest.isEmpty)) then
    .error .emptyHost
  else
    let host ← if kind = .special then Host.read hostText else Host.readPlain hostText
    let (port, leftover) ← readPort scheme portText
    let rest := leftover ++ rest
    let path := Path.read kind (rest.takeWhile fun c => !endsPath c)
    .ok (withTail { scheme, username, password, host := some host, port, path } rest)

def readFile (scheme : String) (cs : List Char) : Except Fault Url :=
  let make (host : Host) (rest : List Char) : Url :=
    let path := Path.read .file (rest.takeWhile fun c => !endsPath c)
    let host := match path with
      | .segments (segment :: _) => if Path.isDrive segment then .empty else host
      | _ => host
    withTail { scheme, host := some host, path } rest
  match cs with
  | c :: d :: rest =>
    if Path.isSeparator .file c && Path.isSeparator .file d then
      let hostText := rest.takeWhile fun c => !endsAuthority .file c
      let after := rest.dropWhile fun c => !endsAuthority .file c
      if hostText.isEmpty then .ok (make .empty after)
      else if Path.isDrive hostText then .ok (make .empty ('/' :: rest))
      else do
        let host ← Host.read hostText
        .ok (make (if host = .domain "localhost".toList then .empty else host) after)
    else .ok (make .empty cs)
  | cs => .ok (make .empty cs)

def readOther (scheme : String) : List Char → Except Fault Url
  | '/' :: '/' :: rest => readAuthority scheme rest
  | '/' :: rest =>
    let path := Path.segments (Path.readSegments .other (rest.takeWhile fun c => !endsPath c))
    .ok (withTail { scheme, path } rest)
  | rest =>
    .ok (withTail { scheme, path := Path.readPlain (rest.takeWhile fun c => !endsPath c) } rest)

def read (cs : List Char) : Except Fault Url :=
  match splitScheme? (cleaned cs) with
  | none => .error .relative
  | some (scheme, rest) =>
    match SchemeKind.of scheme with
    | .special => readAuthority scheme (rest.dropWhile (Path.isSeparator .special))
    | .file => readFile scheme rest
    | .other => readOther scheme rest

def ofString (s : String) : Except Fault Url := read s.toList

end Tributary.Url
