import Tributary.Text.Percent

/-!
# Paths of URLs

A path is a list of segments, each after a slash; a URL without slashes has a plain text instead.
Segments of one or two dots are resolved when a path is read, in any spelling of the dots.
-/

namespace Tributary.Url

open Text

/-- What a scheme is like: special ones have a host and a path always, and `file` is special with
rules of its own. -/
inductive SchemeKind where
  | special
  | file
  | other
  deriving DecidableEq, Repr

def SchemeKind.of (scheme : String) : SchemeKind :=
  if scheme = "file" then .file
  else if ["http", "https", "ws", "wss", "ftp"].contains scheme then .special
  else .other

inductive Path where
  | plain (text : List Char)
  | segments (list : List (List Char))
  deriving DecidableEq, Repr

namespace Path

/-- The characters that a segment holds as they are. -/
def keeps (c : Char) : Bool :=
  0x20 < c.toNat && c.toNat != 0x7F &&
    !(['"', '#', '<', '>', '?', '\x60', '\x7b', '\x7d'].contains c)

/-- The text with each `%2e` read as a dot. -/
def plainDots : List Char → List Char
  | '%' :: '2' :: 'e' :: rest => '.' :: plainDots rest
  | '%' :: '2' :: 'E' :: rest => '.' :: plainDots rest
  | c :: rest => c :: plainDots rest
  | [] => []

def isSingleDot (segment : List Char) : Bool :=
  plainDots segment == ['.']

def isDoubleDot (segment : List Char) : Bool :=
  plainDots segment == ['.', '.']

/-- Whether a segment names a drive: a letter and a colon or a bar. -/
def isDrive : List Char → Bool
  | [c, d] => c.isAlpha && (d == ':' || d == '|')
  | _ => false

def drive (segment : List Char) : List Char :=
  segment.take 1 ++ [':']

/-- The segments without the last one; the drive that begins the path of a file stays. -/
def shorten (kind : SchemeKind) (path : List (List Char)) : List (List Char) :=
  match kind, path with
  | .file, [segment] => if isDrive segment then [segment] else []
  | _, path => path.dropLast

/-- Adds a segment to a path; the last one stays empty where it is resolved. -/
def push (kind : SchemeKind) (path : List (List Char)) (segment : List Char) (last : Bool) :
    List (List Char) :=
  if isDoubleDot segment then shorten kind path ++ (if last then [[]] else [])
  else if isSingleDot segment then path ++ (if last then [[]] else [])
  else if kind = .file ∧ path = [] ∧ isDrive segment = true then [drive segment]
  else path ++ [segment]

def pushAll (kind : SchemeKind) (path : List (List Char)) : List (List Char) → List (List Char)
  | [] => path
  | [segment] => push kind path segment true
  | segment :: rest => pushAll kind (push kind path segment false) rest

def isSeparator (kind : SchemeKind) (c : Char) : Bool :=
  c == '/' || (c == '\\' && kind != .other)

def splitSegments (kind : SchemeKind) : List Char → List (List Char)
  | [] => [[]]
  | c :: cs =>
    if isSeparator kind c then [] :: splitSegments kind cs
    else match splitSegments kind cs with
      | part :: parts => (c :: part) :: parts
      | [] => [[c]]

/-- The path of a file has no empty segments in front. -/
def withoutLeadingEmpties (kind : SchemeKind) (path : List (List Char)) : List (List Char) :=
  if kind = .file then
    match path.dropWhile List.isEmpty with
    | [] => [[]]
    | rest => rest
  else path

def readSegments (kind : SchemeKind) (cs : List Char) : List (List Char) :=
  withoutLeadingEmpties kind
    (pushAll kind [] ((splitSegments kind cs).map (percentEncode keeps)))

/-- Reads the text after the host. It begins with a separator, or is empty. -/
def read (kind : SchemeKind) : List Char → Path
  | [] => if kind = .other then .segments [] else .segments [[]]
  | c :: cs =>
    if isSeparator kind c then .segments (readSegments kind cs)
    else .segments (readSegments kind (c :: cs))

def readPlain (cs : List Char) : Path :=
  .plain (percentEncode (fun c => 0x20 ≤ c.toNat && c.toNat != 0x7F) cs)

def text : Path → List Char
  | .plain cs => cs
  | .segments list => list.flatMap fun segment => '/' :: segment

end Path

end Tributary.Url
