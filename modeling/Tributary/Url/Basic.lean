import Tributary.Text.Form
import Tributary.Url.Host
import Tributary.Url.Path

/-!
# URLs

A URL by its parts, each in the spelling that it is written with, and the text that joins them.
-/

namespace Tributary

open Text Url

/-- A URL. It has a host, if an empty one, exactly where two slashes follow the scheme. -/
structure Url where
  scheme : String
  username : List Char := []
  password : Option (List Char) := none
  host : Option Host := none
  port : Option Nat := none
  path : Path
  query : Option (List Char) := none
  fragment : Option (List Char) := none
  deriving DecidableEq

namespace Url

def kind (u : Url) : SchemeKind := .of u.scheme

/-- The text of the host, unless it is empty. -/
def hostText? (u : Url) : Option (List Char) :=
  match u.host with
  | none | some .empty => none
  | some host => some host.text

def hasHost (u : Url) : Bool := u.hostText?.isSome

/-- The host and, where it is not the one of the scheme, the port. -/
def authority (u : Url) : List Char :=
  (match u.host with
    | none => []
    | some host => host.text) ++
  match u.port with
    | none => []
    | some port => ':' :: Nat.toDigits 10 port

/-- Whether a request can name the host: some characters that a domain may have cannot stand in
the address of a request. -/
def isNameable (u : Url) : Bool :=
  u.authority.all fun c => c != '"' && c != '\x60' && c != '\x7b' && c != '\x7d'

def credentials (u : Url) : List Char :=
  match u.username, u.password with
  | [], none => []
  | username, none => username ++ ['@']
  | username, some password => username ++ ':' :: password ++ ['@']

/-- An optional part after the character that begins it. -/
def marked (mark : Char) : Option (List Char) → List Char
  | none => []
  | some cs => mark :: cs

/-- What stands between the scheme and the path. A path that begins with two slashes is told from
a host by a dot. -/
def beforePath (u : Url) : List Char :=
  match u.host with
  | some _ => '/' :: '/' :: u.credentials ++ u.authority
  | none =>
    match u.path with
    | .segments ([] :: _ :: _) => ['/', '.']
    | _ => []

def text (u : Url) : List Char :=
  u.scheme.toList ++ ':' :: u.beforePath ++ u.path.text ++ marked '?' u.query ++
    marked '#' u.fragment

def toString (u : Url) : String := String.ofList u.text

/-- The path and the query, as a request sends them. -/
def target (u : Url) : List Char :=
  u.path.text ++ marked '?' u.query

def queryPairs (u : Url) : List (String × String) :=
  Form.pairs (u.query.getD [])

def withoutCredentials (u : Url) : Url :=
  { u with username := [], password := none }

def bare (u : Url) : Url :=
  { u.withoutCredentials with query := none, fragment := none }

/-- The URL with another path of one segment. -/
def withPath (u : Url) (segment : List Char) : Url :=
  match u.path with
  | .plain _ => { u with path := .plain ('%' :: '2' :: 'F' :: segment) }
  | .segments _ => { u with path := .segments [segment] }

def withPairs (u : Url) (pairs : List (String × String)) : Url :=
  { u with query := some (Form.append (u.query.getD []) pairs) }

end Url

end Tributary
