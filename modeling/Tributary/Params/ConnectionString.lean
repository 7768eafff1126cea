import Tributary.Params.Basic

/-!
# Connection strings

A connection string is the URL of the server with a token in place of a password, and with other
settings in its query. Of a name given twice the last value counts, but every value has to be
valid; names that are not known are passed over.
-/

namespace Tributary.ConnectionString

open Text

/-- Reads a truth value, in one of four spellings of any case. -/
def readBool (name value : String) : Except ConnectionError Bool :=
  let word := String.ofList (value.toList.map Char.toLower)
  if ["true", "1", "yes", "on"].contains word then .ok true
  else if ["false", "0", "no", "off"].contains word then .ok false
  else .error (.invalidParameter name ("Invalid boolean value: " ++ value))

/-- Reads a number of 64 bits; `noun` names it where it is not one. -/
def readNumber (noun name value : String) : Except ConnectionError Nat :=
  match Integer.read Integer.nat64 value.toList with
  | .ok v => .ok v.toNat
  | .error _ => .error (.invalidParameter name ("Invalid " ++ noun ++ " value: " ++ value))

/-- The setting of a pair of the query, if its name is known. -/
def settingOf (pair : String × String) : Except ConnectionError (Option Setting) :=
  let (name, value) := pair
  match name with
  | "token" => .ok (some (.token value))
  | "sessionID" => .ok (some (.sessionId value))
  | "displayHints" => (readBool name value).map fun b => some (.hints b)
  | "insecureTLS" => (readBool name value).map fun b => some (.insecureTls b)
  | "timeout" => (readNumber "timeout" name value).map fun n =>
    some (.connectTimeout (.ofSeconds n))
  | "pollInterval" => (readNumber "interval" name value).map fun n =>
    some (.pollInterval (.ofMillis n))
  | _ => .ok none

/-- The settings of the pairs of a query, up to the first invalid one. -/
def settingsOf : List (String × String) → Except ConnectionError (List Setting)
  | [] => .ok []
  | pair :: pairs => do
    let setting ← settingOf pair
    let settings ← settingsOf pairs
    .ok (setting.toList ++ settings)

/-- The token that stands in place of a password. -/
def passwordSettings (url : Url) : Except ConnectionError (List Setting) :=
  match url.password with
  | none => .ok []
  | some password =>
    match Utf8.decode (percentDecode password) with
    | .ok token => .ok [.token (String.ofList token)]
    | .error e => .error (.unreadable ("Failed to decode token: " ++ e.message))

def settings (text : String) : Except ConnectionError (List Setting) := do
  let url ← (Url.read (trim text.toList)).mapError fun e =>
    .unreadable ("invalid uri: " ++ e.message)
  let fromPassword ← passwordSettings url
  let fromQuery ← settingsOf url.queryPairs
  .ok (fromPassword ++ fromQuery ++ [.server url.bare.toString])

def read (text : String) : Except ConnectionError Params := do
  let settings ← settings text
  (Builder.setAll {} settings).build

end Tributary.ConnectionString
