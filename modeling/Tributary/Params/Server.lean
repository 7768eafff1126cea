import Tributary.Error
import Tributary.Text.Blank
import Tributary.Url.Reader

/-!
# Servers

The address that requests are sent to: a scheme, a host, perhaps a port, and a path without
slashes at its end.
-/

namespace Tributary.Server

def invalid (message : String) : ConnectionError :=
  .invalidParameter "server" message

def readUrl (text : String) : Except ConnectionError Url :=
  (Url.ofString text).mapError fun e => invalid ("invalid server url: " ++ e.message)

def trimSlashes (cs : List Char) : List Char :=
  Text.dropEndWhile (· == '/') cs

/-- Reduces a URL to the address of the server: credentials, query and fragment are dropped. -/
def ofUrl (url : Url) : Except ConnectionError String :=
  if url.scheme ≠ "http" ∧ url.scheme ≠ "https" then
    .error (invalid ("unsupported scheme '" ++ url.scheme ++ "'"))
  else if url.hasHost then
    .ok (String.ofList
      (url.scheme.toList ++ [':', '/', '/'] ++ url.authority ++ trimSlashes url.path.text))
  else .error (invalid "server url has no host")

def normalize (text : String) : Except ConnectionError String :=
  (readUrl text).bind ofUrl

/-- The text that the paths of requests are appended to: the whole URL, without slashes at its
end. -/
def base (text : String) : Except ConnectionError String :=
  (readUrl text).map fun url => String.ofList (trimSlashes url.text)

end Tributary.Server
