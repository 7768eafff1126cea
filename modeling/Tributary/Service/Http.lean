import Tributary.Json.Printer
import Tributary.Json.Reader
import Tributary.Service.Attachment
import Tributary.Status
import Tributary.Url.Reader
import Tributary.Wire.Service

/-!
# Requests and responses over HTTP

How a request is put together, why it may not be sent, and what a response means.
-/

namespace Tributary

open Text

/-! ## Requests -/

structure FormPart where
  disposition : String
  contentType : String
  content : List UInt8
  deriving DecidableEq, Repr

inductive HttpMethod where
  | get
  | post (parts : List FormPart)
  deriving DecidableEq, Repr

/-- A request as it is sent. The maintenance mark is a header that some connections send. -/
structure HttpRequest where
  method : HttpMethod
  url : Url
  authorization : String
  maintenance : Bool
  deriving DecidableEq

namespace FormPart

/-- How a quoted file name holds one character. -/
def escapeChar (c : Char) : List Char :=
  if c = '"' ∨ c = '\\' ∨ c = '\r' ∨ c = '\n' then ['\\', c] else [c]

def request (json : String) : FormPart :=
  { disposition := "form-data; name=\"request\"", contentType := "application/json",
    content := utf8Bytes json }

def attachment (a : Attachment) : FormPart :=
  { disposition := "form-data; name=\"attachments\"; filename=\"" ++
      String.ofList (a.name.toList.flatMap escapeChar) ++ "\""
    contentType := "application/octet-stream"
    content := a.content }

end FormPart

namespace HttpRequest

/-- Whether a header may hold a character: all but controls, and the tab. -/
def isHeaderChar (c : Char) : Bool :=
  c == '\t' || (0x20 ≤ c.toNat && c.toNat != 0x7F)

/-- The value of the header that carries a token; blanks at its end do not count. -/
def bearer (token : String) : String :=
  String.ofList (dropEndWhile (fun c => c == ' ' || c == '\t') ("Bearer " ++ token).toList)

/-- The URL that a request is sent to: credentials go, unless the username is no text. -/
def stripped (url : Url) : Url :=
  match Utf8.decode? (percentDecode url.username) with
  | none => url
  | some username =>
    let password := url.password.bind fun p => Utf8.decode? (percentDecode p)
    if username.isEmpty && password.isNone then url else url.withoutCredentials

def unsendable (url : Url) : TransportError :=
  .http ("builder error for url (" ++ url.toString ++ ")")

def unanswered (url : Url) : TransportError :=
  .http ("error sending request for url (" ++ url.toString ++ ")")

/-- Puts a request together, with pairs added to the query of its URL. The first fault counts of:
a text that is no URL, a URL without host, a token that no header holds, another scheme or a host
that a request cannot name. -/
def build (method : HttpMethod) (text : String) (pairs : List (String × String)) (token : String)
    (maintenance : Bool) : Except TransportError HttpRequest :=
  match Url.ofString text with
  | .error _ => .error (.http "builder error")
  | .ok url =>
    if url.hasHost then
      if token.toList.all isHeaderChar then
        let url := if pairs.isEmpty then stripped url else (stripped url).withPairs pairs
        if (url.scheme = "http" ∨ url.scheme = "https") ∧ url.isNameable then
          .ok { method, url, authorization := bearer token, maintenance }
        else .error (unsendable url)
      else .error (.http "builder error")
    else .error (unsendable url)

end HttpRequest

/-! ## Responses -/

/-- What a peer does with a request: it hangs up, or answers with a status and a body. A body may
break off before its announced end. Whoever reads or parses the body complains in words of its own
then, or if it is no message of the type that is expected. -/
inductive HttpAnswer where
  | dropped
  | response (status : Nat) (body : List UInt8) (complete : Bool) (complaint : String := "")
  deriving DecidableEq, Repr

/-- A response that has arrived as a whole, and the complaint about its body if it cannot be
parsed. -/
structure HttpResponse where
  status : Nat
  body : List UInt8
  complaint : String
  deriving DecidableEq, Repr

namespace HttpAnswer

/-- Whether responses with a status never have a body. -/
def isBodiless (status : Nat) : Bool :=
  status < 200 || status == 204 || status == 304

def read (url : Url) : HttpAnswer → Except TransportError HttpResponse
  | .dropped => .error (HttpRequest.unanswered url)
  | .response status body complete complaint =>
    if isBodiless status then .ok { status, body := [], complaint }
    else if complete then .ok { status, body, complaint }
    else .error (.deserialization complaint)

end HttpAnswer

inductive Reply where
  | completed (result : ResultSet)
  | accepted (status : StatementStatus)
  | failed (status : Nat) (message : String)
  deriving DecidableEq

inductive DownloadReply where
  | content (bytes : List UInt8)
  | failed (status : Nat) (message : String)
  deriving DecidableEq, Repr

def HttpResponse.parse (read : Json → Option α) (r : HttpResponse) : Except TransportError α :=
  match (Json.read? r.body).bind read with
  | some a => .ok a
  | none => .error (.deserialization r.complaint)

/-- The message of an error response, or its body where there is none. -/
def errorMessage (body : List UInt8) : String :=
  match (Json.read? body).bind ErrorBody.read? with
  | some e => e.message
  | none => String.ofList (trim (Utf8.decodeLossy body))

def Reply.ofResponse (r : HttpResponse) : Except TransportError Reply :=
  match r.status with
  | 200 => (r.parse ResultSet.read?).map .completed
  | 202 => (r.parse StatementStatus.read?).map .accepted
  | status => .ok (.failed status (errorMessage r.body))

def Version.ofResponse (r : HttpResponse) : Except TransportError Version :=
  match r.status with
  | 200 => r.parse Version.read?
  | status => .error (.invalidResponse (s!"status code: {status}: " ++ errorMessage r.body))

def DownloadReply.ofResponse (r : HttpResponse) : DownloadReply :=
  match r.status with
  | 200 => .content r.body
  | status => .failed status (errorMessage r.body)

end Tributary
