import Tributary.Error
import Tributary.Text.Quoted

/-!
# Tokens

Every request carries a bearer token. A source is asked once for each request; a fixed source
always gives the same token, any other answers as it likes and may fail. No text that shows a
source shows a token.
-/

namespace Tributary

structure FixedToken where
  token : String
  nonempty : token ≠ ""
  deriving DecidableEq

namespace FixedToken

def of (token : String) : Except ConnectionError FixedToken :=
  if h : token = "" then .error .missingToken else .ok ⟨token, h⟩

def shown (_ : FixedToken) : String :=
  Text.record "StaticToken" [("token", Text.quoted "<redacted>")]

end FixedToken

/-- Where tokens come from: a fixed token, or the answers that are still to come, of which the
last repeats. -/
inductive TokenSource where
  | fixed (token : FixedToken)
  | supplied (answers : List (Except Error String))

namespace TokenSource

def ask : TokenSource → Except Error String × TokenSource
  | .fixed t => (.ok t.token, .fixed t)
  | .supplied [] => (.error (.connection .missingToken), .supplied [])
  | .supplied [answer] => (answer, .supplied [answer])
  | .supplied (answer :: rest) => (answer, .supplied rest)

end TokenSource

end Tributary
