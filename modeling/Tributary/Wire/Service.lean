import Tributary.Wire.ResultSet

/-!
# Other messages of the service

Error bodies, the version, and the kinds of resource that an organization keeps.
-/

namespace Tributary

open Json (text string? integer? required defaulted)

structure ErrorBody where
  message : String
  deriving DecidableEq, Repr

namespace ErrorBody

def read? (j : Json) : Option ErrorBody := do
  let [message] ← j.fields? ["message"] | none
  some { message := ← required string? message }

def json (e : ErrorBody) : Json :=
  .record [("message", text e.message)]

end ErrorBody

structure Version where
  major : Int := 0
  minor : Int := 0
  patch : Int := 0
  deriving DecidableEq, Repr

namespace Version

/-- Reads a version; a part that is left out is zero. -/
def read? (j : Json) : Option Version := do
  let [major, minor, patch] ← j.fields? ["major", "minor", "patch"] | none
  some
    { major := ← defaulted 0 (integer? Integer.nat32) major
      minor := ← defaulted 0 (integer? Integer.nat32) minor
      patch := ← defaulted 0 (integer? Integer.nat32) patch }

def json (v : Version) : Json :=
  .record [("major", .integer v.major), ("minor", .integer v.minor), ("patch", .integer v.patch)]

end Version

inductive ResourceType where
  | descriptorSource
  | functionSource
  deriving DecidableEq, Repr

namespace ResourceType

/-- The word for a kind of resource, which is also its segment of a path. -/
def word : ResourceType → String
  | .descriptorSource => "descriptor_source"
  | .functionSource => "function_source"

def name : ResourceType → String
  | .descriptorSource => "DescriptorSource"
  | .functionSource => "FunctionSource"

def read? (j : Json) : Option ResourceType :=
  (unitName? j).bind fun word =>
    if word = "descriptor_source" then some .descriptorSource
    else if word = "function_source" then some .functionSource
    else none

end ResourceType

end Tributary
