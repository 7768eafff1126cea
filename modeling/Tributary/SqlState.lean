/-!
# SQL states

The status codes that the query engine reports. A code of the table is a named state; any other
text is kept as it came, so that no code of the table is ever held as a text.
-/

namespace Tributary

inductive NamedState where
  | successfulCompletion
  | warning
  | stringDataRightTruncation
  | privilegeNotRevoked
  | privilegeNotGranted
  | deprecatedFeature
  | noData
  | sqlStatementNotYetComplete
  | featureNotSupported
  | invalidGrantor
  | invalidGrantOperation
  | dependentObjectsStillExist
  | invalidUser
  | invalidRole
  | invalidDatabase
  | invalidSchema
  | invalidOrganization
  | invalidRegion
  | invalidStore
  | invalidTopic
  | invalidParameter
  | invalidSchemaRegistry
  | invalidDescriptor
  | invalidDescriptorSource
  | invalidApiToken
  | invalidSecurityIntegration
  | invalidMetricsIntegration
  | invalidSandbox
  | invalidSecret
  | invalidFunction
  | invalidFunctionSource
  | invalidQuery
  | invalidRelation
  | missingParameter
  | invalidPrivateLink
  | invalidComputePool
  | invalidUserdata
  | invalidDataplane
  | invalidPlaybook
  | storeNotReady
  | schemaRegistryNotReady
  | relationNotReady
  | computePoolNotReady
  | insufficientPrivilege
  | syntaxError
  | nameTooLong
  | duplicateObject
  | duplicateDatabase
  | duplicateStore
  | duplicateSchema
  | duplicateUser
  | duplicateTopicDescriptor
  | duplicateApiToken
  | duplicateSecurityIntegration
  | duplicateRole
  | duplicateMetricsIntegration
  | duplicateSandbox
  | duplicateSecret
  | duplicateFunction
  | duplicateFunctionSource
  | duplicateRelation
  | duplicateSchemaRegistry
  | duplicateComputePool
  | ambiguousOrganization
  | ambiguousStore
  | configurationLimitExceeded
  | cancelled
  | timeout
  | remoteUnavailable
  | internalError
  | undefined
  deriving DecidableEq, Repr

namespace NamedState

def all : List NamedState :=
  [.successfulCompletion, .warning, .stringDataRightTruncation, .privilegeNotRevoked,
   .privilegeNotGranted, .deprecatedFeature, .noData, .sqlStatementNotYetComplete,
   .featureNotSupported, .invalidGrantor, .invalidGrantOperation, .dependentObjectsStillExist,
   .invalidUser, .invalidRole, .invalidDatabase, .invalidSchema, .invalidOrganization,
   .invalidRegion, .invalidStore, .invalidTopic, .invalidParameter, .invalidSchemaRegistry,
   .invalidDescriptor, .invalidDescriptorSource, .invalidApiToken, .invalidSecurityIntegration,
   .invalidMetricsIntegration, .invalidSandbox, .invalidSecret, .invalidFunction,
   .invalidFunctionSource, .invalidQuery, .invalidRelation, .missingParameter,
   .invalidPrivateLink, .invalidComputePool, .invalidUserdata, .invalidDataplane,
   .invalidPlaybook, .storeNotReady, .schemaRegistryNotReady, .relationNotReady,
   .computePoolNotReady, .insufficientPrivilege, .syntaxError, .nameTooLong, .duplicateObject,
   .duplicateDatabase, .duplicateStore, .duplicateSchema, .duplicateUser,
   .duplicateTopicDescriptor, .duplicateApiToken, .duplicateSecurityIntegration, .duplicateRole,
   .duplicateMetricsIntegration, .duplicateSandbox, .duplicateSecret, .duplicateFunction,
   .duplicateFunctionSource, .duplicateRelation, .duplicateSchemaRegistry, .duplicateComputePool,
   .ambiguousOrganization, .ambiguousStore, .configurationLimitExceeded, .cancelled, .timeout,
   .remoteUnavailable, .internalError, .undefined]

def code : NamedState → String
  | .successfulCompletion => "00000"
  | .warning => "01000"
  | .stringDataRightTruncation => "01004"
  | .privilegeNotRevoked => "01006"
  | .privilegeNotGranted => "01007"
  | .deprecatedFeature => "01P01"
  | .noData => "02000"
  | .sqlStatementNotYetComplete => "03000"
  | .featureNotSupported => "0A000"
  | .invalidGrantor => "0L000"
  | .invalidGrantOperation => "0LP01"
  | .dependentObjectsStillExist => "2BP01"
  | .invalidUser => "3D000"
  | .invalidRole => "3D001"
  | .invalidDatabase => "3D002"
  | .invalidSchema => "3D003"
  | .invalidOrganization => "3D004"
  | .invalidRegion => "3D005"
  | .invalidStore => "3D006"
  | .invalidTopic => "3D007"
  | .invalidParameter => "3D008"
  | .invalidSchemaRegistry => "3D009"
  | .invalidDescriptor => "3D010"
  | .invalidDescriptorSource => "3D011"
  | .invalidApiToken => "3D012"
  | .invalidSecurityIntegration => "3D013"
  | .invalidMetricsIntegration => "3D014"
  | .invalidSandbox => "3D015"
  | .invalidSecret => "3D016"
  | .invalidFunction => "3D017"
  | .invalidFunctionSource => "3D018"
  | .invalidQuery => "3D019"
  | .invalidRelation => "3D020"
  | .missingParameter => "3D021"
  | .invalidPrivateLink => "3D022"
  | .invalidComputePool => "3D023"
  | .invalidUserdata => "3D024"
  | .invalidDataplane => "3D025"
  | .invalidPlaybook => "3D026"
  | .storeNotReady => "3E001"
  | .schemaRegistryNotReady => "3E002"
  | .relationNotReady => "3E003"
  | .computePoolNotReady => "3E004"
  | .insufficientPrivilege => "42501"
  | .syntaxError => "42601"
  | .nameTooLong => "42622"
  | .duplicateObject => "42710"
  | .duplicateDatabase => "42P04"
  | .duplicateStore => "42P05"
  | .duplicateSchema => "42P06"
  | .duplicateUser => "42P07"
  | .duplicateTopicDescriptor => "42P08"
  | .duplicateApiToken => "42P09"
  | .duplicateSecurityIntegration => "42P010"
  | .duplicateRole => "42P011"
  | .duplicateMetricsIntegration => "42P012"
  | .duplicateSandbox => "42P013"
  | .duplicateSecret => "42P014"
  | .duplicateFunction => "42P015"
  | .duplicateFunctionSource => "42P016"
  | .duplicateRelation => "42P017"
  | .duplicateSchemaRegistry => "42P018"
  | .duplicateComputePool => "42P019"
  | .ambiguousOrganization => "42P001"
  | .ambiguousStore => "42P002"
  | .configurationLimitExceeded => "53000"
  | .cancelled => "57000"
  | .timeout => "57014"
  | .remoteUnavailable => "57015"
  | .internalError => "XX000"
  | .undefined => "XX001"

def name : NamedState → String
  | .successfulCompletion => "SuccessfulCompletion"
  | .warning => "Warning"
  | .stringDataRightTruncation => "StringDataRightTruncation"
  | .privilegeNotRevoked => "PrivilegeNotRevoked"
  | .privilegeNotGranted => "PrivilegeNotGranted"
  | .deprecatedFeature => "DeprecatedFeature"
  | .noData => "NoData"
  | .sqlStatementNotYetComplete => "SqlStatementNotYetComplete"
  | .featureNotSupported => "FeatureNotSupported"
  | .invalidGrantor => "InvalidGrantor"
  | .invalidGrantOperation => "InvalidGrantOperation"
  | .dependentObjectsStillExist => "DependentObjectsStillExist"
  | .invalidUser => "InvalidUser"
  | .invalidRole => "InvalidRole"
  | .invalidDatabase => "InvalidDatabase"
  | .invalidSchema => "InvalidSchema"
  | .invalidOrganization => "InvalidOrganization"
  | .invalidRegion => "InvalidRegion"
  | .invalidStore => "InvalidStore"
  | .invalidTopic => "InvalidTopic"
  | .invalidParameter => "InvalidParameter"
  | .invalidSchemaRegistry => "InvalidSchemaRegistry"
  | .invalidDescriptor => "InvalidDescriptor"
  | .invalidDescriptorSource => "InvalidDescriptorSource"
  | .invalidApiToken => "InvalidApiToken"
  | .invalidSecurityIntegration => "InvalidSecurityIntegration"
  | .invalidMetricsIntegration => "InvalidMetricsIntegration"
  | .invalidSandbox => "InvalidSandbox"
  | .invalidSecret => "InvalidSecret"
  | .invalidFunction => "InvalidFunction"
  | .invalidFunctionSource => "InvalidFunctionSource"
  | .invalidQuery => "InvalidQuery"
  | .invalidRelation => "InvalidRelation"
  | .missingParameter => "MissingParameter"
  | .invalidPrivateLink => "InvalidPrivateLink"
  | .invalidComputePool => "InvalidComputePool"
  | .invalidUserdata => "InvalidUserdata"
  | .invalidDataplane => "InvalidDataplane"
  | .invalidPlaybook => "InvalidPlaybook"
  | .storeNotReady => "StoreNotReady"
  | .schemaRegistryNotReady => "SchemaRegistryNotReady"
  | .relationNotReady => "RelationNotReady"
  | .computePoolNotReady => "ComputePoolNotReady"
  | .insufficientPrivilege => "InsufficientPrivilege"
  | .syntaxError => "SyntaxError"
  | .nameTooLong => "NameTooLong"
  | .duplicateObject => "DuplicateObject"
  | .duplicateDatabase => "DuplicateDatabase"
  | .duplicateStore => "DuplicateStore"
  | .duplicateSchema => "DuplicateSchema"
  | .duplicateUser => "DuplicateUser"
  | .duplicateTopicDescriptor => "DuplicateTopicDescriptor"
  | .duplicateApiToken => "DuplicateApiToken"
  | .duplicateSecurityIntegration => "DuplicateSecurityIntegration"
  | .duplicateRole => "DuplicateRole"
  | .duplicateMetricsIntegration => "DuplicateMetricsIntegration"
  | .duplicateSandbox => "DuplicateSandbox"
  | .duplicateSecret => "DuplicateSecret"
  | .duplicateFunction => "DuplicateFunction"
  | .duplicateFunctionSource => "DuplicateFunctionSource"
  | .duplicateRelation => "DuplicateRelation"
  | .duplicateSchemaRegistry => "DuplicateSchemaRegistry"
  | .duplicateComputePool => "DuplicateComputePool"
  | .ambiguousOrganization => "AmbiguousOrganization"
  | .ambiguousStore => "AmbiguousStore"
  | .configurationLimitExceeded => "ConfigurationLimitExceeded"
  | .cancelled => "Cancelled"
  | .timeout => "Timeout"
  | .remoteUnavailable => "RemoteUnavailable"
  | .internalError => "InternalError"
  | .undefined => "Undefined"

def ofCode? (code : String) : Option NamedState :=
  all.find? (·.code == code)

end NamedState

/-- A status code of the query engine. -/
inductive SqlState where
  | named (state : NamedState)
  /-- A code outside the table. -/
  | other (code : String) (unnamed : NamedState.ofCode? code = none)
  deriving DecidableEq, Repr

namespace SqlState

def code : SqlState → String
  | .named state => state.code
  | .other code _ => code

def ofCode (code : String) : SqlState :=
  match h : NamedState.ofCode? code with
  | some state => .named state
  | none => .other code h

def name : SqlState → String
  | .named state => state.name
  | .other _ _ => "Other"

/-- The class of a state: the first two bytes of its code, or all of it where they are no text. -/
def category (state : SqlState) : String :=
  match state.code.toList with
  | a :: b :: _ =>
    if a.toNat < 0x80 ∧ b.toNat < 0x80 then String.ofList [a, b]
    else if 0x80 ≤ a.toNat ∧ a.toNat < 0x800 then String.ofList [a]
    else state.code
  | [a] => String.ofList [a]
  | [] => ""

def isSuccess (state : SqlState) : Bool :=
  state == .named .successfulCompletion

/-- A statement succeeded if the text of its code says so, and not otherwise. -/
theorem isSuccess_iff (state : SqlState) : state.isSuccess = true ↔ state.code = "00000" := by
  unfold isSuccess
  rw [beq_iff_eq]
  constructor
  · rintro rfl
    rfl
  · intro h
    cases state with
    | named state =>
        change state.code = "00000" at h
        cases state <;> first | rfl | exact absurd h (by decide)
    | other code unnamed =>
        change code = "00000" at h
        subst h
        exact absurd unnamed (by decide)

/-- Whether the state belongs to one of the two classes of warnings. -/
def isWarning (state : SqlState) : Bool :=
  state.category == "01" || state.category == "02"

end SqlState

end Tributary
