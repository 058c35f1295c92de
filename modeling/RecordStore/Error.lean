import RecordStore.Schema.Lint

namespace RecordStore

inductive ErrorCode where
  | required
  | typeMismatch
  | enumInvalid
  | uniqueViolation
  | refNotFound
  | readonlyField
  | versionConflict
  | notFound
  | deleted
  | fkInUse
  | selfParent
  | cycleDetected
  | invalidQuery
  | schemaInvalid
  | cascadeDepthExceeded
deriving DecidableEq, Inhabited

namespace ErrorCode

def name : ErrorCode → String
  | .required => "required"
  | .typeMismatch => "type_mismatch"
  | .enumInvalid => "enum_invalid"
  | .uniqueViolation => "unique_violation"
  | .refNotFound => "ref_not_found"
  | .readonlyField => "readonly_field"
  | .versionConflict => "version_conflict"
  | .notFound => "not_found"
  | .deleted => "deleted"
  | .fkInUse => "fk_in_use"
  | .selfParent => "self_parent"
  | .cycleDetected => "cycle_detected"
  | .invalidQuery => "invalid_query"
  | .schemaInvalid => "schema_invalid"
  | .cascadeDepthExceeded => "cascade_depth_exceeded"

def isIntegrity : ErrorCode → Bool
  | .uniqueViolation | .refNotFound | .fkInUse => true
  | _ => false

end ErrorCode

inductive Fault where
  | missing
  | mistyped (expected : String)
  | readonly
  | notAllowed
  | unknownCatalog (name : String)
  | targetUnresolved
  | targetMissing
  | elementTargetMissing (index : Nat)
  | taken
  | setTaken (members : List String)
  | ownParent
  | parentCycle
  | noId
deriving DecidableEq

structure FieldError where
  field : String
  fault : Fault
deriving DecidableEq

namespace FieldError

def code (error : FieldError) : ErrorCode :=
  match error.fault with
  | .missing | .noId => .required
  | .mistyped _ => .typeMismatch
  | .readonly => .readonlyField
  | .notAllowed | .unknownCatalog _ => .enumInvalid
  | .targetUnresolved | .targetMissing | .elementTargetMissing _ => .refNotFound
  | .taken | .setTaken _ => .uniqueViolation
  | .ownParent => .selfParent
  | .parentCycle => .cycleDetected

def message (error : FieldError) : String :=
  match error.fault with
  | .missing => "field is required"
  | .mistyped expected => "expected " ++ expected
  | .readonly => "field is read-only"
  | .notAllowed => "invalid value for '" ++ error.field ++ "'"
  | .unknownCatalog name => "unknown catalog '" ++ name ++ "'"
  | .targetUnresolved => "reference target not found"
  | .targetMissing => "referenced id not found"
  | .elementTargetMissing index =>
    "referenced id at index " ++ toString index ++ " not found"
  | .taken => "value must be unique"
  | .setTaken members =>
    "combination of (" ++ ", ".intercalate members ++ ") must be unique"
  | .ownParent => error.field ++ " cannot reference the record itself"
  | .parentCycle => "parent chain contains a cycle"
  | .noId => "operation needs an id"

end FieldError

/-- An error as it is reported: for a field, or for the record as a whole under
the empty name. -/
structure Report where
  field : String
  code : ErrorCode
  message : String
deriving DecidableEq

namespace Report

def text (report : Report) : String :=
  if report.field = "" then report.message ++ " (" ++ report.code.name ++ ")"
  else report.field ++ ": " ++ report.message ++ " (" ++ report.code.name ++ ")"

end Report

def FieldError.report (error : FieldError) : Report :=
  ⟨error.field, error.code, error.message⟩

inductive QueryFault where
  | unknownOperator (name : String)
  | badNulls (word : String)
  | badOrder (word : String)
  | badCount (parameter : String)
deriving DecidableEq

def QueryFault.message : QueryFault → String
  | .unknownOperator name => "unknown operator " ++ Text.quoted name
  | .badNulls word => "nulls must be first or last, got " ++ Text.quoted word
  | .badOrder word => "order must be asc or desc, got " ++ Text.quoted word
  | .badCount parameter => parameter ++ " must be a non-negative integer"

inductive StoreError where
  | unknownEntity (name : String)
  | notFound (entity id : String)
  | deleted (entity id : String)
  | invalid (errors : List FieldError)
  | versionConflict (entity id : String) (current : UInt64)
  | restricted (entity id referencingEntity field : String)
  | cascadeTooDeep (depth : Nat)
  | schemaRejected (issues : List Issue)
  | badQuery (fault : QueryFault)
deriving DecidableEq

namespace StoreError

def code : StoreError → ErrorCode
  | .unknownEntity _ | .notFound .. => .notFound
  | .deleted .. => .deleted
  | .invalid [] => .typeMismatch
  | .invalid (error :: _) => error.code
  | .versionConflict .. => .versionConflict
  | .restricted .. => .fkInUse
  | .cascadeTooDeep _ => .cascadeDepthExceeded
  | .schemaRejected _ => .schemaInvalid
  | .badQuery _ => .invalidQuery

def isIntegrity : StoreError → Bool
  | .invalid errors => errors.any (·.code.isIntegrity)
  | .restricted .. => true
  | _ => false

def message : StoreError → String
  | .unknownEntity name => "unknown entity: " ++ name
  | .notFound entity id => entity ++ " " ++ id ++ " not found"
  | .deleted entity id => entity ++ " " ++ id ++ " is deleted"
  | .invalid errors =>
    "validation failed: " ++ "; ".intercalate (errors.map (·.report.text))
  | .versionConflict entity id current =>
    "version conflict on " ++ entity ++ " " ++ id ++ ": current version is " ++
      toString current.toNat
  | .restricted entity id referencingEntity field =>
    entity ++ " " ++ id ++ " is referenced by " ++ referencingEntity ++ "." ++
      field
  | .cascadeTooDeep depth =>
    "cascade error: maximum cascade depth exceeded: " ++ toString depth
  | .schemaRejected issues =>
    "schema lint failed: " ++ "; ".intercalate (issues.map Issue.text)
  | .badQuery fault => "invalid query: " ++ fault.message

def issueReport (issue : Issue) : Report :=
  ⟨issue.entity ++ "." ++ issue.field, .schemaInvalid,
    issue.flaw.message ++ " (" ++ issue.flaw.code ++ ")"⟩

def reports (error : StoreError) : List Report :=
  match error with
  | .invalid errors => errors.map FieldError.report
  | .schemaRejected issues => issues.map issueReport
  | .restricted _ _ referencingEntity field =>
    [⟨"", .fkInUse,
      "record is referenced by " ++ referencingEntity ++ "." ++ field⟩]
  | .versionConflict _ _ current =>
    [⟨"version", .versionConflict,
      "current version is " ++ toString current.toNat⟩]
  | _ => [⟨"", error.code, error.message⟩]

end StoreError

end RecordStore
