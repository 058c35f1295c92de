import RecordStore.Error
import RecordStore.Schema.Document

namespace RecordStore

inductive Failure where
  | unreadable (path : String)
  | malformed (path : String)
  | declaredTwice (fullName : String)
  | badNulls (word : String)
  | noPageLimit
  | store (error : StoreError)
deriving DecidableEq

namespace Failure

def configuration? : Failure → Option String
  | .declaredTwice fullName =>
    some ("entity " ++ fullName ++ " is declared twice")
  | .badNulls word => some (StoreError.badQuery (.badNulls word)).message
  | .noPageLimit => some "page limits must be positive"
  | _ => none

def message (failure : Failure) : String :=
  match failure with
  | .unreadable path => "io error: cannot read " ++ path
  | .malformed path => "json error: unexpected content in " ++ path
  | .store error => "store error: " ++ error.message
  | _ => "configuration error: " ++ failure.configuration?.getD ""

def ofSchemaProblem (path : String) : SchemaProblem → Failure
  | .malformed => .malformed path
  | .declaredTwice fullName => .declaredTwice fullName

end Failure

end RecordStore
