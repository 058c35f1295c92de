import RecordStore.Schema.Resolve

namespace RecordStore

inductive Flaw where
  | emptyTarget
  | unresolvedTarget (target : String)
  | requiredSetNull
  | policyWithoutReference
  | unknownCatalog (name : String)
  | emptyUniqueSet
  | unknownMember (name : String)
deriving DecidableEq

namespace Flaw

def code : Flaw → String
  | .emptyTarget => "ref_target_empty"
  | .unresolvedTarget _ => "ref_target_unresolved"
  | .requiredSetNull => "required_conflicts_on_delete"
  | .policyWithoutReference => "on_delete_without_ref"
  | .unknownCatalog _ => "unknown_catalog"
  | .emptyUniqueSet => "composite_unknown_field"
  | .unknownMember _ => "composite_unknown_field"

def message : Flaw → String
  | .emptyTarget => "ref field has an empty target"
  | .unresolvedTarget target =>
    "ref target " ++ Text.quoted target ++ " does not name exactly one entity"
  | .requiredSetNull =>
    "required ref cannot have on_delete=set_null; " ++
      "use restrict or cascade (or make the field optional)"
  | .policyWithoutReference =>
    "on_delete is only meaningful on reference fields"
  | .unknownCatalog name => "catalog " ++ Text.quoted name ++ " is not loaded"
  | .emptyUniqueSet => "empty composite unique set"
  | .unknownMember name =>
    "composite unique member " ++ Text.quoted name ++ " is not a declared field"

end Flaw

/-- A flaw with the entity and the field where it stands; a set of fields stands
at its first. -/
structure Issue where
  entity : String
  field : String
  flaw : Flaw
deriving DecidableEq

def Issue.text (issue : Issue) : String :=
  issue.entity ++ "." ++ issue.field ++ ": " ++ issue.flaw.message ++ " (" ++
    issue.flaw.code ++ ")"

namespace Schema

def targetFlaws (schema : Schema) (entity : Entity) (target : String) :
    List Flaw :=
  if Text.trim target = "" then [.emptyTarget]
  else if (schema.resolveTarget entity.namespaceName target).isNone then
    [.unresolvedTarget target]
  else []

def policyFlaws (field : Field) : List Flaw :=
  if !field.type.many && field.required && field.policy = .setNull then
    [.requiredSetNull]
  else []

def catalogFlaws (schema : Schema) (field : Field) : List Flaw :=
  match field.catalogKey? with
  | some name =>
    if (schema.catalog? name).isNone then [.unknownCatalog name] else []
  | none => []

def fieldFlaws (schema : Schema) (entity : Entity) (field : Field) :
    List Flaw :=
  (match field.type.target? with
    | some target => schema.targetFlaws entity target ++ policyFlaws field
    | none =>
      if field.declaredPolicy.isSome then [.policyWithoutReference] else []) ++
    schema.catalogFlaws field

def uniqueSetFlaws (entity : Entity) (set : List String) : List Flaw :=
  if set.isEmpty then [.emptyUniqueSet]
  else (set.filter fun name => (entity.field? name).isNone).map .unknownMember

def entityIssues (schema : Schema) (entity : Entity) : List Issue :=
  (entity.fields.flatMap fun field => (schema.fieldFlaws entity field).map
    (Issue.mk entity.fullName field.name)) ++
    entity.uniqueSets.flatMap fun set =>
      (uniqueSetFlaws entity set).map (Issue.mk entity.fullName (set.headD ""))

def lint (schema : Schema) : List Issue :=
  schema.entities.items.flatMap schema.entityIssues

theorem lint_eq_nil_iff {schema : Schema} :
    schema.lint = [] ↔ ∀ entity ∈ schema.entities.items,
      (∀ field ∈ entity.fields, schema.fieldFlaws entity field = []) ∧
        ∀ set ∈ entity.uniqueSets, uniqueSetFlaws entity set = [] := by
  simp only [lint, entityIssues, List.flatMap_eq_nil_iff,
    List.append_eq_nil_iff, List.map_eq_nil_iff]

end Schema

end RecordStore
