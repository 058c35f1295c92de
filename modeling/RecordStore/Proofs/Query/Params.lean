import RecordStore.Proofs.Store
import RecordStore.Proofs.Text
import RecordStore.Proofs.Text.Split
import RecordStore.Query.Params

namespace RecordStore

/-! Filters written as parameters: a field and the name of an operator with two
underscores between them, members behind `in:` with commas between them. What is
written so is read as it was, whatever the field is called. -/

def Condition.param (condition : Condition) : String × String :=
  (condition.field ++ "__" ++ condition.op.name,
    if condition.op = .oneOf then "in:" ++ ",".intercalate condition.operands
    else condition.operands.headD "")

/-- Nothing of a condition is lost or mistaken for something else when it is
written as a parameter. -/
inductive Condition.Plain : Condition → Prop
  | single {field operand : String} {op : Operator}
      (named : Text.trim field = field) (nonempty : field ≠ "")
      (simple : op ≠ .oneOf) (trimmed : Text.trim operand = operand)
      (plain : ¬"in:".toList <+: operand.toList) : Plain ⟨field, op, [operand]⟩
  | members {field : String} {operands : List String}
      (named : Text.trim field = field) (nonempty : field ≠ "")
      (trimmed : ∀ operand ∈ operands, Text.trim operand = operand)
      (proper : ∀ operand ∈ operands, operand ≠ "")
      (separate : ∀ operand ∈ operands, ',' ∉ operand.toList) :
      Plain ⟨field, .oneOf, operands⟩

/-- A filter as parameters: its conditions in their order, its text, and
anywhere among them parameters that are not for filters. -/
inductive Filter.Written : Filter → Params → Prop
  | nil : Written {} []
  | condition {filter : Filter} {params : Params} (condition : Condition)
      (rest : Written filter params) :
      Written { filter with conditions := condition :: filter.conditions }
        (condition.param :: params)
  | text {filter : Filter} {params : Params} (text : String)
      (only : filter.text = none) (rest : Written filter params) :
      Written { filter with text := some text } (("q", text) :: params)
  | other {key : String} {filter : Filter} {params : Params}
      (reserved : key ∈ reservedParams) (noText : key ≠ "q") (value : String)
      (rest : Written filter params) : Written filter ((key, value) :: params)

theorem Operator.read_name (op : Operator) : read op.name = .ok op := by
  cases op <;> rfl

section

variable (field : String) (op : Operator)

theorem toList_key_written :
    (field ++ "__" ++ op.name).toList =
      field.toList ++ (['_', '_'] ++ op.name.toList) := by
  rw [String.toList_append, String.toList_append, List.append_assoc]
  rfl

theorem splitLast?_key_written :
    Text.splitLast? ['_', '_'] (field ++ "__" ++ op.name).toList =
      some (field.toList, op.name.toList) := by
  rw [toList_key_written]
  exact Text.splitLast?_append (by decide) (by cases op <;> decide) field.toList

theorem Condition.readKey_written :
    readKey (field ++ "__" ++ op.name) = .ok (field, op) := by
  simp only [readKey, splitLast?_key_written, String.ofList_toList,
    Operator.read_name]
  rfl

theorem not_reserved_written : field ++ "__" ++ op.name ∉ reservedParams := by
  intro reserved
  have absent : ∀ key ∈ reservedParams, Text.splitLast? ['_', '_'] key.toList =
      none := by decide
  have present := splitLast?_key_written field op
  rw [absent _ reserved] at present
  cases present

end

theorem Text.trim_key_written {field : String} (named : trim field = field)
    (nonempty : field ≠ "") (op : Operator) :
    trim (field ++ "__" ++ op.name) = field ++ "__" ++ op.name := by
  have fieldChars : trimBoth field.toList = field.toList := by
    rw [← toList_trim, named]
  have opChars : trimBoth (['_', '_'] ++ op.name.toList) =
      ['_', '_'] ++ op.name.toList := by
    cases op <;> decide
  rw [trim, toList_key_written,
    trimBoth_append fieldChars opChars (by simpa using nonempty) (by simp),
    ← toList_key_written, String.ofList_toList]

theorem Condition.readOperands_written {operands : List String}
    (trimmed : ∀ operand ∈ operands, Text.trim operand = operand)
    (proper : ∀ operand ∈ operands, operand ≠ "")
    (separate : ∀ operand ∈ operands, ',' ∉ operand.toList) :
    readOperands (",".intercalate operands) = operands := by
  by_cases none : operands = []
  · subst none
    rfl
  · rw [readOperands, Text.splitOn_eq, Text.splitOn_joined separate none,
      List.map_map, List.filterMap_map]
    refine Eq.trans (List.filterMap_congr ?_) List.filterMap_some
    intro operand member
    have chars : Text.trimBoth operand.toList = operand.toList := by
      rw [← Text.toList_trim, trimmed operand member]
    simp [chars, proper operand member]

theorem Condition.Plain.ofParam {condition : Condition}
    (plain : condition.Plain) :
    Condition.ofParam condition.param.1 condition.param.2 = .ok condition := by
  rw [Condition.ofParam, Condition.param, readKey_written, ok_bind]
  cases plain with
  | single named nonempty simple trimmed plain =>
      rw [if_neg simple, List.headD_cons, Text.dropStart?_eq_none_iff.mpr plain]
      simp [simple, trimmed, pure, Except.pure]
  | members named nonempty trimmed proper separate =>
      rw [if_pos rfl, Text.dropStart?_append]
      simp [readOperands_written trimmed proper separate, pure, Except.pure]

theorem Condition.Plain.trim_key {condition : Condition}
    (plain : condition.Plain) :
    Text.trim condition.param.1 = condition.param.1 := by
  cases plain with
  | single named nonempty | members named nonempty =>
      exact Text.trim_key_written named nonempty _

theorem Filter.addParam_condition {condition : Condition}
    (plain : condition.Plain) (filter : Filter) :
    filter.addParam condition.param =
      .ok { filter with conditions := filter.conditions ++ [condition] } := by
  have free : condition.param.1 ∉ reservedParams := not_reserved_written _ _
  have noText : condition.param.1 ≠ "q" := fun same => free (same ▸ by decide)
  have nonempty : condition.param.1 ≠ "" := by simp [Condition.param]
  simp only [addParam, plain.trim_key, noText, nonempty, List.contains_eq_mem,
    free, plain.ofParam, ok_bind, decide_false, Bool.or_self, if_false,
    Bool.false_eq_true]
  rfl

theorem Filter.addParam_text (text : String) (filter : Filter) :
    filter.addParam ("q", text) = .ok (filter.withText text) := by
  have trimmed : Text.trim "q" = "q" := by decide
  simp [addParam, trimmed]

theorem Filter.addParam_reserved {key : String}
    (reserved : key ∈ reservedParams) (noText : key ≠ "q") (value : String)
    (filter : Filter) : filter.addParam (key, value) = .ok filter := by
  have trimmed : ∀ key ∈ reservedParams, Text.trim key = key := by decide
  simp [addParam, trimmed key reserved, noText, reserved]

theorem Filter.Written.foldlM_addParam {filter : Filter} {params : Params}
    (written : filter.Written params)
    (plain : ∀ condition ∈ filter.conditions, condition.Plain)
    (visible : ∀ text ∈ filter.text, Text.isBlankText text = false)
    (start : Filter) :
    params.foldlM addParam start = .ok
      ⟨start.conditions ++ filter.conditions, filter.text.or start.text⟩ := by
  induction written generalizing start with
  | nil => simp [pure, Except.pure]
  | condition condition rest ih =>
      obtain ⟨first, others⟩ := List.forall_mem_cons.mp plain
      rw [List.foldlM_cons, addParam_condition first, ok_bind,
        ih others visible, List.append_assoc]
      rfl
  | text text only rest ih =>
      have shown : Text.isBlankText text = false := visible text rfl
      rw [List.foldlM_cons, addParam_text, ok_bind,
        ih plain (by simp [only]), only, withText, shown]
      rfl
  | other reserved noText value rest ih =>
      rw [List.foldlM_cons, addParam_reserved reserved noText, ok_bind,
        ih plain visible]

/-- A filter written as parameters is read as it was. -/
theorem Filter.ofParams_written {filter : Filter} {params : Params}
    (plain : ∀ condition ∈ filter.conditions, condition.Plain)
    (visible : ∀ text ∈ filter.text, Text.isBlankText text = false)
    (written : filter.Written params) :
    Filter.ofParams params = .ok filter := by
  rw [ofParams, written.foldlM_addParam plain visible]
  simp

def Filter.puzzling : Filter where
  conditions := [⟨"limit__in_", .gte, ["5"]⟩, ⟨"q", .oneOf, ["in:x", "y z"]⟩,
    ⟨"_", .eq, [""]⟩]
  text := some " acme"

theorem Filter.puzzling_written :
    Filter.ofParams
      [("limit__in___gte", "5"), ("sort", "q"), ("q__in", "in:in:x,y z"),
        ("q", " acme"), ("___eq", ""), ("limit", "in:")] = .ok .puzzling := by
  refine ofParams_written ?_ ?_ ?_
  · simp only [puzzling, List.forall_mem_cons]
    refine ⟨.single ?_ ?_ ?_ ?_ ?_, .members ?_ ?_ ?_ ?_ ?_,
      .single ?_ ?_ ?_ ?_ ?_, by simp⟩
    all_goals decide +kernel
  · simp [puzzling]
    decide
  · exact .condition ⟨"limit__in_", .gte, ["5"]⟩ <|
      .other (by decide : "sort" ∈ reservedParams) (by decide) "q" <|
      .condition ⟨"q", .oneOf, ["in:x", "y z"]⟩ <| .text " acme" rfl <|
      .condition ⟨"_", .eq, [""]⟩ <|
      .other (by decide : "limit" ∈ reservedParams) (by decide) "in:" .nil

end RecordStore
