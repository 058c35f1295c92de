import RecordStore.Proofs.Store
import RecordStore.Proofs.Text
import RecordStore.Proofs.Text.Split
import RecordStore.Schema.Lint

namespace RecordStore

/-! What the targets of reference fields name. A schema without flaws leaves no
target that names nothing, but it leaves targets that several entities of one
namespace could be meant by; it is these alone that do not name exactly one
entity. -/

/-- The namespace that a target, without white space at its ends, is looked up
in first, and the name that it is looked up by there. The entity that declares
it is of the namespace `owner`; white space at the ends of a namespace is no
part of it. -/
inductive Address (owner : String) : String → Option String → String → Prop
  | spelt {before after : String} (nonempty : before ≠ "")
      (first : '.' ∉ before.toList) :
      Address owner (before ++ "." ++ after) (some (Text.trim before))
        (Text.trim after)
  | own {name : String} (short : '.' ∉ name.toList)
      (home : Text.trim owner ≠ "") :
      Address owner name (some (Text.trim owner)) name
  | nowhere {name : String} (short : '.' ∉ name.toList)
      (homeless : Text.trim owner = "") : Address owner name none name
  /-- What begins with a dot spells no namespace and is a name as a whole. -/
  | headless {after : String} : Address owner ("." ++ after) none ("." ++ after)

namespace Schema

theorem splitFirst?_dot_iff {name before after : String} :
    Text.splitFirst? '.' name.toList = some (before.toList, after.toList) ↔
      name = before ++ "." ++ after ∧ '.' ∉ before.toList := by
  rw [Text.splitFirst?_eq_some_iff, ← String.toList_inj, String.toList_append,
    String.toList_append, List.append_assoc]
  rfl

theorem dot_cases (name : String) :
    '.' ∉ name.toList ∨
      ∃ before after : String, name = before ++ "." ++ after ∧
        '.' ∉ before.toList := by
  cases cut : Text.splitFirst? '.' name.toList with
  | none => exact .inl (Text.splitFirst?_eq_none_iff.mp cut)
  | some parts =>
      obtain ⟨start, rest⟩ := parts
      rw [← String.toList_ofList (l := start),
        ← String.toList_ofList (l := rest), splitFirst?_dot_iff] at cut
      exact .inr ⟨_, _, cut⟩

theorem qualifier?_eq_some {before after : String} (nonempty : before ≠ "")
    (first : '.' ∉ before.toList) :
    qualifier? (before ++ "." ++ after) = some (before, after) := by
  rw [qualifier?, splitFirst?_dot_iff.mpr ⟨rfl, first⟩]
  simp [nonempty]

theorem qualifier?_of_short {name : String} (short : '.' ∉ name.toList) :
    qualifier? name = none := by
  rw [qualifier?, Text.splitFirst?_eq_none_iff.mpr short]

theorem qualifier?_headless (after : String) :
    qualifier? ("." ++ after) = none := by
  have cut : Text.splitFirst? '.' ("." ++ after).toList =
      some ("".toList, after.toList) :=
    splitFirst?_dot_iff.mpr ⟨by simp, by simp⟩
  rw [qualifier?, cut]
  rfl

end Schema

theorem Address.exists (owner target : String) :
    ∃ place? name, Address owner target place? name := by
  rcases Schema.dot_cases target with short | ⟨before, after, rfl, first⟩
  · by_cases home : Text.trim owner = ""
    · exact ⟨_, _, .nowhere short home⟩
    · exact ⟨_, _, .own short home⟩
  · by_cases empty : before = ""
    · rw [empty, String.empty_append]
      exact ⟨_, _, .headless⟩
    · exact ⟨_, _, .spelt empty first⟩

theorem Address.eq {owner target : String} {place? : Option String}
    {name : String} (address : Address owner target place? name) :
    (place?, name) = match Schema.qualifier? target with
    | some (before, after) => (some (Text.trim before), Text.trim after)
    | none =>
      (if '.' ∈ target.toList ∨ Text.trim owner = "" then none
        else some (Text.trim owner), target) := by
  cases address with
  | spelt nonempty first => rw [Schema.qualifier?_eq_some nonempty first]
  | own short home => simp [Schema.qualifier?_of_short short, short, home]
  | nowhere short homeless => simp [Schema.qualifier?_of_short short, homeless]
  | headless => simp [Schema.qualifier?_headless]

theorem Address.unique {owner target : String} {place? other? : Option String}
    {name other : String} (address : Address owner target place? name)
    (again : Address owner target other? other) :
    place? = other? ∧ name = other :=
  Prod.mk.inj (address.eq.trans again.eq.symm)

namespace Entity

def IsNamed (entity : Entity) (name : String) : Prop :=
  Text.equalUpToAsciiCase entity.name name = true

def IsNamedIn (entity : Entity) (namespaceName name : String) : Prop :=
  Text.equalUpToAsciiCase entity.namespaceName namespaceName = true ∧
    entity.IsNamed name

instance (entity : Entity) (name : String) : Decidable (entity.IsNamed name) :=
  inferInstanceAs (Decidable (_ = true))

instance (entity : Entity) (namespaceName name : String) :
    Decidable (entity.IsNamedIn namespaceName name) :=
  inferInstanceAs (Decidable (_ ∧ _))

end Entity

namespace Schema

structure Only (schema : Schema) (P : Entity → Prop) (entity : Entity) :
    Prop where
  declared : entity ∈ schema.entities.items
  holds : P entity
  others : ∀ other ∈ schema.entities.items, P other → other = entity

/-- Of the entities that have a property, one comes first by its full name. -/
structure Foremost (schema : Schema) (P : Entity → Prop) (entity : Entity) :
    Prop where
  declared : entity ∈ schema.entities.items
  holds : P entity
  others : ∀ other ∈ schema.entities.items, P other → other ≠ entity →
    entity.fullName < other.fullName

def Unspelt (schema : Schema) (namespaceName name : String) : Prop :=
  ∀ entity ∈ schema.entities.items,
    entity.fullName ≠ namespaceName ++ "." ++ name

instance (schema : Schema) (namespaceName name : String) :
    Decidable (schema.Unspelt namespaceName name) :=
  inferInstanceAs (Decidable (∀ entity ∈ schema.entities.items, _))

/-- An entity that a target names without ambiguity. -/
inductive Names (schema : Schema) (owner target : String) (entity : Entity) :
    Prop
  /-- By its full name as spelt. -/
  | asSpelt {place name : String}
      (address : Address owner target (some place) name)
      (only : schema.Only (·.fullName = place ++ "." ++ name) entity)
  /-- As the only one of its name in the namespace. -/
  | within {place name : String}
      (address : Address owner target (some place) name)
      (unspelt : schema.Unspelt place name)
      (only : schema.Only (·.IsNamedIn place name) entity)
  /-- As the only one of its name, where there is no namespace to look in. -/
  | anywhere {name : String} (address : Address owner target none name)
      (only : schema.Only (·.IsNamed name) entity)
  /-- As the only one of its name, where the namespace of the owner has none. -/
  | elsewhere {place name : String}
      (address : Address owner target (some place) name)
      (short : '.' ∉ target.toList) (unspelt : schema.Unspelt place name)
      (absent : ∀ other ∈ schema.entities.items, ¬other.IsNamedIn place name)
      (only : schema.Only (·.IsNamed name) entity)

/-- Several entities of a namespace could be meant by a target, none of them as
spelt. -/
inductive Contested (schema : Schema) (owner target : String) : Prop
  | between {place name : String} {entity rival : Entity}
      (address : Address owner target (some place) name)
      (unspelt : schema.Unspelt place name)
      (declared : entity ∈ schema.entities.items)
      (declaredToo : rival ∈ schema.entities.items) (different : entity ≠ rival)
      (named : entity.IsNamedIn place name)
      (namedToo : rival.IsNamedIn place name)

variable {schema : Schema} {owner target place name : String} {entity : Entity}

theorem Foremost.eq {P : Entity → Prop} (first : schema.Foremost P entity)
    {other : Entity} (again : schema.Foremost P other) : entity = other := by
  by_contra different
  exact String.lt_asymm (first.others other again.declared again.holds
    (Ne.symm different))
    (again.others entity first.declared first.holds different)

theorem Only.foremost {P : Entity → Prop} (only : schema.Only P entity) :
    schema.Foremost P entity :=
  ⟨only.declared, only.holds, fun other declared holds different =>
    absurd (only.others other declared holds) different⟩

theorem Foremost.only_or_rival {P : Entity → Prop}
    (first : schema.Foremost P entity) :
    schema.Only P entity ∨
      ∃ rival ∈ schema.entities.items, rival ≠ entity ∧ P rival := by
  by_cases alone : ∀ rival ∈ schema.entities.items, P rival → rival = entity
  · exact .inl ⟨first.declared, first.holds, alone⟩
  · push Not at alone
    obtain ⟨rival, declared, holds, different⟩ := alone
    exact .inr ⟨rival, declared, different, holds⟩

theorem nodup_entities (schema : Schema) : schema.entities.items.Nodup :=
  schema.entities.nodup_keys.of_map

theorem eq_of_fullName_eq {other : Entity}
    (declared : entity ∈ schema.entities.items)
    (declaredToo : other ∈ schema.entities.items)
    (same : entity.fullName = other.fullName) : entity = other :=
  schema.entities.eq_of_key_eq declared declaredToo same

theorem only_or_unspelt (schema : Schema) (place name : String) :
    (∃ entity, schema.Only (·.fullName = place ++ "." ++ name) entity) ∨
      schema.Unspelt place name := by
  by_cases spelt : ∃ entity ∈ schema.entities.items,
    entity.fullName = place ++ "." ++ name
  · obtain ⟨entity, declared, same⟩ := spelt
    exact .inl ⟨entity, declared, same, fun other declaredToo sameToo =>
      eq_of_fullName_eq declaredToo declared (sameToo.trans same.symm)⟩
  · exact .inr fun entity declared same => spelt ⟨entity, declared, same⟩

theorem contains_eq_true_iff {fullName : String} :
    schema.entities.contains fullName = true ↔
      ∃ entity ∈ schema.entities.items, entity.fullName = fullName := by
  rw [Index.contains, Option.isSome_iff_exists]
  simp only [Index.get?_eq_some_iff]

theorem filter_eq_singleton_iff {p : Entity → Bool} :
    schema.entities.items.filter p = [entity] ↔
      schema.Only (p · = true) entity := by
  constructor
  · intro single
    have members : ∀ other, other ∈ schema.entities.items ∧ p other = true ↔
        other = entity := by
      intro other
      rw [← List.mem_filter, single, List.mem_singleton]
    have own := (members entity).mpr rfl
    exact ⟨own.1, own.2,
      fun other declared holds => (members other).mp ⟨declared, holds⟩⟩
  · intro only
    have distinct := schema.nodup_entities.filter p
    refine List.perm_singleton.mp
      ((List.perm_ext_iff_of_nodup distinct (List.nodup_singleton _)).mpr
        fun other => ?_)
    rw [List.mem_filter, List.mem_singleton]
    constructor
    · rintro ⟨declared, holds⟩
      exact only.others other declared holds
    · rintro rfl
      exact ⟨only.declared, only.holds⟩

theorem resolveShort_eq_some_iff {fullName : String} :
    schema.resolveShort name = some fullName ↔
      ∃ entity, schema.Only (·.IsNamed name) entity ∧
        entity.fullName = fullName := by
  rw [resolveShort]
  constructor
  · intro found
    split at found
    next entity single =>
      exact ⟨entity, filter_eq_singleton_iff.mp single, Option.some.inj found⟩
    next => cases found
  · rintro ⟨entity, only, rfl⟩
    rw [filter_eq_singleton_iff.mpr only]

theorem find?_eq_some_iff {p : Entity → Bool} :
    schema.entities.items.find? p = some entity ↔
      schema.Foremost (p · = true) entity := by
  have foremost : ∀ {entity}, schema.entities.items.find? p = some entity →
      schema.Foremost (p · = true) entity := by
    intro entity found
    obtain ⟨holds, before, after, split, none⟩ :=
      List.find?_eq_some_iff_append.mp found
    have ascending := schema.entities.ascending
    rw [split, List.pairwise_append, List.pairwise_cons] at ascending
    refine ⟨List.mem_of_find?_eq_some found, holds, ?_⟩
    intro other declared holdsToo different
    rw [split, List.mem_append, List.mem_cons] at declared
    -- Entities are kept in the order of their full names, so that a smaller one
    -- would have been found.
    rcases declared with earlier | rfl | later
    · simpa [holdsToo] using none other earlier
    · exact absurd rfl different
    · exact compareOfLessAndEq_eq_lt.mp (ascending.2.1.1 other later)
  refine ⟨foremost, fun first => ?_⟩
  obtain ⟨other, found⟩ := Option.isSome_iff_exists.mp
    (List.find?_isSome.mpr ⟨entity, first.declared, first.holds⟩)
  rw [found, (foremost found).eq first]

theorem resolveIn_asSpelt
    (only : schema.Only (·.fullName = place ++ "." ++ name) entity) :
    schema.resolveIn place name = some entity.fullName := by
  rw [resolveIn,
    if_pos (contains_eq_true_iff.mpr ⟨entity, only.declared, only.holds⟩),
    only.holds]

theorem resolveIn_of_unspelt (unspelt : schema.Unspelt place name) :
    schema.resolveIn place name = (schema.entities.items.find? fun entity =>
      Text.equalUpToAsciiCase entity.namespaceName place &&
        Text.equalUpToAsciiCase entity.name name).map Entity.fullName := by
  rw [resolveIn, if_neg]
  rw [contains_eq_true_iff]
  rintro ⟨entity, declared, same⟩
  exact unspelt entity declared same

theorem resolveIn_eq_some_iff (unspelt : schema.Unspelt place name)
    {fullName : String} :
    schema.resolveIn place name = some fullName ↔
      ∃ entity, schema.Foremost (·.IsNamedIn place name) entity ∧
        entity.fullName = fullName := by
  rw [resolveIn_of_unspelt unspelt, Option.map_eq_some_iff]
  simp only [find?_eq_some_iff, Bool.and_eq_true]
  rfl

theorem resolveIn_eq_none_iff (unspelt : schema.Unspelt place name) :
    schema.resolveIn place name = none ↔
      ∀ other ∈ schema.entities.items, ¬other.IsNamedIn place name := by
  rw [resolveIn_of_unspelt unspelt, Option.map_eq_none_iff, List.find?_eq_none]
  simp only [Bool.and_eq_true]
  rfl

theorem resolve_homeless (trimmed : Text.trim target = target)
    (nonempty : target ≠ "") (homeless : Text.trim owner = "") :
    schema.resolve owner target = match qualifier? target with
    | some (before, after) =>
      if Text.trim after = "" then none
      else schema.resolveIn (Text.trim before) (Text.trim after)
    | none => schema.resolveShort target := by
  cases cut : qualifier? target with
  | none =>
      simp only [resolve, trimmed, homeless, nonempty, cut, if_false, ne_eq,
        not_true_eq_false]
  | some parts =>
      simp only [resolve, trimmed, homeless, nonempty, cut, if_false, ne_eq,
        not_true_eq_false]

theorem resolve_placed (trimmed : Text.trim target = target)
    (nonempty : target ≠ "") (home : Text.trim owner ≠ "") :
    schema.resolve owner target =
      schema.resolveIn (Text.trim owner) target := by
  simp only [resolve, trimmed, nonempty, home, if_false, ne_eq,
    not_false_eq_true, if_true]

theorem resolveTarget_of_place (trimmed : Text.trim target = target)
    (nonempty : target ≠ "")
    (address : Address owner target (some place) name) :
    schema.resolveTarget owner target = if name = "" then none
    else (schema.resolveIn place name).or
      (if '.' ∈ target.toList then none else schema.resolveShort name) := by
  rw [resolveTarget, trimmed]
  cases address with
  | spelt some first =>
      rw [resolve_homeless trimmed nonempty Text.trim_empty,
        qualifier?_eq_some some first]
      simp
  | own short home =>
      rw [resolve_homeless trimmed nonempty Text.trim_empty,
        resolve_placed trimmed nonempty home, qualifier?_of_short short]
      simp only [List.contains_eq_mem, short, decide_false, Bool.false_eq_true,
        if_false, nonempty]
      cases schema.resolveIn (Text.trim owner) target <;> rfl

theorem resolveTarget_of_no_place (trimmed : Text.trim target = target)
    (nonempty : target ≠ "") (address : Address owner target none name) :
    schema.resolveTarget owner target = schema.resolveShort name := by
  rw [resolveTarget, trimmed]
  cases address with
  | nowhere short homeless =>
      rw [resolve_homeless trimmed nonempty homeless,
        resolve_homeless trimmed nonempty Text.trim_empty,
        qualifier?_of_short short]
      cases schema.resolveShort target <;> simp
  | headless =>
      rw [resolve_homeless trimmed nonempty Text.trim_empty,
        qualifier?_headless]
      simp

theorem resolveTarget_trim (owner target : String) :
    schema.resolveTarget owner (Text.trim target) =
      schema.resolveTarget owner target := by
  rw [resolveTarget, resolveTarget, Text.trim_idempotent]

theorem Names.declared (names : schema.Names owner target entity) :
    entity ∈ schema.entities.items := by
  cases names with
  | asSpelt _ only => exact only.declared
  | within _ _ only => exact only.declared
  | anywhere _ only => exact only.declared
  | elsewhere _ _ _ _ only => exact only.declared

theorem Names.resolveTarget_eq (trimmed : Text.trim target = target)
    (nonempty : target ≠ "")
    (resolved : (schema.resolveTarget owner target).isSome = true)
    (names : schema.Names owner target entity) :
    schema.resolveTarget owner target = some entity.fullName := by
  have placed : ∀ {place name : String},
      Address owner target (some place) name → name ≠ "" := by
    rintro place name address rfl
    simp [resolveTarget_of_place trimmed nonempty address] at resolved
  cases names with
  | asSpelt address only =>
      rw [resolveTarget_of_place trimmed nonempty address,
        if_neg (placed address), resolveIn_asSpelt only, Option.some_or]
  | within address unspelt only =>
      have found :=
        (resolveIn_eq_some_iff unspelt).mpr ⟨entity, only.foremost, rfl⟩
      rw [resolveTarget_of_place trimmed nonempty address,
        if_neg (placed address), found, Option.some_or]
  | anywhere address only =>
      rw [resolveTarget_of_no_place trimmed nonempty address]
      exact resolveShort_eq_some_iff.mpr ⟨entity, only, rfl⟩
  | elsewhere address short unspelt absent only =>
      rw [resolveTarget_of_place trimmed nonempty address,
        if_neg (placed address), if_neg short,
        (resolveIn_eq_none_iff unspelt).mpr absent, Option.none_or]
      exact resolveShort_eq_some_iff.mpr ⟨entity, only, rfl⟩

theorem Names.not_contested (names : schema.Names owner target entity) :
    ¬schema.Contested owner target := by
  rintro ⟨address, unspelt, declared, declaredToo, different, named, namedToo⟩
  cases names with
  | asSpelt again only =>
      obtain ⟨⟨⟩, rfl⟩ := address.unique again
      exact unspelt entity only.declared only.holds
  | within again _ only =>
      obtain ⟨⟨⟩, rfl⟩ := address.unique again
      exact different ((only.others _ declared named).trans
        (only.others _ declaredToo namedToo).symm)
  | anywhere again => cases (address.unique again).1
  | elsewhere again _ _ absent =>
      obtain ⟨⟨⟩, rfl⟩ := address.unique again
      exact absent _ declared named

theorem names_or_contested (trimmed : Text.trim target = target)
    (nonempty : target ≠ "") {fullName : String}
    (resolved : schema.resolveTarget owner target = some fullName) :
    (∃ entity, schema.Names owner target entity) ∨
      schema.Contested owner target ∧
        ∃ place name entity, Address owner target (some place) name ∧
          schema.Foremost (·.IsNamedIn place name) entity ∧
          entity.fullName = fullName := by
  obtain ⟨place?, name, address⟩ := Address.exists owner target
  cases place? with
  | none =>
      rw [resolveTarget_of_no_place trimmed nonempty address,
        resolveShort_eq_some_iff] at resolved
      obtain ⟨entity, only, -⟩ := resolved
      exact .inl ⟨entity, .anywhere address only⟩
  | some place =>
      rw [resolveTarget_of_place trimmed nonempty address] at resolved
      split at resolved
      next => cases resolved
      next =>
        rcases schema.only_or_unspelt place name with ⟨entity, only⟩ | unspelt
        · exact .inl ⟨entity, .asSpelt address only⟩
        cases found : schema.resolveIn place name with
        | none =>
            have absent := (resolveIn_eq_none_iff unspelt).mp found
            rw [found, Option.none_or] at resolved
            split at resolved
            next => cases resolved
            next short =>
              obtain ⟨entity, only, -⟩ := resolveShort_eq_some_iff.mp resolved
              exact .inl ⟨entity, .elsewhere address short unspelt absent only⟩
        | some other =>
            rw [found, Option.some_or] at resolved
            obtain rfl := Option.some.inj resolved
            obtain ⟨entity, first, rfl⟩ :=
              (resolveIn_eq_some_iff unspelt).mp found
            rcases first.only_or_rival with only | ⟨rival, declared, different,
              named⟩
            · exact .inl ⟨entity, .within address unspelt only⟩
            · exact .inr ⟨.between address unspelt first.declared declared
                different.symm first.holds named,
                place, name, entity, address, first, rfl⟩

end Schema

namespace Schema

theorem target_of_lint {schema : Schema} (clean : schema.lint = [])
    {entity : Entity} (declared : entity ∈ schema.entities.items)
    {field : Field} (member : field ∈ entity.fields) {target : String}
    (refers : field.type.target? = some target) :
    Text.trim target ≠ "" ∧
      (schema.resolveTarget entity.namespaceName target).isSome = true := by
  have flaws := (lint_eq_nil_iff.mp clean entity declared).1 field member
  simp only [fieldFlaws, refers, targetFlaws, List.append_eq_nil_iff] at flaws
  obtain ⟨⟨flaws, -⟩, -⟩ := flaws
  split at flaws
  next => cases flaws
  next nonempty =>
    split at flaws
    next => cases flaws
    next resolved =>
      rw [Bool.not_eq_true, Option.isNone_eq_false_iff] at resolved
      exact ⟨nonempty, resolved⟩

/-- In a schema without flaws, every target of a reference field names exactly
one entity and is resolved to it, unless it is contested; a contested target is
resolved to the first of the entities that could be meant. -/
theorem targets_named_iff (schema : Schema) (clean : schema.lint = [])
    {entity : Entity} (declared : entity ∈ schema.entities.items)
    {field : Field} (member : field ∈ entity.fields) {target : String}
    (refers : field.type.target? = some target) :
    ((∃ named, schema.Names entity.namespaceName (Text.trim target) named ∧
      (∀ other, schema.Names entity.namespaceName (Text.trim target) other →
        other = named) ∧
      schema.resolveTarget entity.namespaceName target = some named.fullName) ↔
      ¬schema.Contested entity.namespaceName (Text.trim target)) ∧
      (schema.Contested entity.namespaceName (Text.trim target) →
        ∃ place name first,
          Address entity.namespaceName (Text.trim target) (some place) name ∧
            schema.Foremost (·.IsNamedIn place name) first ∧
            schema.resolveTarget entity.namespaceName target =
              some first.fullName) := by
  obtain ⟨nonempty, resolved⟩ := target_of_lint clean declared member refers
  have trimmed := Text.trim_idempotent target
  rw [← resolveTarget_trim] at resolved ⊢
  obtain ⟨fullName, found⟩ := Option.isSome_iff_exists.mp resolved
  have outcome := names_or_contested trimmed nonempty found
  refine ⟨⟨?_, fun uncontested => ?_⟩, fun contested => ?_⟩
  · rintro ⟨named, names, -⟩
    exact names.not_contested
  · obtain ⟨named, names⟩ :=
      outcome.resolve_right fun contested => uncontested contested.1
    have own := names.resolveTarget_eq trimmed nonempty resolved
    refine ⟨named, names, fun other again => ?_, own⟩
    have same :=
      (again.resolveTarget_eq trimmed nonempty resolved).symm.trans own
    exact eq_of_fullName_eq again.declared names.declared (Option.some.inj same)
  · obtain ⟨-, place, name, first, address, foremost, rfl⟩ :=
      outcome.resolve_left fun ⟨_, names⟩ => names.not_contested contested
    exact ⟨place, name, first, address, foremost, found⟩

end Schema

def Entity.note (spelling : String) : Entity :=
  ⟨"crm", spelling, [], []⟩

def Entity.order : Entity :=
  ⟨"crm", "Order", [{ name := "about", type := ⟨.reference "note", false⟩ },
    { name := "on", type := ⟨.reference "Note", false⟩ }], []⟩

namespace Schema

def ordering : Schema where
  entities := .ofList [.order, .note "Note", .note "NOTE"]

theorem ordering_address (name : String) (short : '.' ∉ name.toList) :
    Address "crm" name (some (Text.trim "crm")) name :=
  .own short (by decide +kernel)

theorem ordering_contested : ordering.Contested "crm" (Text.trim "note") := by
  have different : Entity.note "NOTE" ≠ .note "Note" :=
    fun same => absurd (congrArg Entity.name same) (by decide)
  exact .between (ordering_address _ (by decide +kernel)) (by decide +kernel)
    (.head _) (.tail _ (.head _))
    different (by decide +kernel) (by decide +kernel)

theorem ordering_targets :
    ordering.lint = [] ∧ (∃ note, ordering.Names "crm" (Text.trim "Note") note ∧
      ordering.resolveTarget "crm" "Note" = some note.fullName) ∧
      (¬∃ note, ordering.Names "crm" (Text.trim "note") note ∧ (∀ other,
        ordering.Names "crm" (Text.trim "note") other → other = note) ∧
        ordering.resolveTarget "crm" "note" = some note.fullName) ∧
      ∃ place name first, Address "crm" (Text.trim "note") (some place) name ∧
        ordering.Foremost (·.IsNamedIn place name) first ∧
        ordering.resolveTarget "crm" "note" = some first.fullName := by
  have clean : ordering.lint = [] := by decide +kernel
  have declared : Entity.order ∈ ordering.entities.items :=
    .tail _ (.tail _ (.head _))
  obtain ⟨named_iff, first⟩ :=
    targets_named_iff ordering clean declared (.head _) rfl
  obtain ⟨spelt_iff, -⟩ :=
    targets_named_iff ordering clean declared (.tail _ (.head _)) rfl
  have uncontested : ¬ordering.Contested "crm" (Text.trim "Note") := by
    rintro ⟨address, unspelt, -, -, -, -, -⟩
    obtain ⟨⟨⟩, rfl⟩ := address.unique (ordering_address _ (by decide +kernel))
    exact absurd unspelt (by decide +kernel)
  obtain ⟨note, names, -, resolved⟩ := spelt_iff.mpr uncontested
  exact ⟨clean, ⟨note, names, resolved⟩,
    fun named => named_iff.mp named ordering_contested,
    first ordering_contested⟩

theorem not_always_named :
    ¬∀ schema : Schema, schema.lint = [] →
      ∀ entity ∈ schema.entities.items, ∀ field ∈ entity.fields,
        ∀ target, field.type.target? = some target →
          ∃ named, schema.Names entity.namespaceName (Text.trim target) named ∧
            schema.resolveTarget entity.namespaceName target =
              some named.fullName := by
  intro always
  have declared : Entity.order ∈ ordering.entities.items :=
    .tail _ (.tail _ (.head _))
  obtain ⟨_, names, -⟩ :=
    always ordering (by decide +kernel) .order declared _ (.head _) _ rfl
  exact names.not_contested ordering_contested

end Schema

end RecordStore
