import RecordStore.Proofs.Store
import RecordStore.Query.Params

namespace RecordStore

theorem map_eq_ok_iff {ε α β : Type} {f : α → β} {x : Except ε α} {b : β} :
    x.map f = .ok b ↔ ∃ a, x = .ok a ∧ f a = b := by
  cases x <;> simp [Except.map]

inductive Agree {ε σ : Type} (R : σ → σ → Prop) : Except ε σ → Except ε σ → Prop
  | failed (fault other : ε) : Agree R (.error fault) (.error other)
  | succeeded {s t : σ} (related : R s t) : Agree R (.ok s) (.ok t)

section

variable {ε α σ τ : Type} {R : σ → σ → Prop}

theorem Agree.trans (equivalence : Equivalence R) {x y z : Except ε σ}
    (first : Agree R x y) (second : Agree R y z) : Agree R x z := by
  cases first with
  | failed =>
      cases second
      exact .failed ..
  | succeeded related =>
      cases second with
      | succeeded next => exact .succeeded (equivalence.trans related next)

theorem Agree.bind {S : τ → τ → Prop} {x y : Except ε σ} (first : Agree R x y)
    {f g : σ → Except ε τ} (next : ∀ {s t}, R s t → Agree S (f s) (g t)) :
    Agree S (x >>= f) (y >>= g) := by
  cases first with
  | failed => exact .failed ..
  | succeeded related => exact next related

variable {step : σ → α → Except ε σ}

theorem Agree.foldlM
    (respects : ∀ a {s t}, R s t → Agree R (step s a) (step t a))
    (items : List α) {s t : σ} (related : R s t) :
    Agree R (items.foldlM step s) (items.foldlM step t) := by
  induction items generalizing s t with
  | nil => exact .succeeded related
  | cons a rest ih =>
      rw [List.foldlM_cons, List.foldlM_cons]
      exact (respects a related).bind ih

/-- A fold ends alike for every order of its items, if its steps commute for
items that are apart. -/
theorem Agree.foldlM_perm {Apart : α → α → Prop} (equivalence : Equivalence R)
    (symmetric : ∀ {a b}, Apart a b → Apart b a)
    (respects : ∀ a {s t}, R s t → Agree R (step s a) (step t a))
    (commutes : ∀ {a b}, Apart a b →
      ∀ s, Agree R (step s a >>= (step · b)) (step s b >>= (step · a)))
    {items others : List α} (perm : items.Perm others)
    (apart : items.Pairwise Apart) {s t : σ} (related : R s t) :
    Agree R (items.foldlM step s) (others.foldlM step t) := by
  induction perm generalizing s t with
  | nil => exact .succeeded related
  | cons a _ ih =>
      rw [List.foldlM_cons, List.foldlM_cons]
      exact (respects a related).bind (ih apart.of_cons)
  | swap a b rest =>
      -- The two steps change places where they start from s; only then is t
      -- taken for s.
      have swapped : Agree R (step s b >>= (step · a))
          (step t a >>= (step · b)) :=
        (commutes (List.rel_of_pairwise_cons apart (List.mem_cons_self ..))
          s).trans equivalence ((respects a related).bind (respects b))
      simp only [List.foldlM_cons, ← bind_assoc]
      exact swapped.bind (Agree.foldlM respects rest)
  | trans first _ ih ihNext =>
      exact (ih apart related).trans equivalence
        (ihNext (first.pairwise apart symmetric) (equivalence.refl t))

variable {read : α → Except ε τ} {change : τ → σ → σ}

theorem Agree.of_respectful
    (steps : ∀ s a, step s a = (read a).map (change · s))
    (respects : ∀ c {s t}, R s t → R (change c s) (change c t)) (a : α)
    {s t : σ} (related : R s t) : Agree R (step s a) (step t a) := by
  rw [steps, steps]
  cases read a with
  | error fault => exact .failed ..
  | ok c => exact .succeeded (respects c related)

theorem Agree.of_commuting (steps : ∀ s a, step s a = (read a).map (change · s))
    {a b : α}
    (commutes : ∀ {c d}, read a = .ok c → read b = .ok d →
      ∀ s, R (change d (change c s)) (change c (change d s))) (s : σ) :
    Agree R (step s a >>= (step · b)) (step s b >>= (step · a)) := by
  simp only [steps]
  cases first : read a with
  | error fault =>
      cases second : read b with
      | error other => exact .failed ..
      | ok d => exact .failed ..
  | ok c =>
      cases second : read b with
      | error other => exact .failed ..
      | ok d => exact .succeeded (commutes first second s)

end

inductive Filter.Part where
  | nothing
  | text (text : String)
  | condition (condition : Condition)

namespace Filter

def Part.read (param : String × String) : Except QueryFault Part :=
  if Text.trim param.1 = "q" then .ok (.text param.2)
  else if Text.trim param.1 = "" ||
    reservedParams.contains (Text.trim param.1) then
    .ok .nothing
  else (Condition.ofParam (Text.trim param.1) param.2).map .condition

def Part.addTo (part : Part) (filter : Filter) : Filter :=
  match part with
  | .nothing => filter
  | .text t => filter.withText t
  | .condition c => { filter with conditions := filter.conditions ++ [c] }

theorem addParam_eq (filter : Filter) (param : String × String) :
    filter.addParam param = (Part.read param).map (·.addTo filter) := by
  unfold addParam Part.read
  dsimp only
  split
  next => rfl
  next =>
    split
    next => rfl
    next => cases Condition.ofParam (Text.trim param.1) param.2 <;> rfl

theorem Part.key_of_read_text {param : String × String} {t : String}
    (found : read param = .ok (.text t)) : Text.trim param.1 = "q" := by
  unfold read at found
  split at found
  next key => exact key
  next =>
    split at found
    next => cases found
    next =>
      obtain ⟨condition, -, other⟩ := map_eq_ok_iff.mp found
      cases other

/-- The same text, and the same conditions in some order. -/
structure Alike (filter other : Filter) : Prop where
  conditions : filter.conditions.Perm other.conditions
  text : filter.text = other.text

theorem alike_equivalence : Equivalence Alike where
  refl _ := ⟨.refl _, rfl⟩
  symm alike := ⟨alike.conditions.symm, alike.text.symm⟩
  trans first second := ⟨first.conditions.trans second.conditions,
    first.text.trans second.text⟩

theorem Alike.addTo (part : Part) {filter other : Filter}
    (alike : filter.Alike other) :
    (part.addTo filter).Alike (part.addTo other) := by
  cases part with
  | nothing => exact alike
  | text text => exact ⟨alike.conditions, rfl⟩
  | condition condition => exact ⟨alike.conditions.append_right _, alike.text⟩

theorem Part.addTo_comm {a b : String × String}
    (apart : Text.trim a.1 ≠ Text.trim b.1) {c d : Part}
    (first : read a = .ok c) (second : read b = .ok d) (filter : Filter) :
    (d.addTo (c.addTo filter)).Alike (c.addTo (d.addTo filter)) := by
  cases c with
  | nothing => exact alike_equivalence.refl _
  | text text =>
      cases d with
      | text other =>
          exact absurd ((key_of_read_text first).trans
            (key_of_read_text second).symm) apart
      | nothing | condition => exact ⟨.refl _, rfl⟩
  | condition condition =>
      cases d with
      | nothing | text => exact ⟨.refl _, rfl⟩
      | condition other =>
          refine ⟨?_, rfl⟩
          simpa [addTo] using (List.Perm.swap other condition []).append_left
            filter.conditions

theorem Alike.accepts_eq {filter other : Filter} (alike : filter.Alike other)
    (entity : Entity) (record : Record) :
    filter.accepts entity record = other.accepts entity record := by
  rw [accepts, accepts, alike.text, alike.conditions.all_eq]

end Filter

inductive Query.Setting where
  | nothing
  | limit (limit : Nat)
  | offset (offset : Nat)
  | nulls (nulls : NullPlacement)
  | sort (keys : List SortKey)
  | order (descending : Bool)

namespace Query

namespace Setting

def read (param : String × String) : Except QueryFault Setting :=
  let value := Text.trim param.2
  match Text.trim param.1 with
  | "limit" => (readCount "limit" value).map .limit
  | "offset" => (readCount "offset" value).map .offset
  | "nulls" => ((NullPlacement.read value).mapError .badNulls).map .nulls
  | "sort" => .ok (.sort (SortKey.readList value))
  | "order" => (readDescending value).map .order
  | _ => .ok .nothing

def addTo (setting : Setting) (part : Unfinished) : Unfinished :=
  match setting with
  | .nothing => part
  | .limit n => { part with query := { part.query with limit := some n } }
  | .offset n => { part with query := { part.query with offset := n } }
  | .nulls placement =>
    { part with query := { part.query with nulls := some placement } }
  | .sort keys => { part with query := { part.query with sort := keys } }
  | .order descending => { part with descending }

def key? : Setting → Option String
  | .nothing => none
  | .limit _ => some "limit"
  | .offset _ => some "offset"
  | .nulls _ => some "nulls"
  | .sort _ => some "sort"
  | .order _ => some "order"

theorem key?_of_read {param : String × String} {setting : Setting}
    (found : read param = .ok setting) :
    ∀ key ∈ setting.key?, Text.trim param.1 = key := by
  unfold read at found
  dsimp only at found
  split at found
  case h_1 own | h_2 own | h_3 own | h_5 own =>
    obtain ⟨_, -, rfl⟩ := map_eq_ok_iff.mp found
    rintro key ⟨⟩
    exact own
  case h_4 own =>
    cases found
    rintro key ⟨⟩
    exact own
  case h_6 =>
    cases found
    rintro key ⟨⟩

theorem addTo_comm {a b : Setting} (apart : ∀ key ∈ a.key?, key ∉ b.key?)
    (part : Unfinished) : b.addTo (a.addTo part) = a.addTo (b.addTo part) := by
  cases a <;> cases b <;> first | rfl | exact absurd rfl (apart _ rfl)

end Setting

theorem Unfinished.addParam_eq (part : Unfinished) (param : String × String) :
    part.addParam param = (Setting.read param).map (·.addTo part) := by
  unfold addParam
  dsimp only
  split
  next own =>
    simp only [Setting.read, own]
    cases readCount "limit" (Text.trim param.2) <;> rfl
  next own =>
    simp only [Setting.read, own]
    cases readCount "offset" (Text.trim param.2) <;> rfl
  next own =>
    simp only [Setting.read, own]
    cases NullPlacement.read (Text.trim param.2) <;> rfl
  next own =>
    simp only [Setting.read, own]
    rfl
  next own =>
    simp only [Setting.read, own]
    cases readDescending (Text.trim param.2) <;> rfl
  next =>
    simp only [Setting.read, *]
    rfl

/-- Queries that differ in their filters only, which are alike. -/
inductive Alike (query : Query) : Query → Prop
  | intro {filter : Filter} (alike : query.filter.Alike filter) :
      Alike query { query with filter }

inductive Unfinished.Alike (part : Unfinished) : Unfinished → Prop
  | intro {query : Query} (alike : part.query.Alike query) :
      Alike part { part with query }

theorem Unfinished.alike_equivalence : Equivalence Unfinished.Alike where
  refl _ := ⟨⟨Filter.alike_equivalence.refl _⟩⟩
  symm := by
    rintro _ _ ⟨⟨alike⟩⟩
    exact ⟨⟨Filter.alike_equivalence.symm alike⟩⟩
  trans := by
    rintro _ _ _ ⟨⟨first⟩⟩ ⟨⟨second⟩⟩
    exact ⟨⟨Filter.alike_equivalence.trans first second⟩⟩

theorem Unfinished.Alike.addTo (setting : Setting) {part other : Unfinished}
    (alike : part.Alike other) :
    (setting.addTo part).Alike (setting.addTo other) := by
  obtain ⟨⟨alike⟩⟩ := alike
  cases setting <;> exact ⟨⟨alike⟩⟩

theorem Unfinished.Alike.finish {part other : Unfinished}
    (alike : part.Alike other) : part.finish.Alike other.finish := by
  obtain ⟨⟨alike⟩⟩ := alike
  unfold Unfinished.finish
  split <;> exact ⟨alike⟩

theorem Alike.page_eq {query other : Query} (alike : query.Alike other)
    (store : Store) (settings : Settings) (entity : Entity) :
    store.page settings entity query = store.page settings entity other := by
  obtain ⟨alike⟩ := alike
  have accepted : query.filter.accepts entity = Filter.accepts _ entity :=
    funext (alike.accepts_eq entity)
  simp only [Store.page, Store.found, Store.matching, accepted]

end Query

def Params.Apart (a b : String × String) : Prop :=
  Text.trim a.1 ≠ Text.trim b.1

section

variable {params others : Params} (perm : params.Perm others)
  (apart : params.Pairwise Params.Apart)

include perm apart

theorem Filter.ofParams_agree :
    Agree Alike (ofParams params) (ofParams others) :=
  Agree.foldlM_perm alike_equivalence Ne.symm
    (Agree.of_respectful addParam_eq fun part _ _ alike => alike.addTo part)
    (fun apart => Agree.of_commuting addParam_eq fun first second =>
      Part.addTo_comm apart first second) perm apart (alike_equivalence.refl _)

theorem Query.ofParams_agree :
    Agree Alike (ofParams params) (ofParams others) := by
  refine (Filter.ofParams_agree perm apart).bind fun alike => ?_
  refine Agree.bind (R := Unfinished.Alike) ?_ fun alike =>
    .succeeded alike.finish
  refine Agree.foldlM_perm Unfinished.alike_equivalence Ne.symm
    (Agree.of_respectful Unfinished.addParam_eq fun setting _ _ alike =>
      alike.addTo setting) ?_ perm apart ⟨⟨alike⟩⟩
  intro a b apart
  refine Agree.of_commuting Unfinished.addParam_eq fun first second part => ?_
  rw [Setting.addTo_comm]
  · exact Unfinished.alike_equivalence.refl _
  · intro key own other
    exact apart ((Setting.key?_of_read first key own).trans
      (Setting.key?_of_read second key other).symm)

end

/-- Parameters whose keys are distinct are read in every order or in none, and
whatever the order, the query that is read gives the same page of every
store. -/
theorem Query.ofParams_perm {params others : Params} (perm : params.Perm others)
    (distinct : (params.map fun param => Text.trim param.1).Nodup) :
    (∃ fault other, ofParams params = .error fault ∧
      ofParams others = .error other) ∨
      ∃ query other, ofParams params = .ok query ∧ ofParams others = .ok other ∧
        ∀ (store : Store) (settings : Settings) (entity : Entity),
          store.page settings entity query =
            store.page settings entity other := by
  have apart : params.Pairwise Params.Apart := by
    rwa [List.Nodup, List.pairwise_map] at distinct
  generalize readFirst : ofParams params = first,
    readSecond : ofParams others = second
  have agree := ofParams_agree perm apart
  rw [readFirst, readSecond] at agree
  cases agree with
  | failed fault other => exact .inl ⟨fault, other, rfl, rfl⟩
  | succeeded alike => exact .inr ⟨_, _, rfl, rfl, alike.page_eq⟩

def Params.mixed : Params :=
  [("limit", "1"), (" name__gte", "5"), ("q", "x"), ("order", "desc"),
    ("name", "in:x, y"), ("sort", "name,id")]

theorem Query.mixed_reversed :
    (Params.mixed.map fun param => Text.trim param.1).Nodup ∧
      ∃ query other, ofParams .mixed = .ok query ∧
        ofParams Params.mixed.reverse = .ok other ∧ query ≠ other ∧
        ∀ (store : Store) (settings : Settings) (entity : Entity),
          store.page settings entity query =
            store.page settings entity other := by
  have distinct : (Params.mixed.map fun param => Text.trim param.1).Nodup := by
    decide +kernel
  have read : (ofParams .mixed).isOk = true := by decide +kernel
  have unequal : (ofParams .mixed).toOption ≠
      (ofParams Params.mixed.reverse).toOption := by decide +kernel
  refine ⟨distinct, ?_⟩
  rcases ofParams_perm (List.reverse_perm Params.mixed).symm distinct with
    ⟨fault, -, failed, -⟩ | ⟨query, other, first, second, same⟩
  · rw [failed] at read
    cases read
  · refine ⟨query, other, first, second, ?_, same⟩
    rintro rfl
    exact unequal (by rw [first, second])

end RecordStore
