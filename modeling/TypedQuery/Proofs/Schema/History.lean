import TypedQuery.Proofs.Schema.Registration
import TypedQuery.Schema.BaseScalars

/-!
# Histories of registrations

A schema comes about by registrations that are tried one after the other, each of which is accepted
or refused; one with such a history is `Reached`. What one try can do is said once: it is refused
for one of five reasons and does nothing, or it writes one entry of one table. All that holds of
every schema with a history follows from that, try by try.
-/

namespace TypedQuery

namespace Entries

variable {α : Type}

/-- A value is written under a name: a new name goes to the end, and the value of a name that is
there is replaced where it stands. -/
inductive Writes (name : String) (value : α) : List (String × α) → List (String × α) → Prop
  | added {entries} : name ∉ keys entries → Writes name value entries (entries ++ [(name, value)])
  | replaced {front old back} : name ∉ keys front →
      Writes name value (front ++ (name, old) :: back) (front ++ (name, value) :: back)

section Writes

variable {name key : String} {value first : α} {entries written : List (String × α)}

theorem Writes.cons (h : Writes name value entries written) (other : key ≠ name) :
    Writes name value ((key, first) :: entries) ((key, first) :: written) := by
  have apart {entries : List (String × α)} (new : name ∉ keys entries) :
      name ∉ keys ((key, first) :: entries) :=
    fun named => (List.mem_cons.mp named).elim (fun same => other same.symm) new
  cases h with
  | added new => exact .added (apart new)
  | replaced new => exact .replaced (apart new)

theorem writes_put (entries : List (String × α)) (name : String) (value : α) :
    Writes name value entries (put entries name value) := by
  induction entries with
  | nil => exact .added List.not_mem_nil
  | cons entry rest ih =>
    obtain ⟨key, old⟩ := entry
    by_cases same : key = name
    · subst same
      rw [put, if_pos rfl]
      have new : key ∉ keys ([] : List (String × α)) := List.not_mem_nil
      exact .replaced new
    · rw [put, if_neg same]
      exact ih.cons same

theorem Writes.mem_or_eq (h : Writes name value entries written) {entry : String × α}
    (inside : entry ∈ written) : entry ∈ entries ∨ entry = (name, value) := by
  cases h with
  | added => simpa using inside
  | replaced =>
    obtain held | held := List.mem_append.mp inside
    · exact .inl (List.mem_append_left _ held)
    · obtain same | held := List.mem_cons.mp held
      · exact .inr same
      · exact .inl (List.mem_append_right _ (List.mem_cons_of_mem _ held))

theorem Writes.nodup_keys (h : Writes name value entries written)
    (unique : (keys entries).Nodup) : (keys written).Nodup := by
  cases h with
  | added new => exact put_of_not_mem new value ▸ nodup_keys_put unique name value
  | replaced => simpa [keys] using unique

end Writes

/-- Each name comes once, and each entry stands under its own name. -/
structure Named (own : α → String) (entries : List (String × α)) : Prop where
  unique : (keys entries).Nodup
  own : ∀ entry ∈ entries, entry.1 = own entry.2

theorem named_nil (own : α → String) : Named own [] := ⟨List.nodup_nil, nofun⟩

/-- A value is written into its table under its own name. -/
theorem Named.writes {own : α → String} {entries written : List (String × α)} {value : α}
    (h : Named own entries) (writes : Writes (own value) value entries written) :
    Named own written := by
  refine ⟨writes.nodup_keys h.unique, fun entry inside => ?_⟩
  obtain held | rfl := writes.mem_or_eq inside
  · exact h.own entry held
  · rfl

end Entries

namespace Schema

/-- A registration is refused, for a name that is taken and may not be replaced or for a field
named like the arguments. A type is looked at before the table is. -/
inductive Refuses (schema : Schema) : Registration → SetupFault → Prop
  | scalar {scalar} : scalar.name ∈ Entries.keys schema.scalars →
      Refuses schema (.scalar scalar false) (.duplicate "ScalarType" scalar.name)
  | reserved {type replace} : argsKey ∈ Entries.keys type.fields →
      Refuses schema (.object type replace) (.reservedField type.name)
  | object {type} : argsKey ∉ Entries.keys type.fields →
      type.name ∈ Entries.keys schema.objects →
      Refuses schema (.object type false) (.duplicate "ObjectType" type.name)
  | input {type} : type.name ∈ Entries.keys schema.inputs →
      Refuses schema (.input type false) (.duplicate "InputType" type.name)
  | operation {root} : root.name ∈ Entries.keys schema.operations →
      Refuses schema (.operation root) (.duplicate "RootOperation" root.name)

/-- A registration is accepted: one entry of one table is written, and everything else stays. -/
inductive Accepts (schema : Schema) : Registration → Schema → Prop
  | scalar {scalar override written} :
      (scalar.name ∈ Entries.keys schema.scalars → override = true) →
      Entries.Writes scalar.name scalar schema.scalars written →
      Accepts schema (.scalar scalar override) { schema with scalars := written }
  | object {type replace written} : argsKey ∉ Entries.keys type.fields →
      (type.name ∈ Entries.keys schema.objects → replace = true) →
      Entries.Writes type.name type schema.objects written →
      Accepts schema (.object type replace) { schema with objects := written }
  | input {type replace written} :
      (type.name ∈ Entries.keys schema.inputs → replace = true) →
      Entries.Writes type.name type schema.inputs written →
      Accepts schema (.input type replace) { schema with inputs := written }
  | operation {root} : root.name ∉ Entries.keys schema.operations →
      Accepts schema (.operation root)
        { schema with operations := schema.operations ++ [(root.name, root)] }

/-- Tries a registration. The schema stays as it is if the registration is refused. -/
def attempt (schema : Schema) (registration : Registration) : Schema :=
  match schema.register registration with
  | .ok next => next
  | .error _ => schema

/-- Tries registrations in order, by `attempt`, whichever of them are refused. -/
def attemptAll (schema : Schema) (registrations : List Registration) : Schema :=
  registrations.foldl attempt schema

/-- What trying a registration can come to: the schema `Refuses` it, or `Accepts` it. -/
inductive Tries (schema : Schema) (registration : Registration) : Schema → Prop
  | refused {fault} : schema.register registration = .error (.setup fault) →
      schema.Refuses registration fault → Tries schema registration schema
  | accepted {next} : schema.register registration = .ok next →
      schema.Accepts registration next → Tries schema registration next

variable {schema next : Schema} {registration : Registration}

theorem Refuses.register {fault : SetupFault} (h : schema.Refuses registration fault) :
    schema.register registration = .error (.setup fault) := by
  cases h with
  | scalar taken =>
    simp [Schema.register, addScalar, Entries.has_eq_true_iff.mpr taken]
  | reserved reserved =>
    simp [Schema.register, addObject, Entries.has_eq_true_iff.mpr reserved]
  | object unreserved taken =>
    simp [Schema.register, addObject, Entries.has_eq_true_iff.mpr taken,
      Entries.has_eq_true_iff, unreserved]
  | input taken =>
    simp [Schema.register, addInput, Entries.has_eq_true_iff.mpr taken]
  | operation taken =>
    simp [Schema.register, addOperation, Entries.has_eq_true_iff.mpr taken]

/-- A taken name stands in the way of a registration that may not replace anything. -/
theorem taken_or_free {α : Type} (entries : List (String × α)) (name : String) (replace : Bool) :
    name ∈ Entries.keys entries ∧ replace = false ∨
      (Entries.has entries name && !replace) = false ∧
        (name ∈ Entries.keys entries → replace = true) := by
  rw [← Entries.has_eq_true_iff]
  cases Entries.has entries name <;> cases replace <;> simp

theorem tries_attempt (schema : Schema) (registration : Registration) :
    schema.Tries registration (schema.attempt registration) := by
  have refused {fault : SetupFault} (h : schema.Refuses registration fault) :
      schema.Tries registration (schema.attempt registration) := by
    rw [attempt, h.register]
    exact .refused h.register h
  have accepted {next : Schema} (registered : schema.register registration = .ok next)
      (h : schema.Accepts registration next) :
      schema.Tries registration (schema.attempt registration) := by
    rw [attempt, registered]
    exact .accepted registered h
  cases registration with
  | scalar scalar override =>
    obtain ⟨taken, rfl⟩ | ⟨free, may⟩ :=
      taken_or_free schema.scalars scalar.name override
    · exact refused (.scalar taken)
    · exact accepted (if_neg (by simp [free])) (.scalar may (Entries.writes_put ..))
  | object type replace =>
    by_cases reserved : argsKey ∈ Entries.keys type.fields
    · exact refused (.reserved reserved)
    · obtain ⟨taken, rfl⟩ | ⟨free, may⟩ :=
        taken_or_free schema.objects type.name replace
      · exact refused (.object reserved taken)
      · have unreserved : ¬ Entries.has type.fields argsKey = true :=
          mt Entries.has_eq_true_iff.mp reserved
        exact accepted ((if_neg unreserved).trans (if_neg (by simp [free])))
          (.object reserved may (Entries.writes_put ..))
  | input type replace =>
    obtain ⟨taken, rfl⟩ | ⟨free, may⟩ :=
      taken_or_free schema.inputs type.name replace
    · exact refused (.input taken)
    · exact accepted (if_neg (by simp [free])) (.input may (Entries.writes_put ..))
  | operation root =>
    by_cases taken : root.name ∈ Entries.keys schema.operations
    · exact refused (.operation taken)
    · have free : ¬ Entries.has schema.operations root.name = true :=
        mt Entries.has_eq_true_iff.mp taken
      refine accepted (if_neg free) ?_
      rw [Entries.put_of_not_mem taken]
      exact .operation taken

theorem attempt_eq_or_accepts (schema : Schema) (registration : Registration) :
    schema.attempt registration = schema ∨
      schema.Accepts registration (schema.attempt registration) := by
  have tries : schema.Tries registration (schema.attempt registration) :=
    schema.tries_attempt registration
  generalize schema.attempt registration = after at tries ⊢
  cases tries with
  | refused => exact .inl rfl
  | accepted _ accepts => exact .inr accepts

/-- Each table holds a name once and every entry under its own name, and no object type has a
field named like the arguments. -/
structure Sound (schema : Schema) : Prop where
  scalars : Entries.Named Scalar.name schema.scalars
  objects : Entries.Named ObjectType.name schema.objects
  inputs : Entries.Named InputType.name schema.inputs
  operations : Entries.Named Operation.name schema.operations
  unreserved : ∀ entry ∈ schema.objects, argsKey ∉ Entries.keys entry.2.fields

theorem sound_empty : Sound {} where
  scalars := Entries.named_nil _
  objects := Entries.named_nil _
  inputs := Entries.named_nil _
  operations := Entries.named_nil _
  unreserved := nofun

theorem Sound.of_accepts (h : schema.Sound) (accepts : schema.Accepts registration next) :
    next.Sound := by
  cases accepts with
  | scalar may writes => exact { h with scalars := h.scalars.writes writes }
  | object unreserved may writes =>
    refine { h with objects := h.objects.writes writes, unreserved := fun entry inside => ?_ }
    obtain held | rfl := writes.mem_or_eq inside
    · exact h.unreserved entry held
    · exact unreserved
  | input may writes => exact { h with inputs := h.inputs.writes writes }
  | operation new => exact { h with operations := h.operations.writes (.added new) }

theorem Sound.attempt (h : schema.Sound) (registration : Registration) :
    (schema.attempt registration).Sound := by
  obtain same | accepts := schema.attempt_eq_or_accepts registration
  · rwa [same]
  · exact h.of_accepts accepts

theorem Sound.attemptAll (h : schema.Sound) (registrations : List Registration) :
    (schema.attemptAll registrations).Sound := by
  induction registrations generalizing schema with
  | nil => exact h
  | cons registration rest ih => exact ih (h.attempt registration)

/-- The operations that there are stay at the front of their table. -/
theorem operations_prefix_attempt (schema : Schema) (registration : Registration) :
    schema.operations <+: (schema.attempt registration).operations := by
  obtain same | accepts := schema.attempt_eq_or_accepts registration
  · exact same.symm ▸ List.prefix_rfl
  · generalize schema.attempt registration = after at accepts ⊢
    cases accepts with
    | scalar | object | input => exact List.prefix_rfl
    | operation => exact List.prefix_append ..

theorem operations_prefix_attemptAll (schema : Schema) (registrations : List Registration) :
    schema.operations <+: (schema.attemptAll registrations).operations := by
  induction registrations generalizing schema with
  | nil => exact List.prefix_rfl
  | cons registration rest ih => exact (schema.operations_prefix_attempt registration).trans (ih _)

/-- No later registration takes the place of an operation. -/
theorem operation?_attemptAll {name : String} {root : Operation}
    (found : schema.operation? name = some root) (registrations : List Registration) :
    (schema.attemptAll registrations).operation? name = some root := by
  obtain ⟨more, extended⟩ := schema.operations_prefix_attemptAll registrations
  rw [operation?] at found ⊢
  rw [← extended, Entries.get?_append, found, Option.some_or]

/-- The schemas that come about from `Schema.base` by trying registrations. -/
inductive Reached : Schema → Prop
  | empty : Reached {}
  | base : Reached .base
  | attempt {before : Schema} (registration : Registration) :
      Reached before → Reached (before.attempt registration)

theorem Reached.attemptAll (h : schema.Reached) (registrations : List Registration) :
    (schema.attemptAll registrations).Reached := by
  induction registrations generalizing schema with
  | nil => exact h
  | cons registration rest ih => exact ih (.attempt registration h)

/-- The base scalars might as well have been registered one by one. -/
theorem base_eq_attemptAll : Schema.base = attemptAll {}
    [.scalar .boolean false, .scalar .number false, .scalar .string false] := rfl

theorem Reached.sound (h : schema.Reached) : schema.Sound := by
  induction h with
  | empty => exact sound_empty
  | base => exact base_eq_attemptAll ▸ sound_empty.attemptAll _
  | attempt registration _ ih => exact ih.attempt registration

/-- In every schema that comes about by registrations, accepted or refused, each table holds a name
once and every entry under its own name, and no object type has a field named like the arguments.
The next registration is refused and changes nothing, or changes one entry of its own table. An
operation stays whatever is registered after it. -/
theorem tables_stay_sound (reached : schema.Reached) :
    schema.Sound ∧
      (∀ registration, schema.Tries registration (schema.attempt registration)) ∧
      ∀ name root, schema.operation? name = some root → ∀ registrations,
        (schema.attemptAll registrations).operation? name = some root :=
  ⟨reached.sound, schema.tries_attempt, fun _ _ => operation?_attemptAll⟩

/-- Books stand on shelves, and one operation asks for them. -/
def shelfRegistrations : List Registration :=
  [.object { name := "book" } false, .object { name := "shelf" } false,
    .operation
      { name := "books", signature := { type := .lookup "book" }, resolver := fun _ => pure .null }]

/-- The type of books is replaced where it stands. An operation and a scalar are refused that are
there already, and so is a type with a reserved field. -/
def shelfRevisions : List Registration :=
  let book (key : String) : ObjectType :=
    { name := "book", fields := [(key, .bare (.scalar Scalar.string))] }
  [.object (book "title") true, .scalar Scalar.string false, .object (book argsKey) true,
    .operation
      { name := "books", signature := { type := .lookup "shelf" }
        resolver := fun _ => pure .null }]

theorem tables_stay_sound_shelf :
    ∃ root, (Schema.base.attemptAll shelfRegistrations).operation? "books" = some root ∧
      ((Schema.base.attemptAll shelfRegistrations).attemptAll shelfRevisions).operation? "books"
        = some root ∧
      Entries.keys ((Schema.base.attemptAll shelfRegistrations).attemptAll shelfRevisions).objects
        = ["book", "shelf"] := by
  have reached : (Schema.base.attemptAll shelfRegistrations).Reached :=
    Reached.base.attemptAll shelfRegistrations
  obtain ⟨_, _, stays⟩ := tables_stay_sound reached
  exact ⟨_, rfl, stays "books" _ rfl shelfRevisions, rfl⟩

end Schema

end TypedQuery
