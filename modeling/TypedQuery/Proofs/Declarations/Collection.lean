import TypedQuery.Proofs.Declarations.Exports
import TypedQuery.Proofs.Declarations.Walk

/-!
# The collection of input types

The section of input types is filled while signatures are visited. A slot that leads to an input
type whose name is not in the section reserves the name with an empty record, visits the slots of
the type, which may lead back to the name, and then writes the record of the type in the place that
is reserved. The rules of this recursion are those of `Collects`, a relation between what has been
collected before and after, so that a derivation is a run of the recursion that has come to its end.

There is a derivation for every list of visits: `Consistent.collects`. A visit that goes down takes
away a registered name that has not been reserved, or it goes from a slot to the smaller slots that
it holds. At each point of a nested descent the names that are being written are the reserved ones,
and every other entry is the record of its type. Hence nothing is left reserved at the end, and by
`Collects.matches` the section is what `Declarations.walk` makes of the input types in reach.
-/

namespace TypedQuery.Declarations

variable {schema : Schema}

/-- What has been collected: the section of input types as it stands, and the input types that have
been visited so far, by their names. -/
structure Progress where
  table : List (String × Entry) := []
  visited : List String := []

/-- The record that stands in the place of an input type until its own, its `inputEntry`, is
written. -/
def reserved : Entry := .record none []

namespace Progress

def visit (progress : Progress) (name : String) : Progress :=
  { progress with visited := progress.visited ++ [name] }

def write (progress : Progress) (name : String) (entry : Entry) : Progress :=
  { progress with table := Entries.put progress.table name entry }

@[simp] theorem table_visit (progress : Progress) (name : String) :
    (progress.visit name).table = progress.table := rfl

@[simp] theorem visited_visit (progress : Progress) (name : String) :
    (progress.visit name).visited = progress.visited ++ [name] := rfl

@[simp] theorem table_write (progress : Progress) (name : String) (entry : Entry) :
    (progress.write name entry).table = Entries.put progress.table name entry := rfl

@[simp] theorem visited_write (progress : Progress) (name : String) (entry : Entry) :
    (progress.write name entry).visited = progress.visited := rfl

end Progress

/-- The recursion has come to its end, with what has been collected or with an error. -/
inductive Collects (schema : Schema) : Progress → List Visit → Except Error Progress → Prop
  | done {progress} : Collects schema progress [] (.ok progress)
  | undeclared {progress signature rest name} : signature.type = .lookup name →
      schema.object? name = none →
      Collects schema progress (.signature signature :: rest)
        (.error (.setup (.unknownObject name)))
  | declared {progress signature rest type outcome} :
      schema.resolveOutput signature.type = .ok type →
      Collects schema progress (signature.args.toList.map .slot ++ rest) outcome →
      Collects schema progress (.signature signature :: rest) outcome
  | missing {progress slot rest name} : slot.type = .lookup name → schema.input? name = none →
      Collects schema progress (.slot slot :: rest) (.error (.setup (.unknownInput name)))
  | scalar {progress slot rest scalar outcome} :
      schema.resolveInput slot.type = .ok (.scalar scalar) →
      Collects schema progress rest outcome →
      Collects schema progress (.slot slot :: rest) outcome
  | known {progress slot rest type outcome} :
      schema.resolveInput slot.type = .ok (.input type) →
      type.name ∈ Entries.keys progress.table →
      Collects schema (progress.visit type.name) rest outcome →
      Collects schema progress (.slot slot :: rest) outcome
  | stopped {progress slot rest type error} :
      schema.resolveInput slot.type = .ok (.input type) →
      type.name ∉ Entries.keys progress.table →
      Collects schema ((progress.visit type.name).write type.name reserved)
        ((slots type).map .slot) (.error error) →
      Collects schema progress (.slot slot :: rest) (.error error)
  | entered {progress inner slot rest type outcome} :
      schema.resolveInput slot.type = .ok (.input type) →
      type.name ∉ Entries.keys progress.table →
      Collects schema ((progress.visit type.name).write type.name reserved)
        ((slots type).map .slot) (.ok inner) →
      Collects schema (inner.write type.name (inputEntry schema type)) rest outcome →
      Collects schema progress (.slot slot :: rest) outcome

/-- The section that stands for the types that have been entered, while some are being written. -/
def sectionOf (schema : Schema) (writing : List String) (entered : List (String × InputType)) :
    List (String × Entry) :=
  entered.map fun entry =>
    (entry.1, if entry.1 ∈ writing then reserved else inputEntry schema entry.2)

theorem keys_sectionOf (writing : List String) (entered : List (String × InputType)) :
    Entries.keys (sectionOf schema writing entered) = Entries.keys entered := by
  simp [sectionOf, Entries.keys]

theorem sectionOf_cons (writing : List String) (name : String) (type : InputType)
    (rest : List (String × InputType)) :
    sectionOf schema writing ((name, type) :: rest)
      = (name, if name ∈ writing then reserved else inputEntry schema type)
        :: sectionOf schema writing rest := rfl

theorem sectionOf_congr {writing other : List String} {entered : List (String × InputType)}
    (h : ∀ name ∈ Entries.keys entered, name ∈ writing ↔ name ∈ other) :
    sectionOf schema writing entered = sectionOf schema other entered := by
  refine List.map_congr_left fun entry inside => ?_
  simp only [h entry.1 (List.mem_map_of_mem inside)]

/-- A name that is not there makes no difference. -/
theorem sectionOf_cons_of_not_mem {writing : List String} {entered : List (String × InputType)}
    {name : String} (new : name ∉ Entries.keys entered) :
    sectionOf schema (name :: writing) entered = sectionOf schema writing entered := by
  refine sectionOf_congr fun other known => ?_
  have apart : other ≠ name := fun same => new (same ▸ known)
  simp [apart]

/-- When the record of a type is written, its name is no longer one that is being written. -/
theorem put_sectionOf {writing : List String} {entered : List (String × InputType)}
    (unique : (Entries.keys entered).Nodup) {type : InputType}
    (inside : (type.name, type) ∈ entered) (closed : type.name ∉ writing) :
    Entries.put (sectionOf schema (type.name :: writing) entered) type.name
        (inputEntry schema type) = sectionOf schema writing entered := by
  induction entered with
  | nil => cases inside
  | cons entry rest ih =>
      obtain ⟨key, first⟩ := entry
      obtain ⟨new, unique⟩ := List.nodup_cons.mp unique
      obtain same | inside := List.mem_cons.mp inside
      · obtain ⟨rfl, rfl⟩ := Prod.mk.inj same
        rw [sectionOf_cons, sectionOf_cons, sectionOf_cons_of_not_mem new, Entries.put, if_pos rfl,
          if_neg closed]
      · have known : type.name ∈ Entries.keys rest := List.mem_map_of_mem inside
        have apart : key ≠ type.name := fun same => new (same ▸ known)
        rw [sectionOf_cons, sectionOf_cons, Entries.put, if_neg apart, ih unique inside]
        simp [apart]

/-- What has been collected at a point of the recursion at which some types are being written. -/
structure Consistent (schema : Schema) (writing : List String)
    (entered : List (String × InputType)) (progress : Progress) : Prop where
  unique : (Entries.keys entered).Nodup
  began : ∀ name ∈ writing, name ∈ Entries.keys entered
  table : progress.table = sectionOf schema writing entered
  /-- Types stand in the order in which they are first visited. -/
  order : Entries.keys progress.table = progress.visited.eraseDups

namespace Consistent

variable {writing : List String} {entered : List (String × InputType)} {progress : Progress}

theorem start : Consistent schema [] [] {} := ⟨List.nodup_nil, nofun, rfl, rfl⟩

theorem keys (h : Consistent schema writing entered progress) :
    Entries.keys progress.table = Entries.keys entered := by
  rw [h.table, keys_sectionOf]

/-- A type that is there is visited once more. -/
theorem visit (h : Consistent schema writing entered progress) {name : String}
    (known : name ∈ Entries.keys progress.table) :
    Consistent schema writing entered (progress.visit name) where
  unique := h.unique
  began := h.began
  table := h.table
  order := by
    have seen : name ∈ progress.visited := List.mem_eraseDups.mp (h.order ▸ known)
    rw [Progress.table_visit, Progress.visited_visit, eraseDups_concat, if_pos seen, h.order]

/-- A new type is entered, and its name is reserved. -/
theorem reserve (h : Consistent schema writing entered progress) {type : InputType}
    (new : type.name ∉ Entries.keys progress.table) :
    Consistent schema (type.name :: writing) (entered ++ [(type.name, type)])
      ((progress.visit type.name).write type.name reserved) where
  unique := by
    rw [← Entries.put_of_not_mem (h.keys ▸ new) type]
    exact Entries.nodup_keys_put h.unique type.name type
  began := by
    rw [Entries.keys_concat]
    rintro name (_ | ⟨_, inside⟩)
    · exact List.mem_append_right _ List.mem_cons_self
    · exact List.mem_append_left _ (h.began name inside)
  table := by
    have others : sectionOf schema (type.name :: writing) entered = progress.table := by
      rw [sectionOf_cons_of_not_mem (h.keys ▸ new), h.table]
    rw [Progress.table_write, Progress.table_visit, Entries.put_of_not_mem new, ← others]
    simp [sectionOf]
  order := by
    have unseen : type.name ∉ progress.visited :=
      fun seen => new (h.order ▸ List.mem_eraseDups.mpr seen)
    rw [Progress.table_write, Progress.table_visit, Progress.visited_write, Progress.visited_visit,
      eraseDups_concat, if_neg unseen, Entries.put_of_not_mem new, Entries.keys_concat, h.order]

/-- The record of a type is written in the place that has been reserved for it. -/
theorem close {type : InputType}
    (h : Consistent schema (type.name :: writing) entered progress)
    (inside : (type.name, type) ∈ entered) (closed : type.name ∉ writing) :
    Consistent schema writing entered (progress.write type.name (inputEntry schema type)) where
  unique := h.unique
  began := fun name inside => h.began name (List.mem_cons_of_mem _ inside)
  table := by rw [Progress.table_write, h.table, put_sectionOf h.unique inside closed]
  order := by
    have known : type.name ∈ Entries.keys progress.table := h.keys ▸ List.mem_map_of_mem inside
    rw [Progress.table_write, Entries.keys_put_of_mem known, Progress.visited_write, h.order]

end Consistent

/-- What the recursion has come to is what the `walk` comes to: the same error, or the `sectionOf`
the types that the walk has entered. -/
def Matches (schema : Schema) (writing : List String) (entered : List (String × InputType)) :
    Except Error Progress → Except Error (List (String × InputType)) → Prop
  | .error error, walked => walked = .error error
  | .ok progress, walked => ∃ later, walked = .ok later ∧ entered <+: later ∧
      Consistent schema writing later progress

theorem Matches.mono {writing : List String} {entered middle : List (String × InputType)}
    {outcome : Except Error Progress} {walked : Except Error (List (String × InputType))}
    (h : Matches schema writing middle outcome walked) (grown : entered <+: middle) :
    Matches schema writing entered outcome walked := by
  cases outcome with
  | error error => exact h
  | ok progress =>
      obtain ⟨later, walked, further, consistent⟩ := h
      exact ⟨later, walked, grown.trans further, consistent⟩

/-- When the slots of a new type have been visited, the place of the type is still reserved. -/
theorem Consistent.closes {writing : List String} {entered middle : List (String × InputType)}
    {progress inner : Progress} (h : Consistent schema writing entered progress)
    {type : InputType} (new : type.name ∉ Entries.keys progress.table)
    (grown : entered ++ [(type.name, type)] <+: middle)
    (within : Consistent schema (type.name :: writing) middle inner) :
    Consistent schema writing middle (inner.write type.name (inputEntry schema type)) := by
  have inside : (type.name, type) ∈ middle :=
    grown.subset (List.mem_append_right _ List.mem_cons_self)
  have closed : type.name ∉ writing := fun began => new (h.keys ▸ h.began _ began)
  exact within.close inside closed

/-- A run of the recursion that ends, which is a derivation of `Collects`, does what the walk
does. -/
theorem Collects.matches {progress : Progress} {visits : List Visit}
    {outcome : Except Error Progress} (collects : Collects schema progress visits outcome)
    {writing : List String} {entered : List (String × InputType)}
    (consistent : Consistent schema writing entered progress) :
    Matches schema writing entered outcome (walk schema visits entered) := by
  induction collects generalizing writing entered with
  | done => exact ⟨entered, rfl, List.prefix_rfl, consistent⟩
  | undeclared ref missing => exact walk_signature_of_missing ref missing _ _
  | declared resolved _ ih => exact walk_signature resolved _ _ ▸ ih consistent
  | missing ref missing => exact walk_slot_of_missing ref missing _ _
  | scalar resolved _ ih =>
      rw [walk_slot_of_scalar resolved]
      exact ih consistent
  | known resolved known _ ih =>
      rw [walk_slot_of_known resolved _ (consistent.keys ▸ known)]
      exact ih (consistent.visit known)
  | stopped resolved new _ ih =>
      have within : walk schema _ _ = .error _ := ih (consistent.reserve new)
      rw [walk_slot_of_new resolved _ (consistent.keys ▸ new), within]
      rfl
  | entered resolved new _ _ inner outer =>
      obtain ⟨middle, within, grown, reserves⟩ := inner (consistent.reserve new)
      rw [walk_slot_of_new resolved _ (consistent.keys ▸ new), within]
      have goesOn := outer (consistent.closes new grown reserves)
      exact goesOn.mono ((List.prefix_append ..).trans grown)

/-- The size of what remains to be visited. -/
noncomputable def visitsSize : List Visit → Nat
  | [] => 0
  | .signature signature :: rest => pendingSize signature.args.toList + 1 + visitsSize rest
  | .slot slot :: rest => sizeOf slot + visitsSize rest

theorem visitsSize_slots (pending : List Slot) (rest : List Visit) :
    visitsSize (pending.map .slot ++ rest) = pendingSize pending + visitsSize rest := by
  induction pending with
  | nil => simp [pendingSize]
  | cons slot pending ih => simp [visitsSize, ih, Nat.add_assoc]

theorem unentered_anti {entered later : List (String × InputType)}
    (grown : entered <+: later) : unentered schema later ≤ unentered schema entered := by
  obtain ⟨more, rfl⟩ := grown
  induction more generalizing entered with
  | nil => exact Nat.le_of_eq (congrArg (unentered schema) (List.append_nil entered))
  | cons entry more ih =>
      rw [List.append_cons]
      exact Nat.le_trans ih (unentered_append_le schema entered entry.1 entry.2)

/-- A new type is visited with less to go: it is registered and one fewer is `unentered`, or it is
smaller than the slot. -/
theorem slots_lt {slot : Slot} {type : InputType}
    (resolved : schema.resolveInput slot.type = .ok (.input type))
    {entered : List (String × InputType)} (new : type.name ∉ Entries.keys entered)
    (rest : List Visit) :
    Prod.Lex (· < ·) (· < ·)
      (unentered schema (entered ++ [(type.name, type)]), visitsSize ((slots type).map .slot))
      (unentered schema entered, visitsSize (.slot slot :: rest)) := by
  obtain ref | ⟨name, _, found⟩ := Schema.resolveInput_eq_input_iff.mp resolved
  · have size : visitsSize ((slots type).map .slot) < visitsSize (.slot slot :: rest) := by
      have smaller : pendingSize (slots type) < sizeOf slot := pendingSize_inline ref
      have held : visitsSize ((slots type).map .slot) = pendingSize (slots type) := by
        simpa [visitsSize] using visitsSize_slots (slots type) []
      rw [held, visitsSize]
      omega
    have names : unentered schema (entered ++ [(type.name, type)]) ≤ unentered schema entered :=
      unentered_append_le schema entered type.name type
    exact Prod.Lex.right' _ names size
  · have unknown : Entries.has entered type.name = false := by
      rwa [← Bool.not_eq_true, Entries.has_eq_true_iff]
    exact .left _ _ (unentered_append_lt (Entries.mem_of_get?_eq_some found) unknown)

/-- Once a slot has been visited there is less to go, since nothing is forgotten that was
entered. -/
theorem rest_lt {entered later : List (String × InputType)} (grown : entered <+: later)
    (visit : Visit) (rest : List Visit) :
    Prod.Lex (· < ·) (· < ·) (unentered schema later, visitsSize rest)
      (unentered schema entered, visitsSize (visit :: rest)) := by
  have size : visitsSize rest < visitsSize (visit :: rest) := by
    cases visit with
    | signature signature => rw [visitsSize]; omega
    | slot slot =>
        have positive : 0 < sizeOf slot := sizeOf_slot_pos slot
        rw [visitsSize]
        omega
  exact Prod.Lex.right' _ (unentered_anti grown) size

/-- The recursion comes to an end from every point of every descent. What grows less with each visit
is, first, the number of registered names that are not reserved and, second, the size of what
remains to be visited. -/
theorem Consistent.collects {writing : List String} {entered : List (String × InputType)}
    {progress : Progress} (consistent : Consistent schema writing entered progress)
    (visits : List Visit) : ∃ outcome, Collects schema progress visits outcome := by
  match visits with
  | [] => exact ⟨_, .done⟩
  | .signature signature :: rest =>
      cases resolved : schema.resolveOutput signature.type with
      | error error =>
          obtain ⟨name, ref, missing⟩ := Schema.lookup_of_resolveOutput resolved
          exact ⟨_, .undeclared ref missing⟩
      | ok type =>
          obtain ⟨outcome, collects⟩ :=
            consistent.collects (signature.args.toList.map .slot ++ rest)
          exact ⟨outcome, .declared resolved collects⟩
  | .slot slot :: rest =>
      cases resolved : schema.resolveInput slot.type with
      | error error =>
          obtain ⟨name, ref, missing⟩ := Schema.lookup_of_resolveInput resolved
          exact ⟨_, .missing ref missing⟩
      | ok resolvedType =>
          cases resolvedType with
          | scalar scalar =>
              obtain ⟨outcome, collects⟩ := consistent.collects rest
              exact ⟨outcome, .scalar resolved collects⟩
          | input type =>
              by_cases known : type.name ∈ Entries.keys progress.table
              · obtain ⟨outcome, collects⟩ := (consistent.visit known).collects rest
                exact ⟨outcome, .known resolved known collects⟩
              · obtain ⟨outcome, within⟩ :=
                  (consistent.reserve known).collects ((slots type).map .slot)
                cases outcome with
                | error error => exact ⟨_, .stopped resolved known within⟩
                | ok inner =>
                    obtain ⟨middle, _, grown, reserves⟩ :=
                      within.matches (consistent.reserve known)
                    obtain ⟨outcome, collects⟩ :=
                      (consistent.closes known grown reserves).collects rest
                    exact ⟨outcome, .entered resolved known within collects⟩
termination_by (unentered schema entered, visitsSize visits)
decreasing_by
  · refine Prod.Lex.right _ ?_
    rw [visitsSize_slots, visitsSize]
    omega
  · exact rest_lt List.prefix_rfl _ rest
  · exact rest_lt List.prefix_rfl _ rest
  · exact slots_lt resolved (consistent.keys ▸ known) rest
  · exact rest_lt ((List.prefix_append ..).trans grown) _ rest

end TypedQuery.Declarations
