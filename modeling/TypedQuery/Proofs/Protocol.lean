import TypedQuery.Proofs.Run

/-!
# Protocols

A `Protocol` says which calls a run may make, what may be reported through each of them, and with
which errors the run may fail of its own accord. A run follows the protocol, which is `Run.Follows`,
if it makes no other calls, if what a callback reports is what the run fails with, and if it fails
with nothing else but its own errors. Runs that follow a protocol may be put together in any way, so
a stage follows it because its steps do. Where all errors of a protocol name a path, attributing a
run to a field once more changes nothing.

What is the same of all calls or of all errors in a stage is a protocol of its own: the stage is
walked through once, for any protocol that has what the stage needs, and `Protocol.restrict` narrows
one down to calls of a kind.
-/

namespace TypedQuery

/-- The error by which the fault of a callback is reported that was asked for a field. -/
def Fault.reported (fault : Fault) (path : FieldPath) : Error :=
  (Error.ofFault fault).attachPath path

/-- The error says that an object type or an input type is not registered. -/
def Cause.missesType : Cause → Bool
  | .query (.unknownObject _) => true
  | .args (.unknownInput _) => true
  | _ => false

namespace Error

theorem attachPath_of_path_ne_none {error : Error} (h : error.path ≠ none) (path : FieldPath) :
    error.attachPath path = error := by
  obtain ⟨cause, own, status⟩ := error
  cases own with
  | none => exact absurd rfl h
  | some own => rfl

theorem attachPath_of_path_eq_none {error : Error} (h : error.path = none) (path : FieldPath) :
    error.attachPath path = error.withPath path := by
  rw [attachPath, h]
  rfl

theorem path_attachPath_ne_none (error : Error) (path : FieldPath) :
    (error.attachPath path).path ≠ none := by
  obtain ⟨cause, own, status⟩ := error
  cases own <;> exact nofun

end Error

/-- A fault that names a path of its own is reported as it is. -/
theorem Fault.reported_of_path_ne_none {error : Error} (h : error.path ≠ none)
    (path : FieldPath) : (Fault.engine error).reported path = error :=
  Error.attachPath_of_path_ne_none h path

/-- A fault that names no path is attributed to the field. -/
theorem Fault.reported_of_path_eq_none {fault : Fault} (h : (Error.ofFault fault).path = none)
    (path : FieldPath) : (fault.reported path).path = some path := by
  rw [reported, Error.attachPath_of_path_eq_none h]
  rfl

/-- Whatever a callback reports for a field names a path. -/
theorem Fault.path_reported_ne_none {fault? : Option Fault} {path : FieldPath} {error : Error}
    (reported : fault?.map (·.reported path) = some error) : error.path ≠ none := by
  obtain ⟨fault, _, rfl⟩ := Option.map_eq_some_iff.mp reported
  exact Error.path_attachPath_ne_none _ path

/-- Which calls a run may make and which errors may come up in it. -/
structure Protocol where
  /-- The call may be made, and its callback reports that error, if any. -/
  reports : Event → Option Error → Prop
  /-- The run may fail with the error of its own accord. -/
  raises : Error → Prop

namespace Protocol

/-- All errors name a path. -/
structure Attributed (protocol : Protocol) : Prop where
  reports : ∀ event error, protocol.reports event (some error) → error.path ≠ none
  raises : ∀ error, protocol.raises error → error.path ≠ none

/-- The same protocol with calls of that kind only. A run that follows it makes `Only` such
calls. -/
def restrict (protocol : Protocol) (kind : Event → Prop) : Protocol where
  reports event report := kind event ∧ protocol.reports event report
  raises := protocol.raises

theorem Attributed.restrict {protocol : Protocol} (h : protocol.Attributed)
    (kind : Event → Prop) : (protocol.restrict kind).Attributed :=
  ⟨fun event error reports => h.reports event error reports.2, h.raises⟩

/-- Any calls, and any errors that name a path. -/
def attributed : Protocol where
  reports _ report := ∀ error, report = some error → error.path ≠ none
  raises error := error.path ≠ none

theorem attributed_attributed : attributed.Attributed :=
  ⟨fun _ error reports => reports error rfl, fun _ named => named⟩

end Protocol

namespace Run

variable {α β : Type} {protocol : Protocol}

theorem attachPath_mapError {ε : Type} (path : FieldPath) (f : ε → Error) (run : Run ε α) :
    (run.mapError f).attachPath path = run.mapError fun error => (f error).attachPath path := by
  obtain ⟨trace, outcome⟩ := run
  cases outcome <;> rfl

/-- What the run fails with, if it does. -/
def failure? {ε : Type} (run : Run ε α) : Option ε :=
  match run.outcome with
  | .ok _ => none
  | .error error => some error

theorem failure?_eq_some_iff {ε : Type} {run : Run ε α} {error : ε} :
    run.failure? = some error ↔ run.outcome = .error error := by
  unfold failure?
  cases run.outcome <;> simp

theorem failure?_eq_none_iff {ε : Type} {run : Run ε α} :
    run.failure? = none ↔ ∃ value, run.outcome = .ok value := by
  unfold failure?
  cases run.outcome <;> simp

@[simp] theorem failure?_mapError {ε ε' : Type} (f : ε → ε') (run : Run ε α) :
    (run.mapError f).failure? = run.failure?.map f := by
  obtain ⟨trace, outcome⟩ := run
  cases outcome <;> rfl

@[simp] theorem failure?_attachPath (path : FieldPath) (run : Run Error α) :
    (run.attachPath path).failure? = run.failure?.map (·.attachPath path) := failure?_mapError ..

@[simp] theorem failure?_recover (run : Run Fault α) :
    run.recover.failure? = run.failure?.map Error.ofFault := failure?_mapError ..

/-- The run keeps to the protocol: it calls what the protocol `reports`, and it fails with what the
protocol `raises` or a callback has reported. -/
structure Follows (protocol : Protocol) (run : Run Error α) : Prop where
  /-- Every call may be made, and what is reported through it is what the run fails with. -/
  calls : ∀ event ∈ run.trace, ∃ report, protocol.reports event report ∧
    ∀ error, report = some error → run.outcome = .error error
  /-- There is no failure but by an error of the run's own or by what a callback reports. -/
  fails : ∀ error, run.outcome = .error error →
    protocol.raises error ∨ ∃ event ∈ run.trace, protocol.reports event (some error)

/-- A run that keeps to the restricted protocol makes calls of that kind only. -/
theorem Follows.only {kind : Event → Prop} {run : Run Error α}
    (h : run.Follows (protocol.restrict kind)) : run.Only kind := by
  intro event shown
  obtain ⟨_, ⟨ofKind, _⟩, _⟩ := h.calls event shown
  exact ofKind

/-- A run that makes calls of that kind only keeps to the restricted protocol. -/
theorem Follows.restrict {kind : Event → Prop} {run : Run Error α} (h : run.Follows protocol)
    (only : run.Only kind) : run.Follows (protocol.restrict kind) := by
  constructor
  · intro event shown
    obtain ⟨report, reports, ends⟩ := h.calls event shown
    exact ⟨report, ⟨only event shown, reports⟩, ends⟩
  · intro error failed
    obtain raises | ⟨event, shown, reports⟩ := h.fails error failed
    · exact .inl raises
    · exact .inr ⟨event, shown, only event shown, reports⟩

theorem Follows.of_restrict {kind : Event → Prop} {run : Run Error α}
    (h : run.Follows (protocol.restrict kind)) : run.Follows protocol := by
  constructor
  · intro event shown
    obtain ⟨report, ⟨_, reports⟩, ends⟩ := h.calls event shown
    exact ⟨report, reports, ends⟩
  · intro error failed
    obtain raises | ⟨event, shown, _, reports⟩ := h.fails error failed
    · exact .inl raises
    · exact .inr ⟨event, shown, reports⟩

theorem follows_pure (value : α) : (pure value : Run Error α).Follows protocol :=
  ⟨nofun, nofun⟩

theorem follows_fail {error : Error} (h : protocol.raises error) :
    (fail error : Run Error α).Follows protocol := by
  refine ⟨nofun, ?_⟩
  rintro _ ⟨⟩
  exact .inl h

/-- A callback is asked for a field, and its fault is reported. -/
theorem follows_ask {call : Call} {callback : Run Fault α} {path : FieldPath}
    (h : protocol.reports (.call call callback.trace)
      (callback.failure?.map (·.reported path))) :
    ((invoke call callback).recover.attachPath path).Follows protocol := by
  obtain ⟨trace, outcome⟩ := callback
  cases outcome with
  | ok value =>
      refine ⟨fun event shown => ?_, nofun⟩
      obtain rfl := List.mem_singleton.mp shown
      exact ⟨none, h, nofun⟩
  | error fault =>
      constructor
      · intro event shown
        obtain rfl := List.mem_singleton.mp shown
        refine ⟨_, h, ?_⟩
        rintro _ ⟨⟩
        rfl
      · rintro _ ⟨⟩
        exact .inr ⟨_, List.mem_singleton_self _, h⟩

/-- A callback is asked, and whatever its fault is, the run objects in its own words. -/
theorem follows_refuse {call : Call} {callback : Run Fault α} {error : Error}
    (call_reports : protocol.reports (.call call callback.trace) none)
    (raises : protocol.raises error) :
    ((invoke call callback).mapError fun _ => error).Follows protocol := by
  constructor
  · intro event shown
    rw [trace_mapError, trace_invoke, List.mem_singleton] at shown
    subst shown
    exact ⟨none, call_reports, nofun⟩
  · intro error' failed
    rw [outcome_mapError, outcome_invoke] at failed
    cases callback_outcome : callback.outcome with
    | ok value =>
        rw [callback_outcome] at failed
        cases failed
    | error fault =>
        rw [callback_outcome] at failed
        cases failed
        exact .inl raises

/-- The second step counts only if the first one returns. -/
theorem Follows.bind {run : Run Error α} {next : α → Run Error β} (first : run.Follows protocol)
    (second : ∀ value, run.Returns value → (next value).Follows protocol) :
    (run >>= next).Follows protocol := by
  cases h : run.outcome with
  | error error =>
      rw [bind_of_error h]
      constructor
      · intro event shown
        obtain ⟨report, reports, ends⟩ := first.calls event shown
        refine ⟨report, reports, fun error' reported => ?_⟩
        rw [ends error' reported] at h
        cases h
        rfl
      · rintro _ ⟨⟩
        exact first.fails error h
  | ok value =>
      have rest : (next value).Follows protocol := second value h
      rw [bind_of_ok h]
      constructor
      · intro event shown
        obtain shown | shown := List.mem_append.mp shown
        · -- What a run returns after was no failure.
          obtain ⟨report, reports, ends⟩ := first.calls event shown
          refine ⟨report, reports, fun error reported => ?_⟩
          rw [ends error reported] at h
          cases h
        · exact rest.calls event shown
      · intro error failed
        obtain raises | ⟨event, shown, reports⟩ := rest.fails error failed
        · exact .inl raises
        · exact .inr ⟨event, List.mem_append_right _ shown, reports⟩

theorem Follows.map {run : Run Error α} (h : run.Follows protocol) (f : α → β) :
    (f <$> run).Follows protocol := by
  rw [← bind_pure_comp]
  exact h.bind fun value _ => follows_pure (f value)

theorem follows_traverse {f : α → Run Error β} {values : List α}
    (step : ∀ value ∈ values, (f value).Follows protocol) :
    (traverse f values).Follows protocol := by
  induction values with
  | nil => exact follows_pure []
  | cons first rest ih =>
      obtain ⟨stepFirst, stepRest⟩ := List.forall_mem_cons.1 step
      rw [traverse_cons]
      exact stepFirst.bind fun _ _ => (ih stepRest).bind fun _ _ => follows_pure _

/-- What a run that follows the protocol fails with names a path. -/
theorem Follows.path_ne_none {run : Run Error α} (h : run.Follows protocol)
    (attributed : protocol.Attributed) {error : Error} (failed : run.outcome = .error error) :
    error.path ≠ none := by
  obtain raises | ⟨event, _, reports⟩ := h.fails error failed
  · exact attributed.raises error raises
  · exact attributed.reports event error reports

/-- Attributing a run to a field whose errors are all attributed changes nothing, so
`Run.attachPath` is no step of its own. -/
theorem Follows.attachPath_eq {run : Run Error α} (h : run.Follows protocol)
    (attributed : protocol.Attributed) (path : FieldPath) : run.attachPath path = run := by
  refine ext_iff.mpr ⟨trace_attachPath path run, ?_⟩
  rw [outcome_attachPath]
  cases failed : run.outcome with
  | ok value => rfl
  | error error =>
      have named : error.path ≠ none := h.path_ne_none attributed failed
      exact congrArg Except.error (Error.attachPath_of_path_ne_none named path)

theorem Follows.attachPath {run : Run Error α} (h : run.Follows protocol)
    (attributed : protocol.Attributed) (path : FieldPath) :
    (run.attachPath path).Follows protocol :=
  (h.attachPath_eq attributed path).symm ▸ h

end Run

end TypedQuery
