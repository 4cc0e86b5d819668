import Mathlib.Data.List.Forall2
import TypedQuery.Trace

/-!
# Runs that return

A run that is put together from smaller ones returns exactly when they do, one after the other, so
the outcome of a stage comes apart into the outcomes of its steps: `returns_bind`. The trace of a
stage that returns is the traces of its steps end to end. What a run fails with is attributed to a
field by attributing its steps. Steps that are taken in turn for what they do alone show nothing of
those after the first one that fails. A run of which all events are of one kind makes `Only` such
calls.
-/

namespace TypedQuery.Run

variable {ε ε' α β : Type}

/-- The run ends with that value. -/
def Returns (run : Run ε α) (value : α) : Prop := run.outcome = .ok value

/-- A run that returns nothing fails, since every run ends. -/
theorem fails_iff {run : Run ε α} :
    (∃ error, run.outcome = .error error) ↔ ¬ ∃ value, run.Returns value := by
  unfold Returns
  cases run.outcome <;> simp

@[simp] theorem returns_pure {value other : α} :
    (pure value : Run ε α).Returns other ↔ value = other := by
  simp [Returns]

@[simp] theorem not_returns_fail {error : ε} {value : α} :
    ¬ (fail error : Run ε α).Returns value := by
  simp [Returns]

@[simp] theorem returns_ofExcept {outcome : Except ε α} {value : α} :
    (ofExcept outcome).Returns value ↔ outcome = .ok value := Iff.rfl

theorem ofExcept_ok (value : α) : (ofExcept (.ok value) : Run ε α) = pure value := rfl

@[simp] theorem returns_invoke {call : Call} {callback : Run Fault α} {value : α} :
    (invoke call callback).Returns value ↔ callback.Returns value := Iff.rfl

/-- Turning errors into other errors makes no failure a success. -/
@[simp] theorem returns_mapError {f : ε → ε'} {run : Run ε α} {value : α} :
    (run.mapError f).Returns value ↔ run.Returns value := by
  unfold Returns
  rw [outcome_mapError]
  cases run.outcome <;> simp [Except.mapError]

theorem outcome_mapError_eq_error_iff {f : ε → ε'} {run : Run ε α} {error : ε'} :
    (run.mapError f).outcome = .error error ↔
      ∃ inner, run.outcome = .error inner ∧ f inner = error := by
  rw [outcome_mapError]
  cases run.outcome <;> simp [Except.mapError]

@[simp] theorem returns_attachPath {path : FieldPath} {run : Run Error α} {value : α} :
    (run.attachPath path).Returns value ↔ run.Returns value := returns_mapError

@[simp] theorem returns_recover {run : Run Fault α} {value : α} :
    run.recover.Returns value ↔ run.Returns value := returns_mapError

@[simp] theorem trace_recover (run : Run Fault α) : run.recover.trace = run.trace :=
  trace_mapError ..

theorem trace_bind {run : Run ε α} {value : α} (h : run.Returns value) (next : α → Run ε β) :
    (run >>= next).trace = run.trace ++ (next value).trace := by
  rw [bind_of_ok h]

/-- A run that returns ends as what comes after it ends. -/
theorem outcome_bind {run : Run ε α} {value : α} (h : run.Returns value) (next : α → Run ε β) :
    (run >>= next).outcome = (next value).outcome := by
  rw [bind_of_ok h]

/-- What a run shows stays in front of whatever comes after it. -/
theorem trace_prefix_bind (run : Run ε α) (next : α → Run ε β) :
    run.trace <+: (run >>= next).trace := by
  cases h : run.outcome with
  | error error => exact bind_of_error h next ▸ List.prefix_rfl
  | ok value => exact trace_bind h next ▸ List.prefix_append ..

@[simp] theorem returns_bind {run : Run ε α} {next : α → Run ε β} {value : β} :
    (run >>= next).Returns value ↔
      ∃ middle, run.Returns middle ∧ (next middle).Returns value := by
  cases h : run.outcome with
  | error error =>
      simp only [Returns, bind_of_error h, h]
      simp
  | ok middle =>
      simp only [Returns, bind_of_ok h, h, Except.ok.injEq]
      simp

@[simp] theorem returns_map {f : α → β} {run : Run ε α} {value : β} :
    (f <$> run).Returns value ↔ ∃ middle, run.Returns middle ∧ f middle = value := by
  rw [← bind_pure_comp, returns_bind]
  simp

theorem outcome_map_eq_error_iff {f : α → β} {run : Run ε α} {error : ε} :
    (f <$> run).outcome = .error error ↔ run.outcome = .error error := by
  obtain ⟨trace, outcome⟩ := run
  cases outcome with
  | error first => constructor <;> rintro ⟨⟩ <;> rfl
  | ok value => constructor <;> rintro ⟨⟩

@[simp] theorem trace_map (f : α → β) (run : Run ε α) : (f <$> run).trace = run.trace := by
  obtain ⟨trace, outcome⟩ := run
  cases outcome with
  | error error => rfl
  | ok value => exact List.append_nil trace

/-- What comes after a run matters only for the values that the run returns. -/
theorem bind_congr_of_returns {run : Run ε α} {next next' : α → Run ε β}
    (h : ∀ value, run.Returns value → next value = next' value) :
    run >>= next = run >>= next' := by
  cases returned : run.outcome with
  | error error => rw [bind_of_error returned, bind_of_error returned]
  | ok value => rw [bind_of_ok returned, bind_of_ok returned, h value returned]

@[simp] theorem attachPath_pure (path : FieldPath) (value : α) :
    (pure value : Run Error α).attachPath path = pure value := rfl

theorem attachPath_bind (path : FieldPath) (run : Run Error α) (next : α → Run Error β) :
    (run >>= next).attachPath path
      = run.attachPath path >>= fun value => (next value).attachPath path := by
  obtain ⟨trace, outcome⟩ := run
  cases outcome with
  | error error => rfl
  | ok value =>
      have left : ((⟨trace, .ok value⟩ : Run Error α) >>= next)
          = ⟨trace ++ (next value).trace, (next value).outcome⟩ := bind_of_ok rfl next
      have right : ((⟨trace, .ok value⟩ : Run Error α).attachPath path >>= fun value =>
            (next value).attachPath path)
          = ⟨trace ++ ((next value).attachPath path).trace,
              ((next value).attachPath path).outcome⟩ := bind_of_ok rfl _
      rw [left, right, ext_iff]
      simp

theorem attachPath_map (path : FieldPath) (f : α → β) (run : Run Error α) :
    (f <$> run).attachPath path = f <$> run.attachPath path := by
  rw [← bind_pure_comp, attachPath_bind, ← bind_pure_comp]
  rfl

/-- The first path attached stays. -/
@[simp] theorem attachPath_attachPath (inner outer : FieldPath) (run : Run Error α) :
    (run.attachPath inner).attachPath outer = run.attachPath inner := by
  rw [ext_iff]
  refine ⟨by simp, ?_⟩
  rw [outcome_attachPath, outcome_attachPath]
  cases run.outcome <;> simp [Except.mapError]

@[simp] theorem traverse_nil (f : α → Run ε β) : traverse f [] = pure [] := rfl

theorem traverse_cons (f : α → Run ε β) (first : α) (rest : List α) :
    traverse f (first :: rest)
      = f first >>= fun value => traverse f rest >>= fun values => pure (value :: values) := rfl

theorem traverse_map {γ : Type} (f : β → Run ε γ) (g : α → β) (values : List α) :
    traverse f (values.map g) = traverse (fun value => f (g value)) values := by
  induction values with
  | nil => rfl
  | cons first rest ih => rw [List.map_cons, traverse_cons, ih, traverse_cons]

theorem attachPath_traverse (path : FieldPath) (f : α → Run Error β) (values : List α) :
    (traverse f values).attachPath path
      = traverse (fun value => (f value).attachPath path) values := by
  induction values with
  | nil => rfl
  | cons first rest ih => simp only [traverse_cons, attachPath_bind, attachPath_pure, ih]

/-- Two lists whose elements fare alike, one for one, are run over alike. -/
theorem traverse_congr {γ : Type} {f : α → Run ε β} {g : γ → Run ε β} {values : List α}
    {others : List γ} (h : List.Forall₂ (fun value other => f value = g other) values others) :
    traverse f values = traverse g others := by
  induction h with
  | nil => rfl
  | cons first _ ih => rw [traverse_cons, traverse_cons, first, ih]

/-- A run over a list returns a list of what its steps return. -/
theorem returns_traverse {f : α → Run ε β} {relation : α → β → Prop} {values : List α}
    (step : ∀ value ∈ values, ∀ result, (f value).Returns result ↔ relation value result)
    {results : List β} :
    (traverse f values).Returns results ↔ List.Forall₂ relation values results := by
  induction values generalizing results with
  | nil => simp [eq_comm]
  | cons first rest ih =>
      obtain ⟨stepFirst, stepRest⟩ := List.forall_mem_cons.1 step
      simp only [traverse_cons, returns_bind, returns_pure, stepFirst, ih stepRest,
        List.forall₂_cons_left_iff]
      constructor
      · rintro ⟨value, hvalue, results', hrest, rfl⟩
        exact ⟨value, results', hvalue, hrest, rfl⟩
      · rintro ⟨value, results', hvalue, hrest, rfl⟩
        exact ⟨value, hvalue, results', hrest, rfl⟩

/-- The run without the value that it returns. -/
def discard (run : Run ε α) : Run ε Unit := (fun _ => ()) <$> run

@[simp] theorem trace_discard (run : Run ε α) : run.discard.trace = run.trace := trace_map ..

theorem discard_bind (run : Run ε α) (next : α → Run ε β) :
    (run >>= next).discard = run >>= fun value => (next value).discard :=
  map_bind ..

/-- What comes next need not look at what has been returned. -/
theorem discard_then (run : Run ε α) (next : Run ε β) :
    (run.discard >>= fun _ => next) = run >>= fun _ => next :=
  bind_map_left ..

theorem discard_attachPath (path : FieldPath) (run : Run Error α) :
    (run.attachPath path).discard = run.discard.attachPath path :=
  (attachPath_map path _ run).symm

section Sequence

variable {f : α → Run ε Unit} {steps : List α}

theorem forM_singleton (f : α → Run ε Unit) (step : α) : forM [step] f = f step := by
  rw [List.forM_cons, List.forM_nil, bind_pure_unit]

/-- Nothing is done after what fails. -/
theorem forM_of_not_returns {step : α} (fails : ¬ (f step).Returns ()) (before after : List α) :
    forM (before ++ step :: after) f = forM (before ++ [step]) f := by
  rw [List.forM_append, List.forM_append, List.forM_cons, List.forM_cons]
  exact bind_congr fun _ => bind_congr_of_returns fun _ returned => absurd returned fails

theorem trace_forM_prefix (f : α → Run ε Unit) (steps : List α) :
    (forM steps f).trace <+: steps.flatMap fun step => (f step).trace := by
  induction steps with
  | nil => exact List.prefix_rfl
  | cons step steps ih =>
      rw [List.forM_cons, List.flatMap_cons]
      cases ended : (f step).outcome with
      | error error =>
          rw [bind_of_error ended]
          exact List.prefix_append ..
      | ok =>
          rw [trace_bind ended]
          exact (List.prefix_append_right_inj _).mpr ih

theorem trace_forM_of_returns (h : (forM steps f).Returns ()) :
    (forM steps f).trace = steps.flatMap fun step => (f step).trace := by
  induction steps with
  | nil => rfl
  | cons step steps ih =>
      rw [List.forM_cons] at h ⊢
      obtain ⟨_, first, rest⟩ := returns_bind.mp h
      rw [List.flatMap_cons, trace_bind first, ih rest]

end Sequence

/-- Every event of the trace is of that kind. What happened inside a callback is its own
affair. -/
def Only (kind : Event → Prop) (run : Run ε α) : Prop := ∀ event ∈ run.trace, kind event

section Only

variable {kind : Event → Prop}

theorem only_ofExcept (outcome : Except ε α) : (ofExcept outcome).Only kind := nofun

theorem Only.mono {kind' : Event → Prop} {run : Run ε α} (h : run.Only kind)
    (weaker : ∀ event, kind event → kind' event) : run.Only kind' :=
  fun event shown => weaker event (h event shown)

theorem Only.bind {run : Run ε α} {next : α → Run ε β} (first : run.Only kind)
    (second : ∀ value, run.Returns value → (next value).Only kind) :
    (run >>= next).Only kind := by
  intro event shown
  cases h : run.outcome with
  | error error =>
      rw [bind_of_error h] at shown
      exact first event shown
  | ok value =>
      rw [trace_bind h] at shown
      exact (List.mem_append.mp shown).elim (first event) (second value h event)

end Only

end TypedQuery.Run
