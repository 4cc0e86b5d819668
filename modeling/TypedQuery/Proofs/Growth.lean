import TypedQuery.Proofs.Protocol

/-!
# Runs over a schema that grows

A schema that grows, as `Schema.GrowsInto` says, answers look-ups that it could not answer before,
and all others as before. A run that makes such a look-up fails as long as the schema lacks the
name, of its own accord and not by a callback, which is `Run.Lacks`; any other run is the same over
both schemas. Runs that are alike in this sense, as `Outgrows` says, may be put together in any way,
so a stage is alike over both schemas because its steps are.
-/

namespace TypedQuery

namespace Run

variable {α β : Type} (protocol : Protocol) (missing : Option Cause)

/-- If the run returns, nothing has been reported through any of its calls. -/
def Quiet (run : Run Error α) : Prop :=
  ∀ value, run.Returns value → ∀ event ∈ run.trace, protocol.reports event none

/-- The run fails for the missing cause, and nothing has been reported through any of its calls. -/
def Lacks (run : Run Error α) : Prop :=
  ∃ error, run.outcome = .error error ∧ missing = some error.cause ∧
    ∀ event ∈ run.trace, protocol.reports event none

/-- The other run is the same, unless the run fails for the missing cause. -/
structure Outgrows (run other : Run Error α) : Prop where
  quiet : run.Quiet protocol
  alike : other = run ∨ run.Lacks protocol missing

variable {protocol missing}

theorem quiet_pure (value : α) : (pure value : Run Error α).Quiet protocol := nofun

theorem quiet_fail (error : Error) : (fail error : Run Error α).Quiet protocol := nofun

/-- What is reported through a call is what the run fails with, so a run that `Follows` a protocol
is quiet. -/
theorem Follows.quiet {run : Run Error α} (h : run.Follows protocol) : run.Quiet protocol := by
  intro value returned event shown
  obtain ⟨report, reports, ends⟩ := h.calls event shown
  cases report with
  | none => exact reports
  | some error =>
      have failed : run.outcome = .error error := ends error rfl
      cases returned.symm.trans failed

theorem quiet_attachPath_iff {run : Run Error α} {path : FieldPath} :
    (run.attachPath path).Quiet protocol ↔ run.Quiet protocol := by
  simp only [Quiet, returns_attachPath, trace_attachPath]

/-- A run that goes without look-ups is the same over both schemas, if it is `Quiet`. -/
theorem Quiet.outgrows {run : Run Error α} (h : run.Quiet protocol) :
    run.Outgrows protocol missing run := ⟨h, .inl rfl⟩

theorem outgrows_pure (value : α) :
    (pure value : Run Error α).Outgrows protocol missing (pure value) := (quiet_pure value).outgrows

theorem outgrows_fail (error : Error) :
    (fail error : Run Error α).Outgrows protocol missing (fail error) := (quiet_fail error).outgrows

/-- A look-up that fails for the missing cause may lead anywhere in the other run. -/
theorem outgrows_of_missing {error : Error} (h : missing = some error.cause)
    (other : Run Error α) : (fail error : Run Error α).Outgrows protocol missing other :=
  ⟨quiet_fail error, .inr ⟨error, rfl, h, nofun⟩⟩

theorem outgrows_lookup {outcome other : Except Error α}
    (h : other = outcome ∨ ∃ error, missing = some error.cause ∧ outcome = .error error) :
    (ofExcept outcome).Outgrows protocol missing (ofExcept other) := by
  obtain rfl | ⟨error, lacks, rfl⟩ := h
  · exact Quiet.outgrows nofun
  · exact outgrows_of_missing lacks (ofExcept other)

theorem Lacks.bind {run : Run Error α} (h : run.Lacks protocol missing) (next : α → Run Error β) :
    (run >>= next).Lacks protocol missing := by
  obtain ⟨error, failed, lacks, quiet⟩ := h
  rw [bind_of_error failed]
  exact ⟨error, rfl, lacks, quiet⟩

theorem Quiet.bind {run : Run Error α} {next : α → Run Error β} (first : run.Quiet protocol)
    (second : ∀ value, run.Returns value → (next value).Quiet protocol) :
    (run >>= next).Quiet protocol := by
  intro result returned event shown
  obtain ⟨value, returnedFirst, returnedNext⟩ := returns_bind.mp returned
  rw [trace_bind returnedFirst] at shown
  obtain shown | shown := List.mem_append.mp shown
  · exact first value returnedFirst event shown
  · exact second value returnedFirst result returnedNext event shown

/-- The second step counts only if the first one returns, and then the first one is the same in
both runs. -/
theorem Outgrows.bind {run other : Run Error α} {next next' : α → Run Error β}
    (first : run.Outgrows protocol missing other)
    (second : ∀ value, run.Returns value →
      (next value).Outgrows protocol missing (next' value)) :
    (run >>= next).Outgrows protocol missing (other >>= next') := by
  refine ⟨first.quiet.bind fun value returned => (second value returned).quiet, ?_⟩
  obtain rfl | lacks := first.alike
  · cases ended : other.outcome with
    | error error =>
        rw [bind_of_error ended, bind_of_error ended]
        exact .inl rfl
    | ok value =>
        have quiet : ∀ event ∈ other.trace, protocol.reports event none :=
          first.quiet value ended
        rw [bind_of_ok ended, bind_of_ok ended]
        obtain same | ⟨error, failed, lacks, quietNext⟩ := (second value ended).alike
        · exact .inl (by rw [same])
        · exact .inr ⟨error, failed, lacks, List.forall_mem_append.mpr ⟨quiet, quietNext⟩⟩
  · exact .inr (lacks.bind next)

theorem Outgrows.map {run other : Run Error α} (h : run.Outgrows protocol missing other)
    (f : α → β) : (f <$> run).Outgrows protocol missing (f <$> other) := by
  rw [← bind_pure_comp, ← bind_pure_comp]
  exact h.bind fun value _ => outgrows_pure (f value)

/-- To which field an error is attributed is another matter. -/
theorem Outgrows.attachPath {run other : Run Error α} (h : run.Outgrows protocol missing other)
    (path : FieldPath) :
    (run.attachPath path).Outgrows protocol missing (other.attachPath path) := by
  refine ⟨quiet_attachPath_iff.mpr h.quiet, ?_⟩
  obtain rfl | ⟨error, failed, lacks, quiet⟩ := h.alike
  · exact .inl rfl
  · refine .inr ⟨error.attachPath path, ?_, lacks, ?_⟩
    · rw [outcome_attachPath, failed]
      rfl
    · rwa [trace_attachPath]

theorem outgrows_traverse {γ : Type} {f : α → Run Error β} {g : γ → Run Error β} {values : List α}
    {others : List γ}
    (step : List.Forall₂ (fun value other => (f value).Outgrows protocol missing (g other))
      values others) :
    (traverse f values).Outgrows protocol missing (traverse g others) := by
  induction step with
  | nil => exact outgrows_pure []
  | cons first _ ih =>
      rw [traverse_cons, traverse_cons]
      exact first.bind fun _ _ => ih.bind fun _ _ => outgrows_pure _

end Run

end TypedQuery
