import TypedQuery.Declarations.Document

/-!
# Mentions of types

A field or an operation is declared with a text that mentions its type. Whether the type is held
inline or is looked up, an object type is mentioned by its capitalized name and a scalar by its
place in the section of scalars: `outputReference_of_object` and `outputReference_of_scalar`. A
hidden field has a text in place of the mention that mentions no type, because no capitalized name
begins with a small letter.
-/

namespace TypedQuery

namespace Text

/-- The small letters of the Latin alphabet. -/
def Small (c : Char) : Prop := 0x61 ≤ c.toNat ∧ c.toNat ≤ 0x7A

theorem not_small_longCapitals : ∀ entry ∈ longCapitals,
    entry.2 ≠ [] ∧ ∀ code ∈ entry.2, code < 0x61 ∨ 0x7A < code := by
  decide +kernel

theorem not_small_capitalRuns : ∀ run ∈ capitalRuns,
    run.2.2.2 + (run.2.1 - run.1) < 0x61 ∨ 0x7A < run.2.2.2 := by
  decide +kernel

theorem not_small_ofNat {code : Nat} (h : code < 0x61 ∨ 0x7A < code) :
    ¬ Small (Char.ofNat code) := by
  by_cases valid : code.isValidChar
  · have same : (Char.ofNat code).toNat = code := by
      rw [Char.ofNat, dif_pos valid]
      rfl
    rw [Small, same]
    omega
  · rw [Char.ofNat, dif_neg valid]
    rintro ⟨low, _⟩
    exact absurd low (by decide)

theorem mem_of_lookup_eq_some {code : Nat} {entries : List (Nat × List Nat)} {codes : List Nat}
    (found : entries.lookup code = some codes) : (code, codes) ∈ entries := by
  obtain ⟨front, back, split, _⟩ := List.lookup_eq_some_iff.mp found
  exact split ▸ List.mem_append_right _ List.mem_cons_self

theorem uppercase_ne_nil (c : Char) : uppercase c ≠ [] := by
  unfold uppercase
  dsimp only
  split
  next codes found =>
    have capital : codes ≠ [] := (not_small_longCapitals _ (mem_of_lookup_eq_some found)).1
    simpa using capital
  · split <;> exact nofun

/-- An upper-case form has no small letter. -/
theorem not_small_of_mem_uppercase {c letter : Char} (inside : letter ∈ uppercase c) :
    ¬ Small letter := by
  unfold uppercase at inside
  dsimp only at inside
  split at inside
  next codes found =>
    obtain ⟨code, held, rfl⟩ := List.mem_map.mp inside
    have capitals := (not_small_longCapitals _ (mem_of_lookup_eq_some found)).2
    exact not_small_ofNat (capitals code held)
  · split at inside
    next first last step capital found =>
      obtain rfl := List.mem_singleton.mp inside
      have apart : capital + (last - first) < 0x61 ∨ 0x7A < capital :=
        not_small_capitalRuns _ (List.mem_of_find?_eq_some found)
      have covers := List.find?_some found
      simp only [Bool.and_eq_true, decide_eq_true_eq] at covers
      exact not_small_ofNat (by omega)
    next missing =>
      -- The small letters are the first run.
      obtain rfl := List.mem_singleton.mp inside
      rintro ⟨low, high⟩
      have passed := List.find?_eq_none.mp missing _ List.mem_cons_self
      simp [low, high, Nat.mod_one] at passed

/-- A name that has gone through `capitalize` does not begin with a small letter. -/
theorem capitalize_ne_of_small {first : Char} (small : Small first) (rest : List Char)
    (text : String) : capitalize text ≠ String.ofList (first :: rest) := by
  unfold capitalize
  split
  · intro same
    simpa using congrArg String.toList same
  next head tail _ =>
    intro same
    obtain ⟨letter, letters, upper⟩ := List.exists_cons_of_ne_nil (uppercase_ne_nil head)
    rw [upper] at same
    obtain ⟨rfl, _⟩ := List.cons.inj (String.ofList_injective same)
    exact not_small_of_mem_uppercase (upper ▸ List.mem_cons_self) small

end Text

/-- Only a scalar that is held itself is a scalar after look-up. -/
theorem Schema.resolveInput_eq_scalar_iff {schema : Schema} {ref : InputRef} {scalar : Scalar} :
    schema.resolveInput ref = .ok (.scalar scalar) ↔ ref = .scalar scalar := by
  cases ref with
  | scalar | input => simp [resolveInput]
  | lookup name => cases found : schema.input? name <;> simp [resolveInput, found]

namespace Declarations

variable {schema : Schema} {ref : OutputRef}

theorem outputReference_of_object {type : ObjectType}
    (resolved : schema.resolveOutput ref = .ok (.object type)) :
    outputReference schema ref = Text.capitalize type.name := by
  obtain rfl | ⟨name, rfl, found⟩ := Schema.resolveOutput_eq_object_iff.mp resolved
  · rfl
  · rw [Schema.object?] at found
    rw [outputReference, found]

theorem outputReference_of_scalar {scalar : Scalar}
    (resolved : schema.resolveOutput ref = .ok (.scalar scalar)) :
    outputReference schema ref = scalarReference scalar.name := by
  rw [Schema.resolveOutput_eq_scalar_iff.mp resolved]
  rfl

theorem slotReference_of_scalar {slot : Slot} {scalar : Scalar}
    (resolved : schema.resolveInput slot.type = .ok (.scalar scalar)) :
    slotReference schema slot = scalarReference scalar.name := by
  rw [slotReference, Schema.resolveInput_eq_scalar_iff.mp resolved]

theorem slotReference_of_input {slot : Slot} {type : InputType}
    (resolved : schema.resolveInput slot.type = .ok (.input type)) :
    slotReference schema slot = inputReference type.name := by
  unfold slotReference
  obtain ref | ⟨name, ref, found⟩ := Schema.resolveInput_eq_input_iff.mp resolved
  · rw [ref]
  · rw [Schema.input?] at found
    rw [ref]
    dsimp only
    rw [found]

/-- The text that stands for the type of a hidden field mentions no type. -/
theorem outputReference_ne_never (schema : Schema) (ref : OutputRef) :
    outputReference schema ref ≠ "never" := by
  have capital (name : String) : Text.capitalize name ≠ "never" :=
    Text.capitalize_ne_of_small ⟨by decide, by decide⟩ ['e', 'v', 'e', 'r'] name
  cases ref with
  | scalar scalar =>
    intro same
    have letters := congrArg String.toList same
    simp [outputReference, scalarReference] at letters
  | object type => exact capital type.name
  | lookup name =>
    rw [outputReference]
    split
    · exact capital _
    · exact capital name

end Declarations

end TypedQuery
