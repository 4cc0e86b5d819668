/-!
# Named entries in order

JSON objects, the fields of a type and the tables of a schema are lists of named
entries. Their order is the order in which the names first came: writing to a name
that is present replaces the value where it stands, and a new name goes to the end.
The lemmas say what `put` does to the two views of a list of entries, its `keys` and
the look-up `get?`; no name is ever written twice.
-/

namespace TypedQuery.Entries

variable {α β : Type}

/-- The value of the first entry of that name. -/
def get? : List (String × α) → String → Option α
  | [], _ => none
  | (key, value) :: rest, name => if key = name then some value else get? rest name

/-- Replaces the value of a present name where it stands; appends a new name. -/
def put : List (String × α) → String → α → List (String × α)
  | [], name, value => [(name, value)]
  | (key, old) :: rest, name, value =>
    if key = name then (key, value) :: rest else (key, old) :: put rest name value

def keys (entries : List (String × α)) : List String := entries.map (·.1)

def has (entries : List (String × α)) (name : String) : Bool := (get? entries name).isSome

/-- Writes the later entries over the earlier ones, one by one. -/
def putAll (entries more : List (String × α)) : List (String × α) :=
  more.foldl (fun written entry => put written entry.1 entry.2) entries

/-- Entries as they are kept: each name at its first place, with its last value. -/
def ofList (entries : List (String × α)) : List (String × α) := putAll [] entries

@[simp] theorem keys_nil : keys ([] : List (String × α)) = [] := rfl

@[simp] theorem keys_cons (entry : String × α) (rest : List (String × α)) :
    keys (entry :: rest) = entry.1 :: keys rest := rfl

@[simp] theorem get?_nil (name : String) : get? ([] : List (String × α)) name = none := rfl

theorem get?_cons (key : String) (value : α) (rest : List (String × α)) (name : String) :
    get? ((key, value) :: rest) name = if key = name then some value else get? rest name := rfl

theorem get?_eq_none_iff {entries : List (String × α)} {name : String} :
    get? entries name = none ↔ name ∉ keys entries := by
  induction entries with
  | nil => simp
  | cons entry rest ih =>
    obtain ⟨key, value⟩ := entry
    by_cases h : key = name
    · simp [get?_cons, h]
    · simp [get?_cons, h, ih, Ne.symm h]

theorem mem_of_get?_eq_some {entries : List (String × α)} {name : String} {value : α}
    (h : get? entries name = some value) : (name, value) ∈ entries := by
  induction entries with
  | nil => simp at h
  | cons entry rest ih =>
    obtain ⟨key, first⟩ := entry
    rw [get?_cons] at h
    split at h
    · next hk => simp_all
    · exact List.mem_cons_of_mem _ (ih h)

/-- Looking up a value that is computed entry by entry. -/
theorem get?_map (f : α → β) (entries : List (String × α)) (name : String) :
    get? (entries.map fun entry => (entry.1, f entry.2)) name = (get? entries name).map f := by
  induction entries with
  | nil => rfl
  | cons entry rest ih =>
    obtain ⟨key, value⟩ := entry
    by_cases h : key = name <;> simp [get?_cons, h, ih]

/-- Of two tables, one after the other, the first has the say. -/
theorem get?_append (entries more : List (String × α)) (name : String) :
    get? (entries ++ more) name = (get? entries name).or (get? more name) := by
  induction entries with
  | nil => rfl
  | cons entry rest ih =>
    obtain ⟨key, value⟩ := entry
    by_cases h : key = name <;> simp [get?_cons, h, ih]

/-- Where each name comes once, looking a name up finds whatever stands under it. -/
theorem get?_eq_some_iff {entries : List (String × α)} (unique : (keys entries).Nodup)
    {name : String} {value : α} : get? entries name = some value ↔ (name, value) ∈ entries := by
  refine ⟨mem_of_get?_eq_some, fun inside => ?_⟩
  induction entries with
  | nil => cases inside
  | cons entry rest ih =>
    obtain ⟨key, first⟩ := entry
    obtain ⟨fresh, unique⟩ := List.nodup_cons.1 unique
    rw [get?_cons]
    obtain same | inside := List.mem_cons.1 inside
    · cases same
      exact if_pos rfl
    · have named : name ∈ keys rest := List.mem_map_of_mem inside
      have other : key ≠ name := fun same => fresh (same ▸ named)
      rw [if_neg other]
      exact ih unique inside

/-- Where each name comes once, look-ups do not tell in which order the entries stand. -/
theorem get?_perm {entries reordered : List (String × α)} (unique : (keys entries).Nodup)
    (reordering : entries.Perm reordered) (name : String) :
    get? reordered name = get? entries name := by
  have uniqueReordered : (keys reordered).Nodup := (reordering.map Prod.fst).nodup_iff.mp unique
  ext value
  rw [get?_eq_some_iff uniqueReordered, get?_eq_some_iff unique, reordering.mem_iff]

theorem has_eq_true_iff {entries : List (String × α)} {name : String} :
    has entries name = true ↔ name ∈ keys entries := by
  rw [has, Option.isSome_iff_ne_none, ne_eq, get?_eq_none_iff, Decidable.not_not]

@[simp] theorem get?_put_self (entries : List (String × α)) (name : String) (value : α) :
    get? (put entries name value) name = some value := by
  induction entries with
  | nil => simp [put, get?_cons]
  | cons entry rest ih =>
    obtain ⟨key, old⟩ := entry
    by_cases h : key = name <;> simp [put, get?_cons, h, ih]

theorem get?_put_of_ne {name other : String} (h : other ≠ name)
    (entries : List (String × α)) (value : α) :
    get? (put entries name value) other = get? entries other := by
  induction entries with
  | nil => simp [put, get?_cons, Ne.symm h]
  | cons entry rest ih =>
    obtain ⟨key, old⟩ := entry
    by_cases hk : key = name
    · subst hk; simp [put, get?_cons, Ne.symm h]
    · simp [put, get?_cons, hk, ih]

/-- A name that is present keeps its place. -/
theorem keys_put_of_mem {entries : List (String × α)} {name : String}
    (h : name ∈ keys entries) (value : α) : keys (put entries name value) = keys entries := by
  induction entries with
  | nil => simp at h
  | cons entry rest ih =>
    obtain ⟨key, old⟩ := entry
    by_cases hk : key = name
    · simp [put, hk]
    · have hr : name ∈ keys rest := by simpa [Ne.symm hk] using h
      simp [put, hk, ih hr]

/-- A new name goes to the end. -/
theorem put_of_not_mem {entries : List (String × α)} {name : String}
    (h : name ∉ keys entries) (value : α) :
    put entries name value = entries ++ [(name, value)] := by
  induction entries with
  | nil => rfl
  | cons entry rest ih =>
    obtain ⟨key, old⟩ := entry
    simp only [keys_cons, List.mem_cons, not_or] at h
    simp [put, Ne.symm h.1, ih h.2]

/-- No name comes twice in what is written. -/
theorem nodup_keys_put {entries : List (String × α)} (h : (keys entries).Nodup)
    (name : String) (value : α) : (keys (put entries name value)).Nodup := by
  by_cases hm : name ∈ keys entries
  · rwa [keys_put_of_mem hm]
  · rw [put_of_not_mem hm]
    simp only [keys, List.map_append, List.map_cons, List.map_nil]
    refine List.nodup_append.2 ⟨h, by simp, ?_⟩
    intro a ha b hb
    simp only [List.mem_singleton] at hb
    subst hb
    exact fun he => hm (he ▸ ha)

theorem nodup_keys_putAll {entries : List (String × α)} (h : (keys entries).Nodup)
    (more : List (String × α)) : (keys (putAll entries more)).Nodup := by
  induction more generalizing entries with
  | nil => exact h
  | cons entry rest ih => exact ih (nodup_keys_put h entry.1 entry.2)

theorem nodup_keys_ofList (entries : List (String × α)) : (keys (ofList entries)).Nodup :=
  nodup_keys_putAll (by simp) entries

end TypedQuery.Entries
