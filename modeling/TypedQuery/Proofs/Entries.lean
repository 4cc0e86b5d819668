import Mathlib.Data.List.Induction
import Mathlib.Data.List.Nodup
import TypedQuery.Proofs.Schema.History

/-!
# Tables that are written entry by entry

Entries that are written one after the other into an empty table, which is `Entries.ofList`, stand
in the order in which their names first come, each with the value that was written last. Where no
name comes twice, the table is the list of entries as it is. A table that holds every value under
its own name is read by that name. `Entries.putAll` writes all entries of another table, whose
values win.
-/

namespace TypedQuery

/-- A name that has come before does not count once more. -/
theorem eraseDups_concat (names : List String) (name : String) :
    (names ++ [name]).eraseDups
      = if name ∈ names then names.eraseDups else names.eraseDups ++ [name] := by
  rw [List.eraseDups_append]
  split
  next known => simp [List.removeAll, known]
  next new => simp [List.removeAll, new, List.eraseDups_cons]

theorem nodup_eraseDups (names : List String) : names.eraseDups.Nodup := by
  induction names using List.reverseRecOn with
  | nil => exact List.nodup_nil
  | append_singleton names name ih =>
      rw [eraseDups_concat]
      split
      · exact ih
      next new =>
        have fresh : name ∉ names.eraseDups := fun known => new (List.mem_eraseDups.mp known)
        refine List.nodup_append.mpr ⟨ih, List.nodup_singleton name, ?_⟩
        intro other known last inside
        obtain rfl := List.mem_singleton.mp inside
        exact fun same => fresh (same ▸ known)

theorem eraseDups_sublist (names : List String) : names.eraseDups.Sublist names := by
  induction names using List.reverseRecOn with
  | nil => exact List.Sublist.slnil
  | append_singleton names name ih =>
      rw [eraseDups_concat]
      split
      · exact ih.trans (List.sublist_append_left names [name])
      · exact ih.append (List.Sublist.refl _)

/-- Nothing is left out just if no name comes twice. -/
theorem length_eraseDups_eq_iff {names : List String} :
    names.eraseDups.length = names.length ↔ names.Nodup := by
  constructor
  · intro whole
    exact (eraseDups_sublist names).eq_of_length whole ▸ nodup_eraseDups names
  · intro unique
    induction names using List.reverseRecOn with
    | nil => rfl
    | append_singleton names name ih =>
        rw [← List.concat_eq_append, List.nodup_concat] at unique
        obtain ⟨new, before⟩ := unique
        rw [eraseDups_concat, if_neg new, List.length_append, List.length_append, ih before]

theorem eraseDups_of_nodup {names : List String} (unique : names.Nodup) :
    names.eraseDups = names :=
  (eraseDups_sublist names).eq_of_length (length_eraseDups_eq_iff.mpr unique)

namespace Entries

variable {α : Type}

theorem mem_keys_iff {entries : List (String × α)} {name : String} :
    name ∈ keys entries ↔ ∃ value, get? entries name = some value := by
  rw [← Option.ne_none_iff_exists', ne_eq, get?_eq_none_iff, Decidable.not_not]

theorem keys_concat (entries : List (String × α)) (entry : String × α) :
    keys (entries ++ [entry]) = keys entries ++ [entry.1] := by
  simp [keys]

theorem nodup_keys_concat_iff {entries : List (String × α)} {entry : String × α} :
    (keys (entries ++ [entry])).Nodup ↔ entry.1 ∉ keys entries ∧ (keys entries).Nodup := by
  rw [keys_concat, ← List.concat_eq_append, List.nodup_concat]

/-- Where no name comes twice, the name of an entry is not among those in front of it. -/
theorem not_mem_keys_of_nodup {before after : List (String × α)} {entry : String × α}
    (unique : (keys (before ++ entry :: after)).Nodup) : entry.1 ∉ keys before := by
  rw [List.append_cons, keys, List.map_append] at unique
  exact (nodup_keys_concat_iff.mp unique.of_append_left).1

theorem keys_put (entries : List (String × α)) (name : String) (value : α) :
    keys (put entries name value)
      = if name ∈ keys entries then keys entries else keys entries ++ [name] := by
  split
  next known => exact keys_put_of_mem known value
  next new => rw [put_of_not_mem new, keys_concat]

theorem putAll_concat (entries more : List (String × α)) (entry : String × α) :
    putAll entries (more ++ [entry]) = put (putAll entries more) entry.1 entry.2 := by
  simp [putAll]

/-- One more entry is written over the others, by `Entries.put`. -/
theorem ofList_concat (entries : List (String × α)) (entry : String × α) :
    ofList (entries ++ [entry]) = put (ofList entries) entry.1 entry.2 := putAll_concat ..

/-- Written over others by `Entries.putAll`, names stand in the order in which they first come. -/
theorem keys_putAll {entries : List (String × α)} (unique : (keys entries).Nodup)
    (more : List (String × α)) :
    keys (putAll entries more) = (keys entries ++ keys more).eraseDups := by
  induction more using List.reverseRecOn with
  | nil =>
      rw [keys_nil, List.append_nil, eraseDups_of_nodup unique]
      rfl
  | append_singleton more entry ih =>
      rw [putAll_concat, keys_put, ih, keys_concat, ← List.append_assoc, eraseDups_concat]
      simp only [List.mem_eraseDups]

theorem keys_ofList (entries : List (String × α)) :
    keys (ofList entries) = (keys entries).eraseDups := by
  have unique : (keys ([] : List (String × α))).Nodup := List.nodup_nil
  exact keys_putAll unique entries

/-- What is written over other entries has the say. -/
theorem get?_putAll {more : List (String × α)} (unique : (keys more).Nodup)
    (entries : List (String × α)) (name : String) :
    get? (putAll entries more) name = (get? more name).or (get? entries name) := by
  induction more generalizing entries with
  | nil => rfl
  | cons entry rest ih =>
      obtain ⟨key, value⟩ := entry
      obtain ⟨fresh, unique⟩ := List.nodup_cons.1 unique
      have written : get? (putAll entries ((key, value) :: rest)) name
          = (get? rest name).or (get? (put entries key value) name) := ih unique _
      rw [written, get?_cons]
      by_cases same : key = name
      · subst same
        rw [get?_eq_none_iff.mpr fresh, get?_put_self, if_pos rfl]
        rfl
      · rw [if_neg same, get?_put_of_ne (Ne.symm same)]

/-- Writing under a name leaves the entries of other names as they are, and where they are. -/
theorem filter_put_self (entries : List (String × α)) (name : String) (value : α) :
    (put entries name value).filter (·.1 ≠ name) = entries.filter (·.1 ≠ name) := by
  induction entries with
  | nil => simp [put]
  | cons entry rest ih =>
      obtain ⟨key, old⟩ := entry
      by_cases same : key = name
      · simp [put, same]
      · rw [put, if_neg same, List.filter_cons, List.filter_cons, ih]

/-- Entries are known by their names, in order, and by what stands under each name. -/
theorem eq_of_get?_eq {entries others : List (String × α)} (unique : (keys entries).Nodup)
    (names : keys others = keys entries) (values : ∀ name, get? others name = get? entries name) :
    others = entries := by
  induction entries generalizing others with
  | nil => exact List.map_eq_nil_iff.mp names
  | cons entry entries ih =>
      obtain ⟨key, value⟩ := entry
      obtain ⟨fresh, uniqueRest⟩ := List.nodup_cons.1 unique
      cases others with
      | nil => cases names
      | cons other others =>
          obtain ⟨name, other⟩ := other
          obtain ⟨same, namesRest⟩ := List.cons.inj names
          obtain rfl : name = key := same
          have first : some other = some value := by simpa [get?_cons] using values name
          obtain rfl := Option.some.inj first
          refine congrArg _ (ih uniqueRest namesRest fun later => ?_)
          by_cases same : name = later
          · subst same
            have absent : name ∉ keys others := fun named => fresh (namesRest ▸ named)
            rw [get?_eq_none_iff.mpr fresh, get?_eq_none_iff.mpr absent]
          · have beyond := values later
            rwa [get?_cons, get?_cons, if_neg same, if_neg same] at beyond

/-- Where each name comes once, `Entries.ofList` writes nothing over. -/
theorem ofList_of_nodup {entries : List (String × α)} (unique : (keys entries).Nodup) :
    ofList entries = entries := by
  induction entries using List.reverseRecOn with
  | nil => rfl
  | append_singleton entries entry ih =>
      obtain ⟨new, before⟩ := nodup_keys_concat_iff.mp unique
      rw [ofList_concat, ih before, put_of_not_mem new]

/-- The value under a name is the one that was written last. -/
theorem last_of_mem_ofList {entries : List (String × α)} {name : String} {value : α}
    (held : (name, value) ∈ ofList entries) :
    ∃ before after, entries = before ++ (name, value) :: after ∧ name ∉ keys after := by
  replace held : get? (ofList entries) name = some value :=
    (get?_eq_some_iff (nodup_keys_ofList entries)).mpr held
  induction entries using List.reverseRecOn with
  | nil => cases held
  | append_singleton entries entry ih =>
      obtain ⟨key, last⟩ := entry
      rw [ofList_concat] at held
      by_cases same : name = key
      · subst same
        rw [get?_put_self] at held
        obtain rfl := Option.some.inj held
        exact ⟨entries, [], rfl, List.not_mem_nil⟩
      · rw [get?_put_of_ne same] at held
        obtain ⟨before, after, rfl, new⟩ := ih held
        refine ⟨before, after ++ [(key, last)], List.append_assoc .., ?_⟩
        rw [keys_concat]
        simp [new, same]

theorem mem_of_mem_ofList {entries : List (String × α)} {entry : String × α}
    (held : entry ∈ ofList entries) : entry ∈ entries := by
  obtain ⟨before, after, split, _⟩ := last_of_mem_ofList held
  exact split ▸ List.mem_append_right before List.mem_cons_self

/-- What is computed from values that stand under their own names is found under these names. -/
theorem Named.get?_map_own {β : Type} {own : α → String} {entries : List (String × α)}
    (h : Named own entries) (f : α → β) (name : String) :
    get? (entries.map fun (_, value) => (own value, f value)) name = (get? entries name).map f := by
  have named : (entries.map fun (_, value) => (own value, f value))
      = entries.map fun entry => (entry.1, f entry.2) :=
    List.map_congr_left fun entry inside => by rw [h.own entry inside]
  rw [named, get?_map]

/-- A value is found under its own name. -/
theorem Named.get?_own {own : α → String} {entries : List (String × α)} (h : Named own entries)
    {name : String} {value : α} (held : (name, value) ∈ entries) :
    get? entries (own value) = some value :=
  (get?_eq_some_iff h.unique).mpr (h.own _ held ▸ held)

end Entries

end TypedQuery
