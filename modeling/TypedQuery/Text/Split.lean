/-!
# Cutting texts at marks

A text is cut at the first mark, or at every mark; the mark itself belongs to no part. Both
cuts lose nothing else: putting the parts together again with the mark gives the text back.
-/

namespace TypedQuery.Text

/-- Cuts a text at the first mark, if there is one. -/
def cutAt (mark : Char) : List Char → List Char × Option (List Char)
  | [] => ([], none)
  | c :: rest =>
    if c = mark then ([], some rest)
    else
      let (before, after) := cutAt mark rest
      (c :: before, after)

/-- Cuts a text at every mark. -/
def splitAtMarks (mark : Char) : List Char → List (List Char)
  | [] => [[]]
  | c :: rest =>
    if c = mark then [] :: splitAtMarks mark rest
    else
      match splitAtMarks mark rest with
      | [] => [[c]]
      | first :: others => (c :: first) :: others

theorem splitAtMarks_ne_nil (mark : Char) (text : List Char) : splitAtMarks mark text ≠ [] := by
  cases text with
  | nil => simp [splitAtMarks]
  | cons c rest =>
    unfold splitAtMarks
    split
    · simp
    · split <;> simp

/-- The parts with the mark between them are the text. -/
theorem intercalate_splitAtMarks (mark : Char) (text : List Char) :
    [mark].intercalate (splitAtMarks mark text) = text := by
  induction text with
  | nil => rfl
  | cons c rest ih =>
    unfold splitAtMarks
    split
    · next h =>
      subst h
      match hs : splitAtMarks c rest with
      | [] => exact absurd hs (splitAtMarks_ne_nil c rest)
      | first :: others => simpa [hs] using ih
    · match hs : splitAtMarks mark rest with
      | [] => exact absurd hs (splitAtMarks_ne_nil mark rest)
      | [only] => simpa [hs] using ih
      | first :: second :: others => simpa [hs] using ih

/-- What stands before the first mark holds none. -/
theorem not_mem_cutAt (mark : Char) (text : List Char) : mark ∉ (cutAt mark text).1 := by
  induction text with
  | nil => simp [cutAt]
  | cons c rest ih =>
    by_cases h : c = mark <;> simp [cutAt, h, ih, Ne.symm]

/-- A text with a mark is what stands before the first one, the mark, and the rest. -/
theorem eq_of_cutAt {mark : Char} {text before rest : List Char}
    (h : cutAt mark text = (before, some rest)) : text = before ++ mark :: rest := by
  induction text generalizing before with
  | nil => simp [cutAt] at h
  | cons c tail ih =>
    unfold cutAt at h
    split at h
    · next hc => simp_all
    · simp only [Prod.mk.injEq] at h
      obtain ⟨rfl, hr⟩ := h
      rw [List.cons_append, ← ih (Prod.ext rfl hr)]

end TypedQuery.Text
