import TypedQuery.Proofs.Declarations.Scanner

/-!
# The text of a marker

A marker is written as JSON text by `Json.render`. Its strings are escaped, so the quotes of the
text are those of its strings, and there is no slash but in them. Whatever the marker, its text
takes the scanner from code to code: it is `Closed`.
-/

namespace TypedQuery

namespace Declarations

/-- The text takes the scanner from code to code: it `Shows` some tokens. -/
def Closed (text : String) : Prop := ∃ shown, Shows text shown

namespace Closed

variable {text more : String}

theorem plain (h : Plain text) : Closed text := ⟨_, shows_plain h⟩

theorem append (h : Closed text) (next : Closed more) : Closed (text ++ more) := by
  obtain ⟨shown, h⟩ := h
  obtain ⟨others, next⟩ := next
  exact ⟨_, h.append next⟩

end Closed

end Declarations

open Declarations

theorem plain_of_digits {text : List Char} (digits : ∀ c ∈ text, c.isDigit = true) :
    Plain (String.ofList text) := by
  simp only [Plain, String.toList_ofList, List.all_eq_true]
  intro c inside
  have digit := digits c inside
  simp only [isPlain, isQuote, Bool.and_eq_true, bne_iff_ne, ne_eq, Bool.not_eq_true',
    Bool.or_eq_false_iff, beq_eq_false_iff_ne]
  refine ⟨?_, ⟨?_, ?_⟩, ?_⟩ <;>
    · rintro rfl
      exact absurd digit (by decide)

theorem isDigit_of_mem_replicate {n : Nat} {c : Char} (inside : c ∈ List.replicate n '0') :
    c.isDigit = true :=
  List.eq_of_mem_replicate inside ▸ rfl

theorem plain_nat (n : Nat) : Plain (toString n) := by
  show Plain n.repr
  rw [Nat.repr_eq_ofList_toDigits]
  exact plain_of_digits fun c inside =>
    Nat.isDigit_of_mem_toDigits (by decide) (Nat.le_refl 10) inside

theorem plain_int (n : Int) : Plain (toString n) := by
  cases n with
  | ofNat n => exact plain_nat n
  | negSucc n =>
      have minus : Plain "-" := by decide
      exact minus.append (plain_nat (n + 1))

/-- Digits, a point, an exponent with its sign. -/
theorem Decimal.plain_render (d : Decimal) : Plain d.render := by
  have digit {c : Char} (inside : c ∈ Nat.toDigits 10 d.digits) : c.isDigit = true :=
    Nat.isDigit_of_mem_toDigits (by decide) (Nat.le_refl 10) inside
  unfold render
  dsimp only
  generalize Nat.toDigits 10 d.digits = digits at *
  split
  · refine Plain.append (by decide) (plain_of_digits fun c inside => ?_)
    exact (List.mem_append.mp inside).elim isDigit_of_mem_replicate digit
  · split
    · refine ((plain_of_digits fun c inside => ?_).append (by decide)).append ?_
      · exact (List.mem_append.mp inside).elim (digit <| List.mem_of_mem_take ·)
          isDigit_of_mem_replicate
      · split
        · decide
        · exact plain_of_digits fun c inside => digit (List.mem_of_mem_drop inside)
    · have first : Plain (String.ofList (digits.take 1)) :=
        plain_of_digits fun c inside => digit (List.mem_of_mem_take inside)
      refine (((first.append ?_).append (by decide)).append ?_).append (plain_nat _)
      · split
        · decide
        · exact Plain.append (by decide)
            (plain_of_digits fun c inside => digit (List.mem_of_mem_drop inside))
      · split <;> decide

theorem Number.plain_render (number : Number) : Plain number.render := by
  cases number with
  | int value => exact plain_int value
  | float value =>
      show Plain (Binary64.render value)
      unfold Binary64.render
      refine Plain.append ?_ ?_
      · split <;> decide
      · split
        · decide
        · exact value.shortest.plain_render

namespace Json

theorem isVerbatim_hexDigit : ∀ n < 16, isVerbatim '"' (Text.hexDigit n) = true := by decide

/-- A character that is escaped stays between the quotes. -/
theorem scan_escaped (c : Char) (raw : List Char) :
    scan (.literal '"' raw) (escaped c) = (.literal '"' (raw ++ escaped c), []) := by
  unfold escaped
  split
  case h_8 quote backslash feed carriage _ _ _ =>
    split
    next control =>
      -- Behind the backslash stands a letter, and then there are digits only.
      have digits : ['0', '0', Text.hexDigit (c.toNat / 16), Text.hexDigit (c.toNat % 16)].all
          (isVerbatim '"') = true := by
        simp [isVerbatim_hexDigit (c.toNat / 16) (by omega),
          isVerbatim_hexDigit (c.toNat % 16) (by omega)]
        decide
      have letter : scan (.literal '"' raw) ['\\', 'u']
          = (.literal '"' (raw ++ ['\\'] ++ ['u']), []) := rfl
      rw [List.append_assoc] at letter
      show scan _ (['\\', 'u'] ++ _) = _
      rw [scan_append, letter, scan_verbatim digits, List.append_assoc]
      rfl
    next =>
      refine scan_verbatim ?_ raw
      simp only [List.all_cons, List.all_nil, isVerbatim, isBreak, Bool.and_true, Bool.and_eq_true,
        bne_iff_ne, Bool.not_eq_true', Bool.or_eq_false_iff, beq_eq_false_iff_ne]
      exact ⟨⟨quote, backslash⟩, feed, carriage⟩
  all_goals simp [scan, Place.step, Place.inLiteral]

theorem scan_escaped_text (text raw : List Char) :
    scan (.literal '"' raw) (text.flatMap escaped)
      = (.literal '"' (raw ++ text.flatMap escaped), []) := by
  induction text generalizing raw with
  | nil => simp [scan]
  | cons c text ih => simp [scan_append, scan_escaped, ih]

theorem closed_quote (text : String) : Closed (quote text) := by
  have shown := shows_literal rfl (scan_escaped_text text.toList [])
  exact ⟨_, by simpa [Shows, quote] using shown⟩

mutual

/-- The text of a value has no comments. -/
theorem closed_render (value : Json) : Closed value.render := by
  cases value with
  | null => exact .plain (by decide)
  | bool value => cases value <;> exact .plain (by decide)
  | number value => exact .plain value.plain_render
  | string text => exact closed_quote text
  | array elements =>
      exact ((Closed.plain (by decide)).append (closed_renderElements elements)).append
        (.plain (by decide))
  | object members =>
      exact ((Closed.plain (by decide)).append (closed_renderMembers members)).append
        (.plain (by decide))
termination_by structural value

theorem closed_renderElements (elements : List Json) : Closed (renderElements elements) := by
  cases elements with
  | nil => exact .plain (by decide)
  | cons element rest =>
      cases rest with
      | nil => exact closed_render element
      | cons next rest =>
          exact ((closed_render element).append (.plain (by decide))).append
            (closed_renderElements (next :: rest))
termination_by structural elements

theorem closed_renderMembers (members : List (String × Json)) :
    Closed (renderMembers members) := by
  cases members with
  | nil => exact .plain (by decide)
  | cons member rest =>
      obtain ⟨key, value⟩ := member
      have first : Closed (quote key ++ ":" ++ render value) :=
        ((closed_quote key).append (.plain (by decide))).append (closed_render value)
      cases rest with
      | nil => exact first
      | cons next rest =>
          exact (first.append (.plain (by decide))).append (closed_renderMembers (next :: rest))
termination_by structural members

end

end Json

end TypedQuery
