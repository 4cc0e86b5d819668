import TypedQuery.Declarations.Printer

/-!
# Texts without their comments

A declaration document is read by a scanner that goes through its characters one by one, with `step`
for each of them. A block comment ends where for the first time a slash follows a star, and a line
comment with its line. A string literal ends with the quote with which it begins, unless a line
break cuts it off; a backslash takes the next character with it, and a template is a literal up to
its closing quote. What is left are the `tokens`, the literals and the marks between them.

A text that takes the scanner from code to code shows the same tokens wherever it stands in code. So
texts that are put together show what their parts show, one after the other, and it is enough to
know what each part `Shows`.
-/

namespace TypedQuery.Declarations

/-- What is left of a text without its comments. -/
inductive Token where
  | mark (c : Char)
  /-- A string literal: its quote, and what stands between the quotes. -/
  | literal (quote : Char) (raw : List Char)
  /-- A string literal that does not end. -/
  | broken (quote : Char) (raw : List Char)
deriving DecidableEq

namespace Token

def chars : Token → List Char
  | .mark c => [c]
  | .literal quote raw => quote :: raw ++ [quote]
  | .broken quote raw => quote :: raw

/-- What the token is read as, if it is a `Token.literal` in double quotes. One that has an escape
is read as something shorter, and one that is broken off is not read. -/
def doubleQuoted? : Token → Option (Option String)
  | .literal '"' raw => some (if '\\' ∈ raw then none else some (String.ofList raw))
  | .broken '"' _ => some none
  | _ => none

end Token

/-- Where the scanner stands. -/
inductive Place where
  | code
  /-- Behind a slash with which a comment may begin. -/
  | slash
  | line
  | block
  /-- In a block comment, behind a star with which it may end. -/
  | star
  | literal (quote : Char) (raw : List Char)
  /-- In a literal, behind a backslash. -/
  | escape (quote : Char) (raw : List Char)
  /-- In a literal, behind a carriage return that is escaped, and a line feed with it. -/
  | continuation (quote : Char) (raw : List Char)
deriving DecidableEq

def isQuote (c : Char) : Bool := c == '"' || c == '\'' || c == '\x60'

/-- A line break as it cuts off literals, which are then `Token.broken`. -/
def isBreak (c : Char) : Bool := c == '\n' || c == '\r'

/-- The end of a line comment. -/
def endsLine (c : Char) : Bool := isBreak c || c == '\u2028' || c == '\u2029'

namespace Place

/-- A character in code. -/
def inCode (c : Char) : Place × List Token :=
  if c = '/' then (.slash, [])
  else if isQuote c then (.literal c [], [])
  else (.code, [.mark c])

/-- A character in a literal. -/
def inLiteral (quote : Char) (raw : List Char) (c : Char) : Place × List Token :=
  if c = quote then (.code, [.literal quote raw])
  else if c = '\\' then (.escape quote (raw ++ [c]), [])
  else if isBreak c && quote != '\x60' then (.code, [.broken quote raw, .mark c])
  else (.literal quote (raw ++ [c]), [])

/-- What a character comes to: the next place, and the tokens that are complete with it. -/
def step : Place → Char → Place × List Token
  | .code, c => inCode c
  | .slash, c =>
    if c = '/' then (.line, [])
    else if c = '*' then (.block, [])
    else
      let (next, tokens) := inCode c
      (next, .mark '/' :: tokens)
  | .line, c => if endsLine c then (.code, [.mark c]) else (.line, [])
  | .block, c => (if c = '*' then .star else .block, [])
  | .star, c => (if c = '/' then .code else if c = '*' then .star else .block, [])
  | .literal quote raw, c => inLiteral quote raw c
  | .escape quote raw, c =>
    (if c = '\r' then .continuation quote (raw ++ [c]) else .literal quote (raw ++ [c]), [])
  | .continuation quote raw, c =>
    if c = '\n' then (.literal quote (raw ++ [c]), []) else inLiteral quote raw c

/-- What is left at the end of a text. -/
def rest : Place → List Token
  | .slash => [.mark '/']
  | .literal quote raw | .escape quote raw | .continuation quote raw => [.broken quote raw]
  | .code | .line | .block | .star => []

end Place

/-- Goes through a text from a place on, by `step`. -/
def scan (place : Place) : List Char → Place × List Token
  | [] => (place, [])
  | c :: text =>
    let (next, tokens) := place.step c
    let (last, more) := scan next text
    (last, tokens ++ more)

/-- The tokens of a text. -/
def tokens (text : String) : List Token :=
  let (last, tokens) := scan .code text.toList
  tokens ++ last.rest

/-- The text without its comments: what is left of its `tokens`. -/
def uncommented (text : String) : String := String.ofList ((tokens text).flatMap Token.chars)

/-- What the literals in double quotes are read as, each by `doubleQuoted?`. -/
def doubleQuoted (text : String) : List (Option String) :=
  (tokens text).filterMap Token.doubleQuoted?

example : uncommented "a /* \" */ b // c" = "a  b " ∧
    doubleQuoted "\x7b\"k\": '\"', \"*/\": 1\x7d // \"c\"" = [some "k", some "*/"] := by
  decide +kernel

theorem scan_append (place : Place) (text more : List Char) :
    scan place (text ++ more)
      = ((scan (scan place text).1 more).1,
        (scan place text).2 ++ (scan (scan place text).1 more).2) := by
  induction text generalizing place with
  | nil => rfl
  | cons c text ih => simp [scan, ih]

/-- The text takes the scanner from code to code and shows the tokens on the way. -/
def Shows (text : String) (shown : List Token) : Prop := scan .code text.toList = (.code, shown)

namespace Shows

variable {text more : String} {shown others : List Token}

theorem tokens_eq (h : Shows text shown) : tokens text = shown := by
  rw [tokens, h]
  exact List.append_nil shown

theorem empty : Shows "" [] := rfl

theorem append (h : Shows text shown) (next : Shows more others) :
    Shows (text ++ more) (shown ++ others) := by
  rw [Shows, String.toList_append, scan_append, h]
  exact congrArg (Prod.map id (shown ++ ·)) next

/-- Texts that are joined show what each of them shows. -/
theorem join {α : Type} {list : List α} {write : α → String} {shown : α → List Token}
    (each : ∀ entry ∈ list, Shows (write entry) (shown entry)) :
    Shows (String.join (list.map write)) (list.flatMap shown) := by
  induction list with
  | nil => exact empty
  | cons entry list ih =>
      obtain ⟨first, rest⟩ := List.forall_mem_cons.mp each
      rw [List.map_cons, String.join_cons, List.flatMap_cons]
      exact first.append (ih rest)

end Shows

/-- The character stands for itself in code. -/
def isPlain (c : Char) : Bool := c != '/' && !isQuote c

/-- The text stands for itself in code, character by character as `isPlain` says. -/
def Plain (text : String) : Prop := text.toList.all isPlain = true

instance (text : String) : Decidable (Plain text) := inferInstanceAs (Decidable (_ = true))

theorem Plain.append {text more : String} (h : Plain text) (next : Plain more) :
    Plain (text ++ more) := by
  simp only [Plain, String.toList_append, List.all_append, Bool.and_eq_true]
  exact ⟨h, next⟩

theorem scan_plain {text : List Char} (plain : text.all isPlain = true) :
    scan .code text = (.code, text.map .mark) := by
  induction text with
  | nil => rfl
  | cons c text ih =>
      simp only [List.all_cons, Bool.and_eq_true, isPlain, bne_iff_ne, ne_eq,
        Bool.not_eq_true'] at plain
      obtain ⟨⟨slash, quote⟩, plain⟩ := plain
      simp [scan, Place.step, Place.inCode, slash, quote, ih plain]

theorem shows_plain {text : String} (plain : Plain text) : Shows text (text.toList.map .mark) :=
  scan_plain plain

/-- The character stands for itself between the quotes. -/
def isVerbatim (quote c : Char) : Bool := c != quote && c != '\\' && !isBreak c

/-- The text stands for itself between the quotes. -/
def Verbatim (quote : Char) (text : String) : Prop := text.toList.all (isVerbatim quote) = true

instance (quote : Char) (text : String) : Decidable (Verbatim quote text) :=
  inferInstanceAs (Decidable (_ = true))

/-- What stands for itself between double quotes is read as itself. -/
theorem Verbatim.doubleQuoted?_literal {text : String} (verbatim : Verbatim '"' text) :
    (Token.literal '"' text.toList).doubleQuoted? = some (some text) := by
  have unescaped : '\\' ∉ text.toList := by
    intro inside
    have stays := List.all_eq_true.mp verbatim _ inside
    exact absurd stays (by decide)
  simp [Token.doubleQuoted?, unescaped]

theorem scan_verbatim {quote : Char} {text : List Char}
    (verbatim : text.all (isVerbatim quote) = true) (raw : List Char) :
    scan (.literal quote raw) text = (.literal quote (raw ++ text), []) := by
  induction text generalizing raw with
  | nil => rw [List.append_nil, scan]
  | cons c text ih =>
      simp only [List.all_cons, Bool.and_eq_true, isVerbatim, bne_iff_ne, ne_eq,
        Bool.not_eq_true'] at verbatim
      obtain ⟨⟨⟨other, plain⟩, stays⟩, verbatim⟩ := verbatim
      simp [scan, Place.step, Place.inLiteral, other, plain, stays, ih verbatim]

/-- What stands between double quotes so far has an escape or stands for itself. -/
def Place.Regular : Place → Prop
  | .literal quote raw => quote = '"' → '\\' ∈ raw ∨ raw.all (isVerbatim '"') = true
  | .escape _ raw | .continuation _ raw => '\\' ∈ raw
  | .code | .slash | .line | .block | .star => True

/-- A literal that is read as a name is read as one that stands for itself, that is `Verbatim`. -/
def Token.Regular (token : Token) : Prop :=
  ∀ name, token.doubleQuoted? = some (some name) → Verbatim '"' name

namespace Token

theorem regular_mark (c : Char) : (mark c).Regular := nofun

theorem regular_broken (quote : Char) (raw : List Char) : (broken quote raw).Regular := by
  intro name read
  unfold doubleQuoted? at read
  split at read
  next same => cases same
  next => simp at read
  next => cases read

theorem regular_literal {quote : Char} {raw : List Char} (h : (Place.literal quote raw).Regular) :
    (literal quote raw).Regular := by
  intro name read
  unfold doubleQuoted? at read
  split at read
  next inside same =>
    obtain ⟨rfl, rfl⟩ := Token.literal.inj same
    split at read
    next => simp at read
    next unescaped =>
      simp only [Option.some.injEq] at read
      rw [← read, Verbatim, String.toList_ofList]
      exact (h rfl).resolve_left unescaped
  next same => cases same
  next => cases read

end Token

namespace Place

theorem regular_inCode (c : Char) :
    (inCode c).1.Regular ∧ ∀ token ∈ (inCode c).2, token.Regular := by
  unfold inCode
  split
  · exact ⟨trivial, nofun⟩
  · split
    · exact ⟨fun _ => .inr rfl, nofun⟩
    · exact ⟨trivial, List.forall_mem_singleton.mpr (Token.regular_mark c)⟩

theorem regular_inLiteral {quote : Char} {raw : List Char} (h : (literal quote raw).Regular)
    (c : Char) :
    (inLiteral quote raw c).1.Regular ∧ ∀ token ∈ (inLiteral quote raw c).2, token.Regular := by
  unfold inLiteral
  split
  · exact ⟨trivial, List.forall_mem_singleton.mpr (Token.regular_literal h)⟩
  next other =>
    split
    next escape =>
      subst escape
      exact ⟨List.mem_append_right _ List.mem_cons_self, nofun⟩
    next plain =>
      split
      next =>
        refine ⟨trivial, List.forall_mem_cons.mpr ⟨Token.regular_broken quote raw, ?_⟩⟩
        exact List.forall_mem_singleton.mpr (Token.regular_mark c)
      next stays =>
        refine ⟨fun double => ?_, nofun⟩
        subst double
        obtain escaped | verbatim := h rfl
        · exact .inl (List.mem_append_left _ escaped)
        · right
          simp_all [isVerbatim]

/-- A step keeps to what has an escape or stands for itself, as `Place.Regular` says. -/
theorem regular_step {place : Place} (h : place.Regular) (c : Char) :
    (place.step c).1.Regular ∧ ∀ token ∈ (place.step c).2, token.Regular := by
  cases place with
  | code => exact regular_inCode c
  | slash =>
      have ⟨next, complete⟩ := regular_inCode c
      dsimp only [step]
      split
      · exact ⟨trivial, nofun⟩
      · split
        · exact ⟨trivial, nofun⟩
        · exact ⟨next, List.forall_mem_cons.mpr ⟨Token.regular_mark '/', complete⟩⟩
  | line =>
      dsimp only [step]
      split
      · exact ⟨trivial, List.forall_mem_singleton.mpr (Token.regular_mark c)⟩
      · exact ⟨trivial, nofun⟩
  | block =>
      refine ⟨?_, nofun⟩
      dsimp only [step]
      split <;> trivial
  | star =>
      refine ⟨?_, nofun⟩
      dsimp only [step]
      split
      · trivial
      · split <;> trivial
  | literal quote raw => exact regular_inLiteral h c
  | escape quote raw =>
      have escaped : '\\' ∈ raw ++ [c] := List.mem_append_left _ h
      refine ⟨?_, nofun⟩
      dsimp only [step]
      split
      · exact escaped
      · exact fun _ => .inl escaped
  | continuation quote raw =>
      dsimp only [step]
      split
      · exact ⟨fun _ => .inl (List.mem_append_left _ h), nofun⟩
      · exact regular_inLiteral (fun _ => .inl h) c

end Place

theorem regular_scan {place : Place} (h : place.Regular) (text : List Char) :
    ∀ token ∈ (scan place text).2 ++ (scan place text).1.rest, token.Regular := by
  induction text generalizing place with
  | nil =>
      cases place with
      | slash => exact List.forall_mem_singleton.mpr (Token.regular_mark '/')
      | literal quote raw | escape quote raw | continuation quote raw =>
          exact List.forall_mem_singleton.mpr (Token.regular_broken quote raw)
      | code | line | block | star => exact nofun
  | cons c text ih =>
      have ⟨next, complete⟩ := Place.regular_step h c
      rw [scan, List.append_assoc]
      exact List.forall_mem_append.mpr ⟨complete, ih next⟩

/-- No text has a literal that is read as a name that does not stand for itself. -/
theorem verbatim_of_mem_doubleQuoted {text name : String}
    (read : some name ∈ doubleQuoted text) : Verbatim '"' name := by
  obtain ⟨token, inside, same⟩ := List.mem_filterMap.mp read
  exact regular_scan (show Place.code.Regular from trivial) text.toList token inside name same

/-- What stands between quotes and does not end the literal is the literal. -/
theorem shows_literal {quote : Char} (quotes : isQuote quote = true) {text : List Char}
    (stays : scan (.literal quote []) text = (.literal quote text, [])) :
    Shows (String.ofList (quote :: text ++ [quote])) [.literal quote text] := by
  have slash : quote ≠ '/' := by
    rintro rfl
    exact absurd quotes (by decide)
  simp [Shows, scan, scan_append, Place.step, Place.inCode, slash, quotes, Place.inLiteral, stays]

theorem shows_double {text : String} (verbatim : Verbatim '"' text) :
    Shows ("\"" ++ text ++ "\"") [.literal '"' text.toList] := by
  have shown := shows_literal rfl (scan_verbatim verbatim [])
  simpa [Shows] using shown

theorem shows_single {text : String} (verbatim : Verbatim '\'' text) :
    Shows ("'" ++ text ++ "'") [.literal '\'' text.toList] := by
  have shown := shows_literal rfl (scan_verbatim verbatim [])
  simpa [Shows] using shown

/-- In a block comment the text, with a star before it, ends nothing. -/
def Harmless (text : String) : Prop := ¬ ['*', '/'] <:+: '*' :: text.toList

theorem Harmless.plain {text : String} (plain : Plain text) : Harmless text := by
  intro ends
  have inside : '/' ∈ '*' :: text.toList := ends.subset (List.mem_cons_of_mem _ List.mem_cons_self)
  have slash := List.all_eq_true.mp plain _ ((List.mem_cons.mp inside).resolve_left (by decide))
  exact absurd slash (by decide)

/-- The comment goes on until the end. -/
theorem scan_of_harmless (text : List Char) :
    (¬ ['*', '/'] <:+: text → scan .block (text ++ ['*', '/']) = (.code, [])) ∧
      (¬ ['*', '/'] <:+: '*' :: text → scan .star (text ++ ['*', '/']) = (.code, [])) := by
  induction text with
  | nil => exact ⟨fun _ => rfl, fun _ => rfl⟩
  | cons c text ih =>
      obtain ⟨inBlock, behindStar⟩ := ih
      refine ⟨fun harmless => ?block, fun harmless => ?star⟩
      case block =>
        have later : ¬ ['*', '/'] <:+: text := fun ends => harmless (List.infix_cons ends)
        by_cases star : c = '*'
        · subst star
          simp [scan, Place.step, behindStar harmless]
        · simp [scan, Place.step, star, inBlock later]
      case star =>
        have next : ¬ ['*', '/'] <:+: c :: text := fun ends => harmless (List.infix_cons ends)
        have later : ¬ ['*', '/'] <:+: text := fun ends => next (List.infix_cons ends)
        have goesOn : c ≠ '/' := by
          rintro rfl
          exact harmless (List.prefix_append ['*', '/'] text).isInfix
        by_cases star : c = '*'
        · subst star
          simp [scan, Place.step, behindStar next]
        · simp [scan, Place.step, goesOn, star, inBlock later]

/-- Nothing is left of a description that ends nothing. -/
theorem shows_comment {description : Option String}
    (harmless : ∀ text ∈ description, Harmless text) :
    Shows (comment description) [] := by
  cases description with
  | none => exact .empty
  | some text =>
      have closes := (scan_of_harmless text.toList).2 (harmless text rfl)
      simp [Shows, comment, scan, Place.step, Place.inCode, closes]

end TypedQuery.Declarations
