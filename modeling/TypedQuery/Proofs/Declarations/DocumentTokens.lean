import TypedQuery.Proofs.Declarations.Descriptions
import TypedQuery.Proofs.Declarations.MarkerText

/-!
# The tokens of a document

Keys are written between quotes, and descriptions as block comments. An export is tidy, as
`TidyExport` says, if none of them ends before its place does, and if the types that it mentions
leave nothing open. The text of a document with tidy exports shows the fixed part and, behind it,
the keys and types one by one: every key is read as what it is, and nothing is left of descriptions.
So tidy documents that differ in nothing but descriptions show the same `Document.tokens`.
-/

namespace TypedQuery.Declarations

/-- The characters of a text as they stand in code. -/
def marks (text : String) : List Token := text.toList.map .mark

theorem doubleQuoted?_marks (text : String) :
    (marks text).filterMap Token.doubleQuoted? = [] := by
  simp [marks, Token.doubleQuoted?]

/-- In code the text stands for itself: it begins neither a literal nor a comment. -/
def Bare (text : String) : Prop := Shows text (marks text)

instance (text : String) : Decidable (Bare text) := inferInstanceAs (Decidable (_ = _))

theorem Plain.bare {text : String} (plain : Plain text) : Bare text := shows_plain plain

/-- The text takes the scanner from code to code, so it is `Closed`, and has no literals in double
quotes. -/
structure Unquoted (text : String) : Prop where
  closed : Closed text
  quotes : doubleQuoted text = []

namespace Closed

variable {text more : String}

theorem shows (h : Closed text) : Shows text (tokens text) := by
  obtain ⟨shown, h⟩ := h
  rwa [h.tokens_eq]

/-- What comes behind is read as it is read alone. -/
theorem tokens_append (h : Closed text) (more : String) :
    tokens (text ++ more) = tokens text ++ tokens more := by
  obtain ⟨shown, h⟩ := h
  rw [h.tokens_eq, tokens, String.toList_append, scan_append, h]
  simp [tokens]

theorem doubleQuoted_append (h : Closed text) (more : String) :
    doubleQuoted (text ++ more) = doubleQuoted text ++ doubleQuoted more := by
  rw [doubleQuoted, h.tokens_append, List.filterMap_append]
  rfl

theorem uncommented_append (h : Closed text) (more : String) :
    uncommented (text ++ more) = uncommented text ++ uncommented more := by
  rw [uncommented, h.tokens_append, List.flatMap_append, String.ofList_append]
  rfl

end Closed

namespace Unquoted

variable {text more : String}

theorem bare (h : Bare text) : Unquoted text :=
  ⟨⟨_, h⟩, by rw [doubleQuoted, h.tokens_eq, doubleQuoted?_marks]⟩

theorem plain (h : Plain text) : Unquoted text := bare h.bare

theorem single (verbatim : Verbatim '\'' text) : Unquoted ("'" ++ text ++ "'") :=
  ⟨⟨_, shows_single verbatim⟩, by rw [doubleQuoted, (shows_single verbatim).tokens_eq]; rfl⟩

theorem append (h : Unquoted text) (next : Unquoted more) : Unquoted (text ++ more) :=
  ⟨h.closed.append next.closed, by
    rw [h.closed.doubleQuoted_append, h.quotes, next.quotes, List.append_nil]⟩

end Unquoted

/-- A name between double quotes is read as the name just if it stands for itself there. -/
theorem doubleQuoted_double_iff {name : String} :
    doubleQuoted ("\"" ++ name ++ "\"") = [some name] ↔ Verbatim '"' name := by
  constructor
  · intro read
    exact verbatim_of_mem_doubleQuoted (read ▸ List.mem_singleton_self _)
  · intro verbatim
    rw [doubleQuoted, (shows_double verbatim).tokens_eq,
      List.filterMap_cons_some verbatim.doubleQuoted?_literal, List.filterMap_nil]

section Tokens

/-- The `tokens` of a key with its type. -/
def leafTokens (entry : String × Leaf) : List Token :=
  [.literal '"' entry.1.toList] ++ marks (if entry.2.optional then "?" else "") ++ marks ":"
    ++ tokens entry.2.render ++ marks ";"

def entryTokens (entry : String × Entry) : List Token :=
  match entry.2 with
  | .leaf shown => leafTokens (entry.1, shown)
  | .record _ leaves =>
    [.literal '"' entry.1.toList] ++ marks ":\x7b" ++ leaves.flatMap leafTokens ++ marks "\x7d;"

def exportTokens (declared : String × Export) : List Token :=
  marks "export type " ++ marks declared.1 ++ marks "=\x7b"
    ++ declared.2.entries.flatMap entryTokens ++ marks "\x7d\n"

/-- What is left of the part of a document that is written from a schema, that is of its exports,
`exportTokens` each. -/
def Document.tokens (written : Document) : List Token := written.exports.flatMap exportTokens

theorem entryTokens_undescribed (key : String) (entry : Entry) :
    entryTokens (key, entry.undescribed) = entryTokens (key, entry) := by
  cases entry with
  | leaf => rfl
  | record description leaves =>
      simp only [Entry.undescribed, entryTokens, List.flatMap_map]
      rfl

theorem exportTokens_undescribedSection (name : String) (exported : Export) :
    exportTokens (name, exported.undescribedSection) = exportTokens (name, exported) := by
  simp [exportTokens, Export.undescribedSection, undescribedEntries, List.flatMap_map,
    entryTokens_undescribed]

/-- Descriptions leave nothing, so `Document.undescribed` has the same tokens. -/
theorem Document.tokens_undescribed (written : Document) :
    written.undescribed.tokens = written.tokens := by
  have objects (exported : String × Export) :
      exportTokens (exported.1, exported.2.undescribed) = exportTokens exported :=
    exportTokens_undescribedSection exported.1 exported.2
  simp [Document.tokens, Document.exports, Document.undescribed, List.flatMap_map,
    exportTokens_undescribedSection, objects]

end Tokens

section Tidy

/-- Nothing of what is written of a leaf is left open. -/
structure TidyLeaf (entry : String × Leaf) : Prop where
  key : Verbatim '"' entry.1
  value : Closed entry.2.value
  description : ∀ text ∈ entry.2.description, Harmless text

inductive TidyEntry : String × Entry → Prop
  | leaf {key shown} : TidyLeaf (key, shown) → TidyEntry (key, .leaf shown)
  | record {key description leaves} : Verbatim '"' key →
      (∀ text ∈ description, Harmless text) → (∀ leaf ∈ leaves, TidyLeaf leaf) →
      TidyEntry (key, .record description leaves)

structure TidyExport (declared : String × Export) : Prop where
  name : Bare declared.1
  description : ∀ text ∈ declared.2.description, Harmless text
  entries : ∀ entry ∈ declared.2.entries, TidyEntry entry

/-- The wrapping of a type has no literals. -/
theorem render_of_closed {leaf : Leaf} (value : Closed leaf.value) :
    Closed leaf.render ∧ doubleQuoted leaf.render = doubleQuoted leaf.value := by
  have wrap {text : String} (closed : Closed text) {before after : String} (left : Plain before)
      (right : Plain after) : Closed (before ++ text ++ after) ∧
        doubleQuoted (before ++ text ++ after) = doubleQuoted text := by
    have front : Unquoted before := .plain left
    have back : Unquoted after := .plain right
    refine ⟨(front.closed.append closed).append back.closed, ?_⟩
    rw [(front.closed.append closed).doubleQuoted_append, front.closed.doubleQuoted_append,
      front.quotes, back.quotes, List.append_nil, List.nil_append]
  have shown : Closed (if leaf.value = "" then "undefined" else leaf.value) ∧
      doubleQuoted (if leaf.value = "" then "undefined" else leaf.value)
        = doubleQuoted leaf.value := by
    split
    next empty =>
      rw [empty]
      exact ⟨.plain (by decide), by decide⟩
    next => exact ⟨value, rfl⟩
  have behind : Plain ((if leaf.array.any (·.nullElements) then "|null" else "") ++ ")"
      ++ (if leaf.array.isSome then "[]" else "") ++ (if leaf.nullable then "|null" else "")) := by
    refine ((Plain.append ?_ (by decide)).append ?_).append ?_ <;> split <;> decide
  have wrapped := wrap shown.1 (show Plain "(" by decide) behind
  simp only [Leaf.render, ← String.append_assoc] at wrapped ⊢
  exact ⟨wrapped.1, wrapped.2.trans shown.2⟩

theorem TidyLeaf.shows {entry : String × Leaf} (tidy : TidyLeaf entry) :
    Shows (renderLeaf entry) (leafTokens entry) := by
  have text : renderLeaf entry
      = comment entry.2.description ++ ("\"" ++ entry.1 ++ "\"")
        ++ (if entry.2.optional then "?" else "") ++ ":" ++ entry.2.render ++ ";" := by
    simp [renderLeaf, String.append_assoc]
  have optional : Plain (if entry.2.optional then "?" else "") := by split <;> decide
  have key := (shows_comment tidy.description).append (shows_double tidy.key)
  have value := (render_of_closed tidy.value).1.shows
  rw [text]
  exact (((key.append (shows_plain optional)).append (shows_plain (by decide))).append
    value).append (shows_plain (by decide))

theorem TidyEntry.shows {entry : String × Entry} (tidy : TidyEntry entry) :
    Shows (renderEntry entry) (entryTokens entry) := by
  cases tidy with
  | leaf tidy => exact tidy.shows
  | @record key description leaves verbatim harmless each =>
      have text : renderEntry (key, .record description leaves)
          = comment description ++ ("\"" ++ key ++ "\"") ++ ":\x7b"
            ++ String.join (leaves.map renderLeaf) ++ "\x7d;" := by
        apply String.toList_injective
        simp [renderEntry]
      have shown := (shows_comment harmless).append (shows_double verbatim)
      have inside : Shows (String.join (leaves.map renderLeaf)) (leaves.flatMap leafTokens) :=
        .join fun leaf inside => (each leaf inside).shows
      rw [text]
      exact ((shown.append (shows_plain (by decide))).append inside).append
        (shows_plain (by decide))

theorem TidyExport.shows {declared : String × Export} (tidy : TidyExport declared) :
    Shows (renderExport declared) (exportTokens declared) := by
  have text : renderExport declared
      = comment declared.2.description ++ ("export type " ++ declared.1 ++ "=\x7b"
          ++ String.join (declared.2.entries.map renderEntry) ++ "\x7d\n") := by
    simp [renderExport, String.append_assoc]
  have keyword : Plain "export type " := by decide
  have inside : Shows (String.join (declared.2.entries.map renderEntry))
      (declared.2.entries.flatMap entryTokens) :=
    .join fun entry inside => (tidy.entries entry inside).shows
  rw [text]
  exact (shows_comment tidy.description).append (((((shows_plain keyword).append
    tidy.name).append (shows_plain (by decide))).append inside).append (shows_plain (by decide)))

/-- How the literals of an entry are read: its key, and what is mentioned in quotes. -/
def leafQuotes (entry : String × Leaf) : List (Option String) :=
  some entry.1 :: doubleQuoted entry.2.value

def entryQuotes (entry : String × Entry) : List (Option String) :=
  match entry.2 with
  | .leaf shown => leafQuotes (entry.1, shown)
  | .record _ leaves => some entry.1 :: leaves.flatMap leafQuotes

theorem TidyLeaf.quotes {entry : String × Leaf} (tidy : TidyLeaf entry) :
    (leafTokens entry).filterMap Token.doubleQuoted? = leafQuotes entry := by
  have value : (tokens entry.2.render).filterMap Token.doubleQuoted?
      = doubleQuoted entry.2.value := (render_of_closed tidy.value).2
  simp [leafTokens, leafQuotes, List.filterMap_append, doubleQuoted?_marks, value,
    tidy.key.doubleQuoted?_literal]

theorem filterMap_flatMap_of_forall {α β γ : Type} {list : List α} {f : α → List β}
    {g : β → Option γ} {h : α → List γ} (each : ∀ a ∈ list, (f a).filterMap g = h a) :
    (list.flatMap f).filterMap g = list.flatMap h := by
  rw [List.filterMap_flatMap]
  exact List.flatMap_congr each

theorem TidyEntry.quotes {entry : String × Entry} (tidy : TidyEntry entry) :
    (entryTokens entry).filterMap Token.doubleQuoted? = entryQuotes entry := by
  cases tidy with
  | leaf tidy => exact tidy.quotes
  | @record key description leaves verbatim _ each =>
      have inside := filterMap_flatMap_of_forall fun leaf held => (each leaf held).quotes
      simp [entryTokens, entryQuotes, List.filterMap_append, doubleQuoted?_marks, inside,
        verbatim.doubleQuoted?_literal]

theorem TidyExport.quotes {declared : String × Export} (tidy : TidyExport declared) :
    (exportTokens declared).filterMap Token.doubleQuoted?
      = declared.2.entries.flatMap entryQuotes := by
  have inside := filterMap_flatMap_of_forall fun entry held => (tidy.entries entry held).quotes
  simp [exportTokens, List.filterMap_append, doubleQuoted?_marks, inside]

end Tidy

section Head

/-- What a document shows besides the schema. -/
def headText (options : Options) : String :=
  (if options.queryBuilder then queryBuilder else "") ++ scaffold
    ++ "type LookupValue = " ++ options.marker.render ++ "\n\n"

theorem closed_of_scan {text : String} (back : (scan .code text.toList).1 = .code) : Closed text :=
  ⟨_, Prod.ext back rfl⟩

/-- A line takes the scanner from code to code, together with its end. -/
theorem closed_line {line : List Char} (back : (scan .code (line ++ ['\n'])).1 = .code) :
    Closed (String.ofList line ++ "\n") :=
  closed_of_scan (by simpa using back)

theorem Closed.lines {line next : String} {rest : List String} (first : Closed (line ++ "\n"))
    (others : Closed ("\n".intercalate (next :: rest))) :
    Closed ("\n".intercalate (line :: next :: rest)) := by
  rw [String.intercalate_cons_cons]
  exact first.append others

theorem closed_scaffold : Closed scaffold := by
  unfold scaffold
  repeat
    refine .lines (closed_line ?_) ?_
    · rfl
  rw [String.intercalate_singleton]
  exact .plain (by decide)

theorem closed_queryBuilder : Closed queryBuilder := by
  unfold queryBuilder
  repeat
    refine .lines (closed_line ?_) ?_
    · rfl
  rw [String.intercalate_singleton]
  exact .plain (by decide)

theorem closed_headText (options : Options) : Closed (headText options) := by
  have builder : Closed (if options.queryBuilder then queryBuilder else "") := by
    split
    · exact closed_queryBuilder
    · exact .plain (by decide)
  exact (((builder.append closed_scaffold).append (.plain (by decide))).append
    options.marker.closed_render).append (.plain (by decide))

end Head

namespace Document

variable {written : Document} (tidy : ∀ declared ∈ written.exports, TidyExport declared)
include tidy

/-- The text of a tidy document shows the fixed part, and then what is left of the document. -/
theorem tokens_render (options : Options) :
    Declarations.tokens (written.render options)
      = Declarations.tokens (headText options) ++ written.tokens := by
  have exports : Shows (String.join (written.exports.map renderExport)) written.tokens :=
    .join fun declared inside => (tidy declared inside).shows
  exact ((closed_headText options).shows.append exports).tokens_eq

theorem doubleQuoted_render (options : Options) :
    doubleQuoted (written.render options) = doubleQuoted (headText options)
      ++ written.exports.flatMap fun declared => declared.2.entries.flatMap entryQuotes := by
  have inside : written.tokens.filterMap Token.doubleQuoted?
      = written.exports.flatMap fun declared => declared.2.entries.flatMap entryQuotes :=
    filterMap_flatMap_of_forall fun declared held => (tidy declared held).quotes
  rw [doubleQuoted, tokens_render tidy, List.filterMap_append, inside]
  rfl

end Document

/-- What a document shows that has a closed description at an export. -/
theorem uncommented_of_exports {written : Document} {front back : List (String × Export)}
    {name : String} {exported : Export}
    (split : written.exports = front ++ (name, exported) :: back)
    (tidy : ∀ declared ∈ front, TidyExport declared)
    (closed : Closed (comment exported.description)) (options : Options) :
    uncommented (written.render options)
      = uncommented (headText options ++ String.join (front.map renderExport))
        ++ (uncommented (comment exported.description)
          ++ uncommented (renderExport (name, { exported with description := none })
            ++ String.join (back.map renderExport))) := by
  have text : written.render options = headText options ++ String.join (front.map renderExport)
      ++ (comment exported.description
        ++ (renderExport (name, { exported with description := none })
          ++ String.join (back.map renderExport))) := by
    apply String.toList_injective
    simp [Document.render, headText, split, renderExport, comment, String.join_cons]
  have before : Closed (headText options ++ String.join (front.map renderExport)) :=
    (closed_headText options).append ⟨_, .join fun declared inside => (tidy declared inside).shows⟩
  rw [text, before.uncommented_append, closed.uncommented_append]

end TypedQuery.Declarations
