/-!
# Gaps within a text

Blanks between words are kept. A line break becomes a blank if the next line holds text, and
falls away if empty lines follow, which stand for line breaks themselves. Blanks around line
breaks fall away. A separator that breaks a line is kept.
-/

namespace TypedQuery.Yaml

/-- What has been read since the last word; characters stand last first. -/
inductive Gap where
  | empty
  | blanks (read : List Char)
  /-- A line break and those after it. -/
  | breaks (first : Char) (more : List Char)
  /-- The line breaks after one that a backslash takes away. -/
  | spliced (more : List Char)

namespace Gap

def addBlank (gap : Gap) (c : Char) : Gap :=
  match gap with
  | .empty => .blanks [c]
  | .blanks read => .blanks (c :: read)
  | gap => gap

def addBreak (gap : Gap) (c : Char) : Gap :=
  match gap with
  | .empty | .blanks _ => .breaks c []
  | .breaks first more => .breaks first (c :: more)
  | .spliced more => .spliced (c :: more)

/-- Whether the gap goes over the end of a line. -/
def isBroken : Gap → Bool
  | .breaks _ _ => true
  | _ => false

def isEmpty : Gap → Bool
  | .empty => true
  | _ => false

/-- What the gap stands for. -/
def text : Gap → List Char
  | .empty => []
  | .blanks read => read.reverse
  | .breaks '\n' [] => [' ']
  | .breaks '\n' more => more.reverse
  | .breaks first more => first :: more.reverse
  | .spliced more => more.reverse

end Gap

end TypedQuery.Yaml
