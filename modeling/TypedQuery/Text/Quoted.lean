import TypedQuery.Text.Visible

/-!
# Quoted text in reports

A report shows a text between double quotes on one line. Quote and backslash stand behind
a backslash, the common control characters have a letter, and every other character that
cannot be shown is written as its code point in braces.
-/

namespace TypedQuery.Text

/-- The lower-case hexadecimal digits of a code point. -/
def hexDigits (code : Nat) : List Char := Nat.toDigits 16 code

/-- How one character stands in a report. -/
def reported (c : Char) : List Char :=
  match c with
  | '\x00' => ['\\', '0']
  | '\t' => ['\\', 't']
  | '\r' => ['\\', 'r']
  | '\n' => ['\\', 'n']
  | '"' => ['\\', '"']
  | '\\' => ['\\', '\\']
  | c => if isVisible c then [c] else ['\\', 'u', '\x7b'] ++ hexDigits c.toNat ++ ['\x7d']

def quoted (text : String) : String :=
  "\"" ++ String.ofList (text.toList.flatMap reported) ++ "\""

example : quoted "é\n" = "\"é\\n\"" := by decide +kernel

end TypedQuery.Text
