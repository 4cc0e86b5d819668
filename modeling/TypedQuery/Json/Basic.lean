import TypedQuery.Entries
import TypedQuery.Number.Binary64

/-!
# JSON values

Objects keep their members in order and name no key twice. Integers and binary64 values
are different numbers even where they are equal in size: `1` is not `1.0`. Two notions of
equality live side by side. Equality of terms sees the order of members and the sign of
zero; `same` sees neither, and it is the one by which a selection marker is recognised.
-/

namespace TypedQuery

/-- An integer literal stays an integer; everything with a point or an exponent is binary64. -/
inductive Number where
  | int (value : Int)
  | float (value : Binary64)
deriving DecidableEq

def Number.isZero : Number → Bool
  | .int value => value == 0
  | .float value => value.isZero

def Number.same : Number → Number → Bool
  | .int a, .int b => a == b
  | .float a, .float b => a.same b
  | _, _ => false

inductive Json where
  | null
  | bool (value : Bool)
  | number (value : Number)
  | string (value : String)
  | array (elements : List Json)
  | object (members : List (String × Json))
deriving Inhabited

namespace Json

def int (value : Int) : Json := .number (.int value)

def nat (value : Nat) : Json := .number (.int value)

/-- The JSON form of an optional value, `null` when absent. -/
def ofOption : Option Json → Json
  | none => .null
  | some value => value

def optionalString (text : Option String) : Json := ofOption (text.map .string)

def strings (texts : List String) : Json := .array (texts.map .string)

def isNull : Json → Bool
  | .null => true
  | _ => false

/-- The member of that name, for an object that has it. -/
def get? : Json → String → Option Json
  | .object members, name => Entries.get? members name
  | _, _ => none

def asString? : Json → Option String
  | .string text => some text
  | _ => none

/-- The members of a record. An object has them under their names; an array holds their
values in order, those under required names and as many of the others as are given. -/
def record? (required optional : List String) : Json → Option (List (String × Json))
  | .object members => some members
  | .array values =>
    if required.length ≤ values.length ∧ values.length ≤ required.length + optional.length then
      some ((required ++ optional).zip values)
    else none
  | _ => none

/-- A truth value under a key, or the default if the key is missing. -/
def boolMember? (members : List (String × Json)) (key : String) (default : Bool) :
    Option Bool :=
  match Entries.get? members key with
  | none => some default
  | some (.bool value) => some value
  | some _ => none

/-- Whether a value counts as true: everything but `null`, `false`, zero and the empty text. -/
def truthy : Json → Bool
  | .null => false
  | .bool value => value
  | .number value => !value.isZero
  | .string text => text != ""
  | .array _ => true
  | .object _ => true

mutual

/-- Equality that disregards the order of members and the sign of zero. -/
def same : Json → Json → Bool
  | .null, .null => true
  | .bool a, .bool b => a == b
  | .number a, .number b => a.same b
  | .string a, .string b => a == b
  | .array as, .array bs => sameElements as bs
  | .object as, .object bs => as.length == bs.length && sameMembers as bs
  | _, _ => false
termination_by structural value => value

def sameElements : List Json → List Json → Bool
  | [], [] => true
  | a :: as, b :: bs => same a b && sameElements as bs
  | _, _ => false
termination_by structural elements => elements

/-- Whether every member has a partner of its name in the other object. -/
def sameMembers : List (String × Json) → List (String × Json) → Bool
  | [], _ => true
  | (key, a) :: rest, bs =>
    (match Entries.get? bs key with
      | some b => same a b
      | none => false) && sameMembers rest bs
termination_by structural members => members

end

mutual

/-- Decides equality of terms. -/
protected def decEq : (a b : Json) → Decidable (a = b)
  | .null, .null => isTrue rfl
  | .bool a, .bool b => decidable_of_iff (a = b) (by simp)
  | .number a, .number b => decidable_of_iff (a = b) (by simp)
  | .string a, .string b => decidable_of_iff (a = b) (by simp)
  | .array as, .array bs =>
    match decEqElements as bs with
    | isTrue h => isTrue (h ▸ rfl)
    | isFalse h => isFalse fun e => h (by cases e; rfl)
  | .object as, .object bs =>
    match decEqMembers as bs with
    | isTrue h => isTrue (h ▸ rfl)
    | isFalse h => isFalse fun e => h (by cases e; rfl)
  | .null, .bool _ | .null, .number _ | .null, .string _ | .null, .array _ | .null, .object _
  | .bool _, .null | .bool _, .number _ | .bool _, .string _ | .bool _, .array _
  | .bool _, .object _ | .number _, .null | .number _, .bool _ | .number _, .string _
  | .number _, .array _ | .number _, .object _ | .string _, .null | .string _, .bool _
  | .string _, .number _ | .string _, .array _ | .string _, .object _ | .array _, .null
  | .array _, .bool _ | .array _, .number _ | .array _, .string _ | .array _, .object _
  | .object _, .null | .object _, .bool _ | .object _, .number _ | .object _, .string _
  | .object _, .array _ => isFalse nofun
termination_by structural value => value

def decEqElements : (as bs : List Json) → Decidable (as = bs)
  | [], [] => isTrue rfl
  | [], _ :: _ | _ :: _, [] => isFalse nofun
  | a :: as, b :: bs =>
    match Json.decEq a b, decEqElements as bs with
    | isTrue h, isTrue t => isTrue (h ▸ t ▸ rfl)
    | isFalse h, _ => isFalse fun e => h (List.cons.inj e).1
    | _, isFalse t => isFalse fun e => t (List.cons.inj e).2
termination_by structural elements => elements

def decEqMembers : (as bs : List (String × Json)) → Decidable (as = bs)
  | [], [] => isTrue rfl
  | [], _ :: _ | _ :: _, [] => isFalse nofun
  | (k, a) :: as, (l, b) :: bs =>
    match decEq k l, Json.decEq a b, decEqMembers as bs with
    | isTrue n, isTrue h, isTrue t => isTrue (n ▸ h ▸ t ▸ rfl)
    | isFalse n, _, _ => isFalse fun e => n (congrArg Prod.fst (List.cons.inj e).1)
    | _, isFalse h, _ => isFalse fun e => h (congrArg Prod.snd (List.cons.inj e).1)
    | _, _, isFalse t => isFalse fun e => t (List.cons.inj e).2
termination_by structural members => members

end

instance : DecidableEq Json := Json.decEq

end Json

end TypedQuery
