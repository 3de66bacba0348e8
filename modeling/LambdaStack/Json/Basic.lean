import LambdaStack.Binary64
import LambdaStack.OrderedMap

/-!
# JSON values

Values whose objects remember the order of their members. Numbers are integers of the ranges of the
64-bit words or finite binary numbers; the two kinds stay apart even when they denote one number.
-/

namespace LambdaStack

/-- A number of a JSON value. -/
inductive JsonNumber where
  /-- An integer that fits a signed or an unsigned 64-bit word. -/
  | integer (value : Int)
    (bounds : -0x8000000000000000 ≤ value ∧ value < 0x10000000000000000)
  /-- A finite binary number. -/
  | float (value : Binary64.Finite)
  deriving DecidableEq

/-- A JSON value. -/
inductive Json where
  /-- The null value. -/
  | null
  /-- A truth value. -/
  | bool (value : Bool)
  /-- A number. -/
  | number (value : JsonNumber)
  /-- A text. -/
  | string (value : String)
  /-- A sequence of items. -/
  | array (items : List Json)
  /-- Named members in order. -/
  | object (members : List (String × Json))
  deriving Inhabited

namespace JsonNumber

/-- The number is a zero of any kind. -/
def isZero : JsonNumber → Bool
  | .integer value _ => value == 0
  | .float value => value.isZero

/-- The nearest binary number. -/
def toBinary64 : JsonNumber → Binary64
  | .integer value _ => .ofInt value
  | .float value => .finite value

end JsonNumber

namespace Json

mutual

/-- Equality of values, member order included. -/
def decEq : (left right : Json) → Decidable (left = right)
  | .null, .null => .isTrue rfl
  | .bool left, .bool right =>
    if equal : left = right then .isTrue (equal ▸ rfl)
    else .isFalse fun same => equal (Json.bool.inj same)
  | .number left, .number right =>
    if equal : left = right then .isTrue (equal ▸ rfl)
    else .isFalse fun same => equal (Json.number.inj same)
  | .string left, .string right =>
    if equal : left = right then .isTrue (equal ▸ rfl)
    else .isFalse fun same => equal (Json.string.inj same)
  | .array left, .array right =>
    match decEqItems left right with
    | .isTrue equal => .isTrue (equal ▸ rfl)
    | .isFalse differ => .isFalse fun same => differ (Json.array.inj same)
  | .object left, .object right =>
    match decEqMembers left right with
    | .isTrue equal => .isTrue (equal ▸ rfl)
    | .isFalse differ => .isFalse fun same => differ (Json.object.inj same)
  | .null, .bool _ | .null, .number _ | .null, .string _ | .null, .array _ | .null, .object _
  | .bool _, .null | .bool _, .number _ | .bool _, .string _ | .bool _, .array _
  | .bool _, .object _ | .number _, .null | .number _, .bool _ | .number _, .string _
  | .number _, .array _ | .number _, .object _ | .string _, .null | .string _, .bool _
  | .string _, .number _ | .string _, .array _ | .string _, .object _ | .array _, .null
  | .array _, .bool _ | .array _, .number _ | .array _, .string _ | .array _, .object _
  | .object _, .null | .object _, .bool _ | .object _, .number _ | .object _, .string _
  | .object _, .array _ => .isFalse nofun

/-- Equality of sequences of items. -/
def decEqItems : (left right : List Json) → Decidable (left = right)
  | [], [] => .isTrue rfl
  | left :: lefts, right :: rights =>
    match decEq left right, decEqItems lefts rights with
    | .isTrue head, .isTrue tail => .isTrue (head ▸ tail ▸ rfl)
    | .isFalse differ, _ => .isFalse fun same => differ (List.cons.inj same).1
    | _, .isFalse differ => .isFalse fun same => differ (List.cons.inj same).2
  | [], _ :: _ | _ :: _, [] => .isFalse nofun

/-- Equality of sequences of members. -/
def decEqMembers : (left right : List (String × Json)) → Decidable (left = right)
  | [], [] => .isTrue rfl
  | (leftKey, left) :: lefts, (rightKey, right) :: rights =>
    if keys : leftKey = rightKey then
      match decEq left right, decEqMembers lefts rights with
      | .isTrue head, .isTrue tail => .isTrue (keys ▸ head ▸ tail ▸ rfl)
      | .isFalse differ, _ =>
        .isFalse fun same => differ (Prod.mk.inj (List.cons.inj same).1).2
      | _, .isFalse differ => .isFalse fun same => differ (List.cons.inj same).2
    else .isFalse fun same => keys (Prod.mk.inj (List.cons.inj same).1).1
  | [], _ :: _ | _ :: _, [] => .isFalse nofun

end

instance : DecidableEq Json := decEq

instance : Coe String Json := ⟨.string⟩

/-- The object with the entries of a map. -/
def ofMap (map : OrderedMap Json) : Json :=
  .object map.entries

/-- Member of an object; other values have none. -/
def member? (key : String) : Json → Option Json
  | .object members => members.lookup key
  | _ => none

/-- The text of a string value. -/
def asString? : Json → Option String
  | .string value => some value
  | _ => none

/-- Loose truth: null, false, zeros and the empty text are unset. -/
def isTruthy : Json → Bool
  | .null => false
  | .bool value => value
  | .number value => !value.isZero
  | .string value => value != ""
  | .array _ => true
  | .object _ => true

/-- Member of an options object, an unset one counting as absent. -/
def truthyMember? (key : String) (options : Json) : Option Json :=
  (options.member? key).filter isTruthy

/-- Replace the value at a path of object members, if the path exists and the replacement is
defined there. -/
def modifyAt? (f : Json → Option Json) : List String → Json → Option Json
  | [], value => f value
  | key :: path, .object members =>
    match members.lookup key with
    | none => none
    | some inner =>
      (modifyAt? f path inner).map fun inner => .object (Entries.insert key inner members)
  | _ :: _, _ => none

/-- A setting as a number: an integer when it is whole and within a signed 64-bit word, and null
when it is no finite number. -/
def ofSetting : Binary64 → Json
  | .finite value =>
    let whole := value.toRat.floor
    if fits : value.toRat = whole ∧
        -0x8000000000000000 < whole ∧ whole < 0x8000000000000000 then
      .number (.integer whole ⟨Int.le_of_lt fits.2.1, Int.lt_trans fits.2.2 (by decide)⟩)
    else .number (.float value)
  | _ => .null

mutual

/-- No object anywhere in the value has two members of one name. -/
def WellFormed : Json → Prop
  | .array items => WellFormedItems items
  | .object members => (Entries.keys members).Nodup ∧ WellFormedMembers members
  | _ => True

/-- Every item is well formed. -/
def WellFormedItems : List Json → Prop
  | [] => True
  | item :: rest => WellFormed item ∧ WellFormedItems rest

/-- Every member's value is well formed. -/
def WellFormedMembers : List (String × Json) → Prop
  | [] => True
  | (_, value) :: rest => WellFormed value ∧ WellFormedMembers rest

end

end Json
end LambdaStack
