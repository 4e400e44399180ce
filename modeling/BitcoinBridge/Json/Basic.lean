import Mathlib.Data.List.Basic

/-!
# JSON values and the deserializer's errors

Every `#[cw_serde]` type of the contracts reaches storage and the wire through
`cosmwasm_std::to_json_vec` and `cosmwasm_std::from_json`, that is through serde
over `serde_json_wasm`. This module fixes what the writer and the reader share:

* `Json`, the JSON values serde's data model produces for the contracts' types
  and the reader hands to their visitors: integers are written with or without
  a minus sign (`num`, `neg`), and `Json.depth` is how deeply arrays and
  objects nest in a value;
* `JsonError`, `serde_json_wasm::de::Error`: the syntax errors of the reader,
  `RecursionLimitExceeded` of the deserializer's depth check, and `Custom` for
  the messages serde's derived visitors build (`unknown_field`,
  `duplicate_field`, `missing_field`, `unknown_variant`).

The messages of the derived visitors are serde's own texts, so that an error
names the field or variant it is about exactly as the contract reports it.
-/

namespace BitcoinBridge

/-- A JSON value, as far as the contracts' serde types produce and consume one.
`num n` is the integer `n`, `neg n` the integer written `-n`. -/
inductive Json where
  | null
  | bool (b : Bool)
  | num (n : Nat)
  | neg (n : Nat)
  | str (s : String)
  | arr (elems : List Json)
  | obj (members : List (String × Json))
deriving Repr, Inhabited

/-- `serde_json_wasm::de::Error`. `recursionLimitExceeded` is what
`check_recursion!` reports for an array or object nested past the
deserializer's `remaining_depth`. -/
inductive JsonError where
  | eofWhileParsingList
  | eofWhileParsingObject
  | eofWhileParsingString
  | eofWhileParsingValue
  | expectedColon
  | expectedListCommaOrEnd
  | expectedObjectCommaOrEnd
  | expectedSomeIdent
  | expectedSomeValue
  | invalidNumber
  | invalidType
  | invalidUnicodeCodePoint
  | invalidEscape
  | keyMustBeAString
  | trailingCharacters
  | trailingComma
  | recursionLimitExceeded
  | custom (msg : String)
deriving DecidableEq, Repr

mutual

/-- How deeply arrays and objects nest in a value: a scalar is at depth 0, and
an array or an object one deeper than its deepest element or member. -/
def Json.depth : Json → Nat
  | .arr elems => Json.elemsDepth elems + 1
  | .obj members => Json.membersDepth members + 1
  | _ => 0

/-- The depth of the deepest element of an array, 0 for none. -/
def Json.elemsDepth : List Json → Nat
  | [] => 0
  | v :: vs => max v.depth (Json.elemsDepth vs)

/-- The depth of the deepest member value of an object, 0 for none. -/
def Json.membersDepth : List (String × Json) → Nat
  | [] => 0
  | (_, v) :: ms => max v.depth (Json.membersDepth ms)

end

/-! ## Evaluating `Except` -/

@[simp] theorem pure_eq_ok {ε α : Type} (a : α) : (pure a : Except ε α) = Except.ok a := rfl

@[simp] theorem ok_bind {ε α β : Type} (a : α) (f : α → Except ε β) :
    (Except.ok a >>= f) = f a := rfl

@[simp] theorem error_bind {ε α β : Type} (e : ε) (f : α → Except ε β) :
    (Except.error e >>= f) = Except.error e := rfl

@[simp] theorem map_ok {ε α β : Type} (f : α → β) (a : α) :
    (f <$> (Except.ok a : Except ε α)) = Except.ok (f a) := rfl

theorem bind_eq_ok {ε α β : Type} {x : Except ε α} {f : α → Except ε β} {b : β}
    (bound : x >>= f = Except.ok b) : ∃ a, x = Except.ok a ∧ f a = Except.ok b := by
  cases x with
  | error e => cases bound
  | ok a => exact ⟨a, rfl, bound⟩

theorem map_eq_ok {ε α β : Type} {f : α → β} {x : Except ε α} {b : β}
    (mapped : f <$> x = Except.ok b) : ∃ a, x = Except.ok a ∧ f a = b := by
  cases x with
  | error e => cases mapped
  | ok a => exact ⟨a, rfl, Except.ok.inj mapped⟩

/-! ## serde's custom errors -/

/-- serde's `OneOf`: how an error lists the names it expected. -/
def oneOf : List String → String
  | [a] => "`" ++ a ++ "`"
  | [a, b] => "`" ++ a ++ "` or `" ++ b ++ "`"
  | names => "one of " ++ ", ".intercalate (names.map fun name => "`" ++ name ++ "`")

namespace JsonError

/-- `serde::de::Error::unknown_field`, raised by a derived struct visitor under
`deny_unknown_fields`. -/
def unknownField (field : String) (expected : List String) : JsonError :=
  if expected.isEmpty then .custom ("unknown field `" ++ field ++ "`, there are no fields")
  else .custom ("unknown field `" ++ field ++ "`, expected " ++ oneOf expected)

/-- `serde::de::Error::unknown_variant`, raised by a derived enum visitor. -/
def unknownVariant (variant : String) (expected : List String) : JsonError :=
  if expected.isEmpty then .custom ("unknown variant `" ++ variant ++ "`, there are no variants")
  else .custom ("unknown variant `" ++ variant ++ "`, expected " ++ oneOf expected)

/-- `serde::de::Error::duplicate_field`. -/
def duplicateField (field : String) : JsonError :=
  .custom ("duplicate field `" ++ field ++ "`")

/-- `serde::de::Error::missing_field`. -/
def missingField (field : String) : JsonError :=
  .custom ("missing field `" ++ field ++ "`")

/-- `serde::de::Error::invalid_length`, raised by a tuple visitor given too few
elements. -/
def invalidLength (len : Nat) (expected : String) : JsonError :=
  .custom ("invalid length " ++ toString len ++ ", expected " ++ expected)

end JsonError

end BitcoinBridge
