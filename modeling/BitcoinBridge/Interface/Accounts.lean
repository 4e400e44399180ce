import BitcoinBridge.Serde.Reject

/-!
# Account balances

`checkpoint::interface`'s `Accounts`, a list of balances keyed by address, and
`Accounts::balance`. Balances are `cosmwasm_std::Coin`s, whose amount is a
`Uint128` written in JSON as a decimal string and read back with
`str::parse::<u128>`. A stored `Accounts` nests four levels deep: its object,
the array of balances, each balance's tuple and each coin's object, so a coin
is read with `initialDepth - 3` levels left.

Results:
* `Accounts.fromJson_toJsonVec_accounts`: every `Accounts` comes back from its
  JSON unchanged;
* `Uint128.parseU128_eq_ok_iff`: `u128::from_str` reads exactly an optional
  `+` and one or more ASCII digits of value below `2^128`;
  `Uint128.deserialize_overflow` is the message an amount too large is
  rejected with;
* `Uint128.parseU128_eq_error_iff`: which error `from_str` reports is decided
  by position: `InvalidDigit` or `PosOverflow` for the first character, after
  an optional `+`, that is not a digit or takes the value past `u128::MAX`
  (`DigitsFail`); `Uint128.deserialize_amount_eq_error_iff` is the message an
  amount is rejected with;
* `Coin.deserialize_coin_eq_ok_iff`: a coin, which does not deny unknown
  fields, is read from any object whose members with known keys are its
  `denom` and a string `from_str` reads as its `amount`, and whose other
  members' values fit in the depth left, since `deserialize_ignored_any`
  spends the same budget;
* `Accounts.deserialize_accounts_eq_ok_iff`: the objects read as an
  `Accounts`, down to the entries of its balances;
* `Accounts.deserialize_balances_eq_error_iff`: the error a list of balances
  is rejected with, from its first entry that fails: the tuple's
  `invalid_type`, `invalid_length` or `TrailingCharacters`, the address's
  `invalid_type`, or the coin's own error.
-/

namespace BitcoinBridge

open Serialize Deserialize

/-! ## `Uint128` -/

/-- `u128::MAX + 1`. -/
def Uint128.size : Nat := 340282366920938463463374607431768211456

/-- `cosmwasm_std::Uint128`. -/
@[ext]
structure Uint128 where
  val : Nat
  lt : val < Uint128.size
deriving DecidableEq

/-- `core::num::IntErrorKind`, as far as `u128::from_str` raises it. -/
inductive IntErrorKind where
  | empty
  | invalidDigit
  | posOverflow
deriving DecidableEq, Repr

/-- The `Display` of a `ParseIntError`. -/
def IntErrorKind.description : IntErrorKind → String
  | .empty => "cannot parse integer from empty string"
  | .invalidDigit => "invalid digit found in string"
  | .posOverflow => "number too large to fit in target type"

namespace Uint128

/-- The digit loop of `u128::from_str_radix` in base 10: a character that is
not an ASCII digit is `InvalidDigit`, a value past `u128::MAX` `PosOverflow`. -/
def parseDigits : List Char → Uint128 → Except IntErrorKind Uint128
  | [], acc => .ok acc
  | c :: cs, acc =>
    if c.isDigit then
      if fits : acc.val * 10 + digitValue c < size then parseDigits cs ⟨_, fits⟩
      else .error .posOverflow
    else .error .invalidDigit

/-- `<u128 as FromStr>::from_str`: a lone sign is `InvalidDigit`, and a
leading `+` is dropped before the digits. -/
def parseU128 (s : String) : Except IntErrorKind Uint128 :=
  match s.data with
  | [] => .error .empty
  | c :: rest =>
    if (c = '+' ∨ c = '-') ∧ rest = [] then .error .invalidDigit
    else if c = '+' then parseDigits rest ⟨0, by decide⟩
    else parseDigits (c :: rest) ⟨0, by decide⟩

/-- `Uint128` serializes as the decimal string of its value. -/
instance instSerialize : Serialize Uint128 := ⟨fun n => .str (toString n.val)⟩

/-- The `visit_str` of the `Uint128` visitor: the string parsed as a `u128`. -/
def visitStr (s : String) : Except JsonError Uint128 :=
  match parseU128 s with
  | .ok n => .ok n
  | .error e => .error (.custom ("invalid Uint128 \x27" ++ s ++ "\x27 - " ++ e.description))

/-- `deserialize_str` with the `Uint128` visitor. A string has no nesting: it
is read alike at every depth. -/
instance instDeserialize : Deserialize Uint128 where
  deserializeAt _ v := match v with
    | .str s => visitStr s
    | _ => .error .invalidType

theorem le_digitFold (acc : Nat) (ds : List Char) : acc ≤ digitFold acc ds := by
  induction ds generalizing acc with
  | nil => exact le_refl acc
  | cons c cs ih => exact le_trans (by omega) (ih (acc * 10 + digitValue c))

/-! ### What `from_str` accepts -/

/-- The digit loop accepts exactly ASCII digits whose value, read on from the
accumulator, fits. -/
theorem parseDigits_eq_ok_iff : ∀ (ds : List Char) (acc n : Uint128),
    parseDigits ds acc = .ok n ↔ (∀ c ∈ ds, c.isDigit = true) ∧ digitFold acc.val ds = n.val
  | [], acc, n => by
    simp [parseDigits, digitFold, Uint128.ext_iff]
  | c :: cs, acc, n => by
    have next : digitFold acc.val (c :: cs) = digitFold (acc.val * 10 + digitValue c) cs := rfl
    rw [List.forall_mem_cons, next, parseDigits]
    by_cases digit : c.isDigit = true
    · rw [if_pos digit]
      by_cases fits : acc.val * 10 + digitValue c < size
      · rw [dif_pos fits, parseDigits_eq_ok_iff cs]
        simp only [digit, true_and]
      · rw [dif_neg fits]
        have bound := le_digitFold (acc.val * 10 + digitValue c) cs
        have := n.lt
        simp only [reduceCtorEq, false_iff, not_and]
        omega
    · rw [if_neg digit]
      simp [digit]

theorem isDigit_not_sign {c : Char} (digit : c.isDigit = true) : c ≠ '+' ∧ c ≠ '-' := by
  constructor <;> rintro rfl <;> cases digit

/-- `u128::from_str` accepts exactly an optional `+` and then one or more ASCII
digits whose value fits, and reads that value: leading zeros are read, a `-`,
a space or an empty string are not. -/
theorem parseU128_eq_ok_iff (s : String) (n : Uint128) :
    parseU128 s = .ok n ↔ ∃ ds, ds ≠ [] ∧ (s.data = ds ∨ s.data = '+' :: ds) ∧
      (∀ c ∈ ds, c.isDigit = true) ∧ digitFold 0 ds = n.val := by
  obtain ⟨_ | ⟨c, rest⟩⟩ := s
  · simp only [parseU128, reduceCtorEq, false_iff, not_exists, not_and]
    rintro ds nonempty (rfl | empty)
    · exact absurd rfl nonempty
    · cases empty
  simp only [parseU128]
  by_cases lone : (c = '+' ∨ c = '-') ∧ rest = []
  · obtain ⟨sign, rfl⟩ := lone
    simp only [sign, and_self, if_true, reduceCtorEq, false_iff, not_exists, not_and]
    rintro ds nonempty (rfl | ⟨-, rfl⟩) digits -
    · have := isDigit_not_sign (digits c (List.mem_singleton_self c))
      tauto
    · exact nonempty rfl
  rw [if_neg lone]
  by_cases plus : c = '+'
  · subst plus
    have nonempty : rest ≠ [] := fun empty => lone ⟨.inl rfl, empty⟩
    rw [if_pos rfl, parseDigits_eq_ok_iff]
    constructor
    · rintro ⟨digits, value⟩
      exact ⟨rest, nonempty, .inr rfl, digits, value⟩
    · rintro ⟨ds, -, rfl | ⟨-, rfl⟩, digits, value⟩
      · exact absurd (digits '+' (List.mem_cons_self _ _)) (by decide)
      · exact ⟨digits, value⟩
  · rw [if_neg plus, parseDigits_eq_ok_iff]
    constructor
    · rintro ⟨digits, value⟩
      exact ⟨c :: rest, List.cons_ne_nil _ _, .inl rfl, digits, value⟩
    · rintro ⟨ds, -, rfl | ⟨rfl, -⟩, digits, value⟩
      · exact ⟨digits, value⟩
      · exact absurd rfl plus

/-- Digits whose value does not fit are `PosOverflow`. -/
theorem parseDigits_overflow : ∀ (ds : List Char) (acc : Uint128),
    (∀ c ∈ ds, c.isDigit = true) → size ≤ digitFold acc.val ds →
      parseDigits ds acc = .error .posOverflow
  | [], acc, _, big => absurd acc.lt (not_lt.mpr big)
  | c :: cs, acc, digits, big => by
    rw [parseDigits, if_pos (digits c (List.mem_cons_self c cs))]
    split
    · exact parseDigits_overflow cs _ (fun d member => digits d (List.mem_cons_of_mem c member)) big
    · rfl

/-- An optional `+` and digits too large for a `u128` are `PosOverflow`. -/
theorem parseU128_overflow {s : String} {ds : List Char} (nonempty : ds ≠ [])
    (text : s.data = ds ∨ s.data = '+' :: ds) (digits : ∀ c ∈ ds, c.isDigit = true)
    (big : size ≤ digitFold 0 ds) : parseU128 s = .error .posOverflow := by
  obtain ⟨d, ds, rfl⟩ := List.exists_cons_of_ne_nil nonempty
  obtain ⟨notPlus, notMinus⟩ := isDigit_not_sign (digits d (List.mem_cons_self d ds))
  obtain ⟨data⟩ := s
  rcases text with rfl | rfl
  · simp only [parseU128, notPlus, notMinus, or_self, false_and, if_false]
    exact parseDigits_overflow _ _ digits big
  · simp only [parseU128, true_or, reduceCtorEq, and_false, if_false, if_true]
    exact parseDigits_overflow _ _ digits big

/-! ### What `from_str` rejects -/

/-- Where the digit loop stops with `kind`: at the first character after
digits that fit which is not a digit (`InvalidDigit`) or which takes the value
past `u128::MAX` (`PosOverflow`). -/
def DigitsFail (acc : Nat) (ds : List Char) (kind : IntErrorKind) : Prop :=
  ∃ front c back, ds = front ++ c :: back ∧ (∀ d ∈ front, d.isDigit = true) ∧
    digitFold acc front < size ∧
    (c.isDigit = false ∧ kind = .invalidDigit ∨
      c.isDigit = true ∧ size ≤ digitFold acc front * 10 + digitValue c ∧ kind = .posOverflow)

/-- One character of the loop: it stops there, or it goes on from the value
the character gives. -/
theorem digitsFail_cons {acc : Nat} (fits : acc < size) {c : Char} {cs : List Char}
    {kind : IntErrorKind} :
    DigitsFail acc (c :: cs) kind ↔
      c.isDigit = false ∧ kind = .invalidDigit ∨
      c.isDigit = true ∧ size ≤ acc * 10 + digitValue c ∧ kind = .posOverflow ∨
      c.isDigit = true ∧ acc * 10 + digitValue c < size ∧
        DigitsFail (acc * 10 + digitValue c) cs kind := by
  constructor
  · rintro ⟨_ | ⟨d, front⟩, c', back, split, digits, fits', stop⟩
    · obtain ⟨rfl, rfl⟩ := List.cons.inj split
      exact stop.imp id .inl
    · obtain ⟨rfl, rfl⟩ := List.cons.inj split
      have grows := le_digitFold (acc * 10 + digitValue c) front
      exact .inr (.inr ⟨digits c (List.mem_cons_self _ _), lt_of_le_of_lt grows fits',
        front, c', back, rfl, fun e mem => digits e (List.mem_cons_of_mem _ mem), fits', stop⟩)
  · rintro (stop | stop | ⟨digit, -, front, c', back, rfl, digits, fits', stop⟩)
    · exact ⟨[], c, cs, rfl, nofun, fits, .inl stop⟩
    · exact ⟨[], c, cs, rfl, nofun, fits, .inr stop⟩
    · refine ⟨c :: front, c', back, rfl, ?_, fits', stop⟩
      rintro e (_ | ⟨_, mem⟩)
      exacts [digit, digits e mem]

/-- The digit loop fails exactly where `DigitsFail` says, with its error. -/
theorem parseDigits_eq_error_iff : ∀ (ds : List Char) (acc : Uint128) (kind : IntErrorKind),
    parseDigits ds acc = .error kind ↔ DigitsFail acc.val ds kind
  | [], acc, kind => by simp [parseDigits, DigitsFail]
  | c :: cs, acc, kind => by
    rw [parseDigits, digitsFail_cons acc.lt]
    by_cases digit : c.isDigit
    · rw [if_pos digit]
      split
      · rw [parseDigits_eq_error_iff cs]
        simp [digit, not_le.mpr ‹_›, ‹_›]
      · simp [digit, not_lt.mp ‹_›, eq_comm]
    · simp [digit, eq_comm]

/-- The text after an optional leading `+`. -/
def dropPlus : List Char → List Char
  | '+' :: rest => rest
  | cs => cs

theorem not_digitsFail_nil {acc : Nat} {kind : IntErrorKind} : ¬DigitsFail acc [] kind :=
  fun ⟨front, _, _, split, _⟩ => List.append_ne_nil_of_right_ne_nil front (List.cons_ne_nil _ _)
    split.symm

/-- `u128::from_str` fails: `Empty` on the empty string, `InvalidDigit` on a
lone `+`, and otherwise as the digit loop does on what follows an optional
`+`: at the first character that is not a digit (a `-` among them) or that
takes the value past `u128::MAX`, whichever comes first. -/
theorem parseU128_eq_error_iff (s : String) (kind : IntErrorKind) :
    parseU128 s = .error kind ↔
      s.data = [] ∧ kind = .empty ∨ s.data = ['+'] ∧ kind = .invalidDigit ∨
        DigitsFail 0 (dropPlus s.data) kind := by
  have start : (0 : Nat) < size := by decide
  obtain ⟨_ | ⟨c, rest⟩⟩ := s
  · simp [parseU128, dropPlus, not_digitsFail_nil, @eq_comm _ _ kind]
  · simp only [parseU128]
    split_ifs with sign plus
    · obtain ⟨c_sign, rfl⟩ := sign
      rcases c_sign with rfl | rfl
      · simp [dropPlus, not_digitsFail_nil, @eq_comm _ _ kind]
      · simp [dropPlus, digitsFail_cons start, not_digitsFail_nil, @eq_comm _ _ kind]
    · subst plus
      have more : rest ≠ [] := fun none => sign ⟨.inl rfl, none⟩
      simp [dropPlus, more, parseDigits_eq_error_iff]
    · simp [dropPlus, plus, parseDigits_eq_error_iff]

/-- The parser reads back the decimal text of every `u128`. -/
theorem parseU128_toString (n : Uint128) : parseU128 (toString n.val) = .ok n := by
  obtain ⟨d, ds, first⟩ := List.exists_cons_of_ne_nil (writeNat_ne_nil n.val)
  refine (parseU128_eq_ok_iff _ n).mpr ⟨d :: ds, List.cons_ne_nil _ _, .inl first,
    fun c member => isDigit_of_mem_writeNat (first ▸ member), ?_⟩
  exact first ▸ digitFold_toDigitsCore (Nat.lt_succ_self _)

theorem visitStr_eq_ok_iff {s : String} {n : Uint128} :
    visitStr s = .ok n ↔ parseU128 s = .ok n := by
  rw [visitStr]
  cases parseU128 s <;> simp

theorem deserializeAt_serialize (depth : Nat) (n : Uint128) :
    (deserializeAt depth (serialize n) : Except JsonError Uint128) = .ok n :=
  visitStr_eq_ok_iff.mpr (parseU128_toString n)

instance : SerdeRoundTrip Uint128 := ⟨deserializeAt_serialize⟩

/-- The JSON read as an amount: a string that `from_str` reads as it. -/
theorem deserialize_eq_ok_iff (v : Json) (n : Uint128) :
    (deserialize v : Except JsonError Uint128) = .ok n ↔ ∃ s, v = .str s ∧ parseU128 s = .ok n := by
  cases v with
  | str s =>
    show visitStr s = _ ↔ _
    simp only [visitStr_eq_ok_iff, Json.str.injEq, exists_eq_left']
  | _ => exact iff_of_false (fun accepted => by cases accepted) (by simp)

/-- An amount too large for a `u128` is rejected, with the visitor's message
quoting the string. -/
theorem deserialize_overflow {s : String} {ds : List Char} (nonempty : ds ≠ [])
    (text : s.data = ds ∨ s.data = '+' :: ds) (digits : ∀ c ∈ ds, c.isDigit = true)
    (big : size ≤ digitFold 0 ds) :
    (deserialize (.str s) : Except JsonError Uint128) =
      .error (.custom ("invalid Uint128 \x27" ++ s ++ "\x27 - number too large to fit in target type")) := by
  show visitStr s = _
  rw [visitStr, parseU128_overflow nonempty text digits big]
  simp only [IntErrorKind.description, String.append_assoc, String.reduceAppend]

/-- What an amount is rejected with: a value that is not a string is
`invalid_type`, and a string that `from_str` rejects is the visitor's message
quoting it, with the `ParseIntError` text of the first thing wrong with it. -/
theorem deserialize_amount_eq_error_iff (v : Json) (e : JsonError) :
    (deserialize v : Except JsonError Uint128) = .error e ↔
      (∀ s, v ≠ .str s) ∧ e = .invalidType ∨
      ∃ s kind, v = .str s ∧
        (s.data = [] ∧ kind = .empty ∨ s.data = ['+'] ∧ kind = .invalidDigit ∨
          DigitsFail 0 (dropPlus s.data) kind) ∧
        e = .custom ("invalid Uint128 \x27" ++ s ++ "\x27 - " ++ kind.description) := by
  cases v with
  | str s =>
    show visitStr s = _ ↔ _
    rw [visitStr]
    constructor
    · intro failed
      cases parsed : parseU128 s with
      | error kind =>
        rw [parsed] at failed
        exact .inr ⟨s, kind, rfl, (parseU128_eq_error_iff s kind).mp parsed,
          (Except.error.inj failed).symm⟩
      | ok n => simp [parsed] at failed
    · rintro (⟨notStr, -⟩ | ⟨_, kind, same, rejected, rfl⟩)
      · exact absurd rfl (notStr s)
      · obtain rfl := Json.str.inj same
        rw [(parseU128_eq_error_iff _ kind).mpr rejected]
  | _ => simp [Deserialize.deserialize, deserializeAt, @eq_comm _ _ e]

/-- `u128::MAX + 1`, written out, is out of range. -/
theorem deserialize_overflow_size :
    (deserialize (.str "340282366920938463463374607431768211456") : Except JsonError Uint128) =
      .error (.custom ("invalid Uint128 \x27340282366920938463463374607431768211456\x27 - " ++
        "number too large to fit in target type")) :=
  deserialize_overflow (by decide : "340282366920938463463374607431768211456".data ≠ []) (.inl rfl)
    (by decide) (by decide)

end Uint128

/-! ## `Coin` -/

/-- `cosmwasm_std::Coin`. -/
structure Coin where
  denom : String
  amount : Uint128
deriving DecidableEq

namespace Coin

/-- `FIELDS` of the derived impl. -/
def FIELDS : List String :=
  ["denom", "amount"]

/-- The members the derived `serialize_struct` writes. -/
def members (coin : Coin) : List (String × Json) :=
  [("denom", serialize coin.denom), ("amount", serialize coin.amount)]

instance instSerialize : Serialize Coin := ⟨fun coin => .obj coin.members⟩

/-- The derived visitor's locals. -/
structure Slots where
  denom : Option String := none
  amount : Option Uint128 := none

/-- The derived field identifier. -/
inductive Field where
  | denom
  | amount
deriving DecidableEq

/-- The derived `visit_str` of a member's key. -/
def fieldOf : String → Option Field
  | "denom" => some .denom
  | "amount" => some .amount
  | _ => none

/-- The derived field match, with the depth the object's contents are read
at. -/
def visitField (depth : Nat) (slots : Slots) : Field → Json → Except JsonError Slots
  | .denom, value => do
    let filled ← fillField depth "denom" slots.denom value
    return { slots with denom := filled }
  | .amount, value => do
    let filled ← fillField depth "amount" slots.amount value
    return { slots with amount := filled }

/-- One member of the object: `Coin` does not deny unknown fields, so a member
whose key names no field goes through `deserialize_ignored_any`. -/
def visitKey : Nat → Slots → String → Json → Except JsonError Slots :=
  visitKeyBy false FIELDS fieldOf visitField

/-- The end of the derived `visit_map`. -/
def finish (slots : Slots) : Except JsonError Coin := do
  return {
    denom := ← takeField "denom" slots.denom
    amount := ← takeField "amount" slots.amount }

instance instDeserialize : Deserialize Coin := ⟨deserializeStruct visitKey {} finish⟩

/-- A coin comes back from its serde data wherever its object is read. -/
theorem deserializeAt_serialize (depth : Nat) (coin : Coin) :
    (deserializeAt (depth + 1) (serialize coin) : Except JsonError Coin) = .ok coin := by
  show deserializeStruct visitKey {} finish (depth + 1) (.obj coin.members) = _
  simp only [members, deserializeStruct_obj, visitMap_cons, visitMap_nil, visitKey, visitKeyBy,
    fieldOf, visitField, fillField_none, SerdeRoundTrip.deserializeAt_serialize, map_ok,
    pure_eq_ok, ok_bind, finish, takeField_some]

/-! ### What a coin is read from -/

/-- The name a field is serialized under. -/
def Field.name : Field → String
  | .denom => "denom"
  | .amount => "amount"

/-- The type of each field. -/
@[reducible] def Field.Content : Field → Type
  | .denom => String
  | .amount => Uint128

/-- Each field's `Deserialize` impl. -/
def Field.decode : (field : Field) → Json → Except JsonError field.Content
  | .denom => deserialize
  | .amount => deserialize

/-- The fields, in declaration order. -/
def Field.all : List Field :=
  [.denom, .amount]

/-- A coin's value of each field. -/
def fieldValue (coin : Coin) : (field : Field) → field.Content
  | .denom => coin.denom
  | .amount => coin.amount

/-- What a field's slot holds. -/
def Slots.get (slots : Slots) : (field : Field) → Option field.Content
  | .denom => slots.denom
  | .amount => slots.amount

theorem Slots.get_empty (field : Field) : ({} : Slots).get field = none := by
  cases field <;> rfl

theorem fieldOf_name (field : Field) : fieldOf field.name = some field := by
  cases field <;> rfl

theorem fieldOf_eq_some {key : String} {field : Field} (found : fieldOf key = some field) :
    key = field.name := by
  unfold fieldOf at found
  split at found <;> cases found <;> rfl

theorem identifier : FieldIdentifier fieldOf Field.name Field.all where
  fieldOf_name := fieldOf_name
  eq_name := fieldOf_eq_some
  mem_all field := by cases field <;> decide
  nodup_all := by decide

/-- Every arm of the field match fills its field's slot, at any depth: the
fields are scalars. -/
theorem fieldMatch (depth : Nat) : FieldMatch Field.decode Slots.get (visitField depth) where
  fills {slots slots' field value} visited := by
    cases field <;>
    · obtain ⟨filled, arm, done⟩ := bind_eq_ok visited
      cases done
      obtain ⟨empty, x, decoded, rfl⟩ := fillField_eq_ok arm
      exact ⟨empty, ⟨x, decoded, rfl⟩, fun other ne => by
        cases other <;> first | rfl | cases ne rfl⟩
  accepts {slots field value x} empty decoded := by
    cases field <;>
      exact ⟨_, (congrArg (· >>= _) (fillField_of_deserialize empty decoded)).trans rfl⟩

/-- The end of the visitor succeeds exactly on full slots. -/
theorem finish_eq_ok_iff_get {slots : Slots} {coin : Coin} :
    finish slots = .ok coin ↔ (∀ field, slots.get field = some (coin.fieldValue field)) ∧ True := by
  rw [and_true]
  obtain ⟨denom, amount⟩ := slots
  constructor
  · intro finished
    unfold finish at finished
    repeat obtain ⟨_, rfl, finished⟩ := takeField_bind_eq_ok finished
    cases finished
    intro field
    cases field <;> rfl
  · intro full
    obtain rfl : denom = some coin.denom := full .denom
    obtain rfl : amount = some coin.amount := full .amount
    rfl

/-- The objects read as a coin, with `depth` levels left for its contents:
besides the members whose key names no field, which are skipped wherever they
stand so long as their values nest no deeper than `depth`, a `denom` holding
the coin's denomination and an `amount` holding a string that `from_str` reads
as its amount, in either order. -/
theorem deserialize_coin_eq_ok_iff (depth : Nat) (members : List (String × Json)) (coin : Coin) :
    (deserializeAt (depth + 1) (.obj members) : Except JsonError Coin) = .ok coin ↔
      (∃ s, (knownMembers fieldOf members).Perm [("denom", .str coin.denom), ("amount", .str s)] ∧
        Uint128.parseU128 s = .ok coin.amount) ∧
      ∀ m ∈ members, fieldOf m.1 = none → m.2.depth ≤ depth := by
  show deserializeStruct (visitKeyBy false FIELDS fieldOf visitField) {} finish _ _ = _ ↔ _
  rw [deserializeStruct_visitKeyBy_eq_ok_iff identifier (fieldMatch depth) Slots.get_empty
    finish_eq_ok_iff_get, and_true, unknownsFit_iff]
  simp only [Bool.false_eq_true, false_implies, true_and]
  rw [and_comm]
  refine and_congr_left' ⟨fun ⟨vals, reordered, decodes⟩ => ?_, fun ⟨s, reordered, parsed⟩ => ?_⟩
  · obtain ⟨s, amount, parsed⟩ := (Uint128.deserialize_eq_ok_iff _ _).mp (decodes .amount)
    have denom : vals .denom = .str coin.denom :=
      (LawfulSerde.deserializeAt_eq_ok_iff_serialize.mp (decodes .denom)).symm
    exact ⟨s, by rwa [← denom, ← amount], parsed⟩
  · refine ⟨fun | .denom => .str coin.denom | .amount => .str s, reordered, ?_⟩
    rintro (_ | _)
    · rfl
    · exact (Uint128.deserialize_eq_ok_iff _ _).mpr ⟨s, rfl, parsed⟩

end Coin

/-! ## `Accounts` -/

/-- `Accounts`. -/
structure Accounts where
  transfersAllowed : Bool
  transferExceptions : List String
  accounts : List (String × Coin)
deriving DecidableEq

namespace Accounts

/-- `Accounts::balance`. -/
def balance (self : Accounts) (address : String) : Option Coin :=
  (self.accounts.find? fun item => item.1 == address).map fun item => item.2

/-! ## The derived JSON -/

/-- `FIELDS` of the derived impl. -/
def FIELDS : List String :=
  ["transfers_allowed", "transfer_exceptions", "accounts"]

/-- The members the derived `serialize_struct` writes. -/
def members (self : Accounts) : List (String × Json) := [
  ("transfers_allowed", serialize self.transfersAllowed),
  ("transfer_exceptions", serialize self.transferExceptions),
  ("accounts", serialize self.accounts)]

instance instSerialize : Serialize Accounts := ⟨fun self => .obj self.members⟩

/-- The derived visitor's locals. -/
structure Slots where
  transfersAllowed : Option Bool := none
  transferExceptions : Option (List String) := none
  accounts : Option (List (String × Coin)) := none

/-- The derived field identifier. -/
inductive Field where
  | transfersAllowed
  | transferExceptions
  | accounts
deriving DecidableEq

/-- The derived `visit_str` of a member's key. -/
def fieldOf : String → Option Field
  | "transfers_allowed" => some .transfersAllowed
  | "transfer_exceptions" => some .transferExceptions
  | "accounts" => some .accounts
  | _ => none

/-- The derived field match, with the depth the object's contents are read
at. -/
def visitField (depth : Nat) (slots : Slots) : Field → Json → Except JsonError Slots
  | .transfersAllowed, value => do
    let filled ← fillField depth "transfers_allowed" slots.transfersAllowed value
    return { slots with transfersAllowed := filled }
  | .transferExceptions, value => do
    let filled ← fillField depth "transfer_exceptions" slots.transferExceptions value
    return { slots with transferExceptions := filled }
  | .accounts, value => do
    let filled ← fillField depth "accounts" slots.accounts value
    return { slots with accounts := filled }

/-- One member of the object, under `deny_unknown_fields`. -/
def visitKey : Nat → Slots → String → Json → Except JsonError Slots :=
  visitKeyBy true FIELDS fieldOf visitField

/-- The end of the derived `visit_map`. -/
def finish (slots : Slots) : Except JsonError Accounts := do
  return {
    transfersAllowed := ← takeField "transfers_allowed" slots.transfersAllowed
    transferExceptions := ← takeField "transfer_exceptions" slots.transferExceptions
    accounts := ← takeField "accounts" slots.accounts }

instance instDeserialize : Deserialize Accounts := ⟨deserializeStruct visitKey {} finish⟩

/-! ### What an `Accounts` is read from -/

/-- The name a field is serialized under. -/
def Field.name : Field → String
  | .transfersAllowed => "transfers_allowed"
  | .transferExceptions => "transfer_exceptions"
  | .accounts => "accounts"

/-- The type of each field. -/
@[reducible] def Field.Content : Field → Type
  | .transfersAllowed => Bool
  | .transferExceptions => List String
  | .accounts => List (String × Coin)

/-- Each field's `Deserialize` impl, at the depth the object's contents are
read at. -/
def Field.decode (depth : Nat) : (field : Field) → Json → Except JsonError field.Content
  | .transfersAllowed => deserializeAt depth
  | .transferExceptions => deserializeAt depth
  | .accounts => deserializeAt depth

/-- The fields, in declaration order. -/
def Field.all : List Field :=
  [.transfersAllowed, .transferExceptions, .accounts]

/-- The value of each field. -/
def fieldValue (self : Accounts) : (field : Field) → field.Content
  | .transfersAllowed => self.transfersAllowed
  | .transferExceptions => self.transferExceptions
  | .accounts => self.accounts

/-- What a field's slot holds. -/
def Slots.get (slots : Slots) : (field : Field) → Option field.Content
  | .transfersAllowed => slots.transfersAllowed
  | .transferExceptions => slots.transferExceptions
  | .accounts => slots.accounts

theorem Slots.get_empty (field : Field) : ({} : Slots).get field = none := by
  cases field <;> rfl

theorem fieldOf_name (field : Field) : fieldOf field.name = some field := by
  cases field <;> rfl

theorem fieldOf_eq_some {key : String} {field : Field} (found : fieldOf key = some field) :
    key = field.name := by
  unfold fieldOf at found
  split at found <;> cases found <;> rfl

theorem identifier : FieldIdentifier fieldOf Field.name Field.all where
  fieldOf_name := fieldOf_name
  eq_name := fieldOf_eq_some
  mem_all field := by cases field <;> decide
  nodup_all := by decide

/-- Every arm of the field match fills its field's slot. -/
theorem fieldMatch (depth : Nat) :
    FieldMatch (Field.decode depth) Slots.get (visitField depth) where
  fills {slots slots' field value} visited := by
    cases field <;>
    · obtain ⟨filled, arm, done⟩ := bind_eq_ok visited
      cases done
      obtain ⟨empty, x, decoded, rfl⟩ := fillField_eq_ok arm
      exact ⟨empty, ⟨x, decoded, rfl⟩, fun other ne => by
        cases other <;> first | rfl | cases ne rfl⟩
  accepts {slots field value x} empty decoded := by
    cases field <;>
      exact ⟨_, (congrArg (· >>= _) (fillField_of_deserialize empty decoded)).trans rfl⟩

/-- The end of the visitor succeeds exactly on full slots. -/
theorem finish_eq_ok_iff_get {slots : Slots} {self : Accounts} :
    finish slots = .ok self ↔ (∀ field, slots.get field = some (self.fieldValue field)) ∧ True := by
  rw [and_true]
  obtain ⟨transfersAllowed, transferExceptions, accounts⟩ := slots
  constructor
  · intro finished
    unfold finish at finished
    repeat obtain ⟨_, rfl, finished⟩ := takeField_bind_eq_ok finished
    cases finished
    intro field
    cases field <;> rfl
  · intro full
    obtain rfl : transfersAllowed = some self.transfersAllowed := full .transfersAllowed
    obtain rfl : transferExceptions = some self.transferExceptions := full .transferExceptions
    obtain rfl : accounts = some self.accounts := full .accounts
    rfl

/-- A balance is read from a two-element array of its address and a JSON value
read as its coin, one level down. -/
theorem deserializeAt_balance_eq_ok_iff (depth : Nat) (entry : Json) (balance : String × Coin) :
    (deserializeAt (depth + 1) entry : Except JsonError (String × Coin)) = .ok balance ↔
      ∃ coin, entry = .arr [.str balance.1, coin] ∧
        (deserializeAt depth coin : Except JsonError Coin) = .ok balance.2 := by
  show deserializePair (depth + 1) entry = _ ↔ _
  rw [deserializePair_eq_ok_iff]
  constructor
  · rintro ⟨v0, v1, rfl, address, decoded⟩
    obtain rfl := LawfulSerde.serialize_of_deserializeAt address
    exact ⟨v1, rfl, decoded⟩
  · rintro ⟨v1, rfl, decoded⟩
    exact ⟨_, v1, rfl, rfl, decoded⟩

/-- The objects read as an `Accounts`, with the four levels it nests: in any
order and nothing else, its `transfers_allowed` and `transfer_exceptions` as
written, and an `accounts` array with one entry per balance, in order, each a
two-element array of the address and a JSON value read as its coin. -/
theorem deserializeAt_obj_eq_ok_iff (depth : Nat) (members : List (String × Json))
    (self : Accounts) :
    (deserializeAt (depth + 4) (.obj members) : Except JsonError Accounts) = .ok self ↔
      ∃ entries, members.Perm [("transfers_allowed", serialize self.transfersAllowed),
          ("transfer_exceptions", serialize self.transferExceptions), ("accounts", .arr entries)] ∧
        List.Forall₂ (fun entry balance => ∃ coin, entry = .arr [.str balance.1, coin] ∧
          (deserializeAt (depth + 1) coin : Except JsonError Coin) = .ok balance.2)
          entries self.accounts := by
  show deserializeStruct (visitKeyBy true FIELDS fieldOf visitField) {} finish (depth + 3 + 1)
    (.obj members) = _ ↔ _
  rw [deserializeStruct_deny_eq_ok_iff identifier (fieldMatch (depth + 3)) Slots.get_empty
    finish_eq_ok_iff_get, and_true]
  simp only [← deserializeAt_balance_eq_ok_iff]
  constructor
  · rintro ⟨vals, reordered, decodes⟩
    obtain ⟨entries, balances, decoded⟩ := deserialize_list_eq_ok_iff.mp (decodes .accounts)
    have allowed := LawfulSerde.serialize_of_deserializeAt (decodes .transfersAllowed)
    have exceptions := deserializeAt_list_eq_ok_iff_serialize.mp (decodes .transferExceptions)
    simp only [Field.all, List.map_cons, List.map_nil, Field.name] at reordered
    exact ⟨entries, by rwa [balances, ← allowed, ← exceptions] at reordered, decoded⟩
  · rintro ⟨entries, reordered, decoded⟩
    refine ⟨fun
      | .transfersAllowed => serialize self.transfersAllowed
      | .transferExceptions => serialize self.transferExceptions
      | .accounts => .arr entries, reordered, ?_⟩
    rintro (_ | _ | _)
    · exact SerdeRoundTrip.deserializeAt_serialize _ self.transfersAllowed
    · exact deserializeAt_list_eq_ok_iff_serialize.mpr rfl
    · exact deserialize_list_eq_ok_iff.mpr ⟨entries, rfl, decoded⟩

/-- The objects read as a stored `Accounts`: each coin is read with the levels
left under the object, the array of balances and the balance's tuple. -/
theorem deserialize_accounts_eq_ok_iff (members : List (String × Json)) (self : Accounts) :
    (deserialize (.obj members) : Except JsonError Accounts) = .ok self ↔
      ∃ entries, members.Perm [("transfers_allowed", serialize self.transfersAllowed),
          ("transfer_exceptions", serialize self.transferExceptions), ("accounts", .arr entries)] ∧
        List.Forall₂ (fun entry balance => ∃ coin, entry = .arr [.str balance.1, coin] ∧
          (deserializeAt (initialDepth - 3) coin : Except JsonError Coin) = .ok balance.2)
          entries self.accounts :=
  deserializeAt_obj_eq_ok_iff (initialDepth - 4) members self

/-- An `Accounts` comes back from its serde data wherever it is read with the
four levels it nests. -/
theorem deserializeAt_serialize (depth : Nat) (self : Accounts) :
    (deserializeAt (depth + 4) (serialize self) : Except JsonError Accounts) = .ok self :=
  (deserializeAt_obj_eq_ok_iff depth self.members self).mpr ⟨_, List.Perm.refl _,
    List.forall₂_map_left_iff.mpr (List.forall₂_same.mpr fun balance _ =>
      ⟨serialize balance.2, rfl, Coin.deserializeAt_serialize depth balance.2⟩)⟩

/-- Every `Accounts`, every balance in it, passes through storage unchanged. -/
theorem fromJson_toJsonVec_accounts (self : Accounts) :
    (fromJson (toJsonVec self) : Except JsonError Accounts) = .ok self := by
  rw [BitcoinBridge.fromJson_toJsonVec]
  exact deserializeAt_serialize (initialDepth - 4) self

/-! ### What it rejects -/

/-- What a balance, a `(String, Coin)` tuple, is rejected with, one level
down: the tuple visitor's `invalid_type` and `invalid_length`, the address's
`invalid_type`, the coin's own error, and `TrailingCharacters` for a third
element. -/
theorem deserializeAt_balance_eq_error_iff (depth : Nat) (entry : Json) (e : JsonError) :
    (deserializeAt (depth + 1) entry : Except JsonError (String × Coin)) = .error e ↔
      (∀ vs, entry ≠ .arr vs) ∧ e = .invalidType ∨
      entry = .arr [] ∧ e = .invalidLength 0 "a tuple of size 2" ∨
      (∃ v0 more, entry = .arr (v0 :: more) ∧ (∀ s, v0 ≠ .str s) ∧ e = .invalidType) ∨
      (∃ s, entry = .arr [.str s] ∧ e = .invalidLength 1 "a tuple of size 2") ∨
      (∃ s v1 more, entry = .arr (.str s :: v1 :: more) ∧
        (deserializeAt depth v1 : Except JsonError Coin) = .error e) ∨
      ∃ s v1 more coin, entry = .arr (.str s :: v1 :: more) ∧
        (deserializeAt depth v1 : Except JsonError Coin) = .ok coin ∧ more ≠ [] ∧
          e = .trailingCharacters := by
  show deserializePair (depth + 1) entry = _ ↔ _
  rw [deserializePair_eq_error_iff]
  simp only [deserialize_string_eq_error_iff, LawfulSerde.deserializeAt_eq_ok_iff_serialize]
  refine or_congr Iff.rfl (or_congr Iff.rfl (or_congr Iff.rfl (or_congr ?_ (or_congr ?_ ?_))))
  · exact ⟨by rintro ⟨_, s, split, rfl, failed⟩; exact ⟨s, split, failed⟩,
      by rintro ⟨s, split, failed⟩; exact ⟨_, s, split, rfl, failed⟩⟩
  · exact ⟨by rintro ⟨_, v1, more, s, split, rfl, failed⟩; exact ⟨s, v1, more, split, failed⟩,
      by rintro ⟨s, v1, more, split, failed⟩; exact ⟨_, v1, more, s, split, rfl, failed⟩⟩
  · exact ⟨by
        rintro ⟨_, v1, more, s, coin, split, rfl, rest⟩
        exact ⟨s, v1, more, coin, split, rest⟩,
      by rintro ⟨s, v1, more, coin, split, rest⟩; exact ⟨_, v1, more, s, coin, split, rfl, rest⟩⟩

/-- What the list of balances is rejected with, read with two levels to spare
for its array and its tuples (as the `accounts` field of an `Accounts`, with
`initialDepth - 1`): a value that is not an array is `invalid_type`, and an
array fails at its first entry that fails, after entries that read, with that
entry's error. -/
theorem deserialize_balances_eq_error_iff (depth : Nat) (v : Json) (e : JsonError) :
    (deserializeAt (depth + 2) v : Except JsonError (List (String × Coin))) = .error e ↔
      (∀ entries, v ≠ .arr entries) ∧ e = .invalidType ∨
      ∃ front entry back, v = .arr (front ++ entry :: back) ∧
        (∀ w ∈ front, ∃ balance : String × Coin, deserializeAt (depth + 1) w = .ok balance) ∧
        ((∀ vs, entry ≠ .arr vs) ∧ e = .invalidType ∨
          entry = .arr [] ∧ e = .invalidLength 0 "a tuple of size 2" ∨
          (∃ v0 more, entry = .arr (v0 :: more) ∧ (∀ s, v0 ≠ .str s) ∧ e = .invalidType) ∨
          (∃ s, entry = .arr [.str s] ∧ e = .invalidLength 1 "a tuple of size 2") ∨
          (∃ s v1 more, entry = .arr (.str s :: v1 :: more) ∧
            (deserializeAt depth v1 : Except JsonError Coin) = .error e) ∨
          ∃ s v1 more coin, entry = .arr (.str s :: v1 :: more) ∧
            (deserializeAt depth v1 : Except JsonError Coin) = .ok coin ∧ more ≠ [] ∧
              e = .trailingCharacters) := by
  cases v with
  | arr entries =>
    rw [or_iff_right fun ⟨notArr, _⟩ => notArr entries rfl]
    show deserializeSeq (depth + 1) entries = _ ↔ _
    simp only [deserializeSeq_eq_error_iff, Json.arr.injEq, deserializeAt_balance_eq_error_iff]
  | _ =>
    exact ⟨fun failed => .inl ⟨fun _ => nofun, (Except.error.inj failed).symm⟩,
      fun | .inl ⟨_, same⟩ => congrArg Except.error same.symm
          | .inr ⟨_, _, _, isArr, _⟩ => nomatch isArr⟩

end Accounts

end BitcoinBridge
