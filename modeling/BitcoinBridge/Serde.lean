import BitcoinBridge.Json.RoundTrip

/-!
# serde over JSON

`#[derive(Serialize, Deserialize)]` and `#[cw_serde]`, as the impls they
generate behave on `serde_json_wasm`:

* `Serialize` and `Deserialize` are serde's two traits, into and out of the
  JSON data model; `toJsonVec` and `fromJson` are `cosmwasm_std`'s entry
  points, through the writer and the reader of `BitcoinBridge.Json`.
  `fromJson` runs the type's visitor on the value at the start of the text,
  and only then checks that nothing but whitespace follows it;
* the deserializer's depth budget: `Deserializer::new` allows 127 levels of
  arrays and objects (`initialDepth`), and `check_recursion!`
  (`checkRecursion`) takes one level for every array or object a sequence,
  tuple, struct or enum visitor enters, `RecursionLimitExceeded` when none is
  left. `deserializeAt depth` is an impl run with `depth` levels left, and
  `deserialize` the impl on a fresh deserializer. A value nobody reads, such
  as the member of an unknown key, goes through `deserialize_ignored_any`
  (`ignoredAny`), which checks the same budget: it skips a value exactly when
  the value's nesting fits (`ignoredAny_eq`);
* a derived struct visitor (`visitMap`) hands every member of the object to
  the struct's field match in order (`visitKeyBy`: the key's field identifier,
  then that field's arm). A field seen twice is `duplicate_field`
  (`fillField`), a field never seen is `missing_field` (`takeField`), and a key
  that names no serialized field is `unknown_field` under `deny_unknown_fields`
  (which `#[cw_serde]` sets) and ignored otherwise (`unknownKey`);
* a derived enum is externally tagged (`deserializeEnum`): a variant with data
  is a one-member object whose key is the variant's name.

`fromJson_toJsonVec` reduces every round trip through the text to one through
the data model, and `fromJson_toJsonVec_append` says what becomes of text
after a stored value: the visitor's result on the value comes first, and then
whitespace is skipped and anything else rejected. The text itself holds no raw
control character (`toJsonVec_printable`).
-/

namespace BitcoinBridge

/-- `serde::Serialize`, into the JSON data model. -/
class Serialize (α : Type) where
  serialize : α → Json

/-- `serde::Deserialize`, out of the JSON data model, on `serde_json_wasm`'s
deserializer: `deserializeAt depth` runs the impl with `depth` levels of
arrays and objects still allowed. -/
class Deserialize (α : Type) where
  deserializeAt : Nat → Json → Except JsonError α

open Serialize Deserialize

/-! ## The depth budget -/

/-- The levels of arrays and objects a fresh deserializer allows:
`Deserializer::new` sets `remaining_depth` to 128, and `check_recursion!`
fails once it comes down to 0. -/
def initialDepth : Nat := 127

/-- A fresh deserializer has a level to give to the outermost array or
object. -/
theorem initialDepth_eq_succ : initialDepth = 126 + 1 := rfl

/-- `Deserialize::deserialize` on a fresh deserializer. -/
def Deserialize.deserialize {α : Type} [Deserialize α] (v : Json) : Except JsonError α :=
  deserializeAt initialDepth v

/-- `check_recursion!` around the visit of an array or an object:
`RecursionLimitExceeded` when no level is left, and otherwise the contents
are read with one level fewer. -/
def checkRecursion {α : Type} : Nat → (Nat → Except JsonError α) → Except JsonError α
  | 0, _ => .error .recursionLimitExceeded
  | depth + 1, body => body depth

@[simp] theorem checkRecursion_zero {α : Type} (body : Nat → Except JsonError α) :
    checkRecursion 0 body = .error .recursionLimitExceeded := rfl

@[simp] theorem checkRecursion_succ {α : Type} (depth : Nat) (body : Nat → Except JsonError α) :
    checkRecursion (depth + 1) body = body depth := rfl

mutual

/-- `deserialize_ignored_any`: an array is read as a sequence and an object as
a struct, each under `check_recursion!`, every element and member value
ignored in turn; any other value is skipped. -/
def ignoredAny : Nat → Json → Except JsonError Unit
  | depth, .arr elems => checkRecursion depth fun depth => ignoredElems depth elems
  | depth, .obj members => checkRecursion depth fun depth => ignoredMembers depth members
  | _, _ => .ok ()

/-- The elements of an ignored array, each ignored in turn. -/
def ignoredElems (depth : Nat) : List Json → Except JsonError Unit
  | [] => .ok ()
  | v :: vs => ignoredAny depth v >>= fun _ => ignoredElems depth vs

/-- The member values of an ignored object, each ignored in turn. -/
def ignoredMembers (depth : Nat) : List (String × Json) → Except JsonError Unit
  | [] => .ok ()
  | (_, v) :: ms => ignoredAny depth v >>= fun _ => ignoredMembers depth ms

end

/-- Whether ignored values fit, as a result: the rest when `skips` holds, and
`RecursionLimitExceeded` otherwise. -/
theorem ite_bind_skip {α : Type} {skips : Prop} [Decidable skips] (rest : Except JsonError α) :
    ((if skips then .ok () else .error .recursionLimitExceeded : Except JsonError Unit) >>=
        fun _ => rest) =
      if skips then rest else .error .recursionLimitExceeded := by
  split <;> rfl

mutual

/-- `deserialize_ignored_any` skips a value exactly when its nesting fits in
the depth left, and fails with `RecursionLimitExceeded` otherwise. -/
theorem ignoredAny_eq : ∀ (depth : Nat) (v : Json),
    ignoredAny depth v = if v.depth ≤ depth then .ok () else .error .recursionLimitExceeded
  | depth, .arr elems => by
    cases depth with
    | zero => simp [ignoredAny, Json.depth]
    | succ depth => simp [ignoredAny, Json.depth, ignoredElems_eq depth elems]
  | depth, .obj members => by
    cases depth with
    | zero => simp [ignoredAny, Json.depth]
    | succ depth => simp [ignoredAny, Json.depth, ignoredMembers_eq depth members]
  | _, .null | _, .bool _ | _, .num _ | _, .neg _ | _, .str _ => by simp [ignoredAny, Json.depth]

theorem ignoredElems_eq : ∀ (depth : Nat) (vs : List Json),
    ignoredElems depth vs =
      if Json.elemsDepth vs ≤ depth then .ok () else .error .recursionLimitExceeded
  | _, [] => by simp [ignoredElems, Json.elemsDepth]
  | depth, v :: vs => by
    rw [ignoredElems, ignoredAny_eq depth v, ite_bind_skip, ignoredElems_eq depth vs,
      Json.elemsDepth]
    by_cases fits : v.depth ≤ depth <;> simp [fits]

theorem ignoredMembers_eq : ∀ (depth : Nat) (ms : List (String × Json)),
    ignoredMembers depth ms =
      if Json.membersDepth ms ≤ depth then .ok () else .error .recursionLimitExceeded
  | _, [] => by simp [ignoredMembers, Json.membersDepth]
  | depth, (_, v) :: ms => by
    rw [ignoredMembers, ignoredAny_eq depth v, ite_bind_skip, ignoredMembers_eq depth ms,
      Json.membersDepth]
    by_cases fits : v.depth ≤ depth <;> simp [fits]

end

theorem ignoredAny_eq_ok_iff {depth : Nat} {v : Json} :
    ignoredAny depth v = .ok () ↔ v.depth ≤ depth := by
  rw [ignoredAny_eq]
  split <;> simp_all

/-! ## `to_json_vec` and `from_json` -/

/-- `cosmwasm_std::to_json_vec`. -/
def toJsonVec {α : Type} [Serialize α] (a : α) : List Char :=
  (serialize a).write

/-- `cosmwasm_std::from_json`, that is `serde_json_wasm::from_slice`: the
type's visitor on the value at the start of the text, on a fresh
deserializer, and then `Deserializer::end`. -/
def fromJson {α : Type} [Deserialize α] (text : List Char) : Except JsonError α := do
  let (v, rest) ← Json.readPrefix text
  let a ← deserialize v
  readEnd rest
  return a

/-- Once the value at the start of the text is read, `from_json` is its
visitor's result, and then `end`. -/
theorem fromJson_of_readPrefix {α : Type} [Deserialize α] {text : List Char} {v : Json}
    {rest : List Char} (read : Json.readPrefix text = .ok (v, rest)) :
    (fromJson text : Except JsonError α) =
      (deserialize v >>= fun a => readEnd rest >>= fun _ => .ok a) := by
  rw [fromJson, read]
  rfl

/-- Reading a value's own text back is visiting its serde data. -/
theorem fromJson_toJsonVec {α : Type} [Serialize α] [Deserialize α] (a : α) :
    (fromJson (toJsonVec a) : Except JsonError α) = deserialize (serialize a) := by
  have read := Json.readPrefix_write_append (serialize a) [] rfl
  rw [List.append_nil] at read
  rw [toJsonVec, fromJson_of_readPrefix read]
  cases (deserialize (serialize a) : Except JsonError α) <;> rfl

/-- `fromJson` accepts only texts that start with a value, and visits that
value. -/
theorem fromJson_eq_ok {α : Type} [Deserialize α] {text : List Char} {a : α}
    (accepted : fromJson text = .ok a) :
    ∃ v rest, Json.readPrefix text = .ok (v, rest) ∧ deserialize v = .ok a := by
  obtain ⟨⟨v, rest⟩, read, visited⟩ := bind_eq_ok accepted
  obtain ⟨a', decoded, finished⟩ := bind_eq_ok visited
  obtain ⟨-, -, done⟩ := bind_eq_ok finished
  cases done
  exact ⟨v, rest, read, decoded⟩

/-! ## Strings and unsigned integers -/

instance : Serialize String := ⟨.str⟩

/-- `deserialize_str`: a string, and nothing else. -/
def deserializeStr : Json → Except JsonError String
  | .str s => .ok s
  | _ => .error .invalidType

/-- A string has no nesting: it is read alike at every depth. -/
instance : Deserialize String := ⟨fun _ => deserializeStr⟩

theorem deserialize_string_eq_error_iff {depth : Nat} {v : Json} {e : JsonError} :
    (deserializeAt depth v : Except JsonError String) = .error e ↔
      (∀ s, v ≠ .str s) ∧ e = .invalidType := by
  cases v <;> simp [deserializeAt, deserializeStr, @eq_comm _ _ e]

/-- `deserialize_u64` and `deserialize_u32`: a number below `bound`, built by
`mk`; a minus sign is `InvalidNumber`, as a number out of range is. -/
def deserializeUnsigned {α : Type} (bound : Nat) (mk : (n : Nat) → n < bound → α) :
    Json → Except JsonError α
  | .num n => if h : n < bound then .ok (mk n h) else .error .invalidNumber
  | .neg _ => .error .invalidNumber
  | _ => .error .invalidType

instance : Serialize UInt64 := ⟨fun n => .num n.toNat⟩

instance : Deserialize UInt64 := ⟨fun _ => deserializeUnsigned UInt64.size UInt64.ofNatCore⟩

instance : Serialize UInt32 := ⟨fun n => .num n.toNat⟩

instance : Deserialize UInt32 := ⟨fun _ => deserializeUnsigned UInt32.size UInt32.ofNatCore⟩

/-- A type written without nesting, every value of which comes back from its
serialization, whatever the depth left when it is read. -/
class SerdeRoundTrip (α : Type) [Serialize α] [Deserialize α] : Prop where
  deserializeAt_serialize : ∀ (depth : Nat) (a : α),
    (deserializeAt depth (serialize a) : Except JsonError α) = .ok a

attribute [simp] SerdeRoundTrip.deserializeAt_serialize

/-- A type written without nesting whose serde impls are exact inverses at
every depth: every value comes back, and the only JSON read as a value is that
value's own serialization. -/
class LawfulSerde (α : Type) [Serialize α] [Deserialize α] extends SerdeRoundTrip α : Prop where
  serialize_of_deserializeAt : ∀ {depth : Nat} {v : Json} {a : α},
    (deserializeAt depth v : Except JsonError α) = .ok a → serialize a = v

theorem LawfulSerde.deserializeAt_eq_ok_iff_serialize {α : Type} [Serialize α] [Deserialize α]
    [LawfulSerde α] {depth : Nat} {v : Json} {a : α} :
    (deserializeAt depth v : Except JsonError α) = .ok a ↔ serialize a = v :=
  ⟨LawfulSerde.serialize_of_deserializeAt,
    fun encoded => encoded ▸ SerdeRoundTrip.deserializeAt_serialize depth a⟩

instance : LawfulSerde String where
  deserializeAt_serialize _ _ := rfl
  serialize_of_deserializeAt {_ v} _ accepted := by
    cases v <;> cases accepted
    rfl

theorem deserializeUnsigned_num {α : Type} {bound : Nat} {mk : (n : Nat) → n < bound → α}
    {n : Nat} (lt : n < bound) : deserializeUnsigned bound mk (.num n) = .ok (mk n lt) :=
  dif_pos lt

/-- The unsigned integer parser accepts a number below its bound, and builds
the integer of that value. -/
theorem deserializeUnsigned_eq_ok {α : Type} {bound : Nat} {mk : (n : Nat) → n < bound → α}
    {v : Json} {a : α} (accepted : deserializeUnsigned bound mk v = .ok a) :
    ∃ n, ∃ lt : n < bound, v = .num n ∧ mk n lt = a := by
  cases v with
  | num n =>
    simp only [deserializeUnsigned] at accepted
    split at accepted
    · exact ⟨n, ‹_›, rfl, Except.ok.inj accepted⟩
    · cases accepted
  | _ => cases accepted

instance : LawfulSerde UInt64 where
  deserializeAt_serialize _ n := deserializeUnsigned_num n.toNat_lt_size
  serialize_of_deserializeAt accepted := by
    obtain ⟨n, lt, rfl, rfl⟩ := deserializeUnsigned_eq_ok accepted
    rfl

instance : LawfulSerde UInt32 where
  deserializeAt_serialize _ n := deserializeUnsigned_num n.toNat_lt_size
  serialize_of_deserializeAt accepted := by
    obtain ⟨n, lt, rfl, rfl⟩ := deserializeUnsigned_eq_ok accepted
    rfl

/-! ## The text of a stored value -/

/-- Text after a stored value is never read as part of it: `from_json`
visits the value first, and then skips whitespace after it and rejects
anything else with `TrailingCharacters`, whatever the type, so long as the
text does not go on with a digit. -/
theorem fromJson_toJsonVec_append {α : Type} [Serialize α] [Deserialize α] (a : α)
    (more : List Char) (stop : startsWithDigit more = false) :
    (fromJson (toJsonVec a ++ more) : Except JsonError α) =
      (deserialize (serialize a) >>= fun x =>
        if skipWs more = [] then .ok x else .error .trailingCharacters) := by
  rw [toJsonVec, fromJson_of_readPrefix (Json.readPrefix_write_append _ more stop)]
  cases (deserialize (serialize a) : Except JsonError α) with
  | error e => rfl
  | ok x => cases ws : skipWs more <;> simp [readEnd, ws]

theorem fromJson_toJsonVec_append_bang :
    startsWithDigit [' ', '!'] = false ∧
      (fromJson (toJsonVec "memo" ++ [' ', '!']) : Except JsonError String) =
        (deserialize (serialize "memo") >>= fun x =>
          if skipWs [' ', '!'] = [] then .ok x else .error .trailingCharacters) :=
  ⟨rfl, fromJson_toJsonVec_append "memo" [' ', '!'] rfl⟩

/-- `to_json_vec` writes no raw control character, whatever the value: its
text is one that RFC 8259 parsers off the chain accept too. -/
theorem toJsonVec_printable {α : Type} [Serialize α] (a : α) :
    ∀ c ∈ toJsonVec a, 0x20 ≤ c.toNat :=
  Json.write_printable (serialize a)

theorem toJsonVec_printable_tab : '\\' ∈ toJsonVec "a\tb" ∧ 0x20 ≤ '\\'.toNat :=
  ⟨by decide, toJsonVec_printable "a\tb" '\\' (by decide)⟩

/-! ## Booleans, sequences and pairs -/

instance instSerializeBool : Serialize Bool := ⟨.bool⟩

/-- `deserialize_bool`: `true` or `false`, and nothing else. -/
def deserializeBool : Json → Except JsonError Bool
  | .bool b => .ok b
  | _ => .error .invalidType

instance instDeserializeBool : Deserialize Bool := ⟨fun _ => deserializeBool⟩

instance : LawfulSerde Bool where
  deserializeAt_serialize _ _ := rfl
  serialize_of_deserializeAt {_ v} _ accepted := by
    cases v <;> cases accepted
    rfl

/-- serde's `VecVisitor`: the elements in order, up to the first that fails. -/
def deserializeSeq {α : Type} [Deserialize α] (depth : Nat) : List Json → Except JsonError (List α)
  | [] => .ok []
  | v :: vs => do
    let a ← deserializeAt depth v
    let as ← deserializeSeq depth vs
    return a :: as

/-- `Vec<T>`: a JSON array of its elements. -/
instance instSerializeList {α : Type} [Serialize α] : Serialize (List α) :=
  ⟨fun as => .arr (as.map serialize)⟩

/-- `deserialize_seq`: an array, under `check_recursion!`. -/
instance instDeserializeList {α : Type} [Deserialize α] : Deserialize (List α) where
  deserializeAt
    | depth, .arr elems => checkRecursion depth fun depth => deserializeSeq depth elems
    | _, _ => .error .invalidType

/-- `VecVisitor` reads exactly the arrays whose elements read, in order, as the
vector's. -/
theorem deserializeSeq_eq_ok_iff {α : Type} [Deserialize α] {depth : Nat} {vs : List Json}
    {as : List α} :
    deserializeSeq depth vs = .ok as ↔
      List.Forall₂ (fun v a => deserializeAt depth v = .ok a) vs as := by
  constructor
  · induction vs generalizing as with
    | nil =>
      rintro ⟨⟩
      exact .nil
    | cons v vs ih =>
      intro accepted
      obtain ⟨a, decoded, rest⟩ := bind_eq_ok accepted
      obtain ⟨as, decodedRest, done⟩ := bind_eq_ok rest
      cases done
      exact .cons decoded (ih decodedRest)
  · intro decoded
    induction decoded with
    | nil => rfl
    | cons head _ ih => simp [deserializeSeq, head, ih]

theorem deserialize_list_eq_ok_iff {α : Type} [Deserialize α] {depth : Nat} {v : Json}
    {as : List α} :
    (deserializeAt (depth + 1) v : Except JsonError (List α)) = .ok as ↔
      ∃ vs, v = .arr vs ∧ List.Forall₂ (fun v a => deserializeAt depth v = .ok a) vs as := by
  cases v with
  | arr vs => simpa [deserializeAt] using deserializeSeq_eq_ok_iff
  | _ => exact iff_of_false (fun accepted => by cases accepted) (by simp)

/-- A vector of a lawful type is read exactly from its own serialization, with
a level to spare. -/
theorem deserializeAt_list_eq_ok_iff_serialize {α : Type} [Serialize α] [Deserialize α]
    [LawfulSerde α] {depth : Nat} {v : Json} {as : List α} :
    (deserializeAt (depth + 1) v : Except JsonError (List α)) = .ok as ↔ serialize as = v := by
  rw [deserialize_list_eq_ok_iff]
  simp only [LawfulSerde.deserializeAt_eq_ok_iff_serialize]
  constructor
  · rintro ⟨vs, rfl, encoded⟩
    show Json.arr (as.map serialize) = _
    congr 1
    induction encoded with
    | nil => rfl
    | cons head _ ih => rw [List.map_cons, head, ih]
  · rintro rfl
    refine ⟨_, rfl, ?_⟩
    induction as with
    | nil => exact .nil
    | cons a as ih => exact .cons rfl ih

/-- A pair `(T0, T1)`: a JSON array of two elements. -/
instance instSerializePair {α β : Type} [Serialize α] [Serialize β] : Serialize (α × β) :=
  ⟨fun p => .arr [serialize p.1, serialize p.2]⟩

/-- serde's visitor of a tuple of size 2, then `serde_json_wasm`'s end of the
sequence: a missing element is `invalid_length`, an element past the second
`TrailingCharacters`. -/
def visitPair {α β : Type} [Deserialize α] [Deserialize β] (depth : Nat) :
    List Json → Except JsonError (α × β)
  | [] => .error (.invalidLength 0 "a tuple of size 2")
  | [v0] => do
    let _ ← (deserializeAt depth v0 : Except JsonError α)
    .error (.invalidLength 1 "a tuple of size 2")
  | v0 :: v1 :: more => do
    let a ← deserializeAt depth v0
    let b ← deserializeAt depth v1
    if more.isEmpty then .ok (a, b) else .error .trailingCharacters

/-- `deserialize_tuple`: an array, under `check_recursion!`. -/
def deserializePair {α β : Type} [Deserialize α] [Deserialize β] (depth : Nat) :
    Json → Except JsonError (α × β)
  | .arr elems => checkRecursion depth fun depth => visitPair depth elems
  | _ => .error .invalidType

instance instDeserializePair {α β : Type} [Deserialize α] [Deserialize β] : Deserialize (α × β) :=
  ⟨deserializePair⟩

/-- A pair is read exactly from a two-element array whose elements read as its
components, one level down. -/
theorem deserializePair_eq_ok_iff {α β : Type} [Deserialize α] [Deserialize β] {depth : Nat}
    {v : Json} {a : α} {b : β} : deserializePair (depth + 1) v = .ok (a, b) ↔
      ∃ v0 v1, v = .arr [v0, v1] ∧ deserializeAt depth v0 = .ok a ∧
        deserializeAt depth v1 = .ok b := by
  constructor
  · intro accepted
    match v, accepted with
    | .arr [v0], accepted =>
      obtain ⟨_, -, failed⟩ := bind_eq_ok accepted
      cases failed
    | .arr (v0 :: v1 :: more), accepted =>
      obtain ⟨a', decoded0, rest⟩ := bind_eq_ok accepted
      obtain ⟨b', decoded1, last⟩ := bind_eq_ok rest
      cases more with
      | nil =>
        cases last
        exact ⟨v0, v1, rfl, decoded0, decoded1⟩
      | cons _ _ => cases last
  · rintro ⟨v0, v1, rfl, decoded0, decoded1⟩
    simp [deserializePair, visitPair, decoded0, decoded1]

/-- A pair of lawful types is read exactly from its own serialization, with a
level to spare. -/
theorem deserializePair_eq_ok_iff_serialize {α β : Type} [Serialize α] [Deserialize α]
    [LawfulSerde α] [Serialize β] [Deserialize β] [LawfulSerde β] {depth : Nat} {v : Json}
    {p : α × β} : deserializePair (depth + 1) v = .ok p ↔ serialize p = v := by
  rw [deserializePair_eq_ok_iff]
  simp only [LawfulSerde.deserializeAt_eq_ok_iff_serialize]
  constructor
  · rintro ⟨v0, v1, rfl, rfl, rfl⟩
    rfl
  · rintro rfl
    exact ⟨_, _, rfl, rfl, rfl⟩

/-! ## Derived struct visitors -/

/-- A field's arm of a derived `visit_map`: the second occurrence of a field is
`duplicate_field`, the first is deserialized at once, with the depth the
struct's contents are read at. -/
def fillField {α : Type} [Deserialize α] (depth : Nat) (name : String) (slot : Option α)
    (value : Json) : Except JsonError (Option α) :=
  match slot with
  | some _ => .error (.duplicateField name)
  | none => some <$> deserializeAt depth value

/-- After the loop: a field never seen is `missing_field`. -/
def takeField {α : Type} (name : String) : Option α → Except JsonError α
  | some a => .ok a
  | none => .error (.missingField name)

/-- The arm of a key that names no serialized field: `unknown_field` under
`deny_unknown_fields`; otherwise the value goes through
`deserialize_ignored_any` and the slots stay as they are. -/
def unknownKey {β : Type} (denyUnknownFields : Bool) (fields : List String) (depth : Nat)
    (key : String) (value : Json) (slots : β) : Except JsonError β :=
  if denyUnknownFields then .error (.unknownField key fields)
  else (fun _ => slots) <$> ignoredAny depth value

/-- One member through a derived `visit_map`: the derived `visit_str` turns the
key into the struct's field identifier (`fieldOf`, `none` for a key that names
no serialized field), and that identifier's arm (`visitField`) takes the
value. -/
def visitKeyBy {β Field : Type} (denyUnknownFields : Bool) (fields : List String)
    (fieldOf : String → Option Field) (visitField : Nat → β → Field → Json → Except JsonError β)
    (depth : Nat) (slots : β) (key : String) (value : Json) : Except JsonError β :=
  match fieldOf key with
  | some field => visitField depth slots field value
  | none => unknownKey denyUnknownFields fields depth key value slots

/-- The loop of a derived `visit_map`: each member, in order, through the
struct's field match `visitKey`. -/
def visitMap {β : Type} (visitKey : β → String → Json → Except JsonError β) :
    β → List (String × Json) → Except JsonError β
  | slots, [] => .ok slots
  | slots, (key, value) :: members => do visitMap visitKey (← visitKey slots key value) members

/-- `deserialize_struct`: an object, under `check_recursion!`, visited member
by member with the level it takes, then completed by `finish` from the filled
slots. -/
def deserializeStruct {α β : Type} (visitKey : Nat → β → String → Json → Except JsonError β)
    (empty : β) (finish : β → Except JsonError α) (depth : Nat) : Json → Except JsonError α
  | .obj members => checkRecursion depth fun depth =>
    visitMap (visitKey depth) empty members >>= finish
  | _ => .error .invalidType

@[simp] theorem fillField_none {α : Type} [Deserialize α] (depth : Nat) (name : String)
    (value : Json) :
    fillField depth name (none : Option α) value = some <$> deserializeAt depth value :=
  rfl

/-- A field's arm succeeds only on a slot still empty, and fills it with what
the member's value deserializes to. -/
theorem fillField_eq_ok {α : Type} [Deserialize α] {depth : Nat} {name : String}
    {slot : Option α} {value : Json} {filled : Option α}
    (accepted : fillField depth name slot value = .ok filled) :
    slot = none ∧ ∃ a, deserializeAt depth value = .ok a ∧ filled = some a := by
  cases slot with
  | some _ => cases accepted
  | none =>
    obtain ⟨a, decoded, rfl⟩ := map_eq_ok accepted
    exact ⟨rfl, a, decoded, rfl⟩

/-- A field's arm fills an empty slot with any value its type deserializes. -/
theorem fillField_of_deserialize {α : Type} [Deserialize α] {depth : Nat} {name : String}
    {slot : Option α} {value : Json} {a : α} (empty : slot = none)
    (decoded : deserializeAt depth value = .ok a) :
    fillField depth name slot value = .ok (some a) := by
  subst empty
  rw [fillField_none, decoded]
  rfl

/-- A field seen before fails its arm with `duplicate_field`, whatever the value. -/
theorem fillField_of_isSome {α : Type} [Deserialize α] {depth : Nat} {name : String}
    {slot : Option α} {value : Json} (full : slot.isSome) :
    fillField depth name slot value = .error (.duplicateField name) := by
  obtain ⟨a, rfl⟩ := Option.isSome_iff_exists.mp full
  rfl

/-- An empty slot fails its arm as the value's deserializer fails. -/
theorem fillField_of_error {α : Type} [Deserialize α] {depth : Nat} {name : String}
    {slot : Option α} {value : Json} {e : JsonError} (empty : slot = none)
    (bad : (deserializeAt depth value : Except JsonError α) = .error e) :
    fillField depth name slot value = .error e := by
  subst empty
  rw [fillField_none, bad]
  rfl

@[simp] theorem takeField_some {α : Type} (name : String) (a : α) :
    takeField name (some a) = .ok a := rfl

@[simp] theorem takeField_none {α : Type} (name : String) :
    takeField name (none : Option α) = .error (.missingField name) := rfl

/-- The end of a visitor gets past a field only when the field was seen. -/
theorem takeField_bind_eq_ok {α γ : Type} {name : String} {slot : Option α}
    {rest : α → Except JsonError γ} {r : γ} (finished : (takeField name slot >>= rest) = .ok r) :
    ∃ a, slot = some a ∧ rest a = .ok r := by
  cases slot with
  | none => cases finished
  | some a => exact ⟨a, rfl, finished⟩

/-- The end of a visitor fails at a field either because the field was never
seen, or later. -/
theorem takeField_bind_eq_error_iff {α γ : Type} {name : String} {slot : Option α}
    {rest : α → Except JsonError γ} {e : JsonError} :
    (takeField name slot >>= rest) = .error e ↔
      slot = none ∧ e = .missingField name ∨ ∃ a, slot = some a ∧ rest a = .error e := by
  cases slot with
  | none => simp [eq_comm]
  | some a => simp

/-- A key that names no field gets past the visitor only where unknown fields
are allowed and its value fits in the depth left, and then changes nothing. -/
theorem unknownKey_eq_ok {β : Type} {denyUnknownFields : Bool} {fields : List String}
    {depth : Nat} {key : String} {value : Json} {slots slots' : β}
    (skipped : unknownKey denyUnknownFields fields depth key value slots = .ok slots') :
    denyUnknownFields = false ∧ ignoredAny depth value = .ok () ∧ slots' = slots := by
  cases denyUnknownFields with
  | true => cases skipped
  | false =>
    obtain ⟨u, ignored, rfl⟩ := map_eq_ok skipped
    exact ⟨rfl, ignored, rfl⟩

theorem visitKeyBy_of_some {β Field : Type} {denyUnknownFields : Bool} {fields : List String}
    {fieldOf : String → Option Field} {visitField : Nat → β → Field → Json → Except JsonError β}
    {depth : Nat} {key : String} {field : Field} (found : fieldOf key = some field) (slots : β)
    (value : Json) :
    visitKeyBy denyUnknownFields fields fieldOf visitField depth slots key value =
      visitField depth slots field value := by
  simp only [visitKeyBy, found]

theorem visitKeyBy_of_none {β Field : Type} {denyUnknownFields : Bool} {fields : List String}
    {fieldOf : String → Option Field} {visitField : Nat → β → Field → Json → Except JsonError β}
    {depth : Nat} {key : String} (unknown : fieldOf key = none) (slots : β) (value : Json) :
    visitKeyBy denyUnknownFields fields fieldOf visitField depth slots key value =
      unknownKey denyUnknownFields fields depth key value slots := by
  simp only [visitKeyBy, unknown]

@[simp] theorem visitMap_nil {β : Type} (visitKey : β → String → Json → Except JsonError β)
    (slots : β) : visitMap visitKey slots [] = .ok slots := rfl

@[simp] theorem visitMap_cons {β : Type} (visitKey : β → String → Json → Except JsonError β)
    (slots : β) (key : String) (value : Json) (members : List (String × Json)) :
    visitMap visitKey slots ((key, value) :: members) =
      (visitKey slots key value >>= fun slots => visitMap visitKey slots members) := rfl

@[simp] theorem deserializeStruct_obj {α β : Type}
    (visitKey : Nat → β → String → Json → Except JsonError β) (empty : β)
    (finish : β → Except JsonError α) (depth : Nat) (members : List (String × Json)) :
    deserializeStruct visitKey empty finish (depth + 1) (.obj members) =
      (visitMap (visitKey depth) empty members >>= finish) := rfl

/-- A member whose key the field match rejects in every state fails the whole
struct, wherever it stands. -/
theorem visitMap_error_of_mem {β : Type} {visitKey : β → String → Json → Except JsonError β}
    {key : String} {value : Json} (rejected : ∀ slots, ∃ e, visitKey slots key value = .error e) :
    ∀ {members : List (String × Json)} (slots : β), (key, value) ∈ members →
      ∃ e, visitMap visitKey slots members = .error e
  | [], _, member => absurd member (List.not_mem_nil _)
  | (key', value') :: members, slots, member => by
    rw [visitMap_cons]
    rcases List.mem_cons.mp member with here | later
    · cases here
      obtain ⟨e, failed⟩ := rejected slots
      exact ⟨e, by simp [failed]⟩
    · cases visited : visitKey slots key' value' with
      | error e => exact ⟨e, by simp⟩
      | ok slots' => simpa using visitMap_error_of_mem rejected slots' later

/-! ## Derived enum visitors -/

/-- `deserialize_enum` with a derived visitor, for an enum whose variants all
carry data: `variantOf` is the visitor's `visit_str` on the variant's name,
`payload` the variant's `newtype_variant`, read with the level the object
takes under `check_recursion!`. A bare name is a unit variant, which none of
them is. -/
def deserializeEnum {α ν : Type} (variantOf : String → Except JsonError ν)
    (payload : Nat → ν → Json → Except JsonError α) (depth : Nat) : Json → Except JsonError α
  | .str name => variantOf name >>= fun _ => .error .invalidType
  | .obj [] => checkRecursion depth fun _ => .error .invalidType
  | .obj ((name, value) :: more) => checkRecursion depth fun depth => do
    let a ← payload depth (← variantOf name) value
    if more.isEmpty then .ok a else .error .expectedSomeValue
  | _ => .error .expectedSomeIdent

/-- An enum value is accepted only as a one-member object whose key names a
variant and whose value that variant's payload accepts, one level down. -/
theorem deserializeEnum_eq_ok {α ν : Type} {variantOf : String → Except JsonError ν}
    {payload : Nat → ν → Json → Except JsonError α} {depth : Nat} {v : Json} {a : α}
    (accepted : deserializeEnum variantOf payload (depth + 1) v = .ok a) :
    ∃ name value variant, v = .obj [(name, value)] ∧ variantOf name = .ok variant ∧
      payload depth variant value = .ok a := by
  match v, accepted with
  | .str name, accepted =>
    simp only [deserializeEnum] at accepted
    cases named : variantOf name <;> simp [named] at accepted
  | .obj ((name, value) :: more), accepted =>
    simp only [deserializeEnum, checkRecursion_succ] at accepted
    cases named : variantOf name with
    | error e => simp [named] at accepted
    | ok variant =>
      cases paid : payload depth variant value with
      | error e => simp [named, paid] at accepted
      | ok a' =>
        cases more with
        | nil =>
          simp [named, paid] at accepted
          exact ⟨name, value, variant, rfl, named, accepted ▸ paid⟩
        | cons _ _ => simp [named, paid] at accepted

@[simp] theorem deserializeEnum_single {α ν : Type} (variantOf : String → Except JsonError ν)
    (payload : Nat → ν → Json → Except JsonError α) (depth : Nat) (name : String) (value : Json) :
    deserializeEnum variantOf payload (depth + 1) (.obj [(name, value)]) =
      (variantOf name >>= fun variant => payload depth variant value) := by
  simp only [deserializeEnum, checkRecursion_succ, List.isEmpty_nil, if_true]
  cases variantOf name <;> simp only [ok_bind, error_bind]
  cases payload depth _ value <;> rfl

end BitcoinBridge
