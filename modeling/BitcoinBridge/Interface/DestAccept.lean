import BitcoinBridge.Interface.DestSerde
import BitcoinBridge.Serde.Reject

/-!
# What `from_json` accepts as a destination

The derived visitors accept exactly the encodings of destinations with nothing
in their skipped fields, up to the order of an IBC destination's members:

* `IbcDest.deserializeAt_obj_eq_ok_iff`: an object is read as `dest`, at any
  depth that leaves it a level, exactly when its members are a reordering of
  `dest`'s four serialized members, and `dest`'s receiver and sender are
  empty;
* `Dest.deserialize_dest_eq_ok_iff`: the same for `Dest`, whose value must be a
  one-member object naming its variant.

And it rejects every other object with serde's error for the first thing wrong
with it:

* `Dest.deserialize_ibc_eq_error_iff`: `{"ibc": {...}}` is rejected with the
  error of its first member that fails after members that pass (`unknown
  field` for `receiver`, `sender` or any other key outside the four fields,
  `duplicate field` for a field named twice, whatever the second value, or the
  value's own error), or, when every member passes, with `missing field` for
  the first of `source_port`, `source_channel`, `timeout_timestamp`, `memo`
  that no member names.

* `Dest.deserialize_dest_eq_error_iff`: every other value is rejected with the
  error of the first thing the derived enum visitor finds wrong: its shape,
  the variant's name, the payload, or a member after the payload.

These rest on the description of the derived visitor loop
(`BitcoinBridge.Serde.Accept`, `BitcoinBridge.Serde.Reject`), instantiated
with facts about `IbcDest`'s four field identifiers: `Slots.get` reads each
slot, `fieldMatch` and `fieldRejects` are what every arm of the field match
does, and `finish_eq_ok_iff` and `finish_missing` say what the end of the
visitor turns the slots into. The four fields' impls are exact inverses
(`lawful`), so an object read as a destination is its own encoding reordered.
-/

namespace BitcoinBridge

open Serialize Deserialize

/-! ## The `IbcDest` visitor -/

namespace IbcDest

/-- The type of each serialized field. -/
@[reducible] def Field.Content : Field → Type
  | .sourcePort | .sourceChannel | .memo => String
  | .timeoutTimestamp => UInt64

/-- Each field's `Deserialize` impl. -/
def Field.decode : (field : Field) → Json → Except JsonError field.Content
  | .sourcePort | .sourceChannel | .memo => deserialize
  | .timeoutTimestamp => deserialize

/-- Each field's `Serialize` impl. -/
def Field.encode : (field : Field) → field.Content → Json
  | .sourcePort | .sourceChannel | .memo => serialize
  | .timeoutTimestamp => serialize

/-- The serialized fields, in declaration order. -/
def Field.all : List Field :=
  [.sourcePort, .sourceChannel, .timeoutTimestamp, .memo]

/-- A destination's value of each serialized field. -/
def fieldValue (dest : IbcDest) : (field : Field) → field.Content
  | .sourcePort => dest.sourcePort
  | .sourceChannel => dest.sourceChannel
  | .timeoutTimestamp => dest.timeoutTimestamp
  | .memo => dest.memo

/-- What a field's slot holds. -/
def Slots.get (slots : Slots) : (field : Field) → Option field.Content
  | .sourcePort => slots.sourcePort
  | .sourceChannel => slots.sourceChannel
  | .timeoutTimestamp => slots.timeoutTimestamp
  | .memo => slots.memo

/-- The slots once every member of `dest`'s encoding has been visited. -/
def Slots.ofDest (dest : IbcDest) : Slots where
  sourcePort := some dest.sourcePort
  sourceChannel := some dest.sourceChannel
  timeoutTimestamp := some dest.timeoutTimestamp
  memo := some dest.memo

theorem Slots.get_empty (field : Field) : ({} : Slots).get field = none := by
  cases field <;> rfl

theorem Slots.get_ofDest (dest : IbcDest) (field : Field) :
    (Slots.ofDest dest).get field = some (dest.fieldValue field) := by
  cases field <;> rfl

/-- The slots are determined by what they hold. -/
theorem Slots.ext_get {slots slots' : Slots} (same : ∀ field, slots.get field = slots'.get field) :
    slots = slots' := by
  cases slots
  cases slots'
  simp only [Slots.mk.injEq]
  exact ⟨same .sourcePort, same .sourceChannel, same .timeoutTimestamp, same .memo⟩

theorem identifier : FieldIdentifier fieldOf Field.name Field.all where
  fieldOf_name := fieldOf_name
  eq_name := fieldOf_eq_some
  mem_all field := by cases field <;> decide
  nodup_all := by decide

/-- Every arm of the field match fills its field's slot, at any depth: the
fields are scalars. -/
theorem fieldMatch (depth : Nat) : FieldMatch Field.decode Slots.get (visitField depth) where
  fills {slots slots' field value} visited := by
    cases field <;>
    · obtain ⟨filled, arm, done⟩ := bind_eq_ok visited
      cases done
      obtain ⟨empty, x, decoded, rfl⟩ := fillField_eq_ok arm
      exact ⟨empty, ⟨x, decoded, rfl⟩, fun other ne => by
        cases other <;> first | rfl | cases ne rfl⟩
  accepts {slots field value x} empty decoded := by
    cases field <;>
      exact ⟨_, (congrArg (· >>= _) (fillField_of_deserialize empty decoded)).trans rfl⟩

theorem lawful (field : Field) (value : Json) (x : field.Content) :
    field.decode value = .ok x ↔ field.encode x = value := by
  cases field <;> exact LawfulSerde.deserializeAt_eq_ok_iff_serialize

theorem members_eq (dest : IbcDest) :
    dest.members = Field.all.map fun field => (field.name, field.encode (dest.fieldValue field)) :=
  rfl

/-- The end of the visitor succeeds exactly on full slots, and gives the
destination they hold with an empty receiver and sender. -/
theorem finish_eq_ok_iff {slots : Slots} {dest : IbcDest} :
    finish slots = .ok dest ↔
      slots = Slots.ofDest dest ∧ dest.receiver = "" ∧ dest.sender = "" := by
  constructor
  · intro finished
    obtain ⟨sourcePort, sourceChannel, timeoutTimestamp, memo⟩ := slots
    unfold finish at finished
    repeat obtain ⟨_, rfl, finished⟩ := takeField_bind_eq_ok finished
    cases finished
    exact ⟨rfl, rfl, rfl⟩
  · rintro ⟨rfl, receiver, sender⟩
    cases dest
    subst receiver sender
    rfl

/-- The objects read as an `IbcDest` are the reorderings of its own encoding,
for a destination whose skipped fields are empty. -/
theorem deserializeAt_obj_eq_ok_iff (depth : Nat) (members : List (String × Json))
    (dest : IbcDest) :
    (deserializeAt (depth + 1) (.obj members) : Except JsonError IbcDest) = .ok dest ↔
      members.Perm dest.members ∧ dest.receiver = "" ∧ dest.sender = "" := by
  rw [members_eq]
  exact deserializeStruct_lawful_eq_ok_iff lawful identifier (fieldMatch depth) Slots.get_empty
    (finish_eq_ok_iff.trans (and_congr_left' ⟨fun full field => by rw [full, Slots.get_ofDest],
      fun full => Slots.ext_get fun field => by rw [full, Slots.get_ofDest]⟩)) members dest

/-! ### What it rejects -/

/-- Every arm of the field match fails on a field seen before, and on a value
its field rejects. -/
theorem fieldRejects (depth : Nat) :
    FieldRejects Field.name Field.decode Slots.get (visitField depth) where
  duplicate {slots field value} full := by
    cases field <;> exact (congrArg (· >>= _) (fillField_of_isSome full)).trans rfl
  invalid {slots field value e} empty bad := by
    cases field <;> exact (congrArg (· >>= _) (fillField_of_error empty bad)).trans rfl

/-- The end of the visitor reports the first field, in declaration order, whose
slot is empty. -/
theorem finish_missing {slots : Slots} {e : JsonError} (failed : finish slots = .error e) :
    ∃ field, firstEmpty Field.all Slots.get slots = some field ∧ e = .missingField field.name := by
  obtain ⟨sourcePort, sourceChannel, timeoutTimestamp, memo⟩ := slots
  unfold finish at failed
  repeat' (rw [takeField_bind_eq_error_iff] at failed
           rcases failed with ⟨rfl, rfl⟩ | ⟨_, rfl, failed⟩)
  all_goals first | exact ⟨_, rfl, rfl⟩ | cases failed

theorem finish_full {slots : Slots} {dest : IbcDest} (finished : finish slots = .ok dest)
    (field : Field) : (slots.get field).isSome := by
  rw [(finish_eq_ok_iff.mp finished).1, Slots.get_ofDest]
  rfl

/-- The objects rejected as an `IbcDest`, and the error each gets. -/
theorem deserializeAt_obj_eq_error_iff (depth : Nat) (members : List (String × Json))
    (e : JsonError) :
    (deserializeAt (depth + 1) (.obj members) : Except JsonError IbcDest) = .error e ↔
      (∃ front key value back, members = front ++ (key, value) :: back ∧
        MembersPass true fieldOf Field.decode front ∧
        MemberFails true FIELDS fieldOf Field.name Field.decode front key value e) ∨
      MembersPass true fieldOf Field.decode members ∧
        ∃ field, firstUnnamed Field.all Field.name members = some field ∧
          e = .missingField field.name :=
  deserializeStruct_deny_eq_error_iff identifier (fieldMatch depth) (fieldRejects depth)
    Slots.get_empty finish_full finish_missing members e

end IbcDest

/-! ## `Dest` -/

namespace Dest

/-- The name a variant is written under. -/
def Variant.name : Variant → String
  | .address => "address"
  | .ibc => "ibc"

theorem variantOf_eq_ok {name : String} {variant : Variant}
    (named : variantOf name = .ok variant) : name = variant.name := by
  unfold variantOf at named
  split at named <;> cases named <;> rfl

/-- The JSON read as a destination: an address's own encoding, or a
one-member object `ibc` holding a reordering of the encoding of an IBC
destination whose skipped fields are empty. -/
theorem deserialize_dest_eq_ok_iff (v : Json) (d : Dest) :
    (deserialize v : Except JsonError Dest) = .ok d ↔
      (∃ addr, d = .address addr ∧ v = serialize d) ∨
      ∃ dest members, d = .ibc dest ∧ v = .obj [("ibc", .obj members)] ∧
        members.Perm dest.members ∧ dest.receiver = "" ∧ dest.sender = "" := by
  constructor
  · intro accepted
    rw [deserialize_eq] at accepted
    obtain ⟨name, value, variant, rfl, named, paid⟩ := deserializeEnum_eq_ok accepted
    cases variantOf_eq_ok named
    cases variant with
    | address =>
      obtain ⟨addr, decoded, rfl⟩ := map_eq_ok paid
      exact .inl ⟨addr, rfl, by rw [← LawfulSerde.serialize_of_deserializeAt decoded]; rfl⟩
    | ibc =>
      obtain ⟨dest, decoded, rfl⟩ := map_eq_ok paid
      cases value with
      | obj members =>
        exact .inr ⟨dest, members, rfl, rfl,
          (IbcDest.deserializeAt_obj_eq_ok_iff _ members dest).mp decoded⟩
      | _ => cases decoded
  · rintro (⟨addr, rfl, rfl⟩ | ⟨dest, members, rfl, rfl, encoded⟩)
    · exact deserialize_serialize _
    · rw [deserialize_eq, initialDepth_eq_succ, deserializeEnum_single, variantOf, ok_bind, payload,
        (IbcDest.deserializeAt_obj_eq_ok_iff _ members dest).mpr encoded]
      rfl

/-- `from_json` rejects an IBC destination's object with the error of its
first member that fails after members that pass: `unknown field` for a key
outside the four serialized fields (`receiver` and `sender` among them),
`duplicate field` for a field named before, whatever the value, or the value's
own error; and, when every member passes, with `missing field` for the first
field, in declaration order, that no member names. -/
theorem deserialize_ibc_eq_error_iff (members : List (String × Json)) (e : JsonError) :
    (deserialize (.obj [("ibc", .obj members)]) : Except JsonError Dest) = .error e ↔
      (∃ front key value back, members = front ++ (key, value) :: back ∧
        MembersPass true IbcDest.fieldOf IbcDest.Field.decode front ∧
        MemberFails true IbcDest.FIELDS IbcDest.fieldOf IbcDest.Field.name IbcDest.Field.decode
          front key value e) ∨
      MembersPass true IbcDest.fieldOf IbcDest.Field.decode members ∧
        ∃ field, firstUnnamed IbcDest.Field.all IbcDest.Field.name members = some field ∧
          e = .missingField field.name := by
  rw [deserialize_eq, initialDepth_eq_succ, deserializeEnum_single, variantOf, ok_bind, payload,
    map_eq_error_iff]
  exact IbcDest.deserializeAt_obj_eq_error_iff _ members e

theorem variantOf_eq_ok_iff {name : String} {variant : Variant} :
    variantOf name = .ok variant ↔ name = variant.name :=
  ⟨variantOf_eq_ok, by rintro rfl; cases variant <;> rfl⟩

theorem variantOf_eq_error_iff {name : String} {e : JsonError} :
    variantOf name = .error e ↔ name ∉ VARIANTS ∧ e = .unknownVariant name VARIANTS := by
  unfold variantOf
  split <;> simp_all [VARIANTS, @eq_comm _ _ e]

/-- A statement about some variant is one about `address` or about `ibc`. -/
theorem exists_variant {p : Variant → Prop} : (∃ variant, p variant) ↔ p .address ∨ p .ibc :=
  ⟨fun ⟨variant, holds⟩ => by cases variant <;> simp [holds],
    by rintro (holds | holds) <;> exact ⟨_, holds⟩⟩

theorem payload_address_eq_error_iff {depth : Nat} {value : Json} {e : JsonError} :
    payload depth .address value = .error e ↔ (∀ s, value ≠ .str s) ∧ e = .invalidType := by
  cases value <;> simp [payload, deserializeAt, deserializeStr, @eq_comm _ _ e]

theorem exists_payload_address_eq_ok {depth : Nat} {value : Json} :
    (∃ d, payload depth .address value = .ok d) ↔ ∃ s, value = .str s := by
  cases value <;> simp [payload, deserializeAt, deserializeStr]

theorem payload_ibc_eq_error_iff {depth : Nat} {value : Json} {e : JsonError} :
    payload (depth + 1) .ibc value = .error e ↔
      (deserialize value : Except JsonError IbcDest) = .error e := by
  rw [payload, map_eq_error_iff, IbcDest.deserializeAt_succ]

theorem exists_payload_ibc_eq_ok {depth : Nat} {value : Json} :
    (∃ d, payload (depth + 1) .ibc value = .ok d) ↔
      ∃ dest : IbcDest, deserialize value = .ok dest := by
  rw [payload, IbcDest.deserializeAt_succ]
  cases (deserialize value : Except JsonError IbcDest) <;> simp

/-- `from_json` rejects a destination: a bare variant name with
`unknown_variant` or, for `address` and `ibc`, `invalid_type`; an empty object
with `invalid_type`; an object whose first member names no variant with
`unknown_variant`, or whose first member's payload fails with the payload's
error (a non-string address is `invalid_type`; an IBC destination's errors are
`deserialize_ibc_eq_error_iff`'s); an object with a second member, only once
the first one's payload has been read, with `expected_some_value`; and every
other value with `expected_some_ident`. -/
theorem deserialize_dest_eq_error_iff (v : Json) (e : JsonError) :
    (deserialize v : Except JsonError Dest) = .error e ↔
      (∃ name, v = .str name ∧
        (name ∉ VARIANTS ∧ e = .unknownVariant name VARIANTS ∨
          name ∈ VARIANTS ∧ e = .invalidType)) ∨
      (v = .obj [] ∧ e = .invalidType) ∨
      (∃ name value more, v = .obj ((name, value) :: more) ∧
        (name ∉ VARIANTS ∧ e = .unknownVariant name VARIANTS ∨
          name = "address" ∧ ((∀ s, value ≠ .str s) ∧ e = .invalidType ∨
            (∃ s, value = .str s) ∧ more ≠ [] ∧ e = .expectedSomeValue) ∨
          name = "ibc" ∧ ((deserialize value : Except JsonError IbcDest) = .error e ∨
            (∃ dest : IbcDest, deserialize value = .ok dest) ∧ more ≠ [] ∧
              e = .expectedSomeValue))) ∨
      ((∀ name, v ≠ .str name) ∧ (∀ members, v ≠ .obj members) ∧ e = .expectedSomeIdent) := by
  rw [deserialize_eq, initialDepth_eq_succ, deserializeEnum_eq_error_iff]
  simp only [variantOf_eq_ok_iff, variantOf_eq_error_iff, exists_variant, Variant.name,
    payload_address_eq_error_iff, exists_payload_address_eq_ok, payload_ibc_eq_error_iff,
    exists_payload_ibc_eq_ok, VARIANTS, List.mem_cons, List.mem_singleton, List.not_mem_nil,
    or_false]

end Dest

end BitcoinBridge
