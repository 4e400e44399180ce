import BitcoinBridge.Interface.Dest
import BitcoinBridge.Serde

/-!
# `Dest` through its wire and storage encoding

`IbcDest` and `Dest` are `#[cw_serde]`: their JSON is derived, with
`deny_unknown_fields`, and `IbcDest`'s `receiver` and `sender` are
`#[serde(skip)]`. A skipped field is never written, is not a field the
visitor knows (so a member naming it is `unknown_field`), and is filled with
`Default::default()`, the empty string.

Results:
* `Dest.fromJson_toJsonVec`: every destination passes through its JSON, and
  comes back with an IBC receiver and sender emptied (`Dest.clearSkipped`);
* `Dest.toJsonVec_eq_iff`: two destinations are stored alike exactly when they
  differ at most in an IBC destination's receiver and sender;
* `Dest.fromJson_ibc_receiver_empty`: every IBC destination `from_json`
  accepts, from any text, has an empty receiver and sender, so it credits the
  empty address and commits to the hash of the empty string;
* `Dest.fromJson_toJsonVec_keeps_receiver_iff`: the consequences for the two
  accessors: a destination keeps its receiver address and its commitment
  through the encoding exactly when it is an address or an IBC destination
  with an empty receiver, and an IBC destination comes back with receiver
  address `""` and the commitment `sha256("")`;
  `Dest.testTakePendingDest_loses_receiver` is the destination of
  `test_take_pending`, which does not keep them.
-/

namespace BitcoinBridge

open Serialize Deserialize

/-! ## `Addr`: a newtype struct, transparent in JSON -/

instance instSerializeAddr : Serialize Addr := ⟨fun addr => serialize addr.val⟩

instance instDeserializeAddr : Deserialize Addr :=
  ⟨fun depth v => Addr.mk <$> deserializeAt depth v⟩

instance : LawfulSerde Addr where
  deserializeAt_serialize _ _ := rfl
  serialize_of_deserializeAt accepted := by
    obtain ⟨s, decoded, rfl⟩ := map_eq_ok accepted
    exact LawfulSerde.serialize_of_deserializeAt (α := String) decoded

/-! ## `IbcDest` -/

namespace IbcDest

/-- `FIELDS` of the derived impl: the serialized fields in declaration order.
`receiver` and `sender` are `#[serde(skip)]`. -/
def FIELDS : List String :=
  ["source_port", "source_channel", "timeout_timestamp", "memo"]

/-- The members the derived `serialize_struct` writes, in declaration order. -/
def members (dest : IbcDest) : List (String × Json) := [
  ("source_port", serialize dest.sourcePort),
  ("source_channel", serialize dest.sourceChannel),
  ("timeout_timestamp", serialize dest.timeoutTimestamp),
  ("memo", serialize dest.memo)]

instance instSerialize : Serialize IbcDest := ⟨fun dest => .obj dest.members⟩

/-- The derived visitor's locals, one slot per serialized field. -/
structure Slots where
  sourcePort : Option String := none
  sourceChannel : Option String := none
  timeoutTimestamp : Option UInt64 := none
  memo : Option String := none

/-- The derived field identifier `__Field`, one per serialized field. -/
inductive Field where
  | sourcePort
  | sourceChannel
  | timeoutTimestamp
  | memo
deriving DecidableEq

/-- The name a field is serialized under. -/
def Field.name : Field → String
  | .sourcePort => "source_port"
  | .sourceChannel => "source_channel"
  | .timeoutTimestamp => "timeout_timestamp"
  | .memo => "memo"

/-- The derived `visit_str` of a member's key: `receiver` and `sender` name no
field. -/
def fieldOf : String → Option Field
  | "source_port" => some .sourcePort
  | "source_channel" => some .sourceChannel
  | "timeout_timestamp" => some .timeoutTimestamp
  | "memo" => some .memo
  | _ => none

/-- The derived field match, one arm per field identifier, with the depth the
object's contents are read at. -/
def visitField (depth : Nat) (slots : Slots) : Field → Json → Except JsonError Slots
  | .sourcePort, value => do
    let filled ← fillField depth "source_port" slots.sourcePort value
    return { slots with sourcePort := filled }
  | .sourceChannel, value => do
    let filled ← fillField depth "source_channel" slots.sourceChannel value
    return { slots with sourceChannel := filled }
  | .timeoutTimestamp, value => do
    let filled ← fillField depth "timeout_timestamp" slots.timeoutTimestamp value
    return { slots with timeoutTimestamp := filled }
  | .memo, value => do
    let filled ← fillField depth "memo" slots.memo value
    return { slots with memo := filled }

/-- One member of the object, under `deny_unknown_fields`. -/
def visitKey : Nat → Slots → String → Json → Except JsonError Slots :=
  visitKeyBy true FIELDS fieldOf visitField

/-- The end of the derived `visit_map`: every serialized field must have been
seen, and the skipped ones take their default. -/
def finish (slots : Slots) : Except JsonError IbcDest := do
  return {
    sourcePort := ← takeField "source_port" slots.sourcePort
    sourceChannel := ← takeField "source_channel" slots.sourceChannel
    receiver := default
    sender := default
    timeoutTimestamp := ← takeField "timeout_timestamp" slots.timeoutTimestamp
    memo := ← takeField "memo" slots.memo }

instance instDeserialize : Deserialize IbcDest := ⟨deserializeStruct visitKey {} finish⟩

theorem serialize_eq (dest : IbcDest) : serialize dest = .obj dest.members := rfl

theorem deserializeAt_eq (depth : Nat) (v : Json) :
    (deserializeAt depth v : Except JsonError IbcDest) =
      deserializeStruct visitKey {} finish depth v := rfl

/-- Every serialized field is a scalar and no unknown key is skipped, so an
`IbcDest` is read alike at every depth that leaves its object a level. -/
theorem deserializeAt_succ (depth : Nat) (v : Json) :
    (deserializeAt (depth + 1) v : Except JsonError IbcDest) = deserialize v := by
  cases v <;> rfl

/-- Whatever the slots, a finished `IbcDest` has an empty receiver and sender. -/
theorem finish_skipped {slots : Slots} {dest : IbcDest} (finished : finish slots = .ok dest) :
    dest.receiver = "" ∧ dest.sender = "" := by
  unfold finish at finished
  repeat obtain ⟨_, -, finished⟩ := takeField_bind_eq_ok finished
  cases finished
  exact ⟨rfl, rfl⟩

theorem deserializeAt_skipped {depth : Nat} {v : Json} {dest : IbcDest}
    (accepted : (deserializeAt depth v : Except JsonError IbcDest) = .ok dest) :
    dest.receiver = "" ∧ dest.sender = "" := by
  cases v with
  | obj members =>
    cases depth with
    | zero => cases accepted
    | succ depth =>
      obtain ⟨slots, -, finished⟩ := bind_eq_ok accepted
      exact finish_skipped finished
  | _ => cases accepted

theorem fieldOf_name (field : Field) : fieldOf field.name = some field := by
  cases field <;> rfl

theorem fieldOf_eq_some {key : String} {field : Field} (found : fieldOf key = some field) :
    key = field.name := by
  unfold fieldOf at found
  split at found <;> cases found <;> rfl

theorem name_mem_FIELDS (field : Field) : field.name ∈ FIELDS := by
  cases field <;> simp [Field.name, FIELDS]

theorem fieldOf_eq_none {key : String} (unknown : key ∉ FIELDS) : fieldOf key = none := by
  cases found : fieldOf key with
  | none => rfl
  | some field => exact absurd (fieldOf_eq_some found ▸ name_mem_FIELDS field) unknown

/-- `deny_unknown_fields`: an object with a member that names no serialized
field, `receiver` and `sender` among them, is rejected wherever that member
stands. -/
theorem deserialize_rejects_unknown_field {members : List (String × Json)} {key : String}
    {value : Json} (member : (key, value) ∈ members) (unknown : key ∉ FIELDS) :
    ∃ e, (deserialize (.obj members) : Except JsonError IbcDest) = .error e := by
  have rejected : ∀ slots, ∃ e, visitKey (initialDepth - 1) slots key value = .error e :=
    fun slots => ⟨.unknownField key FIELDS, by
      rw [visitKey, visitKeyBy_of_none (fieldOf_eq_none unknown)]; rfl⟩
  obtain ⟨e, failed⟩ := visitMap_error_of_mem rejected {} member
  exact ⟨e, congrArg (· >>= finish) failed⟩

theorem deserialize_rejects_unknown_field_receiver :
    ("receiver", Json.str "receiver") ∈
        [("source_port", Json.str "transfer"), ("receiver", Json.str "receiver")] ∧
      "receiver" ∉ FIELDS ∧
      ∃ e, (deserialize (.obj [("source_port", Json.str "transfer"),
        ("receiver", Json.str "receiver")]) : Except JsonError IbcDest) = .error e :=
  ⟨List.mem_cons_of_mem _ (List.mem_singleton_self _), by decide,
    deserialize_rejects_unknown_field (List.mem_cons_of_mem _ (List.mem_singleton_self _))
      (by decide)⟩

/-- An IBC destination comes back from its serde data with the skipped fields
emptied, wherever its object is read. -/
theorem deserializeAt_serialize (depth : Nat) (dest : IbcDest) :
    (deserializeAt (depth + 1) (serialize dest) : Except JsonError IbcDest) =
      .ok { dest with receiver := "", sender := "" } := by
  simp only [serialize_eq, members, deserializeAt_eq, deserializeStruct_obj, visitMap_cons,
    visitMap_nil, visitKey, visitKeyBy, fieldOf, visitField, fillField_none,
    SerdeRoundTrip.deserializeAt_serialize, map_ok, pure_eq_ok, ok_bind, finish, takeField_some]
  rfl

end IbcDest

/-! ## `Dest`: externally tagged -/

namespace Dest

/-- `VARIANTS` of the derived impl, renamed `snake_case` by `#[cw_serde]`. -/
def VARIANTS : List String :=
  ["address", "ibc"]

/-- The derived variant identifier. -/
inductive Variant where
  | address
  | ibc

/-- The derived `visit_str` of a variant's name. -/
def variantOf : String → Except JsonError Variant
  | "address" => .ok .address
  | "ibc" => .ok .ibc
  | name => .error (.unknownVariant name VARIANTS)

/-- The derived `visit_enum`: each variant's `newtype_variant`, with the depth
the enum's object leaves. -/
def payload (depth : Nat) : Variant → Json → Except JsonError Dest
  | .address, v => Dest.address <$> deserializeAt depth v
  | .ibc, v => Dest.ibc <$> deserializeAt depth v

instance instSerialize : Serialize Dest where
  serialize
    | .address addr => .obj [("address", serialize addr)]
    | .ibc dest => .obj [("ibc", serialize dest)]

instance instDeserialize : Deserialize Dest := ⟨deserializeEnum variantOf payload⟩

theorem serialize_ibc (dest : IbcDest) :
    serialize (Dest.ibc dest) = .obj [("ibc", serialize dest)] :=
  rfl

theorem deserializeAt_eq (depth : Nat) (v : Json) :
    (deserializeAt depth v : Except JsonError Dest) = deserializeEnum variantOf payload depth v :=
  rfl

theorem deserialize_eq (v : Json) :
    (deserialize v : Except JsonError Dest) = deserializeEnum variantOf payload initialDepth v :=
  rfl

/-- What a destination is after a pass through serde: an IBC destination's
`#[serde(skip)]` fields are back at their default. -/
def clearSkipped : Dest → Dest
  | .address addr => .address addr
  | .ibc dest => .ibc { dest with receiver := "", sender := "" }

/-- A destination comes back from its serde data wherever it is read with the
two levels its enum object and an IBC destination's object take. -/
theorem deserializeAt_serialize (depth : Nat) (d : Dest) :
    (deserializeAt (depth + 2) (serialize d) : Except JsonError Dest) = .ok d.clearSkipped := by
  cases d with
  | address addr => rfl
  | ibc dest =>
    simp only [serialize_ibc, deserializeAt_eq, deserializeEnum_single, variantOf, ok_bind, payload,
      IbcDest.deserializeAt_serialize, map_ok]
    rfl

theorem deserialize_serialize (d : Dest) :
    (deserialize (serialize d) : Except JsonError Dest) = .ok d.clearSkipped :=
  deserializeAt_serialize (initialDepth - 2) d

theorem fromJson_toJsonVec (d : Dest) :
    (fromJson (toJsonVec d) : Except JsonError Dest) = .ok d.clearSkipped := by
  rw [BitcoinBridge.fromJson_toJsonVec, deserialize_serialize]

theorem toJsonVec_clearSkipped (d : Dest) : toJsonVec d.clearSkipped = toJsonVec d := by
  cases d <;> rfl

/-- Two destinations are stored alike exactly when they differ at most in an
IBC destination's skipped fields: the storage encoding cannot tell two
receivers or two senders apart. -/
theorem toJsonVec_eq_iff (d d' : Dest) :
    toJsonVec d = toJsonVec d' ↔ d.clearSkipped = d'.clearSkipped := by
  constructor
  · intro same
    have read := fromJson_toJsonVec d
    rw [same, fromJson_toJsonVec] at read
    exact (Except.ok.inj read).symm
  · intro same
    rw [← toJsonVec_clearSkipped d, ← toJsonVec_clearSkipped d', same]

/-- Whatever the text, a destination `from_json` accepts has nothing in its
skipped fields. -/
theorem clearSkipped_of_deserialize {v : Json} {d : Dest}
    (accepted : (deserialize v : Except JsonError Dest) = .ok d) : d.clearSkipped = d := by
  rw [deserialize_eq] at accepted
  obtain ⟨name, value, variant, -, -, paid⟩ := deserializeEnum_eq_ok accepted
  cases variant with
  | address =>
    obtain ⟨addr, -, rfl⟩ := map_eq_ok paid
    rfl
  | ibc =>
    obtain ⟨dest, decoded, rfl⟩ := map_eq_ok paid
    obtain ⟨emptyReceiver, emptySender⟩ := IbcDest.deserializeAt_skipped decoded
    cases dest
    simp_all [clearSkipped]

theorem clearSkipped_of_fromJson {text : List Char} {d : Dest}
    (accepted : fromJson text = .ok d) : d.clearSkipped = d := by
  obtain ⟨v, -, -, decoded⟩ := fromJson_eq_ok accepted
  exact clearSkipped_of_deserialize decoded

/-- The destination of `test_take_pending`, an IBC transfer to `receiver`. -/
def testTakePendingDest : Dest :=
  .ibc {
    sourcePort := "transfer"
    sourceChannel := "channel-0"
    receiver := "receiver"
    sender := "sender1"
    timeoutTimestamp := 10
    memo := "" }

/-- The destination of `test_take_pending` does not keep its receiver through
its JSON: it comes back with receiver `""`. -/
theorem testTakePendingDest_loses_receiver :
    ¬ ∃ d', (fromJson (toJsonVec testTakePendingDest) : Except JsonError Dest) = .ok d' ∧
      d'.toReceiverAddr = testTakePendingDest.toReceiverAddr ∧
      d'.commitmentBytes = testTakePendingDest.commitmentBytes := by
  rintro ⟨d', decoded, sameReceiver, -⟩
  rw [fromJson_toJsonVec] at decoded
  cases decoded
  simp [testTakePendingDest, clearSkipped, toReceiverAddr] at sameReceiver

/-- Through its JSON, a destination keeps its receiver address and its
commitment exactly when it is an address, or an IBC destination whose receiver
is already empty; an IBC destination comes back crediting the empty address
and committing to the hash of the empty string. -/
theorem fromJson_toJsonVec_keeps_receiver_iff (d : Dest) :
    ∃ d', (fromJson (toJsonVec d) : Except JsonError Dest) = .ok d' ∧ d' = d.clearSkipped ∧
      (d'.toReceiverAddr = d.toReceiverAddr ∧ d'.commitmentBytes = d.commitmentBytes ↔
        ∀ dest, d = .ibc dest → dest.receiver = "") ∧
      ∀ dest, d = .ibc dest → d'.toReceiverAddr = "" ∧ d'.commitmentBytes = .ok (sha256 []) := by
  refine ⟨d.clearSkipped, fromJson_toJsonVec d, rfl, ?_, fun dest isIbc => isIbc ▸ ⟨rfl, rfl⟩⟩
  cases d with
  | address addr => simp [clearSkipped]
  | ibc dest =>
    simp only [clearSkipped, toReceiverAddr, commitmentBytes, ibc.injEq, forall_eq']
    constructor
    · exact fun ⟨sameReceiver, _⟩ => sameReceiver.symm
    · intro emptyReceiver
      simp [emptyReceiver]

/-- Every IBC destination read from JSON, from any text, credits the empty
receiver and commits to the hash of the empty string. -/
theorem fromJson_ibc_receiver_empty {text : List Char} {dest : IbcDest}
    (accepted : fromJson text = .ok (Dest.ibc dest)) :
    (Dest.ibc dest).toReceiverAddr = "" ∧ dest.sender = "" ∧
      (Dest.ibc dest).commitmentBytes = .ok (sha256 []) := by
  have cleared := clearSkipped_of_fromJson accepted
  simp only [clearSkipped, ibc.injEq] at cleared
  rw [← cleared]
  exact ⟨rfl, rfl, rfl⟩

theorem fromJson_ibc_receiver_empty_testTakePendingDest :
    fromJson (toJsonVec testTakePendingDest) = .ok testTakePendingDest.clearSkipped ∧
      testTakePendingDest.clearSkipped.toReceiverAddr = "" :=
  ⟨fromJson_toJsonVec _, (fromJson_ibc_receiver_empty (fromJson_toJsonVec testTakePendingDest)).1⟩

/-- After one pass through JSON a destination is stable: every further pass
through its storage encoding gives it back unchanged. -/
theorem fromJson_toJsonVec_of_fromJson {text : List Char} {d : Dest}
    (accepted : fromJson text = .ok d) :
    (fromJson (toJsonVec d) : Except JsonError Dest) = .ok d := by
  rw [fromJson_toJsonVec, clearSkipped_of_fromJson accepted]

theorem fromJson_toJsonVec_of_fromJson_testTakePendingDest :
    fromJson (toJsonVec testTakePendingDest) = .ok testTakePendingDest.clearSkipped ∧
      (fromJson (toJsonVec testTakePendingDest.clearSkipped) : Except JsonError Dest) =
        .ok testTakePendingDest.clearSkipped :=
  ⟨fromJson_toJsonVec _, fromJson_toJsonVec_of_fromJson (fromJson_toJsonVec _)⟩

end Dest

end BitcoinBridge
