import BitcoinBridge.Serde.Accept

/-!
# Checkpoint configuration

`checkpoint::interface`'s `CheckpointConfig`, the parameters used in
processing checkpoints, its `bitcoin()` preset (which `Default` returns), and
its derived `#[cw_serde]` JSON. Unlike `IbcDest`, no field is skipped.

Results:
* `CheckpointConfig.fromJson_toJsonVec_config`: every configuration comes back from
  its JSON unchanged;
* `CheckpointConfig.deserializeAt_obj_eq_ok_iff`: the objects read as a
  configuration, wherever it is read with the two levels its object and its
  pair take, are exactly the reorderings of its encoding, each field once.
-/

namespace BitcoinBridge

open Serialize Deserialize

/-- `CheckpointConfig`. -/
structure CheckpointConfig where
  minCheckpointInterval : UInt64
  maxCheckpointInterval : UInt64
  maxInputs : UInt64
  maxOutputs : UInt64
  feeRate : UInt64
  maxAge : UInt64
  targetCheckpointInclusion : UInt32
  minFeeRate : UInt64
  maxFeeRate : UInt64
  userFeeFactor : UInt64
  sigsetThreshold : UInt64 × UInt64
  emergencyDisbursalMinTxAmt : UInt64
  emergencyDisbursalLockTimeInterval : UInt32
  emergencyDisbursalMaxTxSize : UInt64
  maxUnconfirmedCheckpoints : UInt32
deriving DecidableEq, Repr

namespace CheckpointConfig

/-- The constants `bitcoin()` takes from `crate::constants` and
`crate::signatory`, whose values are not part of this model. -/
structure Constants where
  maxCheckpointInterval : UInt64
  maxCheckpointAge : UInt64
  minFeeRate : UInt64
  maxFeeRate : UInt64
  userFeeFactor : UInt64
  sigsetThreshold : UInt64 × UInt64

/-- `CheckpointConfig::bitcoin`. -/
def bitcoin (k : Constants) : CheckpointConfig where
  minCheckpointInterval := 60 * 5
  maxCheckpointInterval := k.maxCheckpointInterval
  maxInputs := 40
  maxOutputs := 200
  maxAge := k.maxCheckpointAge
  targetCheckpointInclusion := 2
  minFeeRate := k.minFeeRate
  maxFeeRate := k.maxFeeRate
  userFeeFactor := k.userFeeFactor
  sigsetThreshold := k.sigsetThreshold
  emergencyDisbursalMinTxAmt := 1000
  emergencyDisbursalLockTimeInterval := 60 * 60 * 24 * 7 * 8
  emergencyDisbursalMaxTxSize := 50000
  maxUnconfirmedCheckpoints := 15
  feeRate := 0

/-- `<CheckpointConfig as Default>::default`. -/
def default (k : Constants) : CheckpointConfig :=
  bitcoin k

/-! ## The derived JSON -/

/-- `FIELDS` of the derived impl, in declaration order. -/
def FIELDS : List String :=
  ["min_checkpoint_interval", "max_checkpoint_interval", "max_inputs", "max_outputs", "fee_rate",
   "max_age", "target_checkpoint_inclusion", "min_fee_rate", "max_fee_rate", "user_fee_factor",
   "sigset_threshold", "emergency_disbursal_min_tx_amt", "emergency_disbursal_lock_time_interval",
   "emergency_disbursal_max_tx_size", "max_unconfirmed_checkpoints"]

/-- The members the derived `serialize_struct` writes, in declaration order. -/
def members (config : CheckpointConfig) : List (String × Json) := [
  ("min_checkpoint_interval", serialize config.minCheckpointInterval),
  ("max_checkpoint_interval", serialize config.maxCheckpointInterval),
  ("max_inputs", serialize config.maxInputs),
  ("max_outputs", serialize config.maxOutputs),
  ("fee_rate", serialize config.feeRate),
  ("max_age", serialize config.maxAge),
  ("target_checkpoint_inclusion", serialize config.targetCheckpointInclusion),
  ("min_fee_rate", serialize config.minFeeRate),
  ("max_fee_rate", serialize config.maxFeeRate),
  ("user_fee_factor", serialize config.userFeeFactor),
  ("sigset_threshold", serialize config.sigsetThreshold),
  ("emergency_disbursal_min_tx_amt", serialize config.emergencyDisbursalMinTxAmt),
  ("emergency_disbursal_lock_time_interval", serialize config.emergencyDisbursalLockTimeInterval),
  ("emergency_disbursal_max_tx_size", serialize config.emergencyDisbursalMaxTxSize),
  ("max_unconfirmed_checkpoints", serialize config.maxUnconfirmedCheckpoints)]

instance instSerialize : Serialize CheckpointConfig := ⟨fun config => .obj config.members⟩

/-- The derived visitor's locals, one slot per field. -/
structure Slots where
  minCheckpointInterval : Option UInt64 := none
  maxCheckpointInterval : Option UInt64 := none
  maxInputs : Option UInt64 := none
  maxOutputs : Option UInt64 := none
  feeRate : Option UInt64 := none
  maxAge : Option UInt64 := none
  targetCheckpointInclusion : Option UInt32 := none
  minFeeRate : Option UInt64 := none
  maxFeeRate : Option UInt64 := none
  userFeeFactor : Option UInt64 := none
  sigsetThreshold : Option (UInt64 × UInt64) := none
  emergencyDisbursalMinTxAmt : Option UInt64 := none
  emergencyDisbursalLockTimeInterval : Option UInt32 := none
  emergencyDisbursalMaxTxSize : Option UInt64 := none
  maxUnconfirmedCheckpoints : Option UInt32 := none

/-- The derived field identifier `__Field`, one per field. -/
inductive Field where
  | minCheckpointInterval
  | maxCheckpointInterval
  | maxInputs
  | maxOutputs
  | feeRate
  | maxAge
  | targetCheckpointInclusion
  | minFeeRate
  | maxFeeRate
  | userFeeFactor
  | sigsetThreshold
  | emergencyDisbursalMinTxAmt
  | emergencyDisbursalLockTimeInterval
  | emergencyDisbursalMaxTxSize
  | maxUnconfirmedCheckpoints
deriving DecidableEq

/-- The name a field is serialized under. -/
def Field.name : Field → String
  | .minCheckpointInterval => "min_checkpoint_interval"
  | .maxCheckpointInterval => "max_checkpoint_interval"
  | .maxInputs => "max_inputs"
  | .maxOutputs => "max_outputs"
  | .feeRate => "fee_rate"
  | .maxAge => "max_age"
  | .targetCheckpointInclusion => "target_checkpoint_inclusion"
  | .minFeeRate => "min_fee_rate"
  | .maxFeeRate => "max_fee_rate"
  | .userFeeFactor => "user_fee_factor"
  | .sigsetThreshold => "sigset_threshold"
  | .emergencyDisbursalMinTxAmt => "emergency_disbursal_min_tx_amt"
  | .emergencyDisbursalLockTimeInterval => "emergency_disbursal_lock_time_interval"
  | .emergencyDisbursalMaxTxSize => "emergency_disbursal_max_tx_size"
  | .maxUnconfirmedCheckpoints => "max_unconfirmed_checkpoints"

/-- The derived `visit_str` of a member's key. -/
def fieldOf : String → Option Field
  | "min_checkpoint_interval" => some .minCheckpointInterval
  | "max_checkpoint_interval" => some .maxCheckpointInterval
  | "max_inputs" => some .maxInputs
  | "max_outputs" => some .maxOutputs
  | "fee_rate" => some .feeRate
  | "max_age" => some .maxAge
  | "target_checkpoint_inclusion" => some .targetCheckpointInclusion
  | "min_fee_rate" => some .minFeeRate
  | "max_fee_rate" => some .maxFeeRate
  | "user_fee_factor" => some .userFeeFactor
  | "sigset_threshold" => some .sigsetThreshold
  | "emergency_disbursal_min_tx_amt" => some .emergencyDisbursalMinTxAmt
  | "emergency_disbursal_lock_time_interval" => some .emergencyDisbursalLockTimeInterval
  | "emergency_disbursal_max_tx_size" => some .emergencyDisbursalMaxTxSize
  | "max_unconfirmed_checkpoints" => some .maxUnconfirmedCheckpoints
  | _ => none

/-- The derived field match, one arm per field identifier, with the depth the
object's contents are read at. -/
def visitField (depth : Nat) (slots : Slots) : Field → Json → Except JsonError Slots
  | .minCheckpointInterval, value => do
    let filled ← fillField depth "min_checkpoint_interval" slots.minCheckpointInterval value
    return { slots with minCheckpointInterval := filled }
  | .maxCheckpointInterval, value => do
    let filled ← fillField depth "max_checkpoint_interval" slots.maxCheckpointInterval value
    return { slots with maxCheckpointInterval := filled }
  | .maxInputs, value => do
    let filled ← fillField depth "max_inputs" slots.maxInputs value
    return { slots with maxInputs := filled }
  | .maxOutputs, value => do
    let filled ← fillField depth "max_outputs" slots.maxOutputs value
    return { slots with maxOutputs := filled }
  | .feeRate, value => do
    let filled ← fillField depth "fee_rate" slots.feeRate value
    return { slots with feeRate := filled }
  | .maxAge, value => do
    let filled ← fillField depth "max_age" slots.maxAge value
    return { slots with maxAge := filled }
  | .targetCheckpointInclusion, value => do
    let filled ← fillField depth "target_checkpoint_inclusion" slots.targetCheckpointInclusion value
    return { slots with targetCheckpointInclusion := filled }
  | .minFeeRate, value => do
    let filled ← fillField depth "min_fee_rate" slots.minFeeRate value
    return { slots with minFeeRate := filled }
  | .maxFeeRate, value => do
    let filled ← fillField depth "max_fee_rate" slots.maxFeeRate value
    return { slots with maxFeeRate := filled }
  | .userFeeFactor, value => do
    let filled ← fillField depth "user_fee_factor" slots.userFeeFactor value
    return { slots with userFeeFactor := filled }
  | .sigsetThreshold, value => do
    let filled ← fillField depth "sigset_threshold" slots.sigsetThreshold value
    return { slots with sigsetThreshold := filled }
  | .emergencyDisbursalMinTxAmt, value => do
    let filled ← fillField depth "emergency_disbursal_min_tx_amt"
      slots.emergencyDisbursalMinTxAmt value
    return { slots with emergencyDisbursalMinTxAmt := filled }
  | .emergencyDisbursalLockTimeInterval, value => do
    let filled ← fillField depth "emergency_disbursal_lock_time_interval"
      slots.emergencyDisbursalLockTimeInterval value
    return { slots with emergencyDisbursalLockTimeInterval := filled }
  | .emergencyDisbursalMaxTxSize, value => do
    let filled ← fillField depth "emergency_disbursal_max_tx_size"
      slots.emergencyDisbursalMaxTxSize value
    return { slots with emergencyDisbursalMaxTxSize := filled }
  | .maxUnconfirmedCheckpoints, value => do
    let filled ← fillField depth "max_unconfirmed_checkpoints" slots.maxUnconfirmedCheckpoints value
    return { slots with maxUnconfirmedCheckpoints := filled }

/-- One member of the object, under `deny_unknown_fields`. -/
def visitKey : Nat → Slots → String → Json → Except JsonError Slots :=
  visitKeyBy true FIELDS fieldOf visitField

/-- The end of the derived `visit_map`: every field must have been seen. -/
def finish (slots : Slots) : Except JsonError CheckpointConfig := do
  return {
    minCheckpointInterval := ← takeField "min_checkpoint_interval" slots.minCheckpointInterval
    maxCheckpointInterval := ← takeField "max_checkpoint_interval" slots.maxCheckpointInterval
    maxInputs := ← takeField "max_inputs" slots.maxInputs
    maxOutputs := ← takeField "max_outputs" slots.maxOutputs
    feeRate := ← takeField "fee_rate" slots.feeRate
    maxAge := ← takeField "max_age" slots.maxAge
    targetCheckpointInclusion :=
      ← takeField "target_checkpoint_inclusion" slots.targetCheckpointInclusion
    minFeeRate := ← takeField "min_fee_rate" slots.minFeeRate
    maxFeeRate := ← takeField "max_fee_rate" slots.maxFeeRate
    userFeeFactor := ← takeField "user_fee_factor" slots.userFeeFactor
    sigsetThreshold := ← takeField "sigset_threshold" slots.sigsetThreshold
    emergencyDisbursalMinTxAmt :=
      ← takeField "emergency_disbursal_min_tx_amt" slots.emergencyDisbursalMinTxAmt
    emergencyDisbursalLockTimeInterval :=
      ← takeField "emergency_disbursal_lock_time_interval" slots.emergencyDisbursalLockTimeInterval
    emergencyDisbursalMaxTxSize :=
      ← takeField "emergency_disbursal_max_tx_size" slots.emergencyDisbursalMaxTxSize
    maxUnconfirmedCheckpoints :=
      ← takeField "max_unconfirmed_checkpoints" slots.maxUnconfirmedCheckpoints }

instance instDeserialize : Deserialize CheckpointConfig := ⟨deserializeStruct visitKey {} finish⟩

/-! ## What the visitor accepts -/

theorem fieldOf_name (field : Field) : fieldOf field.name = some field := by
  cases field <;> rfl

theorem fieldOf_eq_some {key : String} {field : Field} (found : fieldOf key = some field) :
    key = field.name := by
  unfold fieldOf at found
  split at found <;> cases found <;> rfl

/-- The type of each field. -/
@[reducible] def Field.Content : Field → Type
  | .targetCheckpointInclusion | .emergencyDisbursalLockTimeInterval | .maxUnconfirmedCheckpoints =>
    UInt32
  | .sigsetThreshold => UInt64 × UInt64
  | _ => UInt64

/-- Each field's `Deserialize` impl, at the depth the object's contents are
read at. -/
def Field.decode (depth : Nat) : (field : Field) → Json → Except JsonError field.Content
  | .minCheckpointInterval | .maxCheckpointInterval | .maxInputs | .maxOutputs | .feeRate | .maxAge
  | .minFeeRate | .maxFeeRate | .userFeeFactor | .emergencyDisbursalMinTxAmt
  | .emergencyDisbursalMaxTxSize =>
    deserializeAt depth
  | .targetCheckpointInclusion | .emergencyDisbursalLockTimeInterval | .maxUnconfirmedCheckpoints =>
    deserializeAt depth
  | .sigsetThreshold => deserializeAt depth

/-- Each field's `Serialize` impl. -/
def Field.encode : (field : Field) → field.Content → Json
  | .minCheckpointInterval | .maxCheckpointInterval | .maxInputs | .maxOutputs | .feeRate | .maxAge
  | .minFeeRate | .maxFeeRate | .userFeeFactor | .emergencyDisbursalMinTxAmt
  | .emergencyDisbursalMaxTxSize =>
    serialize
  | .targetCheckpointInclusion | .emergencyDisbursalLockTimeInterval | .maxUnconfirmedCheckpoints =>
    serialize
  | .sigsetThreshold => serialize

/-- The fields, in declaration order. -/
def Field.all : List Field := [
  .minCheckpointInterval, .maxCheckpointInterval, .maxInputs, .maxOutputs, .feeRate, .maxAge,
  .targetCheckpointInclusion, .minFeeRate, .maxFeeRate, .userFeeFactor, .sigsetThreshold,
  .emergencyDisbursalMinTxAmt, .emergencyDisbursalLockTimeInterval, .emergencyDisbursalMaxTxSize,
  .maxUnconfirmedCheckpoints]

/-- A configuration's value of each field. -/
def fieldValue (config : CheckpointConfig) : (field : Field) → field.Content
  | .minCheckpointInterval => config.minCheckpointInterval
  | .maxCheckpointInterval => config.maxCheckpointInterval
  | .maxInputs => config.maxInputs
  | .maxOutputs => config.maxOutputs
  | .feeRate => config.feeRate
  | .maxAge => config.maxAge
  | .targetCheckpointInclusion => config.targetCheckpointInclusion
  | .minFeeRate => config.minFeeRate
  | .maxFeeRate => config.maxFeeRate
  | .userFeeFactor => config.userFeeFactor
  | .sigsetThreshold => config.sigsetThreshold
  | .emergencyDisbursalMinTxAmt => config.emergencyDisbursalMinTxAmt
  | .emergencyDisbursalLockTimeInterval => config.emergencyDisbursalLockTimeInterval
  | .emergencyDisbursalMaxTxSize => config.emergencyDisbursalMaxTxSize
  | .maxUnconfirmedCheckpoints => config.maxUnconfirmedCheckpoints

/-- What a field's slot holds. -/
def Slots.get (slots : Slots) : (field : Field) → Option field.Content
  | .minCheckpointInterval => slots.minCheckpointInterval
  | .maxCheckpointInterval => slots.maxCheckpointInterval
  | .maxInputs => slots.maxInputs
  | .maxOutputs => slots.maxOutputs
  | .feeRate => slots.feeRate
  | .maxAge => slots.maxAge
  | .targetCheckpointInclusion => slots.targetCheckpointInclusion
  | .minFeeRate => slots.minFeeRate
  | .maxFeeRate => slots.maxFeeRate
  | .userFeeFactor => slots.userFeeFactor
  | .sigsetThreshold => slots.sigsetThreshold
  | .emergencyDisbursalMinTxAmt => slots.emergencyDisbursalMinTxAmt
  | .emergencyDisbursalLockTimeInterval => slots.emergencyDisbursalLockTimeInterval
  | .emergencyDisbursalMaxTxSize => slots.emergencyDisbursalMaxTxSize
  | .maxUnconfirmedCheckpoints => slots.maxUnconfirmedCheckpoints

/-- The slots once every member of `config`'s encoding has been visited. -/
def Slots.ofConfig (config : CheckpointConfig) : Slots where
  minCheckpointInterval := some config.minCheckpointInterval
  maxCheckpointInterval := some config.maxCheckpointInterval
  maxInputs := some config.maxInputs
  maxOutputs := some config.maxOutputs
  feeRate := some config.feeRate
  maxAge := some config.maxAge
  targetCheckpointInclusion := some config.targetCheckpointInclusion
  minFeeRate := some config.minFeeRate
  maxFeeRate := some config.maxFeeRate
  userFeeFactor := some config.userFeeFactor
  sigsetThreshold := some config.sigsetThreshold
  emergencyDisbursalMinTxAmt := some config.emergencyDisbursalMinTxAmt
  emergencyDisbursalLockTimeInterval := some config.emergencyDisbursalLockTimeInterval
  emergencyDisbursalMaxTxSize := some config.emergencyDisbursalMaxTxSize
  maxUnconfirmedCheckpoints := some config.maxUnconfirmedCheckpoints

theorem Slots.get_empty (field : Field) : ({} : Slots).get field = none := by
  cases field <;> rfl

theorem Slots.get_ofConfig (config : CheckpointConfig) (field : Field) :
    (Slots.ofConfig config).get field = some (config.fieldValue field) := by
  cases field <;> rfl

/-- The slots are determined by what they hold. -/
theorem Slots.ext_get {slots slots' : Slots} (same : ∀ field, slots.get field = slots'.get field) :
    slots = slots' := by
  cases slots
  cases slots'
  simp only [Slots.mk.injEq]
  exact ⟨same .minCheckpointInterval, same .maxCheckpointInterval, same .maxInputs,
    same .maxOutputs, same .feeRate, same .maxAge, same .targetCheckpointInclusion,
    same .minFeeRate, same .maxFeeRate, same .userFeeFactor, same .sigsetThreshold,
    same .emergencyDisbursalMinTxAmt, same .emergencyDisbursalLockTimeInterval,
    same .emergencyDisbursalMaxTxSize, same .maxUnconfirmedCheckpoints⟩

theorem identifier : FieldIdentifier fieldOf Field.name Field.all where
  fieldOf_name := fieldOf_name
  eq_name := fieldOf_eq_some
  mem_all field := by cases field <;> decide
  nodup_all := by decide

/-- Every arm of the field match fills its field's slot. -/
theorem fieldMatch (depth : Nat) :
    FieldMatch (Field.decode depth) Slots.get (visitField depth) where
  fills {slots slots' field value} visited := by
    cases field <;>
    · obtain ⟨filled, arm, done⟩ := bind_eq_ok visited
      cases done
      obtain ⟨empty, x, decoded, rfl⟩ := fillField_eq_ok arm
      exact ⟨empty, ⟨x, decoded, rfl⟩, fun other ne => by
        cases other <;> first | rfl | cases ne rfl⟩
  accepts {slots field value x} empty decoded := by
    cases field <;>
      exact ⟨_, (congrArg (· >>= _) (fillField_of_deserialize empty decoded)).trans rfl⟩

/-- Each field is read exactly from its own encoding, with a level to spare
for the pair. -/
theorem lawful (depth : Nat) (field : Field) (value : Json) (x : field.Content) :
    field.decode (depth + 1) value = .ok x ↔ field.encode x = value := by
  cases field <;>
    first
    | exact LawfulSerde.deserializeAt_eq_ok_iff_serialize
    | exact deserializePair_eq_ok_iff_serialize

theorem members_eq (config : CheckpointConfig) :
    config.members =
      Field.all.map fun field => (field.name, field.encode (config.fieldValue field)) :=
  rfl

/-- The end of the visitor succeeds exactly on full slots. -/
theorem finish_eq_ok_iff {slots : Slots} {config : CheckpointConfig} :
    finish slots = .ok config ↔ slots = Slots.ofConfig config := by
  constructor
  · intro finished
    cases slots
    unfold finish at finished
    repeat obtain ⟨_, rfl, finished⟩ := takeField_bind_eq_ok finished
    cases finished
    rfl
  · rintro rfl
    rfl

/-- The end of the visitor, seen through what the slots hold. -/
theorem finish_eq_ok_iff_get {slots : Slots} {config : CheckpointConfig} :
    finish slots = .ok config ↔
      (∀ field, slots.get field = some (config.fieldValue field)) ∧ True := by
  rw [finish_eq_ok_iff, and_true]
  exact ⟨fun full field => by rw [full, Slots.get_ofConfig],
    fun full => Slots.ext_get fun field => by rw [full, Slots.get_ofConfig]⟩

/-- The objects read as a configuration are the reorderings of its encoding. -/
theorem deserializeAt_obj_eq_ok_iff (depth : Nat) (members : List (String × Json))
    (config : CheckpointConfig) :
    (deserializeAt (depth + 2) (.obj members) : Except JsonError CheckpointConfig) = .ok config ↔
      members.Perm config.members := by
  rw [members_eq]
  exact (deserializeStruct_lawful_eq_ok_iff (lawful depth) identifier (fieldMatch (depth + 1))
    Slots.get_empty finish_eq_ok_iff_get members config).trans (and_iff_left trivial)

/-! ## Round trip -/

/-- A configuration comes back from its serde data unchanged: its encoding is
a reordering of itself. -/
theorem deserialize_serialize (config : CheckpointConfig) :
    (deserialize (serialize config) : Except JsonError CheckpointConfig) = .ok config :=
  (deserializeAt_obj_eq_ok_iff (initialDepth - 2) config.members config).mpr (List.Perm.refl _)

/-- Every configuration, the `bitcoin()` preset among them, passes through
storage unchanged. -/
theorem fromJson_toJsonVec_config (config : CheckpointConfig) :
    (fromJson (toJsonVec config) : Except JsonError CheckpointConfig) = .ok config := by
  rw [BitcoinBridge.fromJson_toJsonVec, deserialize_serialize]

end CheckpointConfig

end BitcoinBridge
