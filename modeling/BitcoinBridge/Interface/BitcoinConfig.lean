import BitcoinBridge.Serde.Reject

/-!
# Bitcoin configuration

`checkpoint::interface`'s `BitcoinConfig`, the parameters of the Bitcoin side
that the contract stores next to its `CheckpointConfig`. It derives serde's
traits directly, not through `#[cw_serde]`: its visitor skips a member whose
key names no field instead of rejecting it, through
`deserialize_ignored_any`, which still spends the deserializer's depth
budget on the member's value.

Results:
* `BitcoinConfig.deserialize_bitcoinConfig_eq_ok_iff`: the objects read as a
  configuration are those whose members with known keys are a reordering of
  its encoding, whatever other members they hold, so long as those nest no
  deeper than the budget left;
* `BitcoinConfig.fromJson_toJsonVec_bitcoinConfig`: every configuration comes
  back from its JSON unchanged;
* `BitcoinConfig.deserialize_bitcoinConfig_knownMembers`: a member whose key
  names no field and whose value fits, a misspelled field name among them,
  changes nothing, neither the configuration read nor the error.
-/

namespace BitcoinBridge

open Serialize Deserialize

/-! ## `BitcoinConfig` -/

/-- `BitcoinConfig`. -/
structure BitcoinConfig where
  minWithdrawalCheckpoints : UInt32
  minDepositAmount : UInt64
  minWithdrawalAmount : UInt64
  maxWithdrawalAmount : UInt64
  maxWithdrawalScriptLength : UInt64
  transferFee : UInt64
  minConfirmations : UInt32
  unitsPerSat : UInt64
  emergencyDisbursalMinTxAmt : UInt64
  emergencyDisbursalLockTimeInterval : UInt32
  emergencyDisbursalMaxTxSize : UInt64
  maxOfflineCheckpoints : UInt32
  minCheckpointConfirmations : UInt32
  capacityLimit : UInt64
  maxDepositAge : UInt64
  feePoolTargetBalance : UInt64
  feePoolRewardSplit : UInt64 × UInt64
deriving DecidableEq, Repr

namespace BitcoinConfig

/-- `FIELDS` of the derived impl, in declaration order. -/
def FIELDS : List String :=
  ["min_withdrawal_checkpoints", "min_deposit_amount", "min_withdrawal_amount",
   "max_withdrawal_amount", "max_withdrawal_script_length", "transfer_fee", "min_confirmations",
   "units_per_sat", "emergency_disbursal_min_tx_amt", "emergency_disbursal_lock_time_interval",
   "emergency_disbursal_max_tx_size", "max_offline_checkpoints", "min_checkpoint_confirmations",
   "capacity_limit", "max_deposit_age", "fee_pool_target_balance", "fee_pool_reward_split"]

/-- The members the derived `serialize_struct` writes, in declaration order. -/
def members (config : BitcoinConfig) : List (String × Json) := [
  ("min_withdrawal_checkpoints", serialize config.minWithdrawalCheckpoints),
  ("min_deposit_amount", serialize config.minDepositAmount),
  ("min_withdrawal_amount", serialize config.minWithdrawalAmount),
  ("max_withdrawal_amount", serialize config.maxWithdrawalAmount),
  ("max_withdrawal_script_length", serialize config.maxWithdrawalScriptLength),
  ("transfer_fee", serialize config.transferFee),
  ("min_confirmations", serialize config.minConfirmations),
  ("units_per_sat", serialize config.unitsPerSat),
  ("emergency_disbursal_min_tx_amt", serialize config.emergencyDisbursalMinTxAmt),
  ("emergency_disbursal_lock_time_interval", serialize config.emergencyDisbursalLockTimeInterval),
  ("emergency_disbursal_max_tx_size", serialize config.emergencyDisbursalMaxTxSize),
  ("max_offline_checkpoints", serialize config.maxOfflineCheckpoints),
  ("min_checkpoint_confirmations", serialize config.minCheckpointConfirmations),
  ("capacity_limit", serialize config.capacityLimit),
  ("max_deposit_age", serialize config.maxDepositAge),
  ("fee_pool_target_balance", serialize config.feePoolTargetBalance),
  ("fee_pool_reward_split", serialize config.feePoolRewardSplit)]

instance instSerialize : Serialize BitcoinConfig := ⟨fun config => .obj config.members⟩

/-- The derived visitor's locals, one slot per field. -/
structure Slots where
  minWithdrawalCheckpoints : Option UInt32 := none
  minDepositAmount : Option UInt64 := none
  minWithdrawalAmount : Option UInt64 := none
  maxWithdrawalAmount : Option UInt64 := none
  maxWithdrawalScriptLength : Option UInt64 := none
  transferFee : Option UInt64 := none
  minConfirmations : Option UInt32 := none
  unitsPerSat : Option UInt64 := none
  emergencyDisbursalMinTxAmt : Option UInt64 := none
  emergencyDisbursalLockTimeInterval : Option UInt32 := none
  emergencyDisbursalMaxTxSize : Option UInt64 := none
  maxOfflineCheckpoints : Option UInt32 := none
  minCheckpointConfirmations : Option UInt32 := none
  capacityLimit : Option UInt64 := none
  maxDepositAge : Option UInt64 := none
  feePoolTargetBalance : Option UInt64 := none
  feePoolRewardSplit : Option (UInt64 × UInt64) := none

/-- The derived field identifier `__Field`, one per field. -/
inductive Field where
  | minWithdrawalCheckpoints
  | minDepositAmount
  | minWithdrawalAmount
  | maxWithdrawalAmount
  | maxWithdrawalScriptLength
  | transferFee
  | minConfirmations
  | unitsPerSat
  | emergencyDisbursalMinTxAmt
  | emergencyDisbursalLockTimeInterval
  | emergencyDisbursalMaxTxSize
  | maxOfflineCheckpoints
  | minCheckpointConfirmations
  | capacityLimit
  | maxDepositAge
  | feePoolTargetBalance
  | feePoolRewardSplit
deriving DecidableEq

/-- The name a field is serialized under. -/
def Field.name : Field → String
  | .minWithdrawalCheckpoints => "min_withdrawal_checkpoints"
  | .minDepositAmount => "min_deposit_amount"
  | .minWithdrawalAmount => "min_withdrawal_amount"
  | .maxWithdrawalAmount => "max_withdrawal_amount"
  | .maxWithdrawalScriptLength => "max_withdrawal_script_length"
  | .transferFee => "transfer_fee"
  | .minConfirmations => "min_confirmations"
  | .unitsPerSat => "units_per_sat"
  | .emergencyDisbursalMinTxAmt => "emergency_disbursal_min_tx_amt"
  | .emergencyDisbursalLockTimeInterval => "emergency_disbursal_lock_time_interval"
  | .emergencyDisbursalMaxTxSize => "emergency_disbursal_max_tx_size"
  | .maxOfflineCheckpoints => "max_offline_checkpoints"
  | .minCheckpointConfirmations => "min_checkpoint_confirmations"
  | .capacityLimit => "capacity_limit"
  | .maxDepositAge => "max_deposit_age"
  | .feePoolTargetBalance => "fee_pool_target_balance"
  | .feePoolRewardSplit => "fee_pool_reward_split"

/-- The derived `visit_str` of a member's key: any other key is `__ignore`. -/
def fieldOf : String → Option Field
  | "min_withdrawal_checkpoints" => some .minWithdrawalCheckpoints
  | "min_deposit_amount" => some .minDepositAmount
  | "min_withdrawal_amount" => some .minWithdrawalAmount
  | "max_withdrawal_amount" => some .maxWithdrawalAmount
  | "max_withdrawal_script_length" => some .maxWithdrawalScriptLength
  | "transfer_fee" => some .transferFee
  | "min_confirmations" => some .minConfirmations
  | "units_per_sat" => some .unitsPerSat
  | "emergency_disbursal_min_tx_amt" => some .emergencyDisbursalMinTxAmt
  | "emergency_disbursal_lock_time_interval" => some .emergencyDisbursalLockTimeInterval
  | "emergency_disbursal_max_tx_size" => some .emergencyDisbursalMaxTxSize
  | "max_offline_checkpoints" => some .maxOfflineCheckpoints
  | "min_checkpoint_confirmations" => some .minCheckpointConfirmations
  | "capacity_limit" => some .capacityLimit
  | "max_deposit_age" => some .maxDepositAge
  | "fee_pool_target_balance" => some .feePoolTargetBalance
  | "fee_pool_reward_split" => some .feePoolRewardSplit
  | _ => none

/-- The derived field match, one arm per field identifier. -/
def visitField (depth : Nat) (slots : Slots) : Field → Json → Except JsonError Slots
  | .minWithdrawalCheckpoints, value => do
    let filled ← fillField depth "min_withdrawal_checkpoints" slots.minWithdrawalCheckpoints value
    return { slots with minWithdrawalCheckpoints := filled }
  | .minDepositAmount, value => do
    let filled ← fillField depth "min_deposit_amount" slots.minDepositAmount value
    return { slots with minDepositAmount := filled }
  | .minWithdrawalAmount, value => do
    let filled ← fillField depth "min_withdrawal_amount" slots.minWithdrawalAmount value
    return { slots with minWithdrawalAmount := filled }
  | .maxWithdrawalAmount, value => do
    let filled ← fillField depth "max_withdrawal_amount" slots.maxWithdrawalAmount value
    return { slots with maxWithdrawalAmount := filled }
  | .maxWithdrawalScriptLength, value => do
    let filled ← fillField depth "max_withdrawal_script_length"
      slots.maxWithdrawalScriptLength value
    return { slots with maxWithdrawalScriptLength := filled }
  | .transferFee, value => do
    let filled ← fillField depth "transfer_fee" slots.transferFee value
    return { slots with transferFee := filled }
  | .minConfirmations, value => do
    let filled ← fillField depth "min_confirmations" slots.minConfirmations value
    return { slots with minConfirmations := filled }
  | .unitsPerSat, value => do
    let filled ← fillField depth "units_per_sat" slots.unitsPerSat value
    return { slots with unitsPerSat := filled }
  | .emergencyDisbursalMinTxAmt, value => do
    let filled ← fillField depth "emergency_disbursal_min_tx_amt"
      slots.emergencyDisbursalMinTxAmt value
    return { slots with emergencyDisbursalMinTxAmt := filled }
  | .emergencyDisbursalLockTimeInterval, value => do
    let filled ← fillField depth "emergency_disbursal_lock_time_interval"
      slots.emergencyDisbursalLockTimeInterval value
    return { slots with emergencyDisbursalLockTimeInterval := filled }
  | .emergencyDisbursalMaxTxSize, value => do
    let filled ←
      fillField depth "emergency_disbursal_max_tx_size" slots.emergencyDisbursalMaxTxSize value
    return { slots with emergencyDisbursalMaxTxSize := filled }
  | .maxOfflineCheckpoints, value => do
    let filled ← fillField depth "max_offline_checkpoints" slots.maxOfflineCheckpoints value
    return { slots with maxOfflineCheckpoints := filled }
  | .minCheckpointConfirmations, value => do
    let filled ← fillField depth "min_checkpoint_confirmations"
      slots.minCheckpointConfirmations value
    return { slots with minCheckpointConfirmations := filled }
  | .capacityLimit, value => do
    let filled ← fillField depth "capacity_limit" slots.capacityLimit value
    return { slots with capacityLimit := filled }
  | .maxDepositAge, value => do
    let filled ← fillField depth "max_deposit_age" slots.maxDepositAge value
    return { slots with maxDepositAge := filled }
  | .feePoolTargetBalance, value => do
    let filled ← fillField depth "fee_pool_target_balance" slots.feePoolTargetBalance value
    return { slots with feePoolTargetBalance := filled }
  | .feePoolRewardSplit, value => do
    let filled ← fillField depth "fee_pool_reward_split" slots.feePoolRewardSplit value
    return { slots with feePoolRewardSplit := filled }

/-- One member of the object: `BitcoinConfig` does not deny unknown fields, so a
member whose key names no field is skipped. -/
def visitKey : Nat → Slots → String → Json → Except JsonError Slots :=
  visitKeyBy false FIELDS fieldOf visitField

/-- The end of the derived `visit_map`: every field must have been seen. -/
def finish (slots : Slots) : Except JsonError BitcoinConfig := do
  return {
    minWithdrawalCheckpoints :=
      ← takeField "min_withdrawal_checkpoints" slots.minWithdrawalCheckpoints
    minDepositAmount := ← takeField "min_deposit_amount" slots.minDepositAmount
    minWithdrawalAmount := ← takeField "min_withdrawal_amount" slots.minWithdrawalAmount
    maxWithdrawalAmount := ← takeField "max_withdrawal_amount" slots.maxWithdrawalAmount
    maxWithdrawalScriptLength :=
      ← takeField "max_withdrawal_script_length" slots.maxWithdrawalScriptLength
    transferFee := ← takeField "transfer_fee" slots.transferFee
    minConfirmations := ← takeField "min_confirmations" slots.minConfirmations
    unitsPerSat := ← takeField "units_per_sat" slots.unitsPerSat
    emergencyDisbursalMinTxAmt :=
      ← takeField "emergency_disbursal_min_tx_amt" slots.emergencyDisbursalMinTxAmt
    emergencyDisbursalLockTimeInterval := ← takeField "emergency_disbursal_lock_time_interval"
      slots.emergencyDisbursalLockTimeInterval
    emergencyDisbursalMaxTxSize :=
      ← takeField "emergency_disbursal_max_tx_size" slots.emergencyDisbursalMaxTxSize
    maxOfflineCheckpoints := ← takeField "max_offline_checkpoints" slots.maxOfflineCheckpoints
    minCheckpointConfirmations :=
      ← takeField "min_checkpoint_confirmations" slots.minCheckpointConfirmations
    capacityLimit := ← takeField "capacity_limit" slots.capacityLimit
    maxDepositAge := ← takeField "max_deposit_age" slots.maxDepositAge
    feePoolTargetBalance := ← takeField "fee_pool_target_balance" slots.feePoolTargetBalance
    feePoolRewardSplit := ← takeField "fee_pool_reward_split" slots.feePoolRewardSplit }

instance instDeserialize : Deserialize BitcoinConfig := ⟨deserializeStruct visitKey {} finish⟩

/-! ### What a configuration is read from -/

/-- The type of each field. -/
@[reducible] def Field.Content : Field → Type
  | .minWithdrawalCheckpoints | .minConfirmations | .emergencyDisbursalLockTimeInterval
  | .maxOfflineCheckpoints | .minCheckpointConfirmations =>
    UInt32
  | .minDepositAmount | .minWithdrawalAmount | .maxWithdrawalAmount | .maxWithdrawalScriptLength
  | .transferFee | .unitsPerSat | .emergencyDisbursalMinTxAmt | .emergencyDisbursalMaxTxSize
  | .capacityLimit | .maxDepositAge | .feePoolTargetBalance =>
    UInt64
  | .feePoolRewardSplit => UInt64 × UInt64

/-- Each field's `Deserialize` impl, at the depth the object's contents are
read at. -/
def Field.decode (depth : Nat) : (field : Field) → Json → Except JsonError field.Content
  | .minWithdrawalCheckpoints | .minConfirmations | .emergencyDisbursalLockTimeInterval
  | .maxOfflineCheckpoints | .minCheckpointConfirmations =>
    deserializeAt depth
  | .minDepositAmount | .minWithdrawalAmount | .maxWithdrawalAmount | .maxWithdrawalScriptLength
  | .transferFee | .unitsPerSat | .emergencyDisbursalMinTxAmt | .emergencyDisbursalMaxTxSize
  | .capacityLimit | .maxDepositAge | .feePoolTargetBalance =>
    deserializeAt depth
  | .feePoolRewardSplit => deserializeAt depth

/-- Each field's `Serialize` impl. -/
def Field.encode : (field : Field) → field.Content → Json
  | .minWithdrawalCheckpoints | .minConfirmations | .emergencyDisbursalLockTimeInterval
  | .maxOfflineCheckpoints | .minCheckpointConfirmations =>
    serialize
  | .minDepositAmount | .minWithdrawalAmount | .maxWithdrawalAmount | .maxWithdrawalScriptLength
  | .transferFee | .unitsPerSat | .emergencyDisbursalMinTxAmt | .emergencyDisbursalMaxTxSize
  | .capacityLimit | .maxDepositAge | .feePoolTargetBalance =>
    serialize
  | .feePoolRewardSplit => serialize

/-- The fields, in declaration order. -/
def Field.all : List Field := [
  .minWithdrawalCheckpoints, .minDepositAmount, .minWithdrawalAmount, .maxWithdrawalAmount,
  .maxWithdrawalScriptLength, .transferFee, .minConfirmations, .unitsPerSat,
  .emergencyDisbursalMinTxAmt, .emergencyDisbursalLockTimeInterval, .emergencyDisbursalMaxTxSize,
  .maxOfflineCheckpoints, .minCheckpointConfirmations, .capacityLimit, .maxDepositAge,
  .feePoolTargetBalance, .feePoolRewardSplit]

/-- The value of each field. -/
def fieldValue (config : BitcoinConfig) : (field : Field) → field.Content
  | .minWithdrawalCheckpoints => config.minWithdrawalCheckpoints
  | .minDepositAmount => config.minDepositAmount
  | .minWithdrawalAmount => config.minWithdrawalAmount
  | .maxWithdrawalAmount => config.maxWithdrawalAmount
  | .maxWithdrawalScriptLength => config.maxWithdrawalScriptLength
  | .transferFee => config.transferFee
  | .minConfirmations => config.minConfirmations
  | .unitsPerSat => config.unitsPerSat
  | .emergencyDisbursalMinTxAmt => config.emergencyDisbursalMinTxAmt
  | .emergencyDisbursalLockTimeInterval => config.emergencyDisbursalLockTimeInterval
  | .emergencyDisbursalMaxTxSize => config.emergencyDisbursalMaxTxSize
  | .maxOfflineCheckpoints => config.maxOfflineCheckpoints
  | .minCheckpointConfirmations => config.minCheckpointConfirmations
  | .capacityLimit => config.capacityLimit
  | .maxDepositAge => config.maxDepositAge
  | .feePoolTargetBalance => config.feePoolTargetBalance
  | .feePoolRewardSplit => config.feePoolRewardSplit

/-- What a field's slot holds. -/
def Slots.get (slots : Slots) : (field : Field) → Option field.Content
  | .minWithdrawalCheckpoints => slots.minWithdrawalCheckpoints
  | .minDepositAmount => slots.minDepositAmount
  | .minWithdrawalAmount => slots.minWithdrawalAmount
  | .maxWithdrawalAmount => slots.maxWithdrawalAmount
  | .maxWithdrawalScriptLength => slots.maxWithdrawalScriptLength
  | .transferFee => slots.transferFee
  | .minConfirmations => slots.minConfirmations
  | .unitsPerSat => slots.unitsPerSat
  | .emergencyDisbursalMinTxAmt => slots.emergencyDisbursalMinTxAmt
  | .emergencyDisbursalLockTimeInterval => slots.emergencyDisbursalLockTimeInterval
  | .emergencyDisbursalMaxTxSize => slots.emergencyDisbursalMaxTxSize
  | .maxOfflineCheckpoints => slots.maxOfflineCheckpoints
  | .minCheckpointConfirmations => slots.minCheckpointConfirmations
  | .capacityLimit => slots.capacityLimit
  | .maxDepositAge => slots.maxDepositAge
  | .feePoolTargetBalance => slots.feePoolTargetBalance
  | .feePoolRewardSplit => slots.feePoolRewardSplit

/-- The slots once every member of `config`'s encoding has been visited. -/
def Slots.ofConfig (config : BitcoinConfig) : Slots where
  minWithdrawalCheckpoints := some config.minWithdrawalCheckpoints
  minDepositAmount := some config.minDepositAmount
  minWithdrawalAmount := some config.minWithdrawalAmount
  maxWithdrawalAmount := some config.maxWithdrawalAmount
  maxWithdrawalScriptLength := some config.maxWithdrawalScriptLength
  transferFee := some config.transferFee
  minConfirmations := some config.minConfirmations
  unitsPerSat := some config.unitsPerSat
  emergencyDisbursalMinTxAmt := some config.emergencyDisbursalMinTxAmt
  emergencyDisbursalLockTimeInterval := some config.emergencyDisbursalLockTimeInterval
  emergencyDisbursalMaxTxSize := some config.emergencyDisbursalMaxTxSize
  maxOfflineCheckpoints := some config.maxOfflineCheckpoints
  minCheckpointConfirmations := some config.minCheckpointConfirmations
  capacityLimit := some config.capacityLimit
  maxDepositAge := some config.maxDepositAge
  feePoolTargetBalance := some config.feePoolTargetBalance
  feePoolRewardSplit := some config.feePoolRewardSplit

theorem Slots.get_empty (field : Field) : ({} : Slots).get field = none := by
  cases field <;> rfl

theorem Slots.get_ofConfig (config : BitcoinConfig) (field : Field) :
    (Slots.ofConfig config).get field = some (config.fieldValue field) := by
  cases field <;> rfl

/-- The slots are determined by what they hold. -/
theorem Slots.ext_get {slots slots' : Slots}
    (same : ∀ field, slots.get field = slots'.get field) : slots = slots' := by
  cases slots
  cases slots'
  simp only [Slots.mk.injEq]
  exact ⟨same .minWithdrawalCheckpoints, same .minDepositAmount, same .minWithdrawalAmount,
    same .maxWithdrawalAmount, same .maxWithdrawalScriptLength, same .transferFee,
    same .minConfirmations, same .unitsPerSat, same .emergencyDisbursalMinTxAmt,
    same .emergencyDisbursalLockTimeInterval, same .emergencyDisbursalMaxTxSize,
    same .maxOfflineCheckpoints, same .minCheckpointConfirmations, same .capacityLimit,
    same .maxDepositAge, same .feePoolTargetBalance, same .feePoolRewardSplit⟩

theorem fieldOf_name (field : Field) : fieldOf field.name = some field := by
  cases field <;> rfl

theorem fieldOf_eq_some {key : String} {field : Field} (found : fieldOf key = some field) :
    key = field.name := by
  unfold fieldOf at found
  split at found <;> cases found <;> rfl

theorem identifier : FieldIdentifier fieldOf Field.name Field.all where
  fieldOf_name := fieldOf_name
  eq_name := fieldOf_eq_some
  mem_all field := by cases field <;> decide
  nodup_all := by decide

/-- Every arm of the field match fills its field's slot. -/
theorem fieldMatch (depth : Nat) :
    FieldMatch (Field.decode depth) Slots.get (visitField depth) where
  fills {slots slots' field value} visited := by
    cases field <;>
    · obtain ⟨filled, arm, done⟩ := bind_eq_ok visited
      cases done
      obtain ⟨empty, x, decoded, rfl⟩ := fillField_eq_ok arm
      exact ⟨empty, ⟨x, decoded, rfl⟩, fun other ne => by
        cases other <;> first | rfl | cases ne rfl⟩
  accepts {slots field value x} empty decoded := by
    cases field <;>
      exact ⟨_, (congrArg (· >>= _) (fillField_of_deserialize empty decoded)).trans rfl⟩

/-- Each field is read exactly from its own encoding, with a level to spare
for the pair. -/
theorem lawful (depth : Nat) (field : Field) (value : Json) (x : field.Content) :
    field.decode (depth + 1) value = .ok x ↔ field.encode x = value := by
  cases field <;>
    first
    | exact LawfulSerde.deserializeAt_eq_ok_iff_serialize
    | exact deserializePair_eq_ok_iff_serialize

theorem members_eq (config : BitcoinConfig) :
    config.members =
      Field.all.map fun field => (field.name, field.encode (config.fieldValue field)) :=
  rfl

/-- The end of the visitor succeeds exactly on full slots. -/
theorem finish_eq_ok_iff {slots : Slots} {config : BitcoinConfig} :
    finish slots = .ok config ↔ slots = Slots.ofConfig config := by
  constructor
  · intro finished
    cases slots
    unfold finish at finished
    repeat obtain ⟨_, rfl, finished⟩ := takeField_bind_eq_ok finished
    cases finished
    rfl
  · rintro rfl
    rfl

/-- The end of the visitor, seen through what the slots hold. -/
theorem finish_eq_ok_iff_get {slots : Slots} {config : BitcoinConfig} :
    finish slots = .ok config ↔
      (∀ field, slots.get field = some (config.fieldValue field)) ∧ True := by
  rw [finish_eq_ok_iff, and_true]
  exact ⟨fun full field => by rw [full, Slots.get_ofConfig],
    fun full => Slots.ext_get fun field => by rw [full, Slots.get_ofConfig]⟩

/-- Every member of a configuration's encoding names a field. -/
theorem fieldOf_members {config : BitcoinConfig} {m : String × Json} (member : m ∈ config.members) :
    (fieldOf m.1).isSome := by
  obtain ⟨field, -, rfl⟩ := List.mem_map.mp (members_eq config ▸ member)
  simp [fieldOf_name]

theorem knownMembers_members (config : BitcoinConfig) :
    knownMembers fieldOf config.members = config.members :=
  List.filter_eq_self.mpr fun _ member => fieldOf_members member

/-- The objects read as a configuration, wherever it is read with the two
levels its object and its pair take: those whose members with a key that
names a field are a reordering of the configuration's encoding, each field
once, and whose other members' values fit in the depth left. -/
theorem deserializeAt_obj_eq_ok_iff (depth : Nat) (members : List (String × Json))
    (config : BitcoinConfig) :
    (deserializeAt (depth + 2) (.obj members) : Except JsonError BitcoinConfig) = .ok config ↔
      (knownMembers fieldOf members).Perm config.members ∧
        ∀ m ∈ members, fieldOf m.1 = none → m.2.depth ≤ depth + 1 := by
  show deserializeStruct (visitKeyBy false FIELDS fieldOf visitField) {} finish _ _ = _ ↔ _
  rw [deserializeStruct_visitKeyBy_eq_ok_iff identifier (fieldMatch (depth + 1)) Slots.get_empty
    finish_eq_ok_iff_get, exists_decodes_iff (lawful depth), members_eq, unknownsFit_iff]
  simp only [Bool.false_eq_true, false_implies, true_and, and_true]
  exact and_comm

/-- The objects read as a configuration: those whose members with a key that
names a field are a reordering of the configuration's encoding, each field
once; a member whose key names no field is skipped, wherever it stands, when
its value nests less deeply than a fresh deserializer allows. -/
theorem deserialize_bitcoinConfig_eq_ok_iff (members : List (String × Json))
    (config : BitcoinConfig) :
    (deserialize (.obj members) : Except JsonError BitcoinConfig) = .ok config ↔
      (knownMembers fieldOf members).Perm config.members ∧
        ∀ m ∈ members, fieldOf m.1 = none → m.2.depth < initialDepth :=
  (deserializeAt_obj_eq_ok_iff (initialDepth - 2) members config).trans
    (and_congr_right' (forall₂_congr fun _ _ => imp_congr_right fun _ => Nat.lt_add_one_iff.symm))

/-- A configuration comes back from its serde data unchanged. -/
theorem deserialize_serialize (config : BitcoinConfig) :
    (deserialize (serialize config) : Except JsonError BitcoinConfig) = .ok config :=
  (deserializeAt_obj_eq_ok_iff (initialDepth - 2) config.members config).mpr
    ⟨by rw [knownMembers_members], fun _ member unknown => by
      simpa [unknown] using fieldOf_members member⟩

/-- Every configuration passes through storage unchanged. -/
theorem fromJson_toJsonVec_bitcoinConfig (config : BitcoinConfig) :
    (fromJson (toJsonVec config) : Except JsonError BitcoinConfig) = .ok config := by
  rw [BitcoinBridge.fromJson_toJsonVec, deserialize_serialize]

/-! ### What it ignores -/

/-- A configuration object is read exactly as the object of its members whose
key names a field, when the others' values nest less deeply than a fresh
deserializer allows: a member with any other key, a misspelled field name
among them, changes neither the configuration read nor the error. -/
theorem deserialize_bitcoinConfig_knownMembers (members : List (String × Json))
    (fits : ∀ m ∈ members, fieldOf m.1 = none → m.2.depth < initialDepth) :
    (deserialize (.obj members) : Except JsonError BitcoinConfig) =
      deserialize (.obj (knownMembers fieldOf members)) :=
  deserializeStruct_visitKeyBy_false_eq (unknownsFit_iff.mpr fun m member unknown =>
    Nat.lt_add_one_iff.mp (fits m member unknown))

theorem deserialize_bitcoinConfig_knownMembers_typo :
    (∀ m ∈ [("min_deposit_amout", Json.num 1)], fieldOf m.1 = none →
      m.2.depth < initialDepth) ∧
    (deserialize (.obj [("min_deposit_amout", Json.num 1)]) : Except JsonError BitcoinConfig) =
      deserialize (.obj (knownMembers fieldOf [("min_deposit_amout", Json.num 1)])) :=
  ⟨by decide, deserialize_bitcoinConfig_knownMembers _ (by decide)⟩

end BitcoinConfig

end BitcoinBridge
