import BitcoinBridge.Serde.Reject

/-!
# The messages of `lib-bitcoin`

`lib-bitcoin`'s `msg`: the `#[cw_serde]` messages its contract is instantiated,
executed and queried with, as the derived visitors read them.

Results:
* `InstantiateMsg.deserialize_instantiate_eq_ok_iff`: the only JSON read as an
  `InstantiateMsg` is the empty object, and a member is `unknown_field` with
  serde's text for a struct without fields;
* `ExecuteMsg.deserialize_execute_eq_error_iff`: `ExecuteMsg` has no variant,
  so every value is rejected, a name with serde's text for an enum without
  variants;
* `QueryMsg.deserialize_query_eq_ok_iff_decodes`: a query is read exactly
  from `{"get_derive_pubkey": ...}` holding, in either order, the query's
  `sigset_index` and an `xpub` that `X` reads as the query's with the levels
  left under the two objects, whatever `X`'s impls;
* `QueryMsg.deserialize_query_eq_ok_iff`: so, when `X`'s impls are exact
  inverses, a query is read exactly from `{"get_derive_pubkey": ...}` holding a
  reordering of its two fields, and `QueryMsg.fromJson_toJsonVec_query` every
  query comes back from its JSON.

* `QueryMsg.deserialize_query_eq_error_iff`: every other value is rejected
  with the error of the first thing the derived visitors find wrong: its
  shape, the variant's name, a member of the variant's object (an unknown
  key, a field named twice, a value its field rejects), a missing field, or a
  member after the variant.

`QueryMsg`'s `xpub` is a `HashBinary<Xpub>`, whose serde impls live in a module
this model does not include: it is a type parameter `X`, with the facts about
its impls each result needs (`SerdeRoundTrip` and `LawfulSerde` hold at every
depth).
-/

namespace BitcoinBridge

open Serialize Deserialize

/-! ## `InstantiateMsg` -/

/-- `InstantiateMsg {}`. -/
structure InstantiateMsg where
deriving DecidableEq

namespace InstantiateMsg

/-- `FIELDS` of the derived impl: none. -/
def FIELDS : List String :=
  []

instance instSerialize : Serialize InstantiateMsg := ⟨fun _ => .obj []⟩

/-- The derived field identifier of a struct without fields. -/
inductive Field where

/-- The derived `visit_str` of a member's key: no key names a field. -/
def fieldOf (_key : String) : Option Field :=
  none

/-- The derived field match, without arms. -/
def visitField (_depth : Nat) (_slots : Unit) (field : Field) (_value : Json) :
    Except JsonError Unit :=
  nomatch field

/-- One member of the object, under `deny_unknown_fields`. -/
def visitKey : Nat → Unit → String → Json → Except JsonError Unit :=
  visitKeyBy true FIELDS fieldOf visitField

/-- The end of the derived `visit_map`. -/
def finish (_slots : Unit) : Except JsonError InstantiateMsg :=
  .ok {}

instance instDeserialize : Deserialize InstantiateMsg := ⟨deserializeStruct visitKey () finish⟩

/-- The only JSON read as an instantiate message is `{}`: an object with a
member is rejected at its first member, `unknown_field` with serde's text for
a struct without fields. -/
theorem deserialize_instantiate_eq_ok_iff (v : Json) (msg : InstantiateMsg) :
    ((deserialize v : Except JsonError InstantiateMsg) = .ok msg ↔ v = .obj []) ∧
      ∀ key value more,
        (deserialize (.obj ((key, value) :: more)) : Except JsonError InstantiateMsg) =
          .error (.custom ("unknown field `" ++ key ++ "`, there are no fields")) := by
  refine ⟨⟨fun accepted => ?_, by rintro rfl; rfl⟩, fun _ _ _ => rfl⟩
  match v, accepted with
  | .obj [], _ => rfl

end InstantiateMsg

/-! ## `ExecuteMsg` -/

/-- `ExecuteMsg {}`: an enum without variants. -/
inductive ExecuteMsg where

namespace ExecuteMsg

/-- `VARIANTS` of the derived impl: none. -/
def VARIANTS : List String :=
  []

/-- The derived variant identifier of an enum without variants. -/
inductive Variant where

/-- The derived `visit_str` of a variant's name: no name is a variant. -/
def variantOf (name : String) : Except JsonError Variant :=
  .error (.unknownVariant name VARIANTS)

/-- The derived `visit_enum`, without arms. -/
def payload (_depth : Nat) (variant : Variant) (_value : Json) : Except JsonError ExecuteMsg :=
  nomatch variant

instance instDeserialize : Deserialize ExecuteMsg := ⟨deserializeEnum variantOf payload⟩

/-- The contract reads no execute message, and the error says why: a name, as
a string or as an object's first key, is an unknown variant of an enum without
variants (serde's text "unknown variant ..., there are no variants"), an empty
object is `invalid_type`, and every other value is `expected_some_ident`. -/
theorem deserialize_execute_eq_error_iff (v : Json) (e : JsonError) :
    (deserialize v : Except JsonError ExecuteMsg) = .error e ↔
      (∃ name, v = .str name ∧ e = .unknownVariant name VARIANTS) ∨
      (v = .obj [] ∧ e = .invalidType) ∨
      (∃ name value more, v = .obj ((name, value) :: more) ∧
        e = .unknownVariant name VARIANTS) ∨
      ((∀ name, v ≠ .str name) ∧ (∀ members, v ≠ .obj members) ∧ e = .expectedSomeIdent) := by
  show deserializeEnum variantOf payload (126 + 1) v = _ ↔ _
  simp only [deserializeEnum_eq_error_iff, variantOf, Except.error.injEq, @eq_comm JsonError _ e,
    reduceCtorEq, exists_false, false_and, or_false]

end ExecuteMsg

/-! ## `QueryMsg` -/

/-- `QueryMsg`, over the type `X` of its `xpub` field. -/
inductive QueryMsg (X : Type) where
  | getDerivePubkey (xpub : X) (sigsetIndex : UInt32)
deriving DecidableEq

namespace QueryMsg

variable {X : Type}

/-- `FIELDS` of the derived impl of the `GetDerivePubkey` variant. -/
def FIELDS : List String :=
  ["xpub", "sigset_index"]

/-- The members the derived `serialize_struct_variant` writes. -/
def members [Serialize X] (xpub : X) (sigsetIndex : UInt32) : List (String × Json) :=
  [("xpub", serialize xpub), ("sigset_index", serialize sigsetIndex)]

/-- Externally tagged, renamed `snake_case`. -/
instance instSerialize [Serialize X] : Serialize (QueryMsg X) where
  serialize
    | .getDerivePubkey xpub sigsetIndex =>
      .obj [("get_derive_pubkey", .obj (members xpub sigsetIndex))]

/-- The locals of the variant's derived visitor. -/
structure Slots (X : Type) where
  xpub : Option X := none
  sigsetIndex : Option UInt32 := none

/-- The derived field identifier of the variant. -/
inductive Field where
  | xpub
  | sigsetIndex
deriving DecidableEq

/-- The name a field is serialized under. -/
def Field.name : Field → String
  | .xpub => "xpub"
  | .sigsetIndex => "sigset_index"

/-- The derived `visit_str` of a member's key. -/
def fieldOf : String → Option Field
  | "xpub" => some .xpub
  | "sigset_index" => some .sigsetIndex
  | _ => none

/-- The derived field match of the variant, with the depth the variant's
object's contents are read at. -/
def visitField [Deserialize X] (depth : Nat) (slots : Slots X) :
    Field → Json → Except JsonError (Slots X)
  | .xpub, value => do
    let filled ← fillField depth "xpub" slots.xpub value
    return { slots with xpub := filled }
  | .sigsetIndex, value => do
    let filled ← fillField depth "sigset_index" slots.sigsetIndex value
    return { slots with sigsetIndex := filled }

/-- One member of the variant's object, under `deny_unknown_fields`. -/
def visitKey [Deserialize X] : Nat → Slots X → String → Json → Except JsonError (Slots X) :=
  visitKeyBy true FIELDS fieldOf visitField

/-- The end of the variant's derived `visit_map`. -/
def finish (slots : Slots X) : Except JsonError (QueryMsg X) := do
  return .getDerivePubkey (← takeField "xpub" slots.xpub)
    (← takeField "sigset_index" slots.sigsetIndex)

/-- `VARIANTS` of the derived impl. -/
def VARIANTS : List String :=
  ["get_derive_pubkey"]

/-- The derived variant identifier. -/
inductive Variant where
  | getDerivePubkey

/-- The derived `visit_str` of a variant's name. -/
def variantOf : String → Except JsonError Variant
  | "get_derive_pubkey" => .ok .getDerivePubkey
  | name => .error (.unknownVariant name VARIANTS)

/-- The derived `visit_enum`: the variant's `struct_variant`, with the depth
the enum's object leaves. -/
def payloadAt [Deserialize X] (depth : Nat) : Variant → Json → Except JsonError (QueryMsg X)
  | .getDerivePubkey, v => deserializeStruct visitKey {} finish depth v

/-- The variant's visitor in a query read on a fresh deserializer. -/
@[reducible] def payload [Deserialize X] : Variant → Json → Except JsonError (QueryMsg X) :=
  payloadAt (initialDepth - 1)

instance instDeserialize [Deserialize X] : Deserialize (QueryMsg X) :=
  ⟨deserializeEnum variantOf payloadAt⟩

theorem serialize_eq [Serialize X] (xpub : X) (sigsetIndex : UInt32) :
    serialize (QueryMsg.getDerivePubkey xpub sigsetIndex) =
      .obj [("get_derive_pubkey", .obj (members xpub sigsetIndex))] :=
  rfl

theorem deserialize_eq [Deserialize X] (v : Json) :
    (deserialize v : Except JsonError (QueryMsg X)) =
      deserializeEnum variantOf payloadAt (initialDepth - 1 + 1) v :=
  rfl

/-! ## What the visitor accepts -/

theorem fieldOf_name (field : Field) : fieldOf field.name = some field := by
  cases field <;> rfl

theorem fieldOf_eq_some {key : String} {field : Field} (found : fieldOf key = some field) :
    key = field.name := by
  unfold fieldOf at found
  split at found <;> cases found <;> rfl

theorem variantOf_eq_ok {name : String} {variant : Variant}
    (named : variantOf name = .ok variant) : name = "get_derive_pubkey" := by
  unfold variantOf at named
  split at named
  · rfl
  · cases named

/-- The type of each field of the variant. -/
@[reducible] def Field.Content (X : Type) : Field → Type
  | .xpub => X
  | .sigsetIndex => UInt32

/-- Each field's `Deserialize` impl, at the depth the variant's object's
contents are read at. -/
def Field.decodeAt [Deserialize X] (depth : Nat) :
    (field : Field) → Json → Except JsonError (field.Content X)
  | .xpub => deserializeAt depth
  | .sigsetIndex => deserializeAt depth

/-- Each field's impl in a query read on a fresh deserializer, under the
enum's object and the variant's. -/
def Field.decode [Deserialize X] : (field : Field) → Json → Except JsonError (field.Content X) :=
  Field.decodeAt (initialDepth - 2)

/-- The variant's fields, in declaration order. -/
def Field.all : List Field :=
  [.xpub, .sigsetIndex]

/-- A query's value of each field. -/
def fieldValue : QueryMsg X → (field : Field) → field.Content X
  | .getDerivePubkey xpub _, .xpub => xpub
  | .getDerivePubkey _ sigsetIndex, .sigsetIndex => sigsetIndex

/-- What a field's slot holds. -/
def Slots.get (slots : Slots X) : (field : Field) → Option (field.Content X)
  | .xpub => slots.xpub
  | .sigsetIndex => slots.sigsetIndex

/-- The slots once every member of a query's encoding has been visited. -/
def Slots.ofQuery : QueryMsg X → Slots X
  | .getDerivePubkey xpub sigsetIndex => { xpub := some xpub, sigsetIndex := some sigsetIndex }

/-- The members of a query's variant. -/
def encode [Serialize X] : QueryMsg X → List (String × Json)
  | .getDerivePubkey xpub sigsetIndex => members xpub sigsetIndex

theorem Slots.get_empty (field : Field) : ({} : Slots X).get field = none := by
  cases field <;> rfl

theorem Slots.get_ofQuery (msg : QueryMsg X) (field : Field) :
    (Slots.ofQuery msg).get field = some (msg.fieldValue field) := by
  obtain ⟨xpub, sigsetIndex⟩ := msg
  cases field <;> rfl

theorem Slots.ext_get {slots slots' : Slots X}
    (same : ∀ field, slots.get field = slots'.get field) : slots = slots' := by
  cases slots
  cases slots'
  simp only [Slots.mk.injEq]
  exact ⟨same .xpub, same .sigsetIndex⟩

theorem identifier : FieldIdentifier fieldOf Field.name Field.all where
  fieldOf_name := fieldOf_name
  eq_name := fieldOf_eq_some
  mem_all field := by cases field <;> decide
  nodup_all := by decide

/-- Every arm of the variant's field match fills its field's slot. -/
theorem fieldMatch [Deserialize X] (depth : Nat) :
    FieldMatch (Field.decodeAt (X := X) depth) Slots.get (visitField depth) where
  fills {slots slots' field value} visited := by
    cases field <;>
    · obtain ⟨filled, arm, done⟩ := bind_eq_ok visited
      cases done
      obtain ⟨empty, x, decoded, rfl⟩ := fillField_eq_ok arm
      exact ⟨empty, ⟨x, decoded, rfl⟩, fun other ne => by
        cases other <;> first | rfl | cases ne rfl⟩
  accepts {slots field value x} empty decoded := by
    cases field <;>
      exact ⟨_, (congrArg (· >>= _) (fillField_of_deserialize empty decoded)).trans rfl⟩

theorem finish_eq_ok_iff {slots : Slots X} {msg : QueryMsg X} :
    finish slots = .ok msg ↔ slots = Slots.ofQuery msg := by
  constructor
  · intro finished
    cases slots
    unfold finish at finished
    repeat obtain ⟨_, rfl, finished⟩ := takeField_bind_eq_ok finished
    cases finished
    rfl
  · rintro rfl
    obtain ⟨xpub, sigsetIndex⟩ := msg
    rfl

theorem finish_eq_ok_iff_get {slots : Slots X} {msg : QueryMsg X} :
    finish slots = .ok msg ↔ (∀ field, slots.get field = some (msg.fieldValue field)) ∧ True := by
  rw [finish_eq_ok_iff, and_true]
  exact ⟨fun full field => by rw [full, Slots.get_ofQuery],
    fun full => Slots.ext_get fun field => by rw [full, Slots.get_ofQuery]⟩

/-- The variant's object is read as a query exactly when it holds, in either
order, the query's `sigset_index` as written and an `xpub` that `X` reads as
the query's: nothing is assumed of `X`'s impls. -/
theorem payload_eq_ok_iff_decodes [Deserialize X] (members : List (String × Json)) (xpub : X)
    (sigsetIndex : UInt32) :
    payload .getDerivePubkey (.obj members) = .ok (.getDerivePubkey xpub sigsetIndex) ↔
      ∃ xpubJson, members.Perm [("xpub", xpubJson), ("sigset_index", serialize sigsetIndex)] ∧
        deserializeAt (initialDepth - 2) xpubJson = .ok xpub := by
  show deserializeStruct (visitKeyBy true FIELDS fieldOf visitField) {} finish
    (initialDepth - 2 + 1) (.obj members) = _ ↔ _
  rw [deserializeStruct_deny_eq_ok_iff identifier (fieldMatch _) Slots.get_empty
    finish_eq_ok_iff_get, and_true]
  constructor
  · rintro ⟨vals, reordered, decodes⟩
    have index : vals .sigsetIndex = serialize sigsetIndex :=
      (LawfulSerde.deserializeAt_eq_ok_iff_serialize.mp (decodes .sigsetIndex)).symm
    exact ⟨vals .xpub, by rwa [← index], decodes .xpub⟩
  · rintro ⟨xpubJson, reordered, decoded⟩
    refine ⟨fun | .xpub => xpubJson | .sigsetIndex => serialize sigsetIndex, reordered, ?_⟩
    rintro (_ | _)
    · exact decoded
    · exact SerdeRoundTrip.deserializeAt_serialize _ sigsetIndex

/-- The JSON read as a query: the one-member object `get_derive_pubkey`
holding what its variant's visitor reads as the query. -/
theorem deserialize_eq_ok_iff_payload [Deserialize X] (v : Json) (msg : QueryMsg X) :
    (deserialize v : Except JsonError (QueryMsg X)) = .ok msg ↔
      ∃ members, v = .obj [("get_derive_pubkey", .obj members)] ∧
        payload .getDerivePubkey (.obj members) = .ok msg := by
  rw [deserialize_eq]
  constructor
  · intro accepted
    obtain ⟨name, value, variant, rfl, named, paid⟩ := deserializeEnum_eq_ok accepted
    cases variantOf_eq_ok named
    cases variant
    cases value with
    | obj members => exact ⟨members, rfl, paid⟩
    | _ => cases paid
  · rintro ⟨members, rfl, paid⟩
    rw [deserializeEnum_single]
    exact paid

/-- Whatever `X`'s impls, the JSON read as a query is the one-member object
`get_derive_pubkey` holding, in either order, the query's `sigset_index` as
written and an `xpub` that `X` reads as the query's. -/
theorem deserialize_query_eq_ok_iff_decodes [Deserialize X] (v : Json) (xpub : X)
    (sigsetIndex : UInt32) :
    (deserialize v : Except JsonError (QueryMsg X)) = .ok (.getDerivePubkey xpub sigsetIndex) ↔
      ∃ members xpubJson, v = .obj [("get_derive_pubkey", .obj members)] ∧
        members.Perm [("xpub", xpubJson), ("sigset_index", serialize sigsetIndex)] ∧
        deserializeAt (initialDepth - 2) xpubJson = .ok xpub := by
  simp only [deserialize_eq_ok_iff_payload, payload_eq_ok_iff_decodes, exists_and_left]

section Lawful

variable [Serialize X] [Deserialize X] [LawfulSerde X]

end Lawful

/-- What every arm of the variant's field match fails with. -/
theorem fieldRejects [Deserialize X] (depth : Nat) :
    FieldRejects Field.name (Field.decodeAt (X := X) depth) Slots.get (visitField depth) where
  duplicate {slots field value} full := by
    cases field <;> exact (congrArg (· >>= _) (fillField_of_isSome full)).trans rfl
  invalid {slots field value e} empty bad := by
    cases field <;> exact (congrArg (· >>= _) (fillField_of_error empty bad)).trans rfl

/-- The end of the variant's visitor reports the first field, in declaration
order, whose slot is empty. -/
theorem finish_missing {slots : Slots X} {e : JsonError} (failed : finish slots = .error e) :
    ∃ field, firstEmpty Field.all Slots.get slots = some field ∧ e = .missingField field.name := by
  obtain ⟨xpub, sigsetIndex⟩ := slots
  unfold finish at failed
  repeat' (rw [takeField_bind_eq_error_iff] at failed
           rcases failed with ⟨rfl, rfl⟩ | ⟨_, rfl, failed⟩)
  all_goals first | exact ⟨_, rfl, rfl⟩ | cases failed

theorem finish_full {slots : Slots X} {msg : QueryMsg X} (finished : finish slots = .ok msg)
    (field : Field) : (slots.get field).isSome := by
  rw [finish_eq_ok_iff.mp finished, Slots.get_ofQuery]
  rfl

/-- What the variant's visitor rejects: a value that is not an object, and an
object with the error of its first member that fails after members that pass,
or, when every member passes, with `missing field` for the first of `xpub`,
`sigset_index` that no member names. -/
theorem payload_eq_error_iff [Deserialize X] (value : Json) (e : JsonError) :
    (payload .getDerivePubkey value : Except JsonError (QueryMsg X)) = .error e ↔
      (∀ members, value ≠ .obj members) ∧ e = .invalidType ∨
      ∃ members, value = .obj members ∧
        ((∃ front key field back, members = front ++ (key, field) :: back ∧
            MembersPass true fieldOf (Field.decode (X := X)) front ∧
            MemberFails true FIELDS fieldOf Field.name (Field.decode (X := X)) front key field e) ∨
          MembersPass true fieldOf (Field.decode (X := X)) members ∧
            ∃ field, firstUnnamed Field.all Field.name members = some field ∧
              e = .missingField field.name) :=
  deserializeStruct_eq_error_iff (deserializeStruct_deny_eq_error_iff identifier
    (fieldMatch (initialDepth - 2)) (fieldRejects (initialDepth - 2)) Slots.get_empty finish_full
    finish_missing · e) value

theorem variantOf_eq_ok_iff {name : String} {variant : Variant} :
    variantOf name = .ok variant ↔ name = "get_derive_pubkey" :=
  ⟨variantOf_eq_ok, by rintro rfl; cases variant; rfl⟩

theorem variantOf_eq_error_iff {name : String} {e : JsonError} :
    variantOf name = .error e ↔ name ∉ VARIANTS ∧ e = .unknownVariant name VARIANTS := by
  unfold variantOf
  split <;> simp_all [VARIANTS, @eq_comm _ _ e]

/-- A statement about some variant is one about `get_derive_pubkey`. -/
theorem exists_variant {p : Variant → Prop} : (∃ variant, p variant) ↔ p .getDerivePubkey :=
  ⟨fun ⟨.getDerivePubkey, holds⟩ => holds, fun holds => ⟨_, holds⟩⟩

/-- `from_json` rejects a query: a bare variant name with `unknown_variant`,
or `invalid_type` for `get_derive_pubkey`; an empty object with
`invalid_type`; an object whose first member names no variant with
`unknown_variant`; a `get_derive_pubkey` whose value the variant's visitor
rejects, with that error; an object with a second member, only once the
first one's value has been read, with `expected_some_value`; and every other
value with `expected_some_ident`. Whatever `X`'s impls, an `xpub` is
rejected only with its own error. -/
theorem deserialize_query_eq_error_iff [Deserialize X] (v : Json) (e : JsonError) :
    (deserialize v : Except JsonError (QueryMsg X)) = .error e ↔
      (∃ name, v = .str name ∧
        (name ∉ VARIANTS ∧ e = .unknownVariant name VARIANTS ∨
          name ∈ VARIANTS ∧ e = .invalidType)) ∨
      (v = .obj [] ∧ e = .invalidType) ∨
      (∃ name value more, v = .obj ((name, value) :: more) ∧
        (name ∉ VARIANTS ∧ e = .unknownVariant name VARIANTS ∨
          name = "get_derive_pubkey" ∧
            ((∀ members, value ≠ .obj members) ∧ e = .invalidType ∨
              (∃ members, value = .obj members ∧
                ((∃ front key field back, members = front ++ (key, field) :: back ∧
                    MembersPass true fieldOf (Field.decode (X := X)) front ∧
                    MemberFails true FIELDS fieldOf Field.name (Field.decode (X := X))
                      front key field e) ∨
                  MembersPass true fieldOf (Field.decode (X := X)) members ∧
                    ∃ field, firstUnnamed Field.all Field.name members = some field ∧
                      e = .missingField field.name)) ∨
              (∃ msg : QueryMsg X, payload .getDerivePubkey value = .ok msg) ∧ more ≠ [] ∧
                e = .expectedSomeValue))) ∨
      ((∀ name, v ≠ .str name) ∧ (∀ members, v ≠ .obj members) ∧ e = .expectedSomeIdent) := by
  rw [deserialize_eq, deserializeEnum_eq_error_iff]
  simp only [variantOf_eq_ok_iff, variantOf_eq_error_iff, exists_variant, payload_eq_error_iff,
    VARIANTS, List.mem_singleton, or_assoc]

end QueryMsg

end BitcoinBridge
