import BitcoinBridge.Serde.Accept

/-!
# What a derived struct visitor rejects, and with which error

The errors a derived `visit_map` reports are serde's own texts, and which one
an object gets depends on the order of its members: the loop stops at the
first member that fails, and only an object whose members all pass reaches
`finish`, which reports the first field, in declaration order, that is
missing. This module describes those errors once, for every struct, beside the
description of what it accepts (`BitcoinBridge.Serde.Accept`):

* `deserializeStruct_visitKeyBy_false_eq`: without `deny_unknown_fields` a
  struct reads an object whose unknown keys hold values that fit in the depth
  left exactly as it reads the object's members with known keys, to the same
  value or the same error;
* `visitMap_eq_error_iff`: the loop fails exactly at its first failing member,
  from the slots the members before it leave;
* `visitKeyBy_eq_error_iff`: one member fails with `unknown_field` (a key that
  names no field, under `deny_unknown_fields`), `RecursionLimitExceeded` (a
  key that names no field, without it, whose value nests past the depth
  left), `duplicate_field` (a field seen before, whatever the value) or its
  value's own error;
* `deserializeStruct_visitKeyBy_eq_error_iff`: a derived struct rejects an
  object with the error of its first member that fails (`MemberFails`, or an
  ignored value that does not fit) after members that pass (`MembersPass`,
  `UnknownsFit`), or, when every member passes, with `missing_field` for the
  first field that no member names (`firstUnnamed`);
  `deserializeStruct_deny_eq_error_iff` is the same under
  `deny_unknown_fields`, and `deserializeStruct_eq_error_iff` adds
  `invalid_type` for a value that is not an object.

For a `Vec`, `deserializeSeq_eq_error_iff`: the error of its first element
that fails; for a pair, `deserializePair_eq_error_iff`: `invalid_type`,
`invalid_length`, an element's own error or `TrailingCharacters`.

And for an externally tagged enum, `deserializeEnum_eq_error_iff`: the errors
of a bare name, an empty object, a first member whose name or payload fails,
and members after a payload that reads.

A struct instantiates them with `FieldRejects`, what every arm of its field
match fails with, and with what its `finish` reports on an empty slot.
-/

namespace BitcoinBridge

open Serialize Deserialize

theorem bind_eq_error_iff {ε α β : Type} {x : Except ε α} {f : α → Except ε β} {e : ε} :
    x >>= f = .error e ↔ x = .error e ∨ ∃ a, x = .ok a ∧ f a = .error e := by
  cases x <;> simp

theorem map_eq_error_iff {ε α β : Type} {x : Except ε α} {f : α → β} {e : ε} :
    f <$> x = .error e ↔ x = .error e := by
  cases x <;> simp

/-! ## The loop -/

/-- The loop fails exactly at its first failing member: the members before it
pass, and it fails from the slots they leave. -/
theorem visitMap_eq_error_iff {β : Type} {visitKey : β → String → Json → Except JsonError β}
    {e : JsonError} : ∀ {members : List (String × Json)} {slots : β},
      visitMap visitKey slots members = .error e ↔
        ∃ front key value back mid, members = front ++ (key, value) :: back ∧
          visitMap visitKey slots front = .ok mid ∧ visitKey mid key value = .error e
  | [], slots => by
    simp only [visitMap_nil, reduceCtorEq, false_iff, not_exists, not_and]
    intro front key value back _ split
    exact absurd split.symm (List.append_ne_nil_of_right_ne_nil _ (List.cons_ne_nil _ _))
  | (key, value) :: members, slots => by
    rw [visitMap_cons, bind_eq_error_iff]
    constructor
    · rintro (failed | ⟨next, visited, failed⟩)
      · exact ⟨[], key, value, members, slots, rfl, rfl, failed⟩
      · obtain ⟨front, key', value', back, mid, rfl, passed, failed'⟩ :=
          visitMap_eq_error_iff.mp failed
        exact ⟨(key, value) :: front, key', value', back, mid, rfl,
          by rw [visitMap_cons, visited, ok_bind, passed], failed'⟩
    · rintro ⟨_ | ⟨⟨k, v⟩, front⟩, key', value', back, mid, split, passed, failed⟩
      · cases passed
        obtain ⟨⟨⟩, ⟨⟩⟩ := List.cons.inj split
        exact .inl failed
      · obtain ⟨⟨⟩, rfl⟩ := List.cons.inj split
        rw [visitMap_cons] at passed
        obtain ⟨next, visited, passed⟩ := bind_eq_ok passed
        exact .inr ⟨next, visited, visitMap_eq_error_iff.mpr ⟨front, key', value', back, mid, rfl,
          passed, failed⟩⟩

/-! ## Keys a struct ignores -/

/-- Without `deny_unknown_fields` the loop skips a member whose key names no
field and whose value fits as if it were not there: its result, slots or
error, is the loop's over the members with known keys. -/
theorem visitMap_visitKeyBy_false_eq {β Field : Type} {fields : List String}
    {fieldOf : String → Option Field} {visitField : Nat → β → Field → Json → Except JsonError β}
    {depth : Nat} :
    ∀ (slots : β) {members : List (String × Json)}, UnknownsFit fieldOf depth members →
      visitMap (visitKeyBy false fields fieldOf visitField depth) slots members =
        visitMap (visitKeyBy false fields fieldOf visitField depth) slots
          (knownMembers fieldOf members)
  | _, [], _ => rfl
  | slots, (key, value) :: members, fit => by
    obtain ⟨fitHere, fitLater⟩ := unknownsFit_cons.mp fit
    cases found : fieldOf key with
    | none =>
      rw [knownMembers, List.filter_cons_of_neg (by simp [found]), visitMap_cons,
        visitKeyBy_of_none found, unknownKey, if_neg Bool.false_ne_true, fitHere found]
      exact visitMap_visitKeyBy_false_eq slots fitLater
    | some field =>
      rw [knownMembers, List.filter_cons_of_pos (by simp [found]), visitMap_cons, visitMap_cons]
      congr 1
      funext next
      exact visitMap_visitKeyBy_false_eq next fitLater

/-- Without `deny_unknown_fields` a struct reads an object whose unknown keys
hold values that fit exactly as it reads the object's members with known
keys: the same value, or the same error. -/
theorem deserializeStruct_visitKeyBy_false_eq {α β Field : Type} {fields : List String}
    {fieldOf : String → Option Field} {visitField : Nat → β → Field → Json → Except JsonError β}
    {empty : β} {finish : β → Except JsonError α} {depth : Nat} {members : List (String × Json)}
    (fit : UnknownsFit fieldOf depth members) :
    deserializeStruct (visitKeyBy false fields fieldOf visitField) empty finish (depth + 1)
        (.obj members) =
      deserializeStruct (visitKeyBy false fields fieldOf visitField) empty finish (depth + 1)
        (.obj (knownMembers fieldOf members)) := by
  rw [deserializeStruct_obj, deserializeStruct_obj, visitMap_visitKeyBy_false_eq _ fit]

/-! ## Sequences and pairs -/

/-- `VecVisitor` fails exactly at its first element that fails, after elements
that read. -/
theorem deserializeSeq_eq_error_iff {α : Type} [Deserialize α] {depth : Nat} {e : JsonError} :
    ∀ {vs : List Json}, (deserializeSeq depth vs : Except JsonError (List α)) = .error e ↔
      ∃ front v back, vs = front ++ v :: back ∧
        (∀ w ∈ front, ∃ a : α, deserializeAt depth w = .ok a) ∧
        (deserializeAt depth v : Except JsonError α) = .error e := by
  intro vs
  induction vs with
  | nil => simp [deserializeSeq]
  | cons v vs ih =>
    rw [deserializeSeq, bind_eq_error_iff]
    simp only [bind_pure_comp, map_eq_error_iff, ih]
    constructor
    · rintro (failed | ⟨a, decoded, front, w, back, rfl, passed, failed⟩)
      · exact ⟨[], v, vs, rfl, fun _ => nofun, failed⟩
      · exact ⟨v :: front, w, back, rfl, List.forall_mem_cons.mpr ⟨⟨a, decoded⟩, passed⟩, failed⟩
    · rintro ⟨_ | ⟨w, front⟩, v', back, split, passed, failed⟩
      · obtain ⟨rfl, rfl⟩ := List.cons.inj split
        exact .inl failed
      · obtain ⟨rfl, rfl⟩ := List.cons.inj split
        obtain ⟨⟨a, decoded⟩, passed⟩ := List.forall_mem_cons.mp passed
        exact .inr ⟨a, decoded, front, v', back, rfl, passed, failed⟩

/-- The tuple visitor of a pair, then the end of its sequence, with a level
left for the array: a value that is not an array is `invalid_type`; the
first element fails with its own error, a missing element is
`invalid_length`, the second element fails with its own error, and an element
past the second is `TrailingCharacters`. -/
theorem deserializePair_eq_error_iff {α β : Type} [Deserialize α] [Deserialize β] {depth : Nat}
    {v : Json} {e : JsonError} :
    (deserializePair (depth + 1) v : Except JsonError (α × β)) = .error e ↔
      (∀ vs, v ≠ .arr vs) ∧ e = .invalidType ∨
      v = .arr [] ∧ e = .invalidLength 0 "a tuple of size 2" ∨
      (∃ v0 more, v = .arr (v0 :: more) ∧
        (deserializeAt depth v0 : Except JsonError α) = .error e) ∨
      (∃ v0 a, v = .arr [v0] ∧ (deserializeAt depth v0 : Except JsonError α) = .ok a ∧
        e = .invalidLength 1 "a tuple of size 2") ∨
      (∃ v0 v1 more a, v = .arr (v0 :: v1 :: more) ∧
        (deserializeAt depth v0 : Except JsonError α) = .ok a ∧
        (deserializeAt depth v1 : Except JsonError β) = .error e) ∨
      ∃ v0 v1 more a b, v = .arr (v0 :: v1 :: more) ∧
        (deserializeAt depth v0 : Except JsonError α) = .ok a ∧
        (deserializeAt depth v1 : Except JsonError β) = .ok b ∧ more ≠ [] ∧
          e = .trailingCharacters := by
  match v with
  | .arr [] => simp [deserializePair, visitPair, @eq_comm _ _ e, and_assoc]
  | .arr [v0] =>
    cases first : (deserializeAt depth v0 : Except JsonError α) <;>
      simp [deserializePair, visitPair, first, @eq_comm _ _ e, and_assoc]
  | .arr (v0 :: v1 :: more) =>
    cases first : (deserializeAt depth v0 : Except JsonError α) with
    | error e' => simp [deserializePair, visitPair, first, @eq_comm _ _ e, and_assoc]
    | ok a =>
      cases second : (deserializeAt depth v1 : Except JsonError β) with
      | error e' => simp [deserializePair, visitPair, first, second, @eq_comm _ _ e, and_assoc]
      | ok b =>
        cases more <;> simp [deserializePair, visitPair, first, second, @eq_comm _ _ e, and_assoc]
  | .null | .bool _ | .num _ | .neg _ | .str _ | .obj _ =>
    simp [deserializePair, @eq_comm _ _ e, and_assoc]

/-! ## Externally tagged enums -/

/-- What a derived enum visitor rejects, with a level left for the object: a
bare name (with the name's error, or `invalid_type` for a known one, since no
variant is a unit variant), an empty object, an object whose first member
names no variant or holds a payload that fails, an object with members after
a payload that reads, and every value that is neither a string nor an
object. -/
theorem deserializeEnum_eq_error_iff {α ν : Type} {variantOf : String → Except JsonError ν}
    {payload : Nat → ν → Json → Except JsonError α} {depth : Nat} {v : Json} {e : JsonError} :
    deserializeEnum variantOf payload (depth + 1) v = .error e ↔
      (∃ name, v = .str name ∧
        (variantOf name = .error e ∨
          (∃ variant, variantOf name = .ok variant) ∧ e = .invalidType)) ∨
      (v = .obj [] ∧ e = .invalidType) ∨
      (∃ name value more, v = .obj ((name, value) :: more) ∧
        (variantOf name = .error e ∨ ∃ variant, variantOf name = .ok variant ∧
          (payload depth variant value = .error e ∨
            (∃ a, payload depth variant value = .ok a) ∧ more ≠ [] ∧
              e = .expectedSomeValue))) ∨
      ((∀ name, v ≠ .str name) ∧ (∀ members, v ≠ .obj members) ∧ e = .expectedSomeIdent) := by
  match v with
  | .str name =>
    cases found : variantOf name <;> simp [deserializeEnum, found, @eq_comm _ _ e]
  | .obj [] => simp [deserializeEnum, @eq_comm _ _ e]
  | .obj ((name, value) :: more) =>
    cases found : variantOf name with
    | error e' => simp [deserializeEnum, found, @eq_comm _ _ e, and_assoc]
    | ok variant =>
      cases paid : payload depth variant value with
      | error e' => simp [deserializeEnum, found, paid, @eq_comm _ _ e, and_assoc]
      | ok a => cases more <;> simp [deserializeEnum, found, paid, @eq_comm _ _ e, and_assoc]
  | .null | .bool _ | .num _ | .neg _ | .arr _ => simp [deserializeEnum, @eq_comm _ _ e]

/-! ## One member -/

section DerivedStruct

variable {α β Field : Type} {Content : Field → Type}
  {decode : (field : Field) → Json → Except JsonError (Content field)}
  {get : β → (field : Field) → Option (Content field)}
  {visitField : Nat → β → Field → Json → Except JsonError β}
  {fieldOf : String → Option Field} {name : Field → String} {all : List Field}
  {deny : Bool} {fields : List String} {depth : Nat}

/-- A derived field match's failures, seen through `get`: an arm whose field
was seen before fails with `duplicate_field`, whatever the value; an arm whose
slot is empty fails as the field's `Deserialize` impl does. -/
structure FieldRejects (name : Field → String)
    (decode : (field : Field) → Json → Except JsonError (Content field))
    (get : β → (field : Field) → Option (Content field))
    (visitField : β → Field → Json → Except JsonError β) : Prop where
  duplicate : ∀ {slots field value}, (get slots field).isSome →
    visitField slots field value = .error (.duplicateField (name field))
  invalid : ∀ {slots field value e}, get slots field = none → decode field value = .error e →
    visitField slots field value = .error e

/-- What one member whose key names a field fails with. -/
theorem visitField_eq_error_iff {visitField : β → Field → Json → Except JsonError β}
    (fieldMatch : FieldMatch decode get visitField)
    (rejects : FieldRejects name decode get visitField) {slots : β} {field : Field}
    {value : Json} {e : JsonError} :
    visitField slots field value = .error e ↔
      (get slots field).isSome ∧ e = .duplicateField (name field) ∨
        get slots field = none ∧ decode field value = .error e := by
  cases full : get slots field with
  | some x => simp [rejects.duplicate (by simp [full] : (get slots field).isSome), eq_comm]
  | none =>
    cases decoded : decode field value with
    | error e' => simp [rejects.invalid full decoded]
    | ok x =>
      obtain ⟨slots', visited⟩ := fieldMatch.accepts full decoded
      simp [visited]

/-- What one member of an object fails with: a key that names no field is
`unknown_field` under `deny_unknown_fields` and otherwise fails only as
`deserialize_ignored_any` does on its value, and a key that names a field
fails as that field's arm does. -/
theorem visitKeyBy_eq_error_iff (fieldMatch : FieldMatch decode get (visitField depth))
    (rejects : FieldRejects name decode get (visitField depth)) {slots : β} {key : String}
    {value : Json} {e : JsonError} :
    visitKeyBy deny fields fieldOf visitField depth slots key value = .error e ↔
      fieldOf key = none ∧ deny = true ∧ e = .unknownField key fields ∨
      fieldOf key = none ∧ deny = false ∧ ignoredAny depth value = .error e ∨
        ∃ field, fieldOf key = some field ∧
          ((get slots field).isSome ∧ e = .duplicateField (name field) ∨
            get slots field = none ∧ decode field value = .error e) := by
  cases found : fieldOf key with
  | none =>
    rw [visitKeyBy_of_none found]
    cases deny <;> simp [unknownKey, map_eq_error_iff, @eq_comm _ e]
  | some field => simp [visitKeyBy_of_some found, visitField_eq_error_iff fieldMatch rejects]

/-! ## Members that pass, and the member that fails -/

/-- Members a derived visitor gets through: unknown keys only where they are
allowed, known keys distinct, and each known member's value read by its
field. Where unknown keys are allowed, their values must also fit
(`UnknownsFit`). -/
def MembersPass (deny : Bool) (fieldOf : String → Option Field)
    (decode : (field : Field) → Json → Except JsonError (Content field))
    (members : List (String × Json)) : Prop :=
  (deny = true → ∀ m ∈ members, (fieldOf m.1).isSome) ∧
    ((knownMembers fieldOf members).map Prod.fst).Nodup ∧
    ∀ m ∈ members, ∀ field, fieldOf m.1 = some field → ∃ x, decode field m.2 = .ok x

/-- The error the member `(key, value)` fails with after the members `front`:
`unknown_field` for a key that names no field under `deny_unknown_fields`,
`duplicate_field` for a field a member of `front` named, whatever the value,
and otherwise the value's own error. -/
def MemberFails (deny : Bool) (fields : List String) (fieldOf : String → Option Field)
    (name : Field → String) (decode : (field : Field) → Json → Except JsonError (Content field))
    (front : List (String × Json)) (key : String) (value : Json) (e : JsonError) : Prop :=
  fieldOf key = none ∧ deny = true ∧ e = .unknownField key fields ∨
    ∃ field, fieldOf key = some field ∧
      ((∃ m ∈ front, fieldOf m.1 = some field) ∧ e = .duplicateField (name field) ∨
        (∀ m ∈ front, fieldOf m.1 ≠ some field) ∧ decode field value = .error e)

/-- The first field, in declaration order, that no member names. -/
def firstUnnamed (all : List Field) (name : Field → String) (members : List (String × Json)) :
    Option Field :=
  all.find? fun field => name field ∉ members.map Prod.fst

/-- The first field, in declaration order, whose slot is empty. -/
def firstEmpty (all : List Field) (get : β → (field : Field) → Option (Content field))
    (slots : β) : Option Field :=
  all.find? fun field => (get slots field).isNone

variable {empty : β}

/-- The loop gets through exactly the members that pass, with the values of
unknown keys fitting. -/
theorem exists_visitMap_eq_ok_iff (identifier : FieldIdentifier fieldOf name all)
    (fieldMatch : FieldMatch decode get (visitField depth))
    (emptyGet : ∀ field, get empty field = none) {members : List (String × Json)} :
    (∃ slots, visitMap (visitKeyBy deny fields fieldOf visitField depth) empty members =
        .ok slots) ↔
      MembersPass deny fieldOf decode members ∧ UnknownsFit fieldOf depth members := by
  constructor
  · rintro ⟨slots, visited⟩
    obtain ⟨allKnown, fit, distinct, filled, -⟩ := visitMap_visitKeyBy_eq_ok fieldMatch visited
    exact ⟨⟨allKnown, distinct, fun m member field named =>
      let ⟨_, x, decoded, _⟩ := filled m member field named; ⟨x, decoded⟩⟩, fit⟩
  · rintro ⟨⟨allKnown, distinct, decodes⟩, fit⟩
    exact visitMap_visitKeyBy_of_accepts identifier fieldMatch allKnown fit distinct
      fun m member field named => ⟨emptyGet field, decodes m member field named⟩

/-- After members that pass, a field's slot is full exactly when one of them
names the field. -/
theorem isSome_get_of_visitMap (fieldMatch : FieldMatch decode get (visitField depth))
    (emptyGet : ∀ field, get empty field = none) {front : List (String × Json)} {mid : β}
    (visited : visitMap (visitKeyBy deny fields fieldOf visitField depth) empty front = .ok mid)
    (field : Field) : (get mid field).isSome ↔ ∃ m ∈ front, fieldOf m.1 = some field := by
  obtain ⟨-, -, -, filled, untouched⟩ := visitMap_visitKeyBy_eq_ok fieldMatch visited
  constructor
  · intro full
    by_contra! unnamed
    simp [untouched field unnamed, emptyGet] at full
  · rintro ⟨m, member, named⟩
    obtain ⟨-, x, -, held⟩ := filled m member field named
    simp [held]

/-- After members that pass, the next member fails as `MemberFails` says, or,
where unknown keys are allowed, as an unknown key whose value does not fit. -/
theorem visitKeyBy_eq_error_iff_of_visitMap (fieldMatch : FieldMatch decode get (visitField depth))
    (rejects : FieldRejects name decode get (visitField depth))
    (emptyGet : ∀ field, get empty field = none) {front : List (String × Json)} {mid : β}
    (visited : visitMap (visitKeyBy deny fields fieldOf visitField depth) empty front = .ok mid)
    {key : String} {value : Json} {e : JsonError} :
    visitKeyBy deny fields fieldOf visitField depth mid key value = .error e ↔
      MemberFails deny fields fieldOf name decode front key value e ∨
        fieldOf key = none ∧ deny = false ∧ ignoredAny depth value = .error e := by
  have filled := isSome_get_of_visitMap fieldMatch emptyGet visited
  have emptySlot (field : Field) :
      get mid field = none ↔ ∀ m ∈ front, fieldOf m.1 ≠ some field := by
    rw [← Option.not_isSome_iff_eq_none, filled]
    simp
  rw [visitKeyBy_eq_error_iff fieldMatch rejects, MemberFails, or_assoc]
  simp only [filled, emptySlot]
  exact or_congr_right or_comm

/-- After members that pass, the first empty slot is the first field no member
names. -/
theorem firstEmpty_of_visitMap (identifier : FieldIdentifier fieldOf name all)
    (fieldMatch : FieldMatch decode get (visitField depth))
    (emptyGet : ∀ field, get empty field = none) {members : List (String × Json)} {slots : β}
    (visited : visitMap (visitKeyBy deny fields fieldOf visitField depth) empty members =
      .ok slots) :
    firstEmpty all get slots = firstUnnamed all name members := by
  refine congrArg all.find? (funext fun field => ?_)
  show (get slots field).isNone = decide (name field ∉ members.map Prod.fst)
  have named : (∃ m ∈ members, fieldOf m.1 = some field) ↔ name field ∈ members.map Prod.fst := by
    simp only [List.mem_map]
    exact exists_congr fun m => and_congr_right fun _ =>
      ⟨identifier.eq_name, fun same => same ▸ identifier.fieldOf_name field⟩
  rw [Bool.eq_iff_iff, Option.isNone_iff_eq_none, ← Option.not_isSome_iff_eq_none,
    isSome_get_of_visitMap fieldMatch emptyGet visited, named, decide_eq_true_iff]

/-! ## What a struct is rejected with -/

variable {finish : β → Except JsonError α}

/-- `finish` fails exactly with `missing_field` for the first empty slot, when
it fails only so and succeeds only on full slots. -/
theorem finish_eq_error_iff
    (full : ∀ {slots a}, finish slots = .ok a → ∀ field, (get slots field).isSome)
    (missing : ∀ {slots e}, finish slots = .error e →
      ∃ field, firstEmpty all get slots = some field ∧ e = .missingField (name field))
    {slots : β} {e : JsonError} :
    finish slots = .error e ↔
      ∃ field, firstEmpty all get slots = some field ∧ e = .missingField (name field) := by
  refine ⟨missing, fun ⟨field, first, reported⟩ => ?_⟩
  cases finished : finish slots with
  | error e' =>
    obtain ⟨field', first', rfl⟩ := missing finished
    cases first.symm.trans first'
    exact congrArg Except.error reported.symm
  | ok a =>
    have empty := List.find?_some first
    simp [Option.isNone_iff_eq_none, ← Option.not_isSome_iff_eq_none, full finished field] at empty

/-- What a derived struct visitor, with a level left for the object, rejects
an object with: the error of its first member that fails, after members that
pass, or, when every member passes, `missing_field` for the first field, in
declaration order, that no member names. A member fails as `MemberFails` says
or, where unknown keys are allowed, as an unknown key whose value nests past
the depth left. -/
theorem deserializeStruct_visitKeyBy_eq_error_iff (identifier : FieldIdentifier fieldOf name all)
    (fieldMatch : FieldMatch decode get (visitField depth))
    (rejects : FieldRejects name decode get (visitField depth))
    (emptyGet : ∀ field, get empty field = none)
    (full : ∀ {slots a}, finish slots = .ok a → ∀ field, (get slots field).isSome)
    (missing : ∀ {slots e}, finish slots = .error e →
      ∃ field, firstEmpty all get slots = some field ∧ e = .missingField (name field))
    (members : List (String × Json)) (e : JsonError) :
    deserializeStruct (visitKeyBy deny fields fieldOf visitField) empty finish (depth + 1)
        (.obj members) = .error e ↔
      (∃ front key value back, members = front ++ (key, value) :: back ∧
        MembersPass deny fieldOf decode front ∧ UnknownsFit fieldOf depth front ∧
        (MemberFails deny fields fieldOf name decode front key value e ∨
          fieldOf key = none ∧ deny = false ∧ ignoredAny depth value = .error e)) ∨
      MembersPass deny fieldOf decode members ∧ UnknownsFit fieldOf depth members ∧
        ∃ field, firstUnnamed all name members = some field ∧ e = .missingField (name field) := by
  rw [deserializeStruct_obj, bind_eq_error_iff, visitMap_eq_error_iff]
  refine or_congr ⟨?_, ?_⟩ ⟨?_, ?_⟩
  · rintro ⟨front, key, value, back, mid, rfl, visited, failed⟩
    obtain ⟨passing, fit⟩ :=
      (exists_visitMap_eq_ok_iff identifier fieldMatch emptyGet).mp ⟨mid, visited⟩
    exact ⟨front, key, value, back, rfl, passing, fit,
      (visitKeyBy_eq_error_iff_of_visitMap fieldMatch rejects emptyGet visited).mp failed⟩
  · rintro ⟨front, key, value, back, rfl, passing, fit, fails⟩
    obtain ⟨mid, visited⟩ :=
      (exists_visitMap_eq_ok_iff identifier fieldMatch emptyGet).mpr ⟨passing, fit⟩
    exact ⟨front, key, value, back, mid, rfl, visited,
      (visitKeyBy_eq_error_iff_of_visitMap fieldMatch rejects emptyGet visited).mpr fails⟩
  · rintro ⟨slots, visited, finished⟩
    rw [finish_eq_error_iff full missing,
      firstEmpty_of_visitMap identifier fieldMatch emptyGet visited] at finished
    obtain ⟨passing, fit⟩ :=
      (exists_visitMap_eq_ok_iff identifier fieldMatch emptyGet).mp ⟨slots, visited⟩
    exact ⟨passing, fit, finished⟩
  · rintro ⟨passing, fit, unnamed⟩
    obtain ⟨slots, visited⟩ :=
      (exists_visitMap_eq_ok_iff identifier fieldMatch emptyGet).mpr ⟨passing, fit⟩
    refine ⟨slots, visited, ?_⟩
    rwa [finish_eq_error_iff full missing,
      firstEmpty_of_visitMap identifier fieldMatch emptyGet visited]

/-- Under `deny_unknown_fields` members that pass name fields, so nothing is
left to fit. -/
theorem membersPass_true_and_unknownsFit {members : List (String × Json)} {P : Prop} :
    MembersPass true fieldOf decode members ∧ UnknownsFit fieldOf depth members ∧ P ↔
      MembersPass true fieldOf decode members ∧ P :=
  and_congr_right fun passing => and_iff_right (unknownsFit_of_known (passing.1 rfl))

/-- Under `deny_unknown_fields` every member that passes names a field, so no
value is ignored, and the errors are `MemberFails`' and `missing_field`. -/
theorem deserializeStruct_deny_eq_error_iff (identifier : FieldIdentifier fieldOf name all)
    (fieldMatch : FieldMatch decode get (visitField depth))
    (rejects : FieldRejects name decode get (visitField depth))
    (emptyGet : ∀ field, get empty field = none)
    (full : ∀ {slots a}, finish slots = .ok a → ∀ field, (get slots field).isSome)
    (missing : ∀ {slots e}, finish slots = .error e →
      ∃ field, firstEmpty all get slots = some field ∧ e = .missingField (name field))
    (members : List (String × Json)) (e : JsonError) :
    deserializeStruct (visitKeyBy true fields fieldOf visitField) empty finish (depth + 1)
        (.obj members) = .error e ↔
      (∃ front key value back, members = front ++ (key, value) :: back ∧
        MembersPass true fieldOf decode front ∧
        MemberFails true fields fieldOf name decode front key value e) ∨
      MembersPass true fieldOf decode members ∧
        ∃ field, firstUnnamed all name members = some field ∧ e = .missingField (name field) := by
  rw [deserializeStruct_visitKeyBy_eq_error_iff identifier fieldMatch rejects emptyGet full missing]
  simp only [membersPass_true_and_unknownsFit, Bool.true_eq_false, false_and, and_false, or_false]

end DerivedStruct

/-- A struct visitor rejects a value that is not an object with
`invalid_type`, and an object with whatever its object law says. -/
theorem deserializeStruct_eq_error_iff {α β : Type}
    {visitKey : Nat → β → String → Json → Except JsonError β} {empty : β}
    {finish : β → Except JsonError α} {depth : Nat} {P : List (String × Json) → Prop}
    {e : JsonError}
    (onObj : ∀ members, deserializeStruct visitKey empty finish depth (.obj members) = .error e ↔
      P members) (v : Json) :
    deserializeStruct visitKey empty finish depth v = .error e ↔
      (∀ members, v ≠ .obj members) ∧ e = .invalidType ∨
        ∃ members, v = .obj members ∧ P members := by
  cases v with
  | obj members =>
    exact (onObj members).trans ⟨fun holds => .inr ⟨members, rfl, holds⟩,
      fun | .inl ⟨notObj, _⟩ => absurd rfl (notObj members) | .inr ⟨_, rfl, holds⟩ => holds⟩
  | _ =>
    exact ⟨fun failed => .inl ⟨fun _ => nofun, (Except.error.inj failed).symm⟩,
      fun | .inl ⟨_, same⟩ => congrArg Except.error same.symm | .inr ⟨_, isObj, _⟩ => nomatch isObj⟩

end BitcoinBridge
