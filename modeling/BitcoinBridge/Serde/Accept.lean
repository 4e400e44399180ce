import BitcoinBridge.Serde

/-!
# What a derived struct visitor accepts

A derived `visit_map` keeps one slot per serialized field. A member whose key
names a field is deserialized at once into that field's slot, which must still
be empty; a key that names no field is `unknown_field` under
`deny_unknown_fields` and otherwise skipped through `deserialize_ignored_any`,
which fails on a value nested past the depth left; `finish` builds the value
from the full slots. Seen through `get`, the content of each field's slot,
every arm of the field match does the same thing (`FieldMatch`), so the whole
loop is described once, for every struct and every depth:

* `visitMap_visitKeyBy_eq_ok`: after the loop, the known keys are distinct,
  each field's slot holds what its member's value deserializes to, and the
  values of unknown keys fit in the depth left (`UnknownsFit`);
* `deserializeStruct_visitKeyBy_eq_ok_iff`: a struct is read from exactly the
  objects that hold, up to order and besides the unknown keys it allows (whose
  values must fit), one member per field, whose value deserializes to the
  struct's field;
* `deserializeStruct_deny_eq_ok_iff`: the same under `deny_unknown_fields`,
  where the object holds nothing else;
* `deserializeStruct_lawful_eq_ok_iff`: when every field's deserializer is the
  exact inverse of its serializer, the objects read as a value are the
  reorderings of its own encoding.

A struct instantiates them with facts about its own field identifiers, proved
by cases on its fields and never by comparing keys.
-/

namespace BitcoinBridge

open Serialize Deserialize

/-! ## Keyed lists -/

section KeyedLists

variable {κ ν : Type} [BEq κ] [LawfulBEq κ]

theorem lookup_cons_of_ne {members : List (κ × ν)} {key k : κ} {v : ν}
    (other : key ≠ k) : ((k, v) :: members).lookup key = members.lookup key := by
  rw [List.lookup_cons, beq_eq_false_iff_ne.mpr other]

/-- In a list whose keys do not repeat, a member is what its key looks up. -/
theorem mem_iff_lookup {members : List (κ × ν)} (distinct : (members.map Prod.fst).Nodup)
    {key : κ} {value : ν} : (key, value) ∈ members ↔ members.lookup key = some value := by
  induction members with
  | nil => simp
  | cons member members ih =>
    obtain ⟨k, v⟩ := member
    simp only [List.map_cons, List.nodup_cons] at distinct
    by_cases same : key = k
    · subst same
      simp only [List.mem_cons, Prod.mk.injEq, true_and, List.lookup_cons_self, Option.some.injEq]
      constructor
      · rintro (rfl | later)
        · rfl
        · exact absurd (List.mem_map.mpr ⟨_, later, rfl⟩) distinct.1
      · rintro rfl
        exact .inl rfl
    · simp [lookup_cons_of_ne same, same, ih distinct.2]

end KeyedLists

/-! ## Field identifiers and field matches -/

section DerivedStruct

variable {α β Field : Type} {Content : Field → Type}
  {decode : (field : Field) → Json → Except JsonError (Content field)}
  {get : β → (field : Field) → Option (Content field)}
  {visitField : Nat → β → Field → Json → Except JsonError β}
  {fieldOf : String → Option Field} {name : Field → String} {all : List Field}
  {deny : Bool} {fields : List String} {depth : Nat}

/-- A derived field identifier: `fieldOf` is its `visit_str`, `name` the name
each field is serialized under, and `all` lists every field once. -/
structure FieldIdentifier (fieldOf : String → Option Field) (name : Field → String)
    (all : List Field) : Prop where
  fieldOf_name : ∀ field, fieldOf (name field) = some field
  eq_name : ∀ {key field}, fieldOf key = some field → key = name field
  mem_all : ∀ field, field ∈ all
  nodup_all : all.Nodup

/-- A derived field match, seen through `get`: every arm finds its field's
slot empty and fills it with what the member's value deserializes to (by
`decode`, the field's `Deserialize` impl), leaving the other slots alone; and
it accepts into an empty slot every value its field deserializes. -/
structure FieldMatch (decode : (field : Field) → Json → Except JsonError (Content field))
    (get : β → (field : Field) → Option (Content field))
    (visitField : β → Field → Json → Except JsonError β) : Prop where
  fills : ∀ {slots slots' field value}, visitField slots field value = .ok slots' →
    get slots field = none ∧ (∃ x, decode field value = .ok x ∧ get slots' field = some x) ∧
      ∀ other, other ≠ field → get slots' other = get slots other
  accepts : ∀ {slots field value x}, get slots field = none → decode field value = .ok x →
    ∃ slots', visitField slots field value = .ok slots'

/-- The members whose key names no field fit in the depth left: each value gets
through `deserialize_ignored_any`. -/
def UnknownsFit (fieldOf : String → Option Field) (depth : Nat) (members : List (String × Json)) :
    Prop :=
  ∀ m ∈ members, fieldOf m.1 = none → ignoredAny depth m.2 = .ok ()

/-- The first member fits, if its key names no field, and so do the others. -/
theorem unknownsFit_cons {fieldOf : String → Option Field} {depth : Nat} {key : String}
    {value : Json} {members : List (String × Json)} :
    UnknownsFit fieldOf depth ((key, value) :: members) ↔
      (fieldOf key = none → ignoredAny depth value = .ok ()) ∧ UnknownsFit fieldOf depth members :=
  List.forall_mem_cons

/-- Unknown members fit exactly when each one's value nests no deeper than the
depth left. -/
theorem unknownsFit_iff {fieldOf : String → Option Field} {depth : Nat}
    {members : List (String × Json)} :
    UnknownsFit fieldOf depth members ↔ ∀ m ∈ members, fieldOf m.1 = none → m.2.depth ≤ depth := by
  simp only [UnknownsFit, ignoredAny_eq_ok_iff]

/-- The members whose key names a field. -/
def knownMembers (fieldOf : String → Option Field) (members : List (String × Json)) :
    List (String × Json) :=
  members.filter fun member => (fieldOf member.1).isSome

theorem FieldIdentifier.nodup_names (identifier : FieldIdentifier fieldOf name all) :
    (all.map name).Nodup :=
  identifier.nodup_all.map fun field field' same => by
    simpa [identifier.fieldOf_name] using congrArg fieldOf same

/-- A list without repeated keys that holds each field's member, and only
members whose key names a field, is a reordering of the fields' members. -/
theorem FieldIdentifier.perm_of_mem (identifier : FieldIdentifier fieldOf name all)
    {known : List (String × Json)} {vals : Field → Json} (distinct : (known.map Prod.fst).Nodup)
    (mem : ∀ field, (name field, vals field) ∈ known) (named : ∀ m ∈ known, (fieldOf m.1).isSome) :
    known.Perm (all.map fun field => (name field, vals field)) := by
  refine (List.perm_ext_iff_of_nodup distinct.of_map (List.Nodup.of_map Prod.fst ?_)).mpr
    fun ⟨k, v⟩ => ⟨fun member => ?_, fun member => ?_⟩
  · simpa [List.map_map] using identifier.nodup_names
  · obtain ⟨field, found⟩ := Option.isSome_iff_exists.mp (named _ member)
    cases identifier.eq_name found
    obtain rfl : v = vals field := by
      simpa using ((mem_iff_lookup distinct).mp member).symm.trans
        ((mem_iff_lookup distinct).mp (mem field))
    exact List.mem_map.mpr ⟨field, identifier.mem_all field, rfl⟩
  · obtain ⟨field, -, same⟩ := List.mem_map.mp member
    cases same
    exact mem field

/-- In a reordering of the fields' members, a member whose key names a field
holds that field's value. -/
theorem FieldIdentifier.eq_of_perm (identifier : FieldIdentifier fieldOf name all)
    {known : List (String × Json)} {vals : Field → Json}
    (reordered : known.Perm (all.map fun field => (name field, vals field)))
    {m : String × Json} (member : m ∈ known) {field : Field} (found : fieldOf m.1 = some field) :
    m.2 = vals field := by
  obtain ⟨field', -, rfl⟩ := List.mem_map.mp (reordered.subset member)
  simp only [identifier.fieldOf_name, Option.some.injEq] at found
  rw [found]

/-! ## The visitor loop -/

/-- The loop: unknown keys stand only where they are allowed and their values
fit, the known keys are distinct, each member with a known key had an empty
slot that now holds what its value deserializes to, and a slot no member names
is unchanged. -/
theorem visitMap_visitKeyBy_eq_ok (fieldMatch : FieldMatch decode get (visitField depth)) :
    ∀ {members : List (String × Json)} {slots slots' : β},
      visitMap (visitKeyBy deny fields fieldOf visitField depth) slots members = .ok slots' →
        (deny = true → ∀ m ∈ members, (fieldOf m.1).isSome) ∧ UnknownsFit fieldOf depth members ∧
        ((knownMembers fieldOf members).map Prod.fst).Nodup ∧
        (∀ m ∈ members, ∀ field, fieldOf m.1 = some field →
          get slots field = none ∧ ∃ x, decode field m.2 = .ok x ∧ get slots' field = some x) ∧
        ∀ field, (∀ m ∈ members, fieldOf m.1 ≠ some field) → get slots' field = get slots field
  | [], _, _, visited => by
    cases visited
    simp [knownMembers, UnknownsFit]
  | (key, value) :: members, slots, slots', visited => by
    obtain ⟨middle, step, rest⟩ := bind_eq_ok visited
    obtain ⟨allKnown, fit, distinct, filled, untouched⟩ := visitMap_visitKeyBy_eq_ok fieldMatch rest
    cases found : fieldOf key with
    | none =>
      rw [visitKeyBy_of_none found] at step
      obtain ⟨allowed, ignored, rfl⟩ := unknownKey_eq_ok step
      refine ⟨by simp [allowed], unknownsFit_cons.mpr ⟨fun _ => ignored, fit⟩,
        by simpa [knownMembers, found] using distinct, fun m member field named => ?_,
        fun field unnamed => untouched field fun m later => unnamed m (List.mem_cons_of_mem _ later)⟩
      rcases List.mem_cons.mp member with rfl | later
      · simp [found] at named
      · exact filled m later field named
    | some field =>
      rw [visitKeyBy_of_some found] at step
      obtain ⟨empty, ⟨x, decoded, held⟩, frame⟩ := fieldMatch.fills step
      -- no later member names `field`: its slot is full from here on
      have notLater : ∀ m ∈ members, fieldOf m.1 ≠ some field := fun m later named => by
        simpa [held] using (filled m later field named).1
      refine ⟨fun denied m member => ?_,
        unknownsFit_cons.mpr ⟨(fun unknown => nomatch found.symm.trans unknown), fit⟩, ?_,
        fun m member field' named => ?_, fun field' unnamed => ?_⟩
      · rcases List.mem_cons.mp member with rfl | later
        · simp [found]
        · exact allKnown denied m later
      · rw [knownMembers, List.filter_cons_of_pos (by simp [found]), List.map_cons, List.nodup_cons]
        refine ⟨fun again => ?_, distinct⟩
        obtain ⟨m, member, same⟩ := List.mem_map.mp again
        exact notLater m (List.mem_filter.mp member).1 (same ▸ found)
      · rcases List.mem_cons.mp member with rfl | later
        · cases found.symm.trans named
          exact ⟨empty, x, decoded, by rw [untouched field notLater, held]⟩
        · have other : field' ≠ field := fun same => notLater m later (same ▸ named)
          rw [← frame field' other]
          exact filled m later field' named
      · have other : field' ≠ field := fun same =>
          unnamed (key, value) (List.mem_cons_self _ _) (same ▸ found)
        rw [untouched field' fun m later => unnamed m (List.mem_cons_of_mem _ later),
          frame field' other]

/-- The loop succeeds when unknown keys stand only where they are allowed and
their values fit, the known keys are distinct, and each member with a known
key finds its field's slot empty and holds a value the field deserializes. -/
theorem visitMap_visitKeyBy_of_accepts (identifier : FieldIdentifier fieldOf name all)
    (fieldMatch : FieldMatch decode get (visitField depth)) :
    ∀ {members : List (String × Json)} {slots : β},
      (deny = true → ∀ m ∈ members, (fieldOf m.1).isSome) → UnknownsFit fieldOf depth members →
      ((knownMembers fieldOf members).map Prod.fst).Nodup →
      (∀ m ∈ members, ∀ field, fieldOf m.1 = some field →
        get slots field = none ∧ ∃ x, decode field m.2 = .ok x) →
        ∃ slots', visitMap (visitKeyBy deny fields fieldOf visitField depth) slots members =
          .ok slots'
  | [], slots, _, _, _, _ => ⟨slots, rfl⟩
  | (key, value) :: members, slots, allKnown, fit, distinct, decodes => by
    have allKnownLater : deny = true → ∀ m ∈ members, (fieldOf m.1).isSome :=
      fun denied m later => allKnown denied m (List.mem_cons_of_mem _ later)
    obtain ⟨fitHere, fitLater⟩ := unknownsFit_cons.mp fit
    cases found : fieldOf key with
    | none =>
      have allowed : deny = false := by
        cases deny
        · rfl
        · simpa [found] using allKnown rfl (key, value) (List.mem_cons_self _ _)
      obtain ⟨slots', visited⟩ := visitMap_visitKeyBy_of_accepts identifier fieldMatch
        allKnownLater fitLater (by simpa [knownMembers, found] using distinct) fun m later =>
          decodes m (List.mem_cons_of_mem _ later)
      exact ⟨slots', by
        simpa [visitKeyBy_of_none found, unknownKey, allowed, fitHere found] using visited⟩
    | some field =>
      obtain ⟨empty, x, decoded⟩ := decodes (key, value) (List.mem_cons_self _ _) field found
      obtain ⟨middle, step⟩ := fieldMatch.accepts empty decoded
      obtain ⟨-, -, frame⟩ := fieldMatch.fills step
      rw [knownMembers, List.filter_cons_of_pos (by simp [found]), List.map_cons,
        List.nodup_cons] at distinct
      have later : ∀ m ∈ members, ∀ field', fieldOf m.1 = some field' →
          get middle field' = none ∧ ∃ x, decode field' m.2 = .ok x := by
        intro m member field' named
        have other : field' ≠ field := by
          rintro rfl
          refine distinct.1
            (List.mem_map.mpr ⟨m, List.mem_filter.mpr ⟨member, by simp [named]⟩, ?_⟩)
          rw [identifier.eq_name named, identifier.eq_name found]
        rw [frame field' other]
        exact decodes m (List.mem_cons_of_mem _ member) field' named
      obtain ⟨slots', visited⟩ := visitMap_visitKeyBy_of_accepts identifier fieldMatch
        allKnownLater fitLater distinct.2 later
      exact ⟨slots', by simp [visitKeyBy_of_some found, step, visited]⟩

/-! ## What a struct is read from -/

variable {empty : β} {finish : β → Except JsonError α}
  {fieldValue : α → (field : Field) → Content field} {Finished : α → Prop}

/-- A derived struct visitor, with a level left for the object, reads a value
`a` exactly from the objects whose members with known keys are, up to order,
one member per field holding a value that deserializes to `a`'s field, with
unknown keys only where they are allowed and their values nested no deeper
than the depth left. `finish` must read `a` off slots holding its fields (and
whatever else `a` must satisfy, `Finished`: a skipped field holds its
default). -/
theorem deserializeStruct_visitKeyBy_eq_ok_iff (identifier : FieldIdentifier fieldOf name all)
    (fieldMatch : FieldMatch decode get (visitField depth))
    (emptyGet : ∀ field, get empty field = none)
    (finishes : ∀ {slots a}, finish slots = .ok a ↔
      (∀ field, get slots field = some (fieldValue a field)) ∧ Finished a)
    (members : List (String × Json)) (a : α) :
    deserializeStruct (visitKeyBy deny fields fieldOf visitField) empty finish (depth + 1)
        (.obj members) = .ok a ↔
      (deny = true → ∀ m ∈ members, (fieldOf m.1).isSome) ∧ UnknownsFit fieldOf depth members ∧
      (∃ vals : Field → Json,
        (knownMembers fieldOf members).Perm (all.map fun field => (name field, vals field)) ∧
        ∀ field, decode field (vals field) = .ok (fieldValue a field)) ∧ Finished a := by
  rw [deserializeStruct_obj]
  constructor
  · intro accepted
    obtain ⟨slots, visited, finished⟩ := bind_eq_ok accepted
    obtain ⟨full, finishedValue⟩ := finishes.mp finished
    obtain ⟨allKnown, fit, distinct, filled, untouched⟩ :=
      visitMap_visitKeyBy_eq_ok fieldMatch visited
    -- every field is named by a member, whose value deserializes to the field
    have named : ∀ field, ∃ v, (name field, v) ∈ knownMembers fieldOf members ∧
        decode field v = .ok (fieldValue a field) := by
      intro field
      obtain ⟨m, member, found⟩ : ∃ m ∈ members, fieldOf m.1 = some field := by
        by_contra! unnamed
        simpa [untouched field unnamed, emptyGet] using full field
      obtain ⟨-, x, decoded, held⟩ := filled m member field found
      cases (full field).symm.trans held
      refine ⟨m.2, ?_, decoded⟩
      rw [← identifier.eq_name found]
      exact List.mem_filter.mpr ⟨member, by simp [found]⟩
    choose vals mem decodes using named
    exact ⟨allKnown, fit, ⟨vals, identifier.perm_of_mem distinct mem
      fun m member => (List.mem_filter.mp member).2, decodes⟩, finishedValue⟩
  · rintro ⟨allKnown, fit, ⟨vals, reordered, decodes⟩, finishedValue⟩
    have distinct : ((knownMembers fieldOf members).map Prod.fst).Nodup :=
      (reordered.map Prod.fst).nodup_iff.mpr (by simpa [List.map_map] using identifier.nodup_names)
    obtain ⟨slots, visited⟩ := visitMap_visitKeyBy_of_accepts identifier fieldMatch allKnown fit
      distinct fun m member field found => ⟨emptyGet field, fieldValue a field, by
        rw [identifier.eq_of_perm reordered (List.mem_filter.mpr ⟨member, by simp [found]⟩) found]
        exact decodes field⟩
    obtain ⟨-, -, -, filled, -⟩ := visitMap_visitKeyBy_eq_ok fieldMatch visited
    rw [visited, ok_bind]
    refine finishes.mpr ⟨fun field => ?_, finishedValue⟩
    have member : (name field, vals field) ∈ members := (List.mem_filter.mp
      (reordered.symm.subset (List.mem_map.mpr ⟨field, identifier.mem_all field, rfl⟩))).1
    obtain ⟨-, x, decoded, held⟩ := filled _ member field (identifier.fieldOf_name field)
    cases (decodes field).symm.trans decoded
    exact held

/-- Under `deny_unknown_fields` every key names a field, so nothing is left to
fit. -/
theorem unknownsFit_of_known {members : List (String × Json)}
    (allKnown : ∀ m ∈ members, (fieldOf m.1).isSome) : UnknownsFit fieldOf depth members :=
  fun m member unknown => by simpa [unknown] using allKnown m member

/-- Under `deny_unknown_fields`, an object read as `a` holds, up to order,
exactly one member per field, whose value deserializes to `a`'s field. -/
theorem deserializeStruct_deny_eq_ok_iff (identifier : FieldIdentifier fieldOf name all)
    (fieldMatch : FieldMatch decode get (visitField depth))
    (emptyGet : ∀ field, get empty field = none)
    (finishes : ∀ {slots a}, finish slots = .ok a ↔
      (∀ field, get slots field = some (fieldValue a field)) ∧ Finished a)
    (members : List (String × Json)) (a : α) :
    deserializeStruct (visitKeyBy true fields fieldOf visitField) empty finish (depth + 1)
        (.obj members) = .ok a ↔
      (∃ vals : Field → Json, members.Perm (all.map fun field => (name field, vals field)) ∧
        ∀ field, decode field (vals field) = .ok (fieldValue a field)) ∧ Finished a := by
  rw [deserializeStruct_visitKeyBy_eq_ok_iff identifier fieldMatch emptyGet finishes]
  constructor
  · rintro ⟨allKnown, -, ⟨vals, reordered, decodes⟩, finishedValue⟩
    rw [knownMembers, List.filter_eq_self.mpr (allKnown rfl)] at reordered
    exact ⟨⟨vals, reordered, decodes⟩, finishedValue⟩
  · rintro ⟨⟨vals, reordered, decodes⟩, finishedValue⟩
    have allKnown : ∀ m ∈ members, (fieldOf m.1).isSome := fun m member => by
      obtain ⟨field, -, rfl⟩ := List.mem_map.mp (reordered.subset member)
      simp [identifier.fieldOf_name]
    refine ⟨fun _ => allKnown, unknownsFit_of_known allKnown, ⟨vals, ?_, decodes⟩, finishedValue⟩
    rwa [knownMembers, List.filter_eq_self.mpr allKnown]

/-- When every field's deserializer is the exact inverse of its serializer
`encode`, the only member values read as `a`'s fields are their encodings. -/
theorem exists_decodes_iff {encode : (field : Field) → Content field → Json}
    (lawful : ∀ field value x, decode field value = .ok x ↔ encode field x = value) (a : α)
    {P : (Field → Json) → Prop} :
    (∃ vals : Field → Json,
      P vals ∧ ∀ field, decode field (vals field) = .ok (fieldValue a field)) ↔
      P fun field => encode field (fieldValue a field) := by
  simp only [lawful]
  constructor
  · rintro ⟨vals, holds, encoded⟩
    obtain rfl : vals = fun field => encode field (fieldValue a field) :=
      funext fun field => (encoded field).symm
    exact holds
  · exact fun holds => ⟨_, holds, fun _ => rfl⟩

/-- When every field's deserializer is the exact inverse of its serializer
`encode`, the objects read as `a` under `deny_unknown_fields` are the
reorderings of `a`'s own encoding. -/
theorem deserializeStruct_lawful_eq_ok_iff {encode : (field : Field) → Content field → Json}
    (lawful : ∀ field value x, decode field value = .ok x ↔ encode field x = value)
    (identifier : FieldIdentifier fieldOf name all)
    (fieldMatch : FieldMatch decode get (visitField depth))
    (emptyGet : ∀ field, get empty field = none)
    (finishes : ∀ {slots a}, finish slots = .ok a ↔
      (∀ field, get slots field = some (fieldValue a field)) ∧ Finished a)
    (members : List (String × Json)) (a : α) :
    deserializeStruct (visitKeyBy true fields fieldOf visitField) empty finish (depth + 1)
        (.obj members) = .ok a ↔
      members.Perm (all.map fun field => (name field, encode field (fieldValue a field))) ∧
        Finished a := by
  rw [deserializeStruct_deny_eq_ok_iff identifier fieldMatch emptyGet finishes,
    exists_decodes_iff lawful]

end DerivedStruct

end BitcoinBridge
