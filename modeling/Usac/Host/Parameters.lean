import Usac.Host.Raised
import Usac.Library.Packing
import Mathlib.Algebra.Order.Ring.Rat
import Mathlib.Data.Int.Range
import Mathlib.Data.List.Pairwise

namespace Usac.Host.Parameters

open Library

/-!
# The parameter registry

The register fields of `parameters.py`, the masks that place them in the
registers, and how a semantic value becomes a part of a register value and is
read back from it. The registry the repository ships is the last definition.
-/

/-- A value of a JSON document or a request, as Python holds it. A float is its
exact value; the floats that are no number pass no check and are left out. The
members of an array or an object are their JSON texts. -/
inductive Value where
  | none
  | boolean (value : Bool)
  | integer (value : Int)
  | float (value : ℚ)
  | text (value : String)
  | array (items : List String)
  | object (members : List (String × String))
  deriving DecidableEq

namespace Value

/-- The number a value is in a comparison. A boolean is zero or one. -/
def number? : Value → Option ℚ
  | boolean value => some (if value then 1 else 0)
  | integer value => some value
  | float value => some value
  | _ => Option.none

/-- `==` on values. -/
def equals (left right : Value) : Bool :=
  match left.number?, right.number? with
  | some first, some second => first = second
  | Option.none, Option.none => left = right
  | _, _ => false

@[simp] theorem equals_self (value : Value) : value.equals value = true := by
  unfold equals
  cases value.number? with
  | none => simp
  | some number => simp

/-- Equality does not depend on the order of its sides. -/
theorem equals_comm (left right : Value) :
    left.equals right = right.equals left := by
  unfold equals
  cases left.number? with
  | none =>
      cases right.number? with
      | none => simp [eq_comm]
      | some second => rfl
  | some first =>
      cases right.number? with
      | none => rfl
      | some second => simp [eq_comm]

end Value

/-- How a field is encoded. -/
inductive Encoding where
  | bool
  | uint (minimum maximum : Int)
  | enum (values : List (Int × Value))
  | unsupported (kind : String)

/-- `RegisterField`: what places and encodes a field. Python refuses a negative
shift wherever it shifts. -/
structure RegisterField where
  name : String
  address : Int
  mask : Int
  shift : Nat
  encoding : Encoding
  default : Value
  sweepable : Bool

/-- `repr` of a plain text. -/
def quoted (text : String) : String :=
  "\x27" ++ text ++ "\x27"

namespace RegisterField

/-- `RegisterField.encode`. -/
def encode (field : RegisterField) (semanticValue : Value) :
    Except Raised Int :=
  match field.encoding with
  | .bool =>
      match semanticValue with
      | .boolean value => .ok (if value then 1 else 0)
      | _ => .error (.valueError (field.name ++ " requires a boolean"))
  | .uint minimum maximum =>
      match semanticValue with
      | .integer value => do
          require (minimum ≤ value ∧ value ≤ maximum)
            (.valueError (field.name ++ " is outside its legal range"))
          pure value
      | _ => .error (.valueError (field.name ++ " requires an integer"))
  | .enum values =>
      match values.find? fun item => item.2.equals semanticValue with
      | some item => .ok item.1
      | none =>
          .error (.valueError (field.name ++ " has an unknown enum value"))
  | .unsupported kind =>
      .error (.valueError ("unsupported encoding kind " ++ quoted kind))

/-- `RegisterField.decode`. -/
def decode (field : RegisterField) (code : Int) : Except Raised Value :=
  match field.encoding with
  | .bool => do
      require (code = 0 ∨ code = 1)
        (.valueError (field.name ++ " has an invalid boolean code"))
      pure (.boolean (code ≠ 0))
  | .uint minimum maximum => do
      require (minimum ≤ code ∧ code ≤ maximum)
        (.valueError (field.name ++ " has an out-of-range register code"))
      pure (.integer code)
  | .enum values =>
      match values.find? fun item => item.1 = code with
      | some item => .ok item.2
      | none =>
          .error (.valueError (field.name ++ " has an unknown register code"))
  | .unsupported kind =>
      .error (.valueError ("unsupported encoding kind " ++ quoted kind))

/-- The codes an encoding has. -/
def HasCode (field : RegisterField) (code : Int) : Prop :=
  match field.encoding with
  | .bool => code = 0 ∨ code = 1
  | .uint minimum maximum => minimum ≤ code ∧ code ≤ maximum
  | .enum values => code ∈ values.map Prod.fst
  | .unsupported _ => False

/-- No two values of an enumeration share a code. -/
def DistinctCodes (field : RegisterField) : Prop :=
  match field.encoding with
  | .enum values => (values.map Prod.fst).Nodup
  | _ => True

/-- Every code of the encoding fits the mask of the field. -/
def RangeFits (field : RegisterField) : Prop :=
  ∀ code, field.HasCode code → Packing.Fits code field.mask field.shift

instance : (field : RegisterField) → Decidable field.DistinctCodes
  | ⟨_, _, _, _, .enum values, _, _⟩ =>
      inferInstanceAs (Decidable (values.map Prod.fst).Nodup)
  | ⟨_, _, _, _, .bool, _, _⟩ => .isTrue trivial
  | ⟨_, _, _, _, .uint _ _, _, _⟩ => .isTrue trivial
  | ⟨_, _, _, _, .unsupported _, _, _⟩ => .isTrue trivial

instance : (field : RegisterField) → Decidable field.RangeFits
  | ⟨_, _, mask, shift, .bool, _, _⟩ =>
      decidable_of_iff (Packing.Fits 0 mask shift ∧ Packing.Fits 1 mask shift)
        ⟨fun both _ known => known.elim (· ▸ both.1) (· ▸ both.2),
          fun fits => ⟨fits 0 (Or.inl rfl), fits 1 (Or.inr rfl)⟩⟩
  | ⟨_, _, mask, shift, .uint minimum maximum, _, _⟩ =>
      decidable_of_iff
        (∀ code, minimum ≤ code → code ≤ maximum →
          Packing.Fits code mask shift)
        ⟨fun all code known => all code known.1 known.2,
          fun fits code lower upper => fits code ⟨lower, upper⟩⟩
  | ⟨_, _, mask, shift, .enum values, _, _⟩ =>
      inferInstanceAs (Decidable
        (∀ code ∈ values.map Prod.fst, Packing.Fits code mask shift))
  | ⟨_, _, _, _, .unsupported _, _, _⟩ => .isTrue fun _ known => known.elim

variable {field : RegisterField} {value : Value} {code : Int}

/-- What is encoded is a code of the encoding. -/
theorem hasCode_of_encode
    (encoded : field.encode value = .ok code) :
    field.HasCode code := by
  unfold encode at encoded
  unfold HasCode
  cases kind : field.encoding with
  | bool =>
      rw [kind] at encoded
      cases value with
      | boolean flag =>
          obtain rfl := Except.ok.inj encoded
          cases flag with
          | false => exact Or.inl rfl
          | true => exact Or.inr rfl
      | _ => cases encoded
  | uint minimum maximum =>
      rw [kind] at encoded
      cases value with
      | integer number =>
          obtain ⟨⟨⟩, inRange, same⟩ := bind_eq_ok.1 encoded
          obtain rfl := Except.ok.inj same
          exact require_eq_ok.1 inRange
      | _ => cases encoded
  | enum values =>
      rw [kind] at encoded
      cases found : values.find? fun item => item.2.equals value with
      | none =>
          simp only [found] at encoded
          cases encoded
      | some item =>
          simp only [found] at encoded
          obtain rfl := Except.ok.inj encoded
          exact List.mem_map_of_mem (List.mem_of_find?_eq_some found)
  | unsupported kindName =>
      rw [kind] at encoded
      cases encoded

/-- The item with a code is found by it when the codes are distinct. -/
theorem find?_code
    {values : List (Int × Value)}
    (distinct : (values.map Prod.fst).Nodup)
    {item : Int × Value}
    (member : item ∈ values) :
    values.find? (fun other => other.1 = item.1) = some item := by
  induction values with
  | nil =>
      cases member
  | cons first rest inductionHypothesis =>
      obtain ⟨fresh, others⟩ := List.nodup_cons.1 distinct
      rcases List.mem_cons.1 member with rfl | later
      · simp
      · have apart : first.1 ≠ item.1 := by
          intro same
          exact fresh (same ▸ List.mem_map_of_mem later)
        rw [List.find?_cons_of_neg (by simpa using apart)]
        exact inductionHypothesis others later

/-- What was encoded is decoded to an equal value. -/
theorem decode_encode
    (distinct : field.DistinctCodes)
    (encoded : field.encode value = .ok code) :
    ∃ decoded, field.decode code = .ok decoded ∧
      decoded.equals value = true := by
  unfold encode at encoded
  unfold DistinctCodes at distinct
  unfold decode
  cases kind : field.encoding with
  | bool =>
      rw [kind] at encoded
      cases value with
      | boolean flag =>
          obtain rfl := Except.ok.inj encoded
          cases flag with
          | false => exact ⟨_, rfl, rfl⟩
          | true => exact ⟨_, rfl, rfl⟩
      | _ => cases encoded
  | uint minimum maximum =>
      rw [kind] at encoded
      cases value with
      | integer number =>
          obtain ⟨⟨⟩, inRange, same⟩ := bind_eq_ok.1 encoded
          obtain rfl := Except.ok.inj same
          refine ⟨.integer number, ?_, Value.equals_self _⟩
          exact bind_eq_ok.2
            ⟨(), require_eq_ok.2 (require_eq_ok.1 inRange), rfl⟩
      | _ => cases encoded
  | enum values =>
      rw [kind] at encoded distinct
      cases found : values.find? fun item => item.2.equals value with
      | none =>
          simp only [found] at encoded
          cases encoded
      | some item =>
          simp only [found] at encoded
          obtain rfl := Except.ok.inj encoded
          refine ⟨item.2, ?_, by simpa using List.find?_some found⟩
          simp only [find?_code distinct (List.mem_of_find?_eq_some found)]
  | unsupported kindName =>
      rw [kind] at encoded
      cases encoded

end RegisterField

/-- What a field outside the registers may hold. -/
inductive NonregisterKind where
  | bool
  | integer (minimum maximum : Int)
  | number (minimum maximum : ℚ)
  | enum (values : List Value)
  | object
  | constant (value : Value)
  | other (kind : String)

/-- A field outside the registers. -/
structure NonregisterField where
  kind : NonregisterKind
  default? : Option Value
  readOnly : Bool
  sweepable : Bool

/-- `ParameterSchema`: three dictionaries, in the order of their entries. -/
structure ParameterSchema where
  registerFields : List (String × RegisterField)
  nonregisterFields : List (String × NonregisterField)
  registerWriteMasks : List (Int × Int)
  fieldNames : (registerFields.map Prod.fst).Nodup
  nonregisterNames : (nonregisterFields.map Prod.fst).Nodup
  addresses : (registerWriteMasks.map Prod.fst).Nodup

namespace ParameterSchema

/-- One turn of the loop in `combined_masks`. -/
def combineField (combined : List (Int × Int)) (field : RegisterField) :
    Except Raised (List (Int × Int)) :=
  match combined.lookup field.address with
  | none =>
      .error (.valueError
        ("field " ++ field.name ++ " uses an undeclared register"))
  | some mask => do
      require (mask.land field.mask = 0)
        (.valueError ("field " ++ field.name ++ " overlaps another field"))
      let widthMask := field.mask >>> field.shift
      require (field.mask = widthMask <<< field.shift)
        (.valueError
          ("field " ++ field.name ++ " mask is not aligned to shift"))
      pure (combined.map fun entry =>
        if entry.1 = field.address then
          (entry.1, entry.2.lor field.mask)
        else
          entry)

/-- `combined_masks`. The result has the addresses of the write masks in their
order, so the dictionaries are equal when the lists are. -/
def combinedMasks (schema : ParameterSchema) :
    Except Raised (List (Int × Int)) := do
  let combined ← (schema.registerFields.map Prod.snd).foldlM combineField
    (schema.registerWriteMasks.map fun entry => (entry.1, 0))
  require (combined = schema.registerWriteMasks)
    (.valueError "field masks do not exactly cover register write masks")
  pure combined

/-- The field of a name. -/
def registerField (schema : ParameterSchema) (name : String) :
    Except Raised RegisterField :=
  match schema.registerFields.lookup name with
  | some field => .ok field
  | none => .error ⟨.keyError, quoted name⟩

/-- `encode_field`. -/
def encodeField
    (schema : ParameterSchema)
    (name : String)
    (semanticValue : Value)
    (registerValue : Int) :
    Except Raised Int := do
  let field ← schema.registerField name
  let code ← field.encode semanticValue
  let widthMask := field.mask >>> field.shift
  require (code.land widthMask.lnot = 0)
    (.valueError (name ++ " does not fit its register field"))
  pure ((registerValue.land field.mask.lnot).lor
    ((code <<< field.shift).land field.mask))

/-- `decode_field`. -/
def decodeField
    (schema : ParameterSchema)
    (name : String)
    (registerValue : Int) :
    Except Raised Value := do
  let field ← schema.registerField name
  field.decode (registerValue.land field.mask >>> field.shift)

/-- The entry of a name is looked up under it when the names are distinct. -/
theorem lookup_eq_some_iff_mem
    {Entry : Type}
    {entries : List (String × Entry)}
    (distinct : (entries.map Prod.fst).Nodup)
    {name : String}
    {entry : Entry} :
    entries.lookup name = some entry ↔ (name, entry) ∈ entries := by
  induction entries with
  | nil =>
      simp
  | cons first rest inductionHypothesis =>
      obtain ⟨fresh, others⟩ := List.nodup_cons.1 distinct
      obtain ⟨firstName, firstEntry⟩ := first
      rw [List.lookup_cons, List.mem_cons, Prod.mk.injEq]
      by_cases here : name = firstName
      · subst here
        have absent : (name, entry) ∉ rest := by
          intro member
          exact fresh (List.mem_map.2 ⟨_, member, rfl⟩)
        simp [absent, eq_comm]
      · rw [beq_eq_false_iff_ne.2 here]
        simp [here, inductionHypothesis others]

/-- A register field of the schema under its name. -/
theorem registerField_eq_ok
    {schema : ParameterSchema}
    {name : String}
    {field : RegisterField} :
    schema.registerField name = .ok field ↔
      (name, field) ∈ schema.registerFields := by
  have found :
      schema.registerFields.lookup name = some field ↔
        (name, field) ∈ schema.registerFields :=
    lookup_eq_some_iff_mem schema.fieldNames
  rw [← found, registerField]
  cases schema.registerFields.lookup name with
  | none => simp
  | some other => simp

/-- What has been placed: every field is aligned, its mask is within the
combined mask of its register, and no two fields of a register share a bit. -/
structure Placed
    (fields : List RegisterField)
    (combined : List (Int × Int)) :
    Prop where
  aligned : ∀ field ∈ fields, Packing.Aligned field.mask field.shift
  covered : ∀ field ∈ fields, ∃ mask,
    combined.lookup field.address = some mask ∧
      Packing.Within field.mask mask
  apart : fields.Pairwise fun first second =>
    first.address = second.address → first.mask.land second.mask = 0

/-- Looking up an entry after one entry has changed. -/
theorem lookup_map_entry
    {entries : List (Int × Int)}
    {changed wanted : Int}
    {change : Int → Int} :
    (entries.map fun entry =>
        if entry.1 = changed then (entry.1, change entry.2) else entry).lookup
      wanted =
      (entries.lookup wanted).map
        (if wanted = changed then change else id) := by
  induction entries with
  | nil =>
      rfl
  | cons entry rest inductionHypothesis =>
      obtain ⟨address, mask⟩ := entry
      rw [List.map_cons]
      by_cases here : wanted = address
      · subst here
        by_cases same : wanted = changed <;> simp [same]
      · have other : (wanted == address) = false := beq_eq_false_iff_ne.2 here
        by_cases same : address = changed
        · subst same
          simp [List.lookup_cons, other, here, inductionHypothesis]
        · simp [List.lookup_cons, other, same, inductionHypothesis]

/-- A turn of the loop places one field more. -/
theorem Placed.combineField
    {fields : List RegisterField}
    {combined after : List (Int × Int)}
    {field : RegisterField}
    (placed : Placed fields combined)
    (turned : combineField combined field = .ok after) :
    Placed (fields ++ [field]) after := by
  unfold ParameterSchema.combineField at turned
  cases declared : combined.lookup field.address with
  | none =>
      simp only [declared] at turned
      cases turned
  | some mask =>
      simp only [declared, bind_eq_ok, require_eq_ok] at turned
      obtain ⟨⟨⟩, disjoint, ⟨⟩, aligned, changed⟩ := turned
      obtain rfl := Except.ok.inj changed
      refine ⟨?_, ?_, ?_⟩
      · intro other member
        rcases List.mem_append.1 member with earlier | here
        · exact placed.aligned other earlier
        · obtain rfl := List.mem_singleton.1 here
          exact aligned
      · intro other member
        rw [@lookup_map_entry _ _ _ fun mask => mask.lor field.mask]
        rcases List.mem_append.1 member with earlier | here
        · obtain ⟨whole, found, within⟩ := placed.covered other earlier
          rw [found]
          by_cases same : other.address = field.address
          · exact ⟨_, by rw [if_pos same]; rfl, within.lor⟩
          · exact ⟨_, by rw [if_neg same]; rfl, within⟩
        · obtain rfl := List.mem_singleton.1 here
          rw [declared]
          exact ⟨_, by rw [if_pos rfl]; rfl, Packing.within_lor⟩
      · rw [List.pairwise_append]
        refine ⟨placed.apart, List.pairwise_singleton _ _, ?_⟩
        intro other member last here sameAddress
        obtain rfl := List.mem_singleton.1 here
        obtain ⟨whole, found, within⟩ := placed.covered other member
        rw [sameAddress, declared] at found
        obtain rfl := Option.some.inj found
        exact within.disjoint disjoint

/-- The loop places every field. -/
theorem Placed.foldlM
    {fields rest : List RegisterField}
    {combined after : List (Int × Int)}
    (placed : Placed fields combined)
    (looped : rest.foldlM ParameterSchema.combineField combined = .ok after) :
    Placed (fields ++ rest) after := by
  induction rest generalizing fields combined with
  | nil =>
      obtain rfl := Except.ok.inj looped
      rwa [List.append_nil]
  | cons field rest inductionHypothesis =>
      obtain ⟨between, turned, others⟩ := bind_eq_ok.1 looped
      have further := inductionHypothesis (placed.combineField turned) others
      rwa [List.append_assoc] at further

/-- The fields of a schema that passes `combined_masks` are placed. -/
theorem placed_of_combinedMasks
    {schema : ParameterSchema}
    {combined : List (Int × Int)}
    (passed : schema.combinedMasks = .ok combined) :
    Placed (schema.registerFields.map Prod.snd) combined := by
  obtain ⟨masks, looped, checked⟩ := bind_eq_ok.1 passed
  obtain ⟨⟨⟩, -, same⟩ := bind_eq_ok.1 checked
  obtain rfl := Except.ok.inj same
  have nothing :
      Placed []
        (schema.registerWriteMasks.map fun entry => (entry.1, 0)) :=
    ⟨fun _ member => absurd member List.not_mem_nil,
      fun _ member => absurd member List.not_mem_nil, List.Pairwise.nil⟩
  exact nothing.foldlM looped

/-- Two names of a schema that passes `combined_masks` share no bit of a
register. -/
theorem Placed.disjoint
    {schema : ParameterSchema}
    {combined : List (Int × Int)}
    (placed : Placed (schema.registerFields.map Prod.snd) combined)
    {name other : String}
    {field otherField : RegisterField}
    (member : (name, field) ∈ schema.registerFields)
    (otherMember : (other, otherField) ∈ schema.registerFields)
    (different : other ≠ name)
    (sameAddress : otherField.address = field.address) :
    field.mask.land otherField.mask = 0 := by
  have apart := List.pairwise_map.1 placed.apart
  have symmetric : Std.Symm fun first second : String × RegisterField =>
      first.2.address = second.2.address →
        first.2.mask.land second.2.mask = 0 := by
    constructor
    intro first second given same
    rw [Packing.land_comm]
    exact given same.symm
  apply apart.forall member otherMember
  · intro same
    exact different (congrArg Prod.fst same).symm
  · exact sameAddress.symm

variable
  {schema : ParameterSchema}
  {combined : List (Int × Int)}
  {name : String}
  {field : RegisterField}

/-- What `encode_field` returns is the code packed under the mask. -/
theorem encodeField_eq_ok
    (member : (name, field) ∈ schema.registerFields)
    {value : Value}
    {registerValue result : Int} :
    schema.encodeField name value registerValue = .ok result ↔
      ∃ code, field.encode value = .ok code ∧
        Packing.Fits code field.mask field.shift ∧
        Packing.pack registerValue field.mask field.shift code = result := by
  rw [encodeField, registerField_eq_ok.2 member, ok_bind, bind_eq_ok]
  constructor
  · rintro ⟨code, encoded, checked⟩
    obtain ⟨⟨⟩, fits, same⟩ := bind_eq_ok.1 checked
    exact ⟨code, encoded, require_eq_ok.1 fits, Except.ok.inj same⟩
  · rintro ⟨code, encoded, fits, same⟩
    exact ⟨code, encoded,
      bind_eq_ok.2 ⟨(), require_eq_ok.2 fits, congrArg Except.ok same⟩⟩

/-- `decode_field` decodes the code under the mask. -/
theorem decodeField_eq
    (member : (name, field) ∈ schema.registerFields)
    (registerValue : Int) :
    schema.decodeField name registerValue =
      field.decode (Packing.unpack registerValue field.mask field.shift) := by
  rw [decodeField, registerField_eq_ok.2 member, ok_bind]
  rfl

/-- What was encoded into a register is decoded from it. -/
theorem Placed.decodeField_encodeField
    (placed : Placed (schema.registerFields.map Prod.snd) combined)
    (member : (name, field) ∈ schema.registerFields)
    (distinct : field.DistinctCodes)
    {value : Value}
    {registerValue result : Int}
    (encoded : schema.encodeField name value registerValue = .ok result) :
    ∃ decoded, schema.decodeField name result = .ok decoded ∧
      decoded.equals value = true := by
  obtain ⟨code, accepted, fits, rfl⟩ := (encodeField_eq_ok member).1 encoded
  have aligned := placed.aligned field (List.mem_map.2 ⟨_, member, rfl⟩)
  rw [decodeField_eq member, Packing.unpack_pack aligned fits]
  exact RegisterField.decode_encode distinct accepted

/-- Encoding a field leaves the other fields of the register. -/
theorem Placed.decodeField_other
    (placed : Placed (schema.registerFields.map Prod.snd) combined)
    (member : (name, field) ∈ schema.registerFields)
    {other : String}
    {otherField : RegisterField}
    (otherMember : (other, otherField) ∈ schema.registerFields)
    (different : other ≠ name)
    (sameAddress : otherField.address = field.address)
    {value : Value}
    {registerValue result : Int}
    (encoded : schema.encodeField name value registerValue = .ok result) :
    schema.decodeField other result =
      schema.decodeField other registerValue := by
  obtain ⟨code, -, -, rfl⟩ := (encodeField_eq_ok member).1 encoded
  rw [decodeField_eq otherMember, decodeField_eq otherMember,
    Packing.unpack_pack_of_disjoint
      (placed.disjoint member otherMember different sameAddress)]

/-- Encoding a field leaves the bits outside its mask. -/
theorem land_lnot_encodeField
    (member : (name, field) ∈ schema.registerFields)
    {value : Value}
    {registerValue result : Int}
    (encoded : schema.encodeField name value registerValue = .ok result) :
    result.land field.mask.lnot = registerValue.land field.mask.lnot := by
  obtain ⟨code, -, -, rfl⟩ := (encodeField_eq_ok member).1 encoded
  exact Packing.land_lnot_pack

/-- A value that its field encodes fits the register when the ranges do. -/
theorem exists_encodeField
    (member : (name, field) ∈ schema.registerFields)
    (fits : field.RangeFits)
    {value : Value}
    {code : Int}
    (accepted : field.encode value = .ok code)
    (registerValue : Int) :
    ∃ result, schema.encodeField name value registerValue = .ok result :=
  ⟨_, (encodeField_eq_ok member).2
    ⟨code, accepted, fits code (RegisterField.hasCode_of_encode accepted),
      rfl⟩⟩

end ParameterSchema

/-- The register fields of the shipped registry. -/
def tuss4470RegisterFields : List RegisterField :=
  [⟨"BPF_HPF_FREQ", 0x10, 63, 0, .uint 0 63, .integer 46, true⟩,
    ⟨"BPF_BYPASS", 0x10, 64, 6,
      .enum [(0, .text "bpf_enabled"), (1, .text "hpf_enabled")],
      .text "bpf_enabled", true⟩,
    ⟨"BPF_FC_TRIM_FRC", 0x10, 128, 7,
      .enum [(0, .text "factory"), (1, .text "override")],
      .text "factory", true⟩,
    ⟨"BPF_FC_TRIM", 0x11, 15, 0, .uint 0 15, .integer 0, true⟩,
    ⟨"BPF_Q_SEL", 0x11, 48, 4,
      .enum [
        (0, .text "q4"), (1, .text "q5"), (2, .text "q2"), (3, .text "q3")],
      .text "q4", true⟩,
    ⟨"LOGAMP_INT_ADJ", 0x12, 15, 0, .uint 0 15, .integer 0, true⟩,
    ⟨"LOGAMP_SLOPE_ADJ", 0x12, 112, 4, .uint 0 7, .integer 0, true⟩,
    ⟨"LOGAMP_FRC", 0x12, 128, 7,
      .enum [(0, .text "factory"), (1, .text "override")],
      .text "factory", true⟩,
    ⟨"LNA_GAIN", 0x13, 3, 0,
      .enum [
        (0, .text "15_v_per_v"), (1, .text "10_v_per_v"),
        (2, .text "20_v_per_v"), (3, .text "12.5_v_per_v")],
      .text "15_v_per_v", true⟩,
    ⟨"VOUT_SCALE_SEL", 0x13, 4, 2,
      .enum [(0, .text "3.3_v"), (1, .text "5.0_v")],
      .text "3.3_v", true⟩,
    ⟨"LOGAMP_DIS_LAST_GM", 0x13, 64, 6, .bool, .boolean false, true⟩,
    ⟨"LOGAMP_DIS_FIRST_GM", 0x13, 128, 7, .bool, .boolean false, true⟩,
    ⟨"IO_MODE", 0x14, 3, 0,
      .enum [
        (0, .text "io_mode_0"), (1, .text "io_mode_1"), (2, .text "io_mode_2"),
        (3, .text "io_mode_3")],
      .text "io_mode_3", true⟩,
    ⟨"DRV_PLS_FLT_DT", 0x14, 28, 2,
      .enum [
        (0, .text "64_us"), (1, .text "48_us"), (2, .text "32_us"),
        (3, .text "24_us"), (4, .text "16_us"), (5, .text "8_us"),
        (6, .text "4_us"), (7, .text "disabled")],
      .text "64_us", true⟩,
    ⟨"VDRV_VOLTAGE_LEVEL", 0x16, 15, 0, .uint 0 15, .integer 0, true⟩,
    ⟨"VDRV_CURRENT_LEVEL", 0x16, 16, 4,
      .enum [(0, .text "10_ma"), (1, .text "20_ma")],
      .text "10_ma", true⟩,
    ⟨"VDRV_HI_Z", 0x16, 32, 5, .bool, .boolean false, false⟩,
    ⟨"DIS_VDRV_REG_LSTN", 0x16, 64, 6, .bool, .boolean true, false⟩,
    ⟨"ECHO_INT_THR_SEL", 0x17, 15, 0, .uint 0 15, .integer 7, true⟩,
    ⟨"ECHO_INT_CMP_EN", 0x17, 16, 4, .bool, .boolean false, true⟩,
    ⟨"ZC_CMP_HYST", 0x18, 7, 0,
      .enum [
        (0, .text "30_mv"), (1, .text "80_mv"), (2, .text "130_mv"),
        (3, .text "180_mv"), (4, .text "230_mv"), (5, .text "280_mv"),
        (6, .text "330_mv"), (7, .text "380_mv")],
      .text "230_mv", true⟩,
    ⟨"ZC_CMP_STG_SEL", 0x18, 24, 3, .uint 0 3, .integer 2, true⟩,
    ⟨"ZC_CMP_IN_SEL", 0x18, 32, 5,
      .enum [(0, .text "inp_minus_vcm"), (1, .text "inp_minus_inn")],
      .text "inp_minus_vcm", true⟩,
    ⟨"ZC_EN_ECHO_INT", 0x18, 64, 6, .bool, .boolean false, true⟩,
    ⟨"ZC_CMP_EN", 0x18, 128, 7, .bool, .boolean false, true⟩,
    ⟨"BURST_PULSE", 0x1A, 63, 0, .uint 0 63, .integer 1, true⟩,
    ⟨"PRE_DRIVER_MODE", 0x1A, 64, 6, .bool, .boolean false, false⟩,
    ⟨"HALF_BRG_MODE", 0x1A, 128, 7, .bool, .boolean false, true⟩,
    ⟨"CMD_TRIGGER", 0x1B, 1, 0, .bool, .boolean false, false⟩,
    ⟨"VDRV_TRIGGER", 0x1B, 2, 1, .bool, .boolean true, false⟩,
    ⟨"STDBY_MODE_EN", 0x1B, 64, 6, .bool, .boolean false, false⟩,
    ⟨"SLEEP_MODE_EN", 0x1B, 128, 7, .bool, .boolean false, false⟩]

/-- The other fields of the shipped registry. -/
def tuss4470NonregisterFields : List (String × NonregisterField) :=
  [("requested_burst_frequency_hz",
      ⟨.integer 30000 1000000, some (.integer 480000), false, true⟩),
    ("burst_period_ticks", ⟨.integer 24 800, some (.integer 50), false, false⟩),
    ("requested_sample_rate_hz",
      ⟨.integer 25000 200000, some (.integer 200000), false, true⟩),
    ("requested_record_ms",
      ⟨.number (5764607523034235 / 562949953421312)
        (5764607523034235 / 70368744177664),
        some (.float (5764607523034235 / 562949953421312)), false, true⟩),
    ("sample_interval_ticks",
      ⟨.integer 120 960, some (.integer 120), false, false⟩),
    ("sample_count", ⟨.constant (.integer 2048), none, true, false⟩),
    ("pretrigger_count", ⟨.integer 0 2047, some (.integer 64), false, true⟩),
    ("out3_enabled", ⟨.bool, some (.boolean false), false, true⟩),
    ("out4_enabled", ⟨.bool, some (.boolean false), false, true⟩),
    ("loops", ⟨.integer 0 4294967295, some (.integer 1), false, false⟩),
    ("start_delay_ms", ⟨.integer 0 3600000, some (.integer 0), false, false⟩),
    ("loop_delay_ms", ⟨.integer 0 3600000, some (.integer 0), false, false⟩),
    ("sweep", ⟨.object, some (.object []), false, false⟩),
    ("trigger_source",
      ⟨.enum
          [.text "SOFTWARE", .text "EXTERNAL_SYNC_SLAVE",
            .text "EXTERNAL_SYNC_MASTER"],
        some (.text "SOFTWARE"), false, false⟩),
    ("sync_timeout_ms", ⟨.integer 0 60000, some (.integer 0), false, false⟩)]

/-- The registry the repository ships. -/
def tuss4470Parameters : ParameterSchema where
  registerFields :=
    tuss4470RegisterFields.map fun field => (field.name, field)
  nonregisterFields := tuss4470NonregisterFields
  registerWriteMasks :=
    [(0x10, 255), (0x11, 63), (0x12, 255), (0x13, 199), (0x14, 31),
     (0x16, 127), (0x17, 31), (0x18, 255), (0x1A, 255), (0x1B, 195)]
  fieldNames := by decide +kernel
  nonregisterNames := by decide +kernel
  addresses := by decide

/-- The shipped registry passes `combined_masks`. -/
theorem combinedMasks_tuss4470Parameters :
    tuss4470Parameters.combinedMasks =
      .ok tuss4470Parameters.registerWriteMasks := by
  decide +kernel

/-- The codes of the shipped registry are distinct. -/
theorem distinctCodes_tuss4470Parameters :
    ∀ entry ∈ tuss4470Parameters.registerFields, entry.2.DistinctCodes := by
  decide +kernel

/-- The ranges of the shipped registry fit their masks. -/
theorem rangeFits_tuss4470Parameters :
    ∀ entry ∈ tuss4470Parameters.registerFields, entry.2.RangeFits := by
  decide +kernel

end Usac.Host.Parameters
