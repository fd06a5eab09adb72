import ShadowLint.Proofs.Json.Reading

/-!
# Schemas

A `Shape` is what a schema says about values: which of them conform to it, and which of them say
the same.  It is written down without any regard to what is read from a value, and
`Shape.Describes` ties it to a meaning: the conforming values are those that have one, and values
that say the same have the same.

Records are where values may differ and still say the same.  An object may have its members in
any order and members that no field asks for, and an array of the fields stands for an object.
-/

namespace ShadowLint.Json

variable {α β γ ρ : Type}

/-- What a schema says about values. -/
structure Shape where
  /-- The values that the schema allows. -/
  conforms : Value → Prop
  /-- The values that only differ in what the schema leaves open. -/
  alike : Value → Value → Prop
  alike_refl : ∀ value, alike value value

/-- The conforming values are those with a meaning, and alike ones have the same. -/
structure Shape.Describes (shape : Shape) (meaning : Meaning α) : Prop where
  conforms_iff : ∀ value, shape.conforms value ↔ ∃ result, meaning value result
  alike : ∀ {value other}, shape.alike value other →
    ∀ result, meaning value result ↔ meaning other result

namespace Shape

/-! ## Single values and arrays -/

/-- A kind of values of which no two say the same. -/
def plain (conforms : Value → Prop) : Shape := ⟨conforms, Eq, fun _ => rfl⟩

/-- Strings. -/
def text : Shape := plain fun value => ∃ text, value = .string text

/-- A value is a literal of an integer: it has neither a sign nor a fraction nor a power of ten. -/
def IsLiteral (value : Value) (n : Nat) : Prop :=
  ∃ digits, value = .number ⟨false, digits, [], none⟩ ∧ ofDigits digits = n

/-- Literals of integers of 32 bits. -/
def natural32 : Shape := plain fun value => ∃ n, IsLiteral value n ∧ n < 4294967296

/-- Null in addition to other values. -/
def nullable (shape : Shape) : Shape where
  conforms value := value = .null ∨ shape.conforms value
  alike value other :=
    value = other ∨ value ≠ .null ∧ other ≠ .null ∧ shape.alike value other
  alike_refl _ := .inl rfl

/-- Arrays of any number of items. -/
def list (shape : Shape) : Shape where
  conforms value := ∃ items, value = .array items ∧ ∀ item ∈ items, shape.conforms item
  alike value other :=
    value = other ∨ ∃ items others, value = .array items ∧ other = .array others ∧
      List.Forall₂ shape.alike items others
  alike_refl _ := .inl rfl

theorem describes_plain {conforms : Value → Prop} {meaning : Meaning α}
    (conforms_iff : ∀ value, conforms value ↔ ∃ result, meaning value result) :
    (plain conforms).Describes meaning where
  conforms_iff := conforms_iff
  alike same result := by
    cases same
    rfl

theorem describes_text : text.Describes MeansText := by
  refine describes_plain fun value => ?_
  constructor
  · rintro ⟨content, rfl⟩
    exact ⟨content, .mk⟩
  · rintro ⟨content, ⟨⟩⟩
    exact ⟨content, rfl⟩

/-- What a number of 32 bits stands for is its literal. -/
theorem means_natural32_iff {value : Value} {n : UInt32} :
    MeansNatural32 value n ↔ IsLiteral value n.toNat := by
  constructor
  · rintro ⟨same⟩
    exact ⟨_, rfl, same⟩
  · rintro ⟨digits, rfl, same⟩
    exact .mk same

theorem exists_natural32_iff {n : Nat} : (∃ m : UInt32, m.toNat = n) ↔ n < 4294967296 := by
  constructor
  · rintro ⟨m, rfl⟩
    exact m.toNat_lt
  · intro small
    exact ⟨UInt32.ofNat n, UInt32.toNat_ofNat_of_lt small⟩

theorem describes_natural32 : natural32.Describes MeansNatural32 := by
  refine describes_plain fun value => ?_
  constructor
  · rintro ⟨n, literal, small⟩
    obtain ⟨m, rfl⟩ := exists_natural32_iff.2 small
    exact ⟨m, means_natural32_iff.2 literal⟩
  · rintro ⟨m, means⟩
    exact ⟨m.toNat, means_natural32_iff.1 means, m.toNat_lt⟩

theorem describes_nullable {shape : Shape} {meaning : Meaning α}
    (describes : shape.Describes meaning) :
    (nullable shape).Describes (MeansNullable meaning) where
  conforms_iff value := by
    constructor
    · intro conforms
      by_cases isNull : value = .null
      · subst isNull
        exact ⟨none, .null⟩
      · obtain ⟨result, means⟩ :=
          (describes.conforms_iff value).1 (conforms.resolve_left isNull)
        exact ⟨some result, .some isNull means⟩
    · rintro ⟨result, means⟩
      cases means with
      | null => exact .inl rfl
      | some _ means => exact .inr ((describes.conforms_iff value).2 ⟨_, means⟩)
  alike same result := by
    rcases same with rfl | ⟨notNull, otherNotNull, same⟩
    · rfl
    · constructor
      · intro means
        cases means with
        | null => exact absurd rfl notNull
        | some _ means => exact .some otherNotNull ((describes.alike same _).1 means)
      · intro means
        cases means with
        | null => exact absurd rfl otherNotNull
        | some _ means => exact .some notNull ((describes.alike same _).2 means)

theorem Describes.items_iff {shape : Shape} {meaning : Meaning α}
    (describes : shape.Describes meaning) (items : List Value) :
    (∀ item ∈ items, shape.conforms item) ↔ ∃ results, List.Forall₂ meaning items results := by
  induction items with
  | nil => exact ⟨fun _ => ⟨[], .nil⟩, fun _ item none => by cases none⟩
  | cons head rest ih =>
      rw [List.forall_mem_cons, describes.conforms_iff, ih]
      constructor
      · rintro ⟨⟨first, means⟩, results, meansRest⟩
        exact ⟨first :: results, .cons means meansRest⟩
      · rintro ⟨_, _ | ⟨means, meansRest⟩⟩
        exact ⟨⟨_, means⟩, _, meansRest⟩

theorem Describes.forall₂_iff {shape : Shape} {meaning : Meaning α}
    (describes : shape.Describes meaning) {items others : List Value}
    (same : List.Forall₂ shape.alike items others) (results : List α) :
    List.Forall₂ meaning items results ↔ List.Forall₂ meaning others results := by
  induction same generalizing results with
  | nil => rfl
  | cons first _ ih =>
      rw [List.forall₂_cons_left_iff, List.forall₂_cons_left_iff]
      simp only [describes.alike first, ih]

theorem describes_list {shape : Shape} {meaning : Meaning α}
    (describes : shape.Describes meaning) : (list shape).Describes (MeansList meaning) where
  conforms_iff value := by
    constructor
    · rintro ⟨items, rfl, each⟩
      obtain ⟨results, means⟩ := (describes.items_iff items).1 each
      exact ⟨results, .mk means⟩
    · rintro ⟨results, ⟨means⟩⟩
      exact ⟨_, rfl, (describes.items_iff _).2 ⟨results, means⟩⟩
  alike same result := by
    rcases same with rfl | ⟨items, others, rfl, rfl, same⟩
    · rfl
    · constructor
      · rintro ⟨means⟩
        exact .mk ((describes.forall₂_iff same result).1 means)
      · rintro ⟨means⟩
        exact .mk ((describes.forall₂_iff same result).2 means)

end Shape

/-! ## Records -/

/-- A field of a record. -/
structure Field where
  name : String
  required : Bool
  shape : Shape

/-- The keys of an object, with repetitions. -/
def keys (members : List (String × Value)) : List String := members.map Prod.fst

/-- The values that are records with the given fields. -/
inductive ConformsRecord (fields : List Field) : Value → Prop
  /-- In an object no known key is repeated, no required one is missing, and what stands under
  a known key conforms to its field. -/
  | object {members : List (String × Value)} :
      (∀ field ∈ fields, (keys members).count field.name ≤ 1) →
      (∀ field ∈ fields, field.required = true → field.name ∈ keys members) →
      (∀ field ∈ fields, ∀ value, (field.name, value) ∈ members → field.shape.conforms value) →
      ConformsRecord fields (.object members)
  /-- An array has the fields in their order; only trailing ones that are not required may be
  missing, and there are no other items. -/
  | array {items : List Value} :
      items.length ≤ fields.length →
      (∀ field ∈ fields.drop items.length, field.required = false) →
      (∀ pair ∈ fields.zip items, pair.1.shape.conforms pair.2) →
      ConformsRecord fields (.array items)

/-- The fields of two records say the same. -/
inductive AlikeContents : List Field → List (Option Value) → List (Option Value) → Prop
  | nil : AlikeContents [] [] []
  | cons {field : Field} {fields : List Field} {content other : Option Value}
      {contents others : List (Option Value)} : Option.Rel field.shape.alike content other →
      AlikeContents fields contents others →
      AlikeContents (field :: fields) (content :: contents) (other :: others)

/-- Records with the given fields. -/
def Shape.record (fields : List Field) : Shape where
  conforms := ConformsRecord fields
  alike value other :=
    value = other ∨ ∃ contents others, Fields (fields.map Field.name) value contents ∧
      Fields (fields.map Field.name) other others ∧ AlikeContents fields contents others
  alike_refl _ := .inl rfl

/-- The contents that a field may have. -/
inductive Field.Fits (field : Field) : Option Value → Prop
  | given {value : Value} : field.shape.conforms value → Fits field (some value)
  | absent : field.required = false → Fits field none

theorem mem_under_iff {name : String} {members : List (String × Value)} {value : Value} :
    value ∈ under name members ↔ (name, value) ∈ members := by
  unfold under
  constructor
  · intro inside
    obtain ⟨⟨key, content⟩, found, rfl⟩ := List.mem_map.1 inside
    obtain ⟨stands, same⟩ := List.mem_filter.1 found
    rwa [← of_decide_eq_true same]
  · intro found
    exact List.mem_map.2 ⟨(name, value), List.mem_filter.2 ⟨found, decide_eq_true rfl⟩, rfl⟩

theorem length_under (name : String) (members : List (String × Value)) :
    (under name members).length = (keys members).count name := by
  induction members with
  | nil => rfl
  | cons member rest ih =>
      rw [under_cons, keys, List.map_cons, List.count_cons, ← keys]
      by_cases same : member.1 = name
      · rw [if_pos same, List.length_cons, ih, if_pos (beq_iff_eq.2 same)]
      · rw [if_neg same, ih, if_neg (fun equal => same (beq_iff_eq.1 equal)), Nat.add_zero]

/-- What an object says about one field, in terms of its one content. -/
theorem Field.object_iff (field : Field) (members : List (String × Value)) :
    ((keys members).count field.name ≤ 1 ∧
      (field.required = true → field.name ∈ keys members) ∧
      ∀ value, (field.name, value) ∈ members → field.shape.conforms value) ↔
    ∃ content, under field.name members = content.toList ∧ field.Fits content := by
  simp only [← @mem_under_iff _ members, ← length_under, ← List.count_pos_iff (a := field.name)]
  -- no member has the name, one has it, or several have
  rcases under field.name members with _ | ⟨value, _ | ⟨another, rest⟩⟩
  · constructor
    · rintro ⟨-, present, -⟩
      refine ⟨none, rfl, .absent ?_⟩
      cases required : field.required with
      | false => rfl
      | true => cases present required
    · rintro ⟨content, same, fits⟩
      cases fits with
      | given _ => cases same
      | absent notRequired => simp [notRequired]
  · constructor
    · rintro ⟨-, -, each⟩
      exact ⟨some value, rfl, .given (each value List.mem_cons_self)⟩
    · rintro ⟨content, same, fits⟩
      cases fits with
      | absent _ => cases same
      | given conforms =>
          cases same
          simpa using conforms
  · constructor
    · rintro ⟨short, -⟩
      simp at short
    · rintro ⟨_ | content, same, -⟩
      · cases same
      · cases same

theorem exists_forall₂_iff {one : Field → Option Value → Prop} {other : Field → Option Value → Prop}
    {fields : List Field} :
    (∀ field ∈ fields, ∃ content, one field content ∧ other field content) ↔
      ∃ contents, List.Forall₂ one fields contents ∧ List.Forall₂ other fields contents := by
  induction fields with
  | nil => exact ⟨fun _ => ⟨[], .nil, .nil⟩, fun _ field none => by cases none⟩
  | cons head rest ih =>
      rw [List.forall_mem_cons, ih]
      constructor
      · rintro ⟨⟨content, first, second⟩, contents, firsts, seconds⟩
        exact ⟨content :: contents, .cons first firsts, .cons second seconds⟩
      · rintro ⟨_, _ | ⟨first, firsts⟩, _ | ⟨second, seconds⟩⟩
        exact ⟨⟨_, first, second⟩, _, firsts, seconds⟩

theorem exists_fields_array_cons {head : Field} {rest : List Field} {items : List Value} :
    (∃ contents, Fields ((head :: rest).map Field.name) (.array items) contents ∧
      List.Forall₂ Field.Fits (head :: rest) contents) ↔
    head.Fits items.head? ∧ ∃ contents, Fields (rest.map Field.name) (.array items.tail) contents ∧
      List.Forall₂ Field.Fits rest contents := by
  constructor
  · rintro ⟨_, stand, _ | ⟨fits, others⟩⟩
    obtain ⟨rfl, behind⟩ := fields_array_cons.1 stand
    exact ⟨fits, _, behind, others⟩
  · rintro ⟨fits, contents, stand, others⟩
    exact ⟨_, fields_array_cons.2 ⟨rfl, stand⟩, .cons fits others⟩

/-- What an array says about its fields, in terms of their contents. -/
theorem exists_fields_array_iff {fields : List Field} {items : List Value} :
    (items.length ≤ fields.length ∧
      (∀ field ∈ fields.drop items.length, field.required = false) ∧
      ∀ pair ∈ fields.zip items, pair.1.shape.conforms pair.2) ↔
    ∃ contents, Fields (fields.map Field.name) (.array items) contents ∧
      List.Forall₂ Field.Fits fields contents := by
  -- the first field goes with the first item; without items it must not be required
  induction fields generalizing items with
  | nil =>
      constructor
      · rintro ⟨short, -⟩
        exact ⟨[], fields_array_nil.2 ⟨List.length_eq_zero_iff.1 (Nat.le_zero.1 short), rfl⟩, .nil⟩
      · rintro ⟨contents, stand, -⟩
        obtain ⟨rfl, -⟩ := fields_array_nil.1 stand
        exact ⟨Nat.le_refl 0, nofun, nofun⟩
  | cons head rest ih =>
      rw [exists_fields_array_cons, ← ih]
      cases items with
      | nil =>
          simp only [List.length_nil, List.drop_zero, List.zip_nil_right, List.forall_mem_cons,
            List.tail_nil, List.head?_nil, Nat.zero_le, true_and]
          constructor
          · rintro ⟨⟨optional, others⟩, none⟩
            exact ⟨.absent optional, others, none⟩
          · rintro ⟨fits, others, none⟩
            cases fits with
            | absent optional => exact ⟨⟨optional, others⟩, none⟩
      | cons item items =>
          simp only [List.length_cons, Nat.add_le_add_iff_right, List.drop_succ_cons,
            List.zip_cons_cons, List.forall_mem_cons, List.tail_cons, List.head?_cons]
          constructor
          · rintro ⟨short, optional, conforms, others⟩
            exact ⟨.given conforms, short, optional, others⟩
          · rintro ⟨⟨conforms⟩, short, optional, others⟩
            exact ⟨short, optional, conforms, others⟩

/-- The records are the values whose fields have contents that fit. -/
theorem conformsRecord_iff {fields : List Field} {value : Value} :
    ConformsRecord fields value ↔
      ∃ contents, Fields (fields.map Field.name) value contents ∧
        List.Forall₂ Field.Fits fields contents := by
  cases value with
  | object members =>
      have stand {contents : List (Option Value)} :
          Fields (fields.map Field.name) (.object members) contents ↔
            List.Forall₂ (fun field content => under field.name members = content.toList)
              fields contents := List.forall₂_map_left_iff
      simp only [stand]
      -- the three conditions on an object are conditions on its fields one by one
      rw [← exists_forall₂_iff]
      simp only [← Field.object_iff]
      constructor
      · rintro (⟨once, present, each⟩ | _)
        exact fun field inside => ⟨once field inside, present field inside, each field inside⟩
      · intro each
        exact .object (fun field inside => (each field inside).1)
          (fun field inside => (each field inside).2.1)
          (fun field inside => (each field inside).2.2)
  | array items =>
      rw [← exists_fields_array_iff]
      constructor
      · rintro (_ | ⟨short, optional, each⟩)
        exact ⟨short, optional, each⟩
      · rintro ⟨short, optional, each⟩
        exact .array short optional each
  | null | bool _ | number _ | string _ =>
      constructor
      · rintro ⟨⟩
      · rintro ⟨_, none, -⟩
        cases none

/-! ### Order and other members -/

/-- The members that a record has a field for. -/
def known (fields : List Field) (members : List (String × Value)) : List (String × Value) :=
  members.filter fun member => member.1 ∈ fields.map Field.name

theorem under_known {fields : List Field} {name : String} (inside : name ∈ fields.map Field.name)
    (members : List (String × Value)) : under name (known fields members) = under name members := by
  have both (member : String × Value) :
      (decide (member.1 = name) && decide (member.1 ∈ fields.map Field.name)) =
        decide (member.1 = name) := by
    by_cases same : member.1 = name
    · simp [same, inside]
    · simp [same]
  unfold under known
  rw [List.filter_filter]
  simp only [both]

theorem AlikeContents.refl {fields : List Field} {contents : List (Option Value)}
    (fits : List.Forall₂ Field.Fits fields contents) : AlikeContents fields contents contents := by
  induction fits with
  | nil => exact .nil
  | @cons field content _ _ _ _ ih =>
      refine .cons ?_ ih
      cases content with
      | none => exact .none
      | some value => exact .some (field.shape.alike_refl value)

/-- Objects that only differ in the order of their members and in members that the record has no
field for say the same. -/
theorem ConformsRecord.alike_of_perm {fields : List Field} {members others : List (String × Value)}
    (conforms : ConformsRecord fields (.object members))
    (same : (known fields members).Perm (known fields others)) :
    (Shape.record fields).alike (.object members) (.object others) := by
  obtain ⟨contents, stand, fits⟩ := conformsRecord_iff.1 conforms
  refine .inr ⟨contents, contents, stand, ?_, .refl fits⟩
  obtain ⟨lengths, each⟩ := List.forall₂_iff_zip.1 stand
  refine List.forall₂_iff_zip.2 ⟨lengths, fun {name content} inside => ?_⟩
  -- a row of at most one value has only one order
  have perm := (same.filter fun member => member.1 = name).map Prod.snd
  change (under name (known fields members)).Perm (under name (known fields others)) at perm
  rw [under_known (List.of_mem_zip inside).1, under_known (List.of_mem_zip inside).1,
    each inside] at perm
  cases content with
  | none => exact List.perm_nil.1 perm.symm
  | some value => exact List.perm_singleton.1 perm.symm

/-! ### What records stand for -/

/-- A field stands for something: for what its content does or, unless it is required, for a
default. -/
structure Field.Describes (field : Field) (meaning : Meaning α) (default : Option α) : Prop where
  shape : field.shape.Describes meaning
  required_eq : field.required = default.isNone

theorem Field.Describes.fits_iff {field : Field} {meaning : Meaning α} {default : Option α}
    (describes : field.Describes meaning default) {content : Option Value} :
    field.Fits content ↔ ∃ result, Holds meaning default content result := by
  constructor
  · intro fits
    cases fits with
    | given conforms =>
        obtain ⟨result, means⟩ := (describes.shape.conforms_iff _).1 conforms
        exact ⟨result, .given means⟩
    | absent optional =>
        rw [describes.required_eq] at optional
        cases default with
        | none => cases optional
        | some result => exact ⟨result, .absent rfl⟩
  · rintro ⟨result, holds⟩
    cases holds with
    | given means => exact .given ((describes.shape.conforms_iff _).2 ⟨result, means⟩)
    | absent isDefault => exact .absent (by rw [describes.required_eq, isDefault]; rfl)

theorem Field.Describes.holds_iff {field : Field} {meaning : Meaning α} {default : Option α}
    (describes : field.Describes meaning default) {content other : Option Value}
    (same : Option.Rel field.shape.alike content other) {result : α} :
    Holds meaning default content result ↔ Holds meaning default other result := by
  cases same with
  | none => rfl
  | some same =>
      constructor
      · rintro (means | _)
        exact .given ((describes.shape.alike same result).1 means)
      · rintro (means | _)
        exact .given ((describes.shape.alike same result).2 means)

namespace Shape

/-- A record of two fields stands for what has the two parts. -/
theorem describes_pair {first second : Field} {one : Meaning α} {other : Meaning β}
    {oneDefault : Option α} {otherDefault : Option β} (parts : ρ → α × β)
    (onto : ∀ a b, ∃ whole, parts whole = (a, b)) (describesFirst : first.Describes one oneDefault)
    (describesSecond : second.Describes other otherDefault) :
    (record [first, second]).Describes fun value whole =>
      ∃ a b, Fields [first.name, second.name] value [a, b] ∧
        Holds one oneDefault a (parts whole).1 ∧ Holds other otherDefault b (parts whole).2 where
  conforms_iff value := by
    refine conformsRecord_iff.trans ?_
    constructor
    · rintro ⟨_, stand, _ | ⟨fits, _ | ⟨fitsToo, _ | _⟩⟩⟩
      obtain ⟨a, holds⟩ := describesFirst.fits_iff.1 fits
      obtain ⟨b, holdsToo⟩ := describesSecond.fits_iff.1 fitsToo
      obtain ⟨whole, same⟩ := onto a b
      refine ⟨whole, _, _, stand, ?_⟩
      rw [same]
      exact ⟨holds, holdsToo⟩
    · rintro ⟨whole, a, b, stand, holds, holdsToo⟩
      exact ⟨_, stand, .cons (describesFirst.fits_iff.2 ⟨_, holds⟩)
        (.cons (describesSecond.fits_iff.2 ⟨_, holdsToo⟩) .nil)⟩
  alike same whole := by
    rcases same with rfl | ⟨_, _, stand, standOther, _ | ⟨same, _ | ⟨sameToo, _ | _⟩⟩⟩
    · rfl
    · constructor
      · rintro ⟨a, b, found, holds, holdsToo⟩
        cases found.unique stand
        exact ⟨_, _, standOther, (describesFirst.holds_iff same).1 holds,
          (describesSecond.holds_iff sameToo).1 holdsToo⟩
      · rintro ⟨a, b, found, holds, holdsToo⟩
        cases found.unique standOther
        exact ⟨_, _, stand, (describesFirst.holds_iff same).2 holds,
          (describesSecond.holds_iff sameToo).2 holdsToo⟩

/-- A record of three fields stands for what has the three parts. -/
theorem describes_triple {first second third : Field} {one : Meaning α} {other : Meaning β}
    {last : Meaning γ} {oneDefault : Option α} {otherDefault : Option β} {lastDefault : Option γ}
    (parts : ρ → α × β × γ) (onto : ∀ a b c, ∃ whole, parts whole = (a, b, c))
    (describesFirst : first.Describes one oneDefault)
    (describesSecond : second.Describes other otherDefault)
    (describesThird : third.Describes last lastDefault) :
    (record [first, second, third]).Describes fun value whole =>
      ∃ a b c, Fields [first.name, second.name, third.name] value [a, b, c] ∧
        Holds one oneDefault a (parts whole).1 ∧ Holds other otherDefault b (parts whole).2.1 ∧
        Holds last lastDefault c (parts whole).2.2 where
  conforms_iff value := by
    refine conformsRecord_iff.trans ?_
    constructor
    · rintro ⟨_, stand, _ | ⟨fits, _ | ⟨fitsToo, _ | ⟨fitsLast, _ | _⟩⟩⟩⟩
      obtain ⟨a, holds⟩ := describesFirst.fits_iff.1 fits
      obtain ⟨b, holdsToo⟩ := describesSecond.fits_iff.1 fitsToo
      obtain ⟨c, holdsLast⟩ := describesThird.fits_iff.1 fitsLast
      obtain ⟨whole, same⟩ := onto a b c
      refine ⟨whole, _, _, _, stand, ?_⟩
      rw [same]
      exact ⟨holds, holdsToo, holdsLast⟩
    · rintro ⟨whole, a, b, c, stand, holds, holdsToo, holdsLast⟩
      exact ⟨_, stand, .cons (describesFirst.fits_iff.2 ⟨_, holds⟩)
        (.cons (describesSecond.fits_iff.2 ⟨_, holdsToo⟩)
          (.cons (describesThird.fits_iff.2 ⟨_, holdsLast⟩) .nil))⟩
  alike same whole := by
    rcases same with
      rfl | ⟨_, _, stand, standOther, _ | ⟨same, _ | ⟨sameToo, _ | ⟨sameLast, _ | _⟩⟩⟩⟩
    · rfl
    · constructor
      · rintro ⟨a, b, c, found, holds, holdsToo, holdsLast⟩
        cases found.unique stand
        exact ⟨_, _, _, standOther, (describesFirst.holds_iff same).1 holds,
          (describesSecond.holds_iff sameToo).1 holdsToo,
          (describesThird.holds_iff sameLast).1 holdsLast⟩
      · rintro ⟨a, b, c, found, holds, holdsToo, holdsLast⟩
        cases found.unique standOther
        exact ⟨_, _, _, stand, (describesFirst.holds_iff same).2 holds,
          (describesSecond.holds_iff sameToo).2 holdsToo,
          (describesThird.holds_iff sameLast).2 holdsLast⟩

end Shape

end ShadowLint.Json
