import UEnv.Lib.Wire

/-!
# Messages that can be read back

A field is written behind its key or left out, and a message does not say where it ends. It can
be read back all the same when its fields come in ascending order and what follows it starts with
no key of theirs: a later field, the end of the text, or a byte that starts no key at all. `Fields`
says this of an encoder, field by field, with the relation of the values that it separates.
-/

namespace UEnv.Wire

variable {α β : Type} {ok : α → Prop} {okβ : β → Prop}

/-- The length of a text is a 64-bit number. -/
def Fits (text : Bytes) : Prop := text.length < 2 ^ 64

variable {a b r s rest : Bytes} {item : α → Bytes}

theorem Fits.left (fits : Fits (a ++ b)) : Fits a := by
  unfold Fits at *
  rw [List.length_append] at fits
  omega

theorem Fits.right (fits : Fits (a ++ b)) : Fits b := by
  unfold Fits at *
  rw [List.length_append] at fits
  omega

/-! ### Encodings that delimit themselves -/

/-- Texts that start with encodings are equal only with equal values and equal remainders. -/
def Delimited (ok : α → Prop) (item : α → Bytes) : Prop :=
  ∀ x y r s, ok x → ok y → Fits (item x) → Fits (item y) → item x ++ r = item y ++ s →
    x = y ∧ r = s

/-- Whole texts are equal only with equal values. -/
def Exact (ok : α → Prop) (encode : α → Bytes) : Prop :=
  ∀ x y, ok x → ok y → Fits (encode x) → Fits (encode y) → encode x = encode y → x = y

theorem delimited_varint : Delimited (fun _ => True) varint :=
  fun _ _ _ _ _ _ _ _ same => varint_append_inj same

theorem littleEndian_append_inj (count : Nat) {a b : Nat} (ha : a < 256 ^ count)
    (hb : b < 256 ^ count) (same : littleEndian count a ++ r = littleEndian count b ++ s) :
    a = b ∧ r = s := by
  have lengths : (littleEndian count a).length = (littleEndian count b).length := by
    rw [length_littleEndian, length_littleEndian]
  obtain ⟨digits, rest⟩ := List.append_inj same lengths
  have values := congrArg ofLittleEndian digits
  rw [ofLittleEndian_littleEndian, ofLittleEndian_littleEndian, Nat.mod_eq_of_lt ha,
    Nat.mod_eq_of_lt hb] at values
  exact ⟨values, rest⟩

theorem delimited_lengthPrefixed : Delimited (fun _ => True) lengthPrefixed := by
  intro x y r s _ _ fitsX fitsY same
  have shortX : x.length < 2 ^ 64 := fitsX.right
  have shortY : y.length < 2 ^ 64 := fitsY.right
  unfold lengthPrefixed at same
  rw [List.append_assoc, List.append_assoc] at same
  obtain ⟨lengths, rest⟩ := varint_append_inj same
  have values := congrArg UInt64.toNat lengths
  rw [UInt64.toNat_ofNat', UInt64.toNat_ofNat', Nat.mod_eq_of_lt shortX,
    Nat.mod_eq_of_lt shortY] at values
  exact List.append_inj rest values

theorem delimited_littleEndian : Delimited (fun _ => True) fun v : UInt64 =>
    littleEndian 8 v.toNat := by
  intro x y r s _ _ _ _ same
  obtain ⟨values, rest⟩ := littleEndian_append_inj 8 x.toNat_lt y.toNat_lt same
  exact ⟨UInt64.toNat_inj.mp values, rest⟩

theorem utf8_inj {a b : String} (same : utf8 a = utf8 b) : a = b :=
  String.toByteArray_inj.mp (ByteArray.ext (Array.toList_inj.mp same))

theorem exact_utf8 : Exact (fun _ => True) utf8 := fun _ _ _ _ _ _ same => utf8_inj same

theorem Delimited.exact (delimited : Delimited ok item) : Exact ok item := by
  intro x y okX okY fitsX fitsY same
  exact (delimited x y [] [] okX okY fitsX fitsY (congrArg (· ++ []) same)).1

theorem Delimited.comap {item : β → Bytes} (delimited : Delimited okβ item) {f : α → β}
    (admitted : ∀ a, ok a → okβ (f a)) (injective : ∀ x y, f x = f y → x = y) :
    Delimited ok (item ∘ f) := by
  intro x y r s okX okY fitsX fitsY same
  obtain ⟨values, rest⟩ := delimited _ _ r s (admitted x okX) (admitted y okY) fitsX fitsY same
  exact ⟨injective x y values, rest⟩

theorem Delimited.pair {item' : β → Bytes} (first : Delimited ok item)
    (second : Delimited okβ item') :
    Delimited (fun p : α × β => ok p.1 ∧ okβ p.2) fun p => item p.1 ++ item' p.2 := by
  intro x y r s okX okY fitsX fitsY same
  rw [List.append_assoc, List.append_assoc] at same
  obtain ⟨fst, rest⟩ := first _ _ _ _ okX.1 okY.1 fitsX.left fitsY.left same
  obtain ⟨snd, rest⟩ := second _ _ _ _ okX.2 okY.2 fitsX.right fitsY.right rest
  exact ⟨Prod.ext fst snd, rest⟩

theorem delimited_prefixed {encode : α → Bytes} (exact : Exact ok encode) :
    Delimited ok fun a => lengthPrefixed (encode a) := by
  intro x y r s okX okY fitsX fitsY same
  obtain ⟨texts, rest⟩ := delimited_lengthPrefixed _ _ r s trivial trivial fitsX fitsY same
  exact ⟨exact x y okX okY fitsX.right fitsY.right texts, rest⟩

theorem Delimited.flatten (delimited : Delimited ok item) {xs ys : List α} (okX : ∀ x ∈ xs, ok x)
    (okY : ∀ y ∈ ys, ok y) (fitsX : Fits (xs.map item).flatten) (fitsY : Fits (ys.map item).flatten)
    (lengths : xs.length = ys.length)
    (same : (xs.map item).flatten ++ r = (ys.map item).flatten ++ s) : xs = ys ∧ r = s := by
  induction xs generalizing ys with
  | nil =>
    obtain rfl := List.eq_nil_of_length_eq_zero lengths.symm
    exact ⟨rfl, same⟩
  | cons x xs ih =>
    cases ys with
    | nil => cases lengths
    | cons y ys =>
      rw [List.map_cons, List.flatten_cons] at fitsX fitsY same
      rw [List.map_cons, List.flatten_cons, List.append_assoc, List.append_assoc] at same
      obtain ⟨rfl, later⟩ := delimited x y _ _ (okX x List.mem_cons_self)
        (okY y List.mem_cons_self) fitsX.left fitsY.left same
      obtain ⟨rfl, rest⟩ := ih (fun a member => okX a (List.mem_cons_of_mem _ member))
        (fun a member => okY a (List.mem_cons_of_mem _ member)) fitsX.right fitsY.right
        (Nat.succ.inj lengths) later
      exact ⟨rfl, rest⟩

theorem Delimited.flatten_exact (delimited : Delimited ok item) (nonempty : ∀ x, item x ≠ []) :
    Exact (fun xs : List α => ∀ x ∈ xs, ok x) fun xs => (xs.map item).flatten := by
  intro xs ys okX okY fitsX fitsY same
  induction xs generalizing ys with
  | nil =>
    cases ys with
    | nil => rfl
    | cons y ys => exact absurd (List.append_eq_nil_iff.mp same.symm).1 (nonempty y)
  | cons x xs ih =>
    cases ys with
    | nil => exact absurd (List.append_eq_nil_iff.mp same).1 (nonempty x)
    | cons y ys =>
      obtain ⟨rfl, later⟩ := delimited x y _ _ (okX x List.mem_cons_self)
        (okY y List.mem_cons_self) (Fits.left fitsX) (Fits.left fitsY) same
      rw [ih ys (fun a member => okX a (List.mem_cons_of_mem _ member))
        (fun a member => okY a (List.mem_cons_of_mem _ member)) (Fits.right fitsX)
        (Fits.right fitsY) later]

/-! ### Fields -/

/-- A text that may follow the fields below `n`: its end, or what starts with neither one of their
keys nor any other below `n`. -/
def After (n : Nat) (rest : Bytes) : Prop :=
  rest = [] ∨ ∃ v more, rest = varint v ++ more ∧ (v.toNat < 8 ∨ 8 * n ≤ v.toNat)

theorem After.mono {m n : Nat} (after : After m rest) (le : n ≤ m) : After n rest := by
  rcases after with rfl | ⟨v, more, rfl, bound⟩
  · exact Or.inl rfl
  · exact Or.inr ⟨v, more, rfl, bound.imp_right fun above => by omega⟩

theorem after_nil (n : Nat) : After n [] := Or.inl rfl

theorem after_zero (n : Nat) (more : Bytes) : After n (0 :: more) :=
  Or.inr ⟨0, more, rfl, Or.inl (by decide)⟩

/-- The numbers that a field and its wire type may have. -/
structure ValidKey (field wireType : Nat) : Prop where
  positive : 0 < field
  small : field < 2 ^ 29
  wire : wireType < 8

instance (field wireType : Nat) : Decidable (ValidKey field wireType) :=
  decidable_of_iff (0 < field ∧ field < 2 ^ 29 ∧ wireType < 8)
    ⟨fun all => ⟨all.1, all.2.1, all.2.2⟩, fun valid => ⟨valid.positive, valid.small, valid.wire⟩⟩

theorem ValidKey.toNat {field wireType : Nat} (valid : ValidKey field wireType) :
    (UInt64.ofNat (field * 8 + wireType)).toNat = field * 8 + wireType := by
  have small := valid.small
  have wire := valid.wire
  rw [UInt64.toNat_ofNat', Nat.mod_eq_of_lt (by omega)]

theorem ValidKey.after {field wireType : Nat} (valid : ValidKey field wireType) (more : Bytes) :
    After field (key field wireType ++ more) := by
  refine Or.inr ⟨_, more, rfl, Or.inr ?_⟩
  rw [valid.toNat]
  omega

theorem After.ne_key {field wireType : Nat} {more : Bytes} (after : After (field + 1) rest)
    (valid : ValidKey field wireType) : rest ≠ key field wireType ++ more := by
  have positive := valid.positive
  have wire := valid.wire
  rintro rfl
  rcases after with empty | ⟨v, more', same, bound⟩
  · exact key_ne_nil _ _ (List.append_eq_nil_iff.mp empty).1
  · obtain ⟨rfl, _⟩ := varint_append_inj same
    rw [valid.toNat] at bound
    omega

/-- The fields from `lo` up to `hi` of a message. Two encodings with later fields behind them are
equal only if the values are the `same` in these fields and what follows is equal. -/
structure Fields (lo hi : Nat) (ok : α → Prop) (encode : α → Bytes) (same : α → α → Prop) :
    Prop where
  opens : ∀ a rest, After hi rest → After lo (encode a ++ rest)
  inj : ∀ a b r s, ok a → ok b → Fits (encode a) → Fits (encode b) → After hi r → After hi s →
    encode a ++ r = encode b ++ s → same a b ∧ r = s

namespace Fields

variable {lo mid mid' hi : Nat} {encode encode' : α → Bytes} {same same' : α → α → Prop}

theorem append (first : Fields lo mid ok encode same) (second : Fields mid' hi ok encode' same')
    (ascending : mid ≤ mid' := by decide) :
    Fields lo hi ok (fun a => encode a ++ encode' a) fun a b => same a b ∧ same' a b := by
  constructor
  · intro a rest after
    rw [List.append_assoc]
    exact first.opens a _ ((second.opens a rest after).mono ascending)
  · intro a b r s okA okB fitsA fitsB afterR afterS equal
    rw [List.append_assoc, List.append_assoc] at equal
    obtain ⟨here, rest⟩ := first.inj a b _ _ okA okB fitsA.left fitsB.left
      ((second.opens a r afterR).mono ascending) ((second.opens b s afterS).mono ascending) equal
    obtain ⟨later, rest⟩ := second.inj a b r s okA okB fitsA.right fitsB.right afterR afterS rest
    exact ⟨⟨here, later⟩, rest⟩

theorem imp (fields : Fields lo hi ok encode same) (weaker : ∀ a b, same a b → same' a b) :
    Fields lo hi ok encode same' := by
  refine ⟨fields.opens, fun a b r s okA okB fitsA fitsB afterR afterS equal => ?_⟩
  obtain ⟨values, rest⟩ := fields.inj a b r s okA okB fitsA fitsB afterR afterS equal
  exact ⟨weaker a b values, rest⟩

theorem whole (fields : Fields lo hi ok encode same)
    (determined : ∀ a b, ok a → ok b → same a b → a = b) : Fields lo hi ok encode Eq := by
  refine ⟨fields.opens, fun a b r s okA okB fitsA fitsB afterR afterS equal => ?_⟩
  obtain ⟨values, rest⟩ := fields.inj a b r s okA okB fitsA fitsB afterR afterS equal
  exact ⟨determined a b okA okB values, rest⟩

theorem exact (fields : Fields lo hi ok encode same)
    (determined : ∀ a b, ok a → ok b → same a b → a = b) : Exact ok encode := by
  intro a b okA okB fitsA fitsB equal
  have values := (fields.whole determined).inj a b [] [] okA okB fitsA fitsB (after_nil hi)
    (after_nil hi) (congrArg (· ++ []) equal)
  exact values.1

end Fields

/-! ### The kinds of fields -/

/-- A field behind its key, or left out. -/
def written (field wireType : Nat) : Option Bytes → Bytes
  | none => []
  | some body => key field wireType ++ body

/-- The contents of a field determine its value. -/
structure Determines (ok : β → Prop) (content : β → Option Bytes) : Prop where
  absent : ∀ x y, ok x → ok y → content x = none → content y = none → x = y
  present : ∀ x y bx by' r s, ok x → ok y → content x = some bx → content y = some by' →
    Fits bx → Fits by' → bx ++ r = by' ++ s → x = y ∧ r = s

theorem determines_unless {skip : β → Prop} [DecidablePred skip] {item : β → Bytes}
    (unique : ∀ x y, okβ x → okβ y → skip x → skip y → x = y) (delimited : Delimited okβ item) :
    Determines okβ fun v => if skip v then none else some (item v) := by
  constructor
  · intro x y okX okY left right
    have skippedX : skip x := by
      by_contra kept
      rw [if_neg kept] at left
      cases left
    have skippedY : skip y := by
      by_contra kept
      rw [if_neg kept] at right
      cases right
    exact unique x y okX okY skippedX skippedY
  · intro x y bx by' r s okX okY left right fitsX fitsY equal
    obtain ⟨_, left⟩ := Option.ite_none_left_eq_some.mp left
    obtain ⟨_, right⟩ := Option.ite_none_left_eq_some.mp right
    cases left
    cases right
    exact delimited x y r s okX okY fitsX fitsY equal

theorem determines_option {item : β → Bytes} (delimited : Delimited okβ item) :
    Determines (fun v : Option β => ∀ b ∈ v, okβ b) fun v => v.map item := by
  constructor
  · intro x y _ _ left right
    rw [Option.map_eq_none_iff.mp left, Option.map_eq_none_iff.mp right]
  · intro x y bx by' r s okX okY left right fitsX fitsY equal
    obtain ⟨a, rfl, rfl⟩ := Option.map_eq_some_iff.mp left
    obtain ⟨b, rfl, rfl⟩ := Option.map_eq_some_iff.mp right
    obtain ⟨rfl, rest⟩ := delimited a b r s (okX a rfl) (okY b rfl) fitsX fitsY equal
    exact ⟨rfl, rest⟩

theorem toInt64_inj {a b : Int32} (same : a.toInt64 = b.toInt64) : a = b := by
  have values := congrArg Int64.toInt same
  rw [Int32.toInt_toInt64, Int32.toInt_toInt64] at values
  exact Int32.toInt_inj.mp values

theorem written_ite (field wireType : Nat) (skip : Prop) [Decidable skip] (body : Bytes) :
    written field wireType (if skip then none else some body) =
      if skip then [] else key field wireType ++ body := by
  split
  · rfl
  · rfl

namespace Fields

variable {field wireType : Nat}

theorem single {content : β → Option Bytes} (valid : ValidKey field wireType)
    (determines : Determines okβ content) (p : α → β) (admitted : ∀ a, ok a → okβ (p a)) :
    Fields field (field + 1) ok (fun a => written field wireType (content (p a)))
      fun a b => p a = p b := by
  constructor
  · intro a rest after
    cases content (p a) with
    | none => exact after.mono (Nat.le_succ field)
    | some =>
      rw [written, List.append_assoc]
      exact valid.after _
  · intro a b r s okA okB fitsA fitsB afterR afterS equal
    cases left : content (p a) with
    | none =>
      cases right : content (p b) with
      | none =>
        rw [left, right] at equal
        exact ⟨determines.absent _ _ (admitted a okA) (admitted b okB) left right, equal⟩
      | some =>
        rw [left, right, written, written, List.append_assoc] at equal
        exact absurd equal (afterR.ne_key valid)
    | some =>
      rw [left] at equal fitsA
      cases right : content (p b) with
      | none =>
        rw [right, written, written, List.append_assoc] at equal
        exact absurd equal.symm (afterS.ne_key valid)
      | some =>
        rw [right] at equal fitsB
        rw [written, written, List.append_assoc, List.append_assoc] at equal
        exact determines.present _ _ _ _ r s (admitted a okA) (admitted b okB) left right
          fitsA.right fitsB.right (List.append_cancel_left equal)

theorem congr {lo hi : Nat} {encode encode' : α → Bytes} {same : α → α → Prop}
    (fields : Fields lo hi ok encode same) (equal : ∀ a, encode' a = encode a) :
    Fields lo hi ok encode' same := by
  obtain rfl : encode' = encode := funext equal
  exact fields

/-- `uint64`. -/
theorem uint64 (p : α → UInt64) (number : ValidKey field 0 := by decide) :
    Fields field (field + 1) ok (fun a => Wire.uint64 field (p a)) fun a b => p a = p b := by
  have zero : ∀ x y : UInt64, True → True → x = 0 → y = 0 → x = y :=
    fun _ _ _ _ zeroX zeroY => zeroX.trans zeroY.symm
  have determines := determines_unless zero delimited_varint
  exact (single number determines p fun _ _ => trivial).congr fun a =>
    (written_ite field 0 _ _).symm

/-- `uint32`. -/
theorem uint32 (p : α → UInt32) (number : ValidKey field 0 := by decide) :
    Fields field (field + 1) ok (fun a => Wire.uint32 field (p a)) fun a b => p a = p b :=
  (uint64 (fun a => (p a).toUInt64) number).imp fun _ _ equal => UInt32.toUInt64_inj.mp equal

/-- `int64`. -/
theorem int64 (p : α → Int64) (number : ValidKey field 0 := by decide) :
    Fields field (field + 1) ok (fun a => Wire.int64 field (p a)) fun a b => p a = p b :=
  (uint64 (fun a => (p a).toUInt64) number).imp fun _ _ equal => congrArg Int64.ofUInt64 equal

/-- `int32` and enumerations. -/
theorem int32 (p : α → Int32) (number : ValidKey field 0 := by decide) :
    Fields field (field + 1) ok (fun a => Wire.int32 field (p a)) fun a b => p a = p b :=
  (int64 (fun a => (p a).toInt64) number).imp fun _ _ equal => toInt64_inj equal

/-- `bool`. -/
theorem boolean (p : α → Bool) (number : ValidKey field 0 := by decide) :
    Fields field (field + 1) ok (fun a => Wire.boolean field (p a)) fun a b => p a = p b := by
  have injective : ∀ x y : Bool, x.toUInt64 = y.toUInt64 → x = y := by decide
  exact (uint64 (fun a => (p a).toUInt64) number).imp fun _ _ equal => injective _ _ equal

/-- `bytes`. -/
theorem bytes (p : α → Bytes) (number : ValidKey field 2 := by decide) :
    Fields field (field + 1) ok (fun a => Wire.bytes field (p a)) fun a b => p a = p b := by
  have empty : ∀ x y : Bytes, True → True → x.isEmpty = true → y.isEmpty = true → x = y :=
    fun _ _ _ _ emptyX emptyY =>
      (List.isEmpty_iff.mp emptyX).trans (List.isEmpty_iff.mp emptyY).symm
  have determines := determines_unless empty delimited_lengthPrefixed
  exact (single number determines p fun _ _ => trivial).congr fun a =>
    (written_ite field 2 _ _).symm

/-- `string`. -/
theorem string (p : α → String) (number : ValidKey field 2 := by decide) :
    Fields field (field + 1) ok (fun a => Wire.string field (p a)) fun a b => p a = p b :=
  (bytes (fun a => utf8 (p a)) number).imp fun _ _ equal => utf8_inj equal

theorem optVarint (p : α → Option UInt64) (number : ValidKey field 0 := by decide) :
    Fields field (field + 1) ok (fun a => Wire.optVarint field (p a)) fun a b => p a = p b := by
  refine (single number (determines_option delimited_varint) p
    fun _ _ _ _ => trivial).congr fun a => ?_
  cases p a with
  | none => rfl
  | some v => rfl

/-- An optional `double`. -/
theorem optDouble (p : α → Option UInt64) (number : ValidKey field 1 := by decide) :
    Fields field (field + 1) ok (fun a => Wire.optDouble field (p a)) fun a b => p a = p b := by
  refine (single number (determines_option delimited_littleEndian) p
    fun _ _ _ _ => trivial).congr fun a => ?_
  cases p a with
  | none => rfl
  | some v => rfl

/-- A `double` that is no negative zero. -/
theorem double (p : α → UInt64) (signed : ∀ a, ok a → p a &&& 0x7FFFFFFFFFFFFFFF = 0 → p a = 0)
    (number : ValidKey field 1 := by decide) :
    Fields field (field + 1) ok (fun a => Wire.double field (p a)) fun a b => p a = p b := by
  have zero : ∀ x y : UInt64, (x &&& 0x7FFFFFFFFFFFFFFF = 0 → x = 0) →
      (y &&& 0x7FFFFFFFFFFFFFFF = 0 → y = 0) → x &&& 0x7FFFFFFFFFFFFFFF = 0 →
      y &&& 0x7FFFFFFFFFFFFFFF = 0 → x = y :=
    fun _ _ signedX signedY zeroX zeroY => (signedX zeroX).trans (signedY zeroY).symm
  have determines := determines_unless zero
    (delimited_littleEndian.comap (fun _ _ => trivial) fun _ _ equal => equal)
  exact (single number determines p signed).congr fun a => (written_ite field 1 _ _).symm

theorem message {encode : β → Bytes} (exact : Exact okβ encode) (p : α → Option β)
    (admitted : ∀ a, ok a → ∀ b ∈ p a, okβ b) (number : ValidKey field 2 := by decide) :
    Fields field (field + 1) ok (fun a => Wire.message field ((p a).map encode))
      fun a b => p a = p b := by
  refine (single number (determines_option (delimited_prefixed exact)) p admitted).congr fun a => ?_
  cases p a with
  | none => rfl
  | some v => rfl

theorem packed {item : β → Bytes} (delimited : Delimited okβ item)
    (nonempty : ∀ b, item b ≠ []) (p : α → List β) (admitted : ∀ a, ok a → ∀ b ∈ p a, okβ b)
    (number : ValidKey field 2 := by decide) :
    Fields field (field + 1) ok (fun a => Wire.packed field ((p a).map item))
      fun a b => p a = p b := by
  have empty : ∀ x y : List β, (∀ b ∈ x, okβ b) → (∀ b ∈ y, okβ b) → x.isEmpty = true →
      y.isEmpty = true → x = y :=
    fun _ _ _ _ emptyX emptyY =>
      (List.isEmpty_iff.mp emptyX).trans (List.isEmpty_iff.mp emptyY).symm
  have determines := determines_unless empty (delimited_prefixed (delimited.flatten_exact nonempty))
  refine (single number determines p admitted).congr fun a => ?_
  rw [written_ite, ← List.isEmpty_map (f := item)]
  rfl

/-- The encoding of a repeated submessage: each one behind the key of the field. -/
def messages (field : Nat) (encode : β → Bytes) (items : List β) : Bytes :=
  (items.map fun b => Wire.message field (some (encode b))).flatten

theorem messages_cons (field : Nat) (encode : β → Bytes) (b : β) (items : List β) (rest : Bytes) :
    messages field encode (b :: items) ++ rest =
      key field 2 ++ (lengthPrefixed (encode b) ++ (messages field encode items ++ rest)) := by
  unfold messages
  rw [List.map_cons, List.flatten_cons, Wire.message, List.append_assoc, List.append_assoc]

/-- By induction on the submessages, in step: what may follow starts with no key of theirs. -/
theorem messages_inj (number : ValidKey field 2) {encode : β → Bytes} (exact : Exact okβ encode)
    {xs ys : List β} {r s : Bytes} (okX : ∀ b ∈ xs, okβ b) (okY : ∀ b ∈ ys, okβ b)
    (fitsX : Fits (messages field encode xs)) (fitsY : Fits (messages field encode ys))
    (afterR : After (field + 1) r) (afterS : After (field + 1) s)
    (equal : messages field encode xs ++ r = messages field encode ys ++ s) :
    xs = ys ∧ r = s := by
  induction xs generalizing ys with
  | nil =>
    cases ys with
    | nil => exact ⟨rfl, equal⟩
    | cons =>
      rw [messages_cons] at equal
      exact absurd equal (afterR.ne_key number)
  | cons x xs ih =>
    cases ys with
    | nil =>
      rw [messages_cons] at equal
      exact absurd equal.symm (afterS.ne_key number)
    | cons y ys =>
      rw [messages_cons, messages_cons] at equal
      rw [← List.append_nil (messages field encode (x :: xs)), messages_cons,
        List.append_nil] at fitsX
      rw [← List.append_nil (messages field encode (y :: ys)), messages_cons,
        List.append_nil] at fitsY
      obtain ⟨rfl, later⟩ := delimited_prefixed exact x y _ _ (okX x List.mem_cons_self)
        (okY y List.mem_cons_self) fitsX.right.left fitsY.right.left
        (List.append_cancel_left equal)
      obtain ⟨rfl, rest⟩ := ih (fun c member => okX c (List.mem_cons_of_mem _ member))
        (fun c member => okY c (List.mem_cons_of_mem _ member)) fitsX.right.right
        fitsY.right.right later
      exact ⟨rfl, rest⟩

theorem repeated {encode : β → Bytes} (exact : Exact okβ encode) (p : α → List β)
    (admitted : ∀ a, ok a → ∀ b ∈ p a, okβ b) (number : ValidKey field 2 := by decide) :
    Fields field (field + 1) ok (fun a => messages field encode (p a))
      fun a b => p a = p b := by
  constructor
  · intro a rest after
    cases p a with
    | nil => exact after.mono (Nat.le_succ field)
    | cons =>
      rw [messages_cons]
      exact number.after _
  · intro a b r s okA okB fitsA fitsB afterR afterS equal
    exact messages_inj number exact (admitted a okA) (admitted b okB) fitsA fitsB afterR afterS
      equal

end Fields

end UEnv.Wire
