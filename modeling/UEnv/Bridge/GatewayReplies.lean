import UEnv.Bridge.ModelGateway

/-!
# Replies of the model gateway at the worker

Which fields and headers a reply has, and what the worker reads of them.
-/

namespace UEnv.Bridge.ModelGateway

open Obs Proto Worker Fallible

/-! ### Fields and headers -/

section Lookups

theorem lookup_setField (key : String) (value : Document) (fields : Fields) (other : String) :
    (setField key value fields).lookup other =
      if other = key then some value else fields.lookup other := by
  induction fields with
  | nil =>
    rw [setField, List.lookup_cons]
    by_cases same : other = key
    · rw [if_pos same, beq_iff_eq.mpr same]
    · rw [if_neg same, beq_eq_false_iff_ne.mpr same]
  | cons field rest ih =>
    rw [setField]
    by_cases found : field.1 = key
    · rw [if_pos found, List.lookup_cons, List.lookup_cons, found]
      by_cases same : other = key
      · rw [if_pos same, beq_iff_eq.mpr same]
      · rw [if_neg same, beq_eq_false_iff_ne.mpr same]
    · rw [if_neg found, List.lookup_cons, List.lookup_cons, ih]
      by_cases first : other = field.1
      · have differ : ¬other = key := first ▸ found
        rw [beq_iff_eq.mpr first, if_neg differ, if_neg differ]
      · rw [beq_eq_false_iff_ne.mpr first]

theorem lookup_setDefault (fields : Fields) (field : String × Document) (key : String) :
    (setDefault fields field).lookup key = (fields.lookup key).or ([field].lookup key) := by
  unfold setDefault
  split
  · next held =>
    obtain ⟨value, held⟩ := Option.isSome_iff_exists.mp held
    rw [List.lookup_cons]
    by_cases same : key = field.1
    · rw [same, held, Option.some_or]
    · rw [beq_eq_false_iff_ne.mpr same]
      exact Option.or_none.symm
  · exact List.lookup_append

theorem lookup_setDefaults (fields defaults : Fields) (key : String) :
    (defaults.foldl setDefault fields).lookup key =
      (fields.lookup key).or (defaults.lookup key) := by
  induction defaults generalizing fields with
  | nil => exact Option.or_none.symm
  | cons field rest ih =>
    rw [List.foldl_cons, ih, lookup_setDefault, Option.or_assoc, ← List.lookup_append]
    rfl

theorem payload_param (version : ModelVersion) :
    version.payload.lookup "rollout_param_version" = version.rolloutParamVersion := by
  unfold ModelVersion.payload
  cases version.rolloutParamVersion with
  | some => rfl
  | none =>
    cases version.rolloutPolicyVersion with
    | some => cases version.parameterSyncId <;> rfl
    | none => cases version.parameterSyncId <;> rfl

theorem payload_policy (version : ModelVersion) :
    version.payload.lookup "rollout_policy_version" = version.rolloutPolicyVersion.map .str := by
  unfold ModelVersion.payload
  cases version.rolloutParamVersion with
  | some =>
    cases version.rolloutPolicyVersion with
    | some => rfl
    | none => cases version.parameterSyncId <;> rfl
  | none =>
    cases version.rolloutPolicyVersion with
    | some => rfl
    | none => cases version.parameterSyncId <;> rfl

/-! #### Headers -/

theorem header_foldl (headers : Headers) (key : String) (value : Option String) :
    headers.foldl (fun value field => if lower field.1 = key then some field.2 else value) value =
      (header headers key).or value := by
  induction headers generalizing value with
  | nil => rfl
  | cons field rest ih =>
    have first := ih (if lower field.1 = key then some field.2 else none)
    rw [header, List.foldl_cons, List.foldl_cons, ih, first, Option.or_assoc]
    split
    · rfl
    · rfl

theorem header_append (before after : Headers) (key : String) :
    header (before ++ after) key = (header after key).or (header before key) := by
  rw [header, List.foldl_append, header_foldl]
  rfl

theorem header_cons (field : String × String) (rest : Headers) (key : String) :
    header (field :: rest) key =
      (header rest key).or (if lower field.1 = key then some field.2 else none) := by
  rw [header, List.foldl_cons, header_foldl]

variable {key : String} {numbers : SerdeNumbers} {fields : Fields} {values : List (String × Json)}
  {document : Document} {json : Json}

theorem header_forwarded (headers : Headers)
    (endToEnd : key ∉ ["connection", "content-length", "transfer-encoding", "content-encoding"]) :
    header (forwardedHeaders headers) key = header headers key := by
  induction headers with
  | nil => rfl
  | cons field rest ih =>
    rw [forwardedHeaders, List.filter_cons, header_cons]
    split
    · rw [header_cons, ← ih]
      rfl
    · next hop =>
      have other : lower field.1 ≠ key := by
        rintro rfl
        exact hop (decide_eq_true endToEnd)
      rw [if_neg other, Option.or_none]
      exact ih

theorem responseHeaders_lookup (headers : Headers) (key : String) :
    (responseHeaders headers)[key]? = (header headers key).map receivedValue := by
  have general : ∀ (map : StringMap) (value : Option String), map[key]? = value.map receivedValue →
      (headers.foldl (fun map field =>
          map.insert (lower field.1) (receivedValue field.2)) map)[key]? =
        (headers.foldl (fun value field =>
          if lower field.1 = key then some field.2 else value) value).map receivedValue := by
    induction headers with
    | nil => exact fun map value same => same
    | cons field rest ih =>
      intro map value same
      rw [List.foldl_cons, List.foldl_cons]
      refine ih _ _ ?_
      rw [Tables.lookup_insert, same]
      split
      · rfl
      · rfl
  exact general ∅ none Std.ExtTreeMap.getElem?_empty

/-! #### Reading a document -/

theorem lookup_readFields (read : Document.readFields numbers fields = some values) (key : String) :
    values.lookup key = (fields.lookup key).bind (Document.read numbers) := by
  induction fields generalizing values with
  | nil =>
    cases read
    rfl
  | cons field rest ih =>
    obtain ⟨value, first, later⟩ := Option.bind_eq_some_iff.mp read
    obtain ⟨others, following, made⟩ := Option.bind_eq_some_iff.mp later
    cases made
    rw [List.lookup_cons, List.lookup_cons]
    by_cases same : key = field.1
    · rw [beq_iff_eq.mpr same]
      exact first.symm
    · rw [beq_eq_false_iff_ne.mpr same]
      exact ih following

theorem readFields_some (read : Document.readFields numbers fields = some values)
    (held : fields.lookup key = some document) : ∃ value, document.read numbers = some value := by
  induction fields generalizing values with
  | nil => cases held
  | cons field rest ih =>
    obtain ⟨value, first, later⟩ := Option.bind_eq_some_iff.mp read
    obtain ⟨others, following, made⟩ := Option.bind_eq_some_iff.mp later
    rw [List.lookup_cons] at held
    split at held
    · cases held
      exact ⟨value, first⟩
    · exact ih following held

/-- What the worker makes of a field of the version in the body. -/
def Document.asParam (numbers : SerdeNumbers) (document : Document) : Option Int64 :=
  (document.read numbers).bind parseI64Value

def Document.asPolicy (numbers : SerdeNumbers) (document : Document) : Option String :=
  (document.read numbers).bind parseStringValue

/-- The version in the headers that the worker receives. -/
def headerVersion (headers : Headers) : Option Int64 × Option String :=
  (((header headers "x-uenv-rollout-param-version").map receivedValue).bind parseI64,
    (header headers "x-uenv-rollout-policy-version").map receivedValue)

theorem toLower_ne (c : Char) : c.toLower ≠ 'X' := by
  unfold Char.toLower
  split
  · next upper =>
    intro same
    have value := congrArg (fun c : Char => c.val.toNat) same
    have low : 65 ≤ c.val.toNat := UInt32.le_iff_toNat_le.mp upper.1
    have high : c.val.toNat ≤ 90 := UInt32.le_iff_toNat_le.mp upper.2
    have shift : ('a'.val - 'A'.val).toNat = 32 := by decide
    have goal : ('X' : Char).val.toNat = 88 := by decide
    dsimp only at value
    rw [UInt32.toNat_add, shift, goal] at value
    omega
  · next other =>
    rintro rfl
    exact other (by decide)

theorem header_camel (headers : Headers) {rest : List Char} (camel : key.toList = 'X' :: rest) :
    header headers key = none := by
  induction headers with
  | nil => rfl
  | cons field others ih =>
    have other : lower field.1 ≠ key := by
      intro same
      have chars := congrArg String.toList same
      rw [lower, String.toList_map, camel] at chars
      cases name : field.1.toList with
      | nil =>
        rw [name] at chars
        cases chars
      | cons c cs =>
        rw [name, List.map_cons] at chars
        exact toLower_ne c (List.cons.inj chars).1
    rw [header_cons, ih, if_neg other]
    rfl

theorem header_route (headers : Headers) :
    ((((responseHeaders headers)["x-uenv-rollout-param-version"]?).orElse fun _ =>
        (responseHeaders headers)["X-UEnv-Rollout-Param-Version"]?).bind parseI64,
      ((responseHeaders headers)["x-uenv-rollout-policy-version"]?).orElse fun _ =>
        (responseHeaders headers)["X-UEnv-Rollout-Policy-Version"]?) = headerVersion headers := by
  have param : header headers "X-UEnv-Rollout-Param-Version" = none := header_camel headers rfl
  have policy : header headers "X-UEnv-Rollout-Policy-Version" = none := header_camel headers rfl
  rw [responseHeaders_lookup, responseHeaders_lookup, responseHeaders_lookup,
    responseHeaders_lookup, param, policy, Option.orElse_eq_or, Option.orElse_eq_or,
    Option.map_none, Option.or_none, Option.or_none]
  rfl

theorem read_obj_cases (read : document.read numbers = some json) :
    (∃ fields values, document = .obj fields ∧ json = .obj values ∧
      Document.readFields numbers fields = some values) ∨
    (∀ fields, document ≠ .obj fields) ∧ ∀ values, json ≠ .obj values := by
  cases document with
  | obj fields =>
    obtain ⟨values, inner, rfl⟩ := Option.map_eq_some_iff.mp read
    exact .inl ⟨fields, values, rfl, rfl, inner⟩
  | int n =>
    refine .inr ⟨fun _ same => Document.noConfusion same, fun values same => ?_⟩
    subst same
    rw [Document.read] at read
    split at read
    · cases read
    · split at read
      · cases read
      · obtain ⟨x, _, made⟩ := Option.map_eq_some_iff.mp read
        cases made
  | float x =>
    obtain ⟨y, _, rfl⟩ := Option.map_eq_some_iff.mp read
    exact .inr ⟨fun _ same => Document.noConfusion same, fun _ same => Json.noConfusion same⟩
  | arr =>
    obtain ⟨values, _, rfl⟩ := Option.map_eq_some_iff.mp read
    exact .inr ⟨fun _ same => Document.noConfusion same, fun _ same => Json.noConfusion same⟩
  | null | bool b | str s =>
    cases read
    exact .inr ⟨fun _ same => Document.noConfusion same, fun _ same => Json.noConfusion same⟩

theorem nestedVersion_read {body : Document} (read : body.read numbers = some json) :
    (∃ nested values, nestedVersion body = some nested ∧
      json.get "uenv_model_version" = some (.obj values) ∧
      Document.readFields numbers nested = some values) ∨
    nestedVersion body = none ∧ ∀ values, json.get "uenv_model_version" ≠ some (.obj values) := by
  rcases read_obj_cases read with ⟨data, values, rfl, rfl, inner⟩ | ⟨plain, plain'⟩
  · unfold nestedVersion Json.get
    dsimp only
    rw [lookup_readFields inner]
    cases held : data.lookup "uenv_model_version" with
    | none => exact .inr ⟨rfl, fun values same => by cases same⟩
    | some version =>
      obtain ⟨value, read'⟩ := readFields_some inner held
      rw [Option.bind_some, read']
      rcases read_obj_cases read' with ⟨nested, values', rfl, rfl, inner'⟩ | ⟨other, other'⟩
      · exact .inl ⟨nested, values', rfl, rfl, inner'⟩
      · refine .inr ⟨?_, fun values same => other' values (Option.some.inj same)⟩
        cases version with
        | obj fields => exact absurd rfl (other fields)
        | null | bool b | int n | float x | str s | arr items => rfl
  · refine .inr ⟨?_, ?_⟩
    · cases body with
      | obj fields => exact absurd rfl (plain fields)
      | null | bool b | int n | float x | str s | arr items => rfl
    · intro values same
      cases json with
      | obj fields => exact plain' fields rfl
      | null | bool b | posInt n | negInt n | float x | str s | arr items => cases same

theorem worker_eq {numbers : SerdeNumbers} {body : Document} {json : Json}
    (read : body.read numbers = some json) (headers : Headers) :
    parseModelVersionFromResponse json (responseHeaders headers) =
      let nested := (nestedVersion body).getD []
      let param := (nested.lookup "rollout_param_version").bind (Document.asParam numbers)
      let policy := (nested.lookup "rollout_policy_version").bind (Document.asPolicy numbers)
      if param.isSome || policy.isSome then (param, policy) else headerVersion headers := by
  unfold parseModelVersionFromResponse
  rw [header_route]
  rcases nestedVersion_read read with ⟨nested, values, object, found, inner⟩ | ⟨none, other⟩
  · rw [found, object]
    dsimp only [Option.bind_some, Option.getD_some]
    rw [lookup_readFields inner, lookup_readFields inner, Option.bind_assoc, Option.bind_assoc]
    split
    · next some => exact (if_pos some).symm
    · next missing => exact (if_neg missing).symm
  · rw [none]
    cases found : json.get "uenv_model_version" with
    | none => rfl
    | some value =>
      cases value with
      | obj values => exact absurd found (other values)
      | null | bool b | posInt n | negInt n | float x | str s | arr items => rfl

end Lookups

/-! ### Numbers as text -/

section Texts

theorem digits_value (digits : List Char) (init : Nat) (all : digits.all Char.isDigit = true) :
    digits.foldl (fun (n : Int) c => 10 * n + (c.toNat - 48)) init =
      (Nat.ofDigitChars 10 digits init : Int) := by
  induction digits generalizing init with
  | nil => rfl
  | cons c rest ih =>
    rw [List.all_cons, Bool.and_eq_true] at all
    have low : 48 ≤ c.toNat := by
      have digit := all.1
      unfold Char.isDigit at digit
      simp only [Bool.and_eq_true, decide_eq_true_eq] at digit
      exact UInt32.le_iff_toNat_le.mp digit.1
    rw [List.foldl_cons, Nat.ofDigitChars_cons, ← ih _ all.2]
    have zero : '0'.toNat = 48 := rfl
    rw [zero]
    push_cast [Nat.cast_sub low]
    rfl

theorem toDigits_digits (n : Nat) : (Nat.toDigits 10 n).all Char.isDigit = true :=
  List.all_eq_true.mpr fun _ listed => Nat.isDigit_of_mem_toDigits (by decide) (by decide) listed

theorem parseI64_digits {text : String} {negative : Bool} {digits : List Char}
    (digits_ne : digits ≠ []) (all : digits.all Char.isDigit = true)
    (chars : text.toList = if negative then '-' :: digits else digits) :
    parseI64 text = let magnitude : Int := (Nat.ofDigitChars 10 digits 0 : Nat)
      let value := if negative then -magnitude else magnitude
      if -2 ^ 63 ≤ value ∧ value < 2 ^ 63 then some (Int64.ofInt value) else none := by
  unfold parseI64
  split
  next negative' digits' signed =>
  have same : negative' = negative ∧ digits' = digits := by
    rw [chars] at signed
    cases negative with
    | true =>
      obtain ⟨rfl, rfl⟩ := Prod.mk.inj signed
      exact ⟨rfl, rfl⟩
    | false =>
      cases digits with
      | nil => exact absurd rfl digits_ne
      | cons c rest =>
        rw [List.all_cons, Bool.and_eq_true] at all
        rw [if_neg Bool.false_ne_true] at signed
        split at signed
        · next first =>
          rw [(List.cons.inj first).1] at all
          exact absurd all.1 (by decide)
        · next first =>
          rw [(List.cons.inj first).1] at all
          exact absurd all.1 (by decide)
        · obtain ⟨rfl, rfl⟩ := Prod.mk.inj signed
          exact ⟨rfl, rfl⟩
  obtain ⟨rfl, rfl⟩ := same
  have value := digits_value digits' 0 all
  rw [Nat.cast_zero] at value
  rw [all, List.isEmpty_eq_false_iff.mpr digits_ne, value]
  rfl

theorem parseI64_toString (m : Int) : parseI64 (toString m) =
      if -2 ^ 63 ≤ m ∧ m < 2 ^ 63 then some (Int64.ofInt m) else none := by
  rw [Int.toString_eq_repr, Int.repr_eq_if]
  split
  · next natural =>
    rw [@parseI64_digits _ false _ Nat.toDigits_ne_nil (toDigits_digits m.toNat)
      Nat.toList_repr, Nat.ofDigitChars_ten_toDigits, Int.toNat_of_nonneg natural]
    rfl
  · next negative =>
    have chars : ("-" ++ (-m).toNat.repr).toList = '-' :: Nat.toDigits 10 (-m).toNat := by
      rw [String.toList_append, Nat.toList_repr]
      rfl
    rw [@parseI64_digits _ true _ Nat.toDigits_ne_nil (toDigits_digits (-m).toNat) chars,
      Nat.ofDigitChars_ten_toDigits, Int.toNat_of_nonneg (by omega)]
    dsimp only
    rw [if_pos rfl, Int.neg_neg]

variable {text : String}

theorem received_of_plain (plain : ∀ c ∈ text.toList, 32 < c.toNat ∧ c.toNat < 127) :
    receivedValue text = text := by
  have solid : ∀ c ∈ text.toList, ¬(c = ' ' ∨ c = '\t') := by
    rintro c listed (rfl | rfl)
    · exact absurd (plain _ listed).1 (by decide)
    · exact absurd (plain _ listed).1 (by decide)
  have start : ∀ chars : List Char, (∀ c ∈ chars, ¬(c = ' ' ∨ c = '\t')) →
      chars.dropWhile (fun c => decide (c = ' ' ∨ c = '\t')) = chars := by
    intro chars solid
    cases chars with
    | nil => rfl
    | cons c =>
      rw [List.dropWhile_cons, decide_eq_false (solid c List.mem_cons_self)]
      rfl
  unfold receivedValue
  dsimp only
  rw [start _ solid, start _ fun c listed => solid c (List.mem_reverse.mp listed),
    List.reverse_reverse, if_pos, String.ofList_toList]
  refine List.all_eq_true.mpr fun c listed => decide_eq_true (.inl ?_)
  have bounds := plain c listed
  omega

theorem received_of_numeral {n : Int64} (parsed : parseI64 text = some n) :
    receivedValue text = text := by
  have plain : ∀ digits : List Char, (digits.isEmpty || !digits.all Char.isDigit) = false →
      ∀ c ∈ digits, 32 < c.toNat ∧ c.toNat < 127 := by
    intro digits all c listed
    rw [Bool.or_eq_false_iff, Bool.not_eq_false'] at all
    have digit := List.all_eq_true.mp all.2 c listed
    unfold Char.isDigit at digit
    simp only [Bool.and_eq_true, decide_eq_true_eq] at digit
    have low : 48 ≤ c.toNat := UInt32.le_iff_toNat_le.mp digit.1
    have high : c.toNat ≤ 57 := UInt32.le_iff_toNat_le.mp digit.2
    omega
  refine received_of_plain ?_
  unfold parseI64 at parsed
  split at parsed
  next negative digits signed =>
  split at parsed
  · cases parsed
  · next some =>
    rw [Bool.not_eq_true] at some
    have digits := plain digits some
    split at signed
    · next rest chars =>
      obtain ⟨rfl, rfl⟩ := Prod.mk.inj signed
      rw [chars]
      exact List.forall_mem_cons.mpr ⟨by decide, digits⟩
    · next rest chars =>
      obtain ⟨rfl, rfl⟩ := Prod.mk.inj signed
      rw [chars]
      exact List.forall_mem_cons.mpr ⟨by decide, digits⟩
    · obtain ⟨rfl, rfl⟩ := Prod.mk.inj signed
      exact digits

end Texts

end UEnv.Bridge.ModelGateway
