import UEnv.Bridge.GatewayReplies

/-!
# The version that the worker reads

When the version that the worker finds in a reply of the model gateway is the one that the gateway
has bound.
-/

namespace UEnv

/-- The value of a float that is an integer. -/
def F64.integer (x : F64) : Option Int :=
  let (negative, m, e) := x.decompose
  let sign : Int := if negative then -1 else 1
  if x.isNaN || x.isInfinite then none
  else if 0 ≤ e then some (sign * (m * 2 ^ e.toNat))
  else if m % 2 ^ (-e).toNat = 0 then some (sign * (m / 2 ^ (-e).toNat))
  else none

end UEnv

namespace UEnv.Bridge.ModelGateway

open Obs Proto Worker Fallible

/-! ### Agreement -/

section Agreement

/-- The integer that a version stands for. -/
def Document.Denotes : Document → Int64 → Prop
  | .int m, n => m = n.toInt
  | .str s, n => parseI64 s = some n
  | .float x, n => x.integer = some n.toInt
  | _, _ => False

def ParamAgrees : Option Document → Option Int64 → Prop
  | none, none => True
  | some document, some n => document.Denotes n
  | _, _ => False

/-- The worker finds the version that the gateway has bound, and none if it has bound none. -/
def Agrees (bound : Option ModelVersion) (found : Option Int64 × Option String) : Prop :=
  match bound with
  | none => found = (none, none)
  | some version => ParamAgrees version.rolloutParamVersion found.1 ∧
      found.2 = version.rolloutPolicyVersion

variable (numbers : SerdeNumbers) (python : PyText)

/-- A version that the worker reads out of the body without a change. -/
def Document.InBody : Document → Prop
  | .int m => -2 ^ 63 ≤ m ∧ m < 2 ^ 63
  | .str s => (parseI64 s).isSome
  | .float x => ∃ y, numbers.float x = some y ∧ x.integer = some y.toI64.toInt
  | _ => False

/-- A version that the worker reads out of a header without a change. -/
def Document.InHeader : Document → Prop
  | .int m => -2 ^ 63 ≤ m ∧ m < 2 ^ 63
  | .str s => (parseI64 s).isSome
  | .float x => ∃ n, parseI64 (receivedValue (python.text (.float x))) = some n ∧
      x.integer = some n.toInt
  | _ => False

/-- A field that the gateway passes over although it is there. -/
def Blank (field : Option Document) : Prop := ∃ document, field = some document ∧ document.blank

/-- A policy field that leaves the worker the policy of the gateway: there is none, or it has a text
or an integer that the worker takes. -/
def LegiblePolicy : Option Document → Prop
  | none => True
  | some (.str s) => s ≠ ""
  | some (.int n) => -2 ^ 63 ≤ n ∧ n < 2 ^ 63
  | some _ => False

/-- The version arrives in the headers; without a param version there must be no other one. -/
def ByHeader (headers : Headers) (version : ModelVersion) : Prop :=
  version.rolloutPolicyVersion.map receivedValue = version.rolloutPolicyVersion ∧
    match version.rolloutParamVersion with
    | some param => param.InHeader python
    | none =>
      ((header headers "x-uenv-rollout-param-version").map receivedValue).bind parseI64 = none

/-- What the gateway does not overwrite in a response lets the version arrive. -/
def Arrives (upstream : String) (body : Document) (headers : Headers) : Prop :=
  let nested := (nestedVersion body).getD []
  let param := nested.lookup "rollout_param_version"
  let policy := nested.lookup "rollout_policy_version"
  match extractResponseModelVersion python upstream body headers with
  | none => policy ≠ some (.str "") ∧ header headers "x-uenv-rollout-policy-version" = none
  | some version =>
    if body.isObject then
      (LegiblePolicy policy → ∀ bound ∈ version.rolloutParamVersion,
        ¬Blank param ∧ bound.InBody numbers) ∧
      (¬LegiblePolicy policy → policy ≠ some (.str "") ∧
        (version.rolloutParamVersion = none ∨ Blank param) ∧ ByHeader python headers version)
    else ByHeader python headers version

end Agreement

/-! ### A version and its copies -/

section Copies


theorem toInt_bounds (n : Int64) : -2 ^ 63 ≤ n.toInt ∧ n.toInt < 2 ^ 63 :=
  ⟨n.le_toInt, n.toInt_lt⟩

variable {numbers : SerdeNumbers} {python : PyText}

theorem asParam_int {m : Int} (bounds : -2 ^ 63 ≤ m ∧ m < 2 ^ 63) :
    (Document.int m).asParam numbers = some (Int64.ofInt m) := by
  unfold Document.asParam
  rw [Document.read]
  by_cases natural : 0 ≤ m
  · have fits : (UInt64.ofNat m.toNat).toNat = m.toNat := by
      rw [UInt64.toNat_ofNat']
      omega
    rw [if_pos ⟨natural, by omega⟩]
    show ((if _ then _ else none).orElse _).orElse _ = _
    rw [fits, if_pos (by omega), Int.toNat_of_nonneg natural]
    rfl
  · rw [if_neg (by omega), if_pos ⟨bounds.1, by omega⟩]
    rfl

theorem asParam_str (s : String) : (Document.str s).asParam numbers = parseI64 s := by
  show (Option.orElse (parseI64 s) fun _ => none) = parseI64 s
  rw [Option.orElse_eq_or, Option.or_none]

theorem paramAgrees_iff {document : Document} {found : Option Int64} :
    ParamAgrees (some document) found ↔ ∃ n, found = some n ∧ document.Denotes n := by
  cases found with
  | none => exact iff_of_false id fun ⟨n, found, _⟩ => by cases found
  | some n =>
    refine ⟨fun denotes => ⟨n, rfl, denotes⟩, ?_⟩
    rintro ⟨n', same, denotes⟩
    cases same
    exact denotes

theorem inBody_iff (document : Document) :
    (∃ n, document.asParam numbers = some n ∧ document.Denotes n) ↔ document.InBody numbers := by
  cases document with
  | int m =>
    constructor
    · rintro ⟨n, _, same⟩
      exact same ▸ toInt_bounds n
    · exact fun bounds => ⟨_, asParam_int bounds, (Int64.toInt_ofInt_of_le bounds.1 bounds.2).symm⟩
  | str s =>
    rw [asParam_str]
    constructor
    · rintro ⟨n, parsed, _⟩
      exact Option.isSome_iff_exists.mpr ⟨n, parsed⟩
    · intro parses
      obtain ⟨n, parsed⟩ := Option.isSome_iff_exists.mp parses
      exact ⟨n, parsed, parsed⟩
  | float x =>
    constructor
    · rintro ⟨n, found, same⟩
      obtain ⟨json, read, parsed⟩ := Option.bind_eq_some_iff.mp found
      obtain ⟨y, known, rfl⟩ := Option.map_eq_some_iff.mp read
      cases parsed
      exact ⟨y, known, same⟩
    · rintro ⟨y, read, same⟩
      refine ⟨y.toI64, ?_, same⟩
      unfold Document.asParam
      rw [Document.read, read]
      rfl
  | null | bool b | arr items | obj fields =>
    refine iff_of_false ?_ id
    rintro ⟨_, _, absurd⟩
    exact absurd.elim

theorem inHeader_iff (document : Document) :
    (∃ n, parseI64 (receivedValue (python.str document)) = some n ∧ document.Denotes n) ↔
      document.InHeader python := by
  cases document with
  | int m =>
    constructor
    · rintro ⟨n, _, same⟩
      exact same ▸ toInt_bounds n
    · intro bounds
      have parsed : parseI64 (toString m) = some (Int64.ofInt m) := by
        rw [parseI64_toString]
        exact if_pos bounds
      refine ⟨Int64.ofInt m, ?_, (Int64.toInt_ofInt_of_le bounds.1 bounds.2).symm⟩
      show parseI64 (receivedValue (toString m)) = _
      rw [received_of_numeral parsed, parsed]
  | str s =>
    constructor
    · rintro ⟨n, _, parsed⟩
      exact Option.isSome_iff_exists.mpr ⟨n, parsed⟩
    · intro parses
      obtain ⟨n, parsed⟩ := Option.isSome_iff_exists.mp parses
      refine ⟨n, ?_, parsed⟩
      show parseI64 (receivedValue s) = _
      rw [received_of_numeral parsed, parsed]
  | float x => exact Iff.rfl
  | null | bool b | arr items | obj fields =>
    refine iff_of_false ?_ id
    rintro ⟨_, _, absurd⟩
    exact absurd.elim

end Copies

/-! ### What the gateway has bound -/

section Bound

variable {python : PyText} {upstream : String} {body : Document} {headers : Headers}

theorem str_ne {document : Document} (filled : document.blank = false) :
    python.str document ≠ "" := by
  cases document with
  | str s =>
    rintro rfl
    cases filled
  | int n =>
    show toString n ≠ ""
    rw [Int.toString_eq_repr, Int.repr_eq_if]
    split
    · exact Nat.repr_ne_empty
    · intro none
      have chars := congrArg String.toList none
      rw [String.toList_append] at chars
      cases chars
  | bool b =>
    cases b with
    | true => exact fun same : "True" = "" => absurd same (by decide)
    | false => exact fun same : "False" = "" => absurd same (by decide)
  | null => exact python.text_ne _
  | float x => exact python.text_ne _
  | arr => exact python.text_ne _
  | obj => exact python.text_ne _

theorem firstValue_cons (get : String → Option Document) (key : String) (keys : List String) :
    firstValue get (key :: keys) =
      ((get key).filter fun value => !value.blank).or (firstValue get keys) := by
  unfold firstValue
  cases held : get key with
  | none => rw [List.filterMap_cons_none held]; rfl
  | some value =>
    rw [List.filterMap_cons_some held, List.find?_cons]
    cases blank : value.blank <;> simp [Option.filter, blank]

variable {get : String → Option Document} {keys : List String} {source : String}
  {document : Document} {version : ModelVersion}

theorem firstValue_filled {value : Document} (found : firstValue get keys = some value) :
    value.blank = false := by
  simpa using List.find?_some found

theorem policy_of_bound (bound : (normalizeModelVersion python upstream get source).bound = true) :
    ∃ policy, policy ≠ "" ∧
      (normalizeModelVersion python upstream get source).rolloutPolicyVersion = some policy := by
  unfold normalizeModelVersion at bound ⊢
  dsimp only at bound ⊢
  cases policy : firstValue get policyAliases with
  | some => exact ⟨_, str_ne (firstValue_filled policy), rfl⟩
  | none =>
    cases param : firstValue get paramAliases with
    | some =>
      refine ⟨_, fun none => ?_, rfl⟩
      have chars := congrArg String.toList none
      rw [String.toList_append] at chars
      cases chars
    | none =>
      rw [policy, param] at bound
      cases bound

theorem firstValue_some {key : String} (listed : key ∈ keys) (held : get key = some document)
    (filled : document.blank = false) : ∃ value, firstValue get keys = some value := by
  rw [← Option.isSome_iff_exists, firstValue, List.find?_isSome]
  exact ⟨document, List.mem_filterMap.mpr ⟨key, listed, held⟩, by rw [filled]; rfl⟩

theorem bound_of_field (get : String → Option Document) (key : String)
    (listed : key ∈ paramAliases ++ policyAliases) (held : get key = some document)
    (filled : document.blank = false) :
    (normalizeModelVersion python upstream get source).bound = true := by
  rcases List.mem_append.mp listed with param | policy
  · obtain ⟨value, found⟩ := firstValue_some param held filled
    have filled := firstValue_filled found
    simp [normalizeModelVersion, ModelVersion.bound, found, filled]
  · obtain ⟨value, found⟩ := firstValue_some policy held filled
    have filled := @str_ne python _ (firstValue_filled found)
    simp [normalizeModelVersion, ModelVersion.bound, found, filled]

theorem extract_cases
    (extracted : extractResponseModelVersion python upstream body headers = some version) :
    version.bound = true ∧
      ((∃ nested, nestedVersion body = some nested ∧ version = normalizeModelVersion python upstream
          (fun key => nested.lookup key) "generation_response_body") ∨
        (∀ nested, nestedVersion body = some nested → (normalizeModelVersion python upstream
          (fun key => nested.lookup key) "generation_response_body").bound = false) ∧
        version = normalizeModelVersion python upstream
          (fun key => (header headers key).map .str) "generation_response_header") := by
  unfold extractResponseModelVersion at extracted
  rw [Option.orElse_eq_or] at extracted
  rcases Option.or_eq_some_iff.mp extracted with ofBody | ⟨unbound, ofHeaders⟩
  · obtain ⟨made, bound⟩ := Option.filter_eq_some_iff.mp ofBody
    obtain ⟨nested, found, rfl⟩ := Option.map_eq_some_iff.mp made
    exact ⟨bound, .inl ⟨nested, found, rfl⟩⟩
  · obtain ⟨made, bound⟩ := Option.filter_eq_some_iff.mp ofHeaders
    cases made
    refine ⟨bound, .inr ⟨fun nested found => ?_, rfl⟩⟩
    rw [found] at unbound
    simpa using unbound

theorem policy_of_extract
    (extracted : extractResponseModelVersion python upstream body headers = some version) :
    ∃ policy, policy ≠ "" ∧ version.rolloutPolicyVersion = some policy := by
  obtain ⟨bound, ⟨nested, _, rfl⟩ | ⟨_, rfl⟩⟩ := extract_cases extracted
  · exact policy_of_bound bound
  · exact policy_of_bound bound

theorem extract_none (extracted : extractResponseModelVersion python upstream body headers = none) :
    (∀ nested, nestedVersion body = some nested → (normalizeModelVersion python upstream
        (fun key => nested.lookup key) "generation_response_body").bound = false) ∧
      (normalizeModelVersion python upstream (fun key => (header headers key).map .str)
        "generation_response_header").bound = false := by
  unfold extractResponseModelVersion at extracted
  rw [Option.orElse_eq_or, Option.or_eq_none_iff] at extracted
  refine ⟨fun nested found => ?_, by simpa using extracted.2⟩
  have unbound := extracted.1
  rw [found] at unbound
  simpa using unbound

/-- The field of a version that has the first name is the one that is bound, unless it is blank. -/
theorem fields_of_extract {version : ModelVersion}
    (extracted : extractResponseModelVersion python upstream body headers = some version)
    {document : Document} (filled : document.blank = false) :
    let nested := (nestedVersion body).getD []
    (nested.lookup "rollout_param_version" = some document →
      version.rolloutParamVersion = some document) ∧
    (nested.lookup "rollout_policy_version" = some document →
      version.rolloutPolicyVersion = some (python.str document)) := by
  have first : (some document).filter (fun value => !value.blank) = some document := by
    rw [Option.filter_some, if_pos (by rw [filled]; rfl)]
  rcases (extract_cases extracted).2 with ⟨nested, found, rfl⟩ | ⟨unbound, _⟩
  · rw [found]
    refine ⟨fun held => ?_, fun held => ?_⟩
    · show firstValue _ (_ :: _) = _
      rw [firstValue_cons, show nested.lookup "rollout_param_version" = _ from held, first,
        Option.some_or]
    · show (Option.map python.str (firstValue _ (_ :: _))).orElse _ = _
      rw [firstValue_cons, show nested.lookup "rollout_policy_version" = _ from held, first,
        Option.some_or]
      rfl
  · cases found : nestedVersion body with
    | none => exact ⟨fun held => (by cases held), fun held => (by cases held)⟩
    | some nested =>
      have unbound := unbound nested found
      refine ⟨fun held => ?_, fun held => ?_⟩
      · exact Bool.noConfusion (unbound.symm.trans (bound_of_field
          (fun key => nested.lookup key) "rollout_param_version" (by decide) held filled))
      · exact Bool.noConfusion (unbound.symm.trans (bound_of_field
          (fun key => nested.lookup key) "rollout_policy_version" (by decide) held filled))

end Bound

/-! ### The reply -/

section Replies

variable {numbers : SerdeNumbers} {python : PyText} {upstream : String} {headers : Headers}

theorem nestedVersion_setField {data : Fields} {key : String} (other : key ≠ "uenv_model_version")
    (value : Document) : nestedVersion (.obj (setField key value data)) =
      nestedVersion (.obj data) := by
  unfold nestedVersion
  dsimp only
  rw [lookup_setField, if_neg other.symm]

variable {body : Document}

theorem reasoning_version {config : ModelGatewayConfig} {body' : Document}
    (ran : responseWithoutReasoning config body = .ok body') :
    nestedVersion body' = nestedVersion body ∧ body'.isObject = body.isObject := by
  cases body with
  | obj =>
    unfold responseWithoutReasoning at ran
    dsimp only at ran
    split at ran
    · split at ran
      · cases ran
        exact ⟨nestedVersion_setField (by decide) _, rfl⟩
      · split at ran
        · cases ran
          exact ⟨rfl, rfl⟩
        · cases ran
      · split at ran
        · cases ran
          exact ⟨rfl, rfl⟩
        · cases ran
      · cases ran
      · cases ran
        exact ⟨rfl, rfl⟩
    · cases ran
      exact ⟨rfl, rfl⟩
  | null | bool b | int n | float x | str s | arr items =>
    cases ran
    exact ⟨rfl, rfl⟩

theorem attached_lookup (object : body.isObject = true) (version : ModelVersion) (key : String) :
    ((nestedVersion (attachModelVersion body version)).getD []).lookup key =
      (((nestedVersion body).getD []).lookup key).or (version.payload.lookup key) := by
  cases body with
  | obj data =>
    unfold attachModelVersion
    dsimp only
    have found : ∀ nested : Fields, nestedVersion (.obj
        (setField "uenv_model_version" (.obj nested) data)) = some nested := by
      intro nested
      rw [nestedVersion, lookup_setField, if_pos rfl]
    rw [found, Option.getD_some]
    cases existing : nestedVersion (.obj data) with
    | some nested => exact lookup_setDefaults nested version.payload key
    | none => rfl
  | null | bool b | int n | float x | str s | arr items => cases object

theorem attached_plain (plain : body.isObject = false) (version : ModelVersion) :
    nestedVersion (attachModelVersion body version) = none := by
  cases body with
  | obj => cases plain
  | null | bool b | int n | float x | str s | arr items => rfl

theorem header_toList {α : Type} (name key : String) (value : Option α) (text : α → String) :
    header ((value.map fun a => (name, text a)).toList) key =
      if lower name = key then value.map text else none := by
  cases value with
  | none =>
    split
    · rfl
    · rfl
  | some a =>
    rw [Option.map_some, Option.toList_some, header_cons]
    rfl

theorem header_version (version : ModelVersion) (key : String) :
    header (versionHeaders python version) key =
      ((if "x-uenv-parameter-sync-id" = key then version.parameterSyncId else none).or
        ((if "x-uenv-rollout-policy-version" = key then version.rolloutPolicyVersion else none).or
          ((if "x-uenv-rollout-param-version" = key then
              version.rolloutParamVersion.map python.str else none).or
            (if "x-uenv-model-upstream" = key then some version.modelUpstream else none)))) := by
  have sync : lower "X-UEnv-Parameter-Sync-Id" = "x-uenv-parameter-sync-id" := by decide +kernel
  have policy : lower "X-UEnv-Rollout-Policy-Version" = "x-uenv-rollout-policy-version" := by
    decide +kernel
  have param : lower "X-UEnv-Rollout-Param-Version" = "x-uenv-rollout-param-version" := by
    decide +kernel
  have model : lower "X-UEnv-Model-Upstream" = "x-uenv-model-upstream" := by decide +kernel
  rw [versionHeaders, header_append, header_append, header_append, header_toList, header_toList,
    header_toList, header_cons, sync, policy, param, model, Option.map_id', Option.map_id']
  rfl

theorem sent_param (version : ModelVersion) :
    header (forwardedHeaders headers ++ versionHeaders python version)
        "x-uenv-rollout-param-version" =
      (version.rolloutParamVersion.map python.str).or
        (header headers "x-uenv-rollout-param-version") := by
  rw [header_append, header_forwarded headers (by decide), header_version, if_neg (by decide),
    if_neg (by decide), if_pos rfl, if_neg (by decide), Option.none_or, Option.none_or,
    Option.or_none]

theorem sent_policy {version : ModelVersion} {policy : String}
    (held : version.rolloutPolicyVersion = some policy) :
    header (forwardedHeaders headers ++ versionHeaders python version)
        "x-uenv-rollout-policy-version" = some policy := by
  rw [header_append, header_version, if_neg (by decide), if_pos rfl, held, Option.none_or,
    Option.some_or, Option.some_or]

theorem header_agrees {version : ModelVersion} {policy : String}
    (held : version.rolloutPolicyVersion = some policy) :
    Agrees (some version)
        (headerVersion (forwardedHeaders headers ++ versionHeaders python version)) ↔
      ByHeader python headers version := by
  unfold Agrees ByHeader headerVersion
  dsimp only
  rw [sent_policy held, sent_param, held, and_comm]
  refine and_congr_right fun _ => ?_
  cases version.rolloutParamVersion with
  | some param =>
    rw [Option.map_some, Option.some_or, Option.map_some, Option.bind_some, paramAgrees_iff]
    exact inHeader_iff param
  | none =>
    rw [Option.map_none, Option.none_or]
    cases ((header headers "x-uenv-rollout-param-version").map receivedValue).bind parseI64 with
    | none => exact iff_of_true trivial rfl
    | some n => exact iff_of_false id fun found => by cases found

end Replies

/-! ### What the worker makes of it -/

section Worker

variable {numbers : SerdeNumbers} {python : PyText} {upstream : String} {headers : Headers}

theorem asPolicy_int {m : Int} : (Document.int m).asPolicy numbers =
      if -2 ^ 63 ≤ m ∧ m < 2 ^ 63 then some (toString m) else none := by
  unfold Document.asPolicy
  rw [Document.read]
  split
  · next natural =>
    have fits : (UInt64.ofNat m.toNat).toNat = m.toNat := by
      rw [UInt64.toNat_ofNat']
      omega
    show (if _ then _ else none).map toString = _
    rw [fits, Int.toNat_of_nonneg natural.1]
    by_cases bounds : -2 ^ 63 ≤ m ∧ m < 2 ^ 63
    · rw [if_pos bounds, if_pos (by omega)]
      show some (toString (Int64.ofInt m).toInt) = _
      rw [Int64.toInt_ofInt_of_le bounds.1 bounds.2]
    · rw [if_neg bounds, if_neg (by omega)]
      rfl
  · split
    · next negative =>
      have bounds : -2 ^ 63 ≤ m ∧ m < 2 ^ 63 := ⟨negative.1, by omega⟩
      rw [if_pos bounds]
      show some (toString (Int64.ofInt m).toInt) = _
      rw [Int64.toInt_ofInt_of_le bounds.1 bounds.2]
    · rw [if_neg (by omega)]
      cases numbers.integer m <;> rfl

variable {field : Option Document} {document body : Document} {json : Json}

theorem asPolicy_of_legible {policy : String} (legible : LegiblePolicy field)
    (bound : ∀ document, field = some document →
      document.blank = false → policy = python.str document) :
    (field.or (some (.str policy))).bind (Document.asPolicy numbers) = some policy := by
  cases field with
  | none => rfl
  | some document =>
    cases document with
    | str s =>
      have some : s ≠ "" := legible
      have filled : (Document.str s).blank = false := by simpa [Document.blank] using some
      rw [bound (.str s) rfl filled]
      rfl
    | int m =>
      rw [bound (.int m) rfl rfl, Option.some_or, Option.bind_some, asPolicy_int]
      exact if_pos legible
    | null | bool b | float x | arr items | obj fields => exact legible.elim

theorem asPolicy_of_illegible {other : Option Document} (illegible : ¬LegiblePolicy field)
    (filled : field ≠ some (.str "")) :
    (field.or other).bind (Document.asPolicy numbers) = none := by
  cases field with
  | none => exact absurd trivial illegible
  | some document =>
    rw [Option.some_or, Option.bind_some]
    cases document with
    | str s =>
      refine absurd (fun none : s = "" => filled ?_) illegible
      rw [none]
    | int m =>
      rw [asPolicy_int]
      exact if_neg illegible
    | null | bool b => rfl
    | float x =>
      unfold Document.asPolicy
      rw [Document.read]
      cases numbers.float x <;> rfl
    | arr items =>
      unfold Document.asPolicy
      rw [Document.read]
      cases Document.readItems numbers items <;> rfl
    | obj fields =>
      unfold Document.asPolicy
      rw [Document.read]
      cases Document.readFields numbers fields <;> rfl

theorem asParam_of_blank (blank : document.blank = true) : document.asParam numbers = none := by
  cases document with
  | null => rfl
  | str s =>
    obtain rfl : s = "" := by simpa [Document.blank] using blank
    rw [asParam_str]
    decide +kernel
  | bool b | int m | float x | arr items | obj fields => cases blank

theorem asParam_of_inHeader (arrives : document.InHeader python)
    (read : document.read numbers = some json) : document.asParam numbers ≠ none := by
  cases document with
  | int m =>
    rw [asParam_int arrives]
    exact Option.some_ne_none _
  | str s =>
    rw [asParam_str]
    exact Option.isSome_iff_ne_none.mp arrives
  | float x =>
    obtain ⟨y, _, made⟩ := Option.map_eq_some_iff.mp (read : (numbers.float x).map _ = _)
    unfold Document.asParam
    rw [read, ← made]
    exact Option.some_ne_none _
  | null | bool b | arr items | obj fields => exact arrives.elim

theorem unbound_agrees (extracted : extractResponseModelVersion python upstream body headers = none)
    (read : body.read numbers = some json) :
    Agrees none (parseModelVersionFromResponse json (responseHeaders (forwardedHeaders headers))) ↔
      ((nestedVersion body).getD []).lookup "rollout_policy_version" ≠ some (.str "") ∧
        header headers "x-uenv-rollout-policy-version" = none := by
  obtain ⟨ofBody, ofHeaders⟩ := extract_none extracted
  have blank : ∀ key ∈ paramAliases ++ policyAliases, ∀ document,
      ((nestedVersion body).getD []).lookup key = some document → document.blank = true := by
    intro key listed document held
    cases found : nestedVersion body with
    | none =>
      rw [found] at held
      cases held
    | some nested =>
      rw [found] at held
      by_contra filled
      exact Bool.noConfusion ((ofBody nested found).symm.trans (bound_of_field
        (fun key => nested.lookup key) key listed held (Bool.eq_false_iff.mpr filled)))
  have param : (((nestedVersion body).getD []).lookup "rollout_param_version").bind
      (Document.asParam numbers) = none := by
    cases held : ((nestedVersion body).getD []).lookup "rollout_param_version" with
    | none => rfl
    | some document => exact asParam_of_blank (blank _ (by decide) document held)
  have headerParam : ((header headers "x-uenv-rollout-param-version").map receivedValue).bind
      parseI64 = none := by
    cases held : header headers "x-uenv-rollout-param-version" with
    | none => rfl
    | some text =>
      have empty : (Document.str text).blank = true := by
        by_contra filled
        exact Bool.noConfusion (ofHeaders.symm.trans (bound_of_field
          (fun key => (header headers key).map .str) "x-uenv-rollout-param-version" (by decide)
          (by rw [held]; rfl) (Bool.eq_false_iff.mpr filled)))
      obtain rfl : text = "" := by simpa [Document.blank] using empty
      decide +kernel
  rw [worker_eq read]
  dsimp only
  rw [param]
  unfold headerVersion
  rw [header_forwarded headers (by decide), header_forwarded headers (by decide), headerParam]
  cases held : ((nestedVersion body).getD []).lookup "rollout_policy_version" with
  | none =>
    show ((none : Option Int64), _) = (none, none) ↔ _
    simp
  | some document =>
    have empty := blank _ (by decide) document held
    cases document with
    | null =>
      show ((none : Option Int64), _) = (none, none) ↔ _
      simp
    | str s =>
      obtain rfl : s = "" := by simpa [Document.blank] using empty
      refine iff_of_false (fun found => ?_) fun other => other.1 rfl
      exact absurd (Prod.mk.inj found).2 (Option.some_ne_none _)
    | bool b | int m | float x | arr items | obj fields => cases empty

/-- The param version that the worker reads out of a body: a blank field hides the bound one. -/
theorem asParam_sent {field bound : Option Document}
    (first : ∀ document, field = some document → document.blank = false → bound = some document) :
    (Blank field → (field.or bound).bind (Document.asParam numbers) = none) ∧
      (¬Blank field → field.or bound = bound) := by
  refine ⟨?_, fun filled => ?_⟩
  · rintro ⟨document, rfl, blank⟩
    exact asParam_of_blank blank
  · cases field with
    | none => exact Option.none_or
    | some document =>
      rw [Option.some_or, first document rfl]
      exact Bool.eq_false_iff.mpr fun blank => filled ⟨document, rfl, blank⟩

theorem bound_agrees {version : ModelVersion} (object : body.isObject = true)
    (extracted : extractResponseModelVersion python upstream body headers = some version)
    (read : (attachModelVersion body version).read numbers = some json) :
    Agrees (some version) (parseModelVersionFromResponse json
        (responseHeaders (forwardedHeaders headers ++ versionHeaders python version))) ↔
      let param := ((nestedVersion body).getD []).lookup "rollout_param_version"
      let policy := ((nestedVersion body).getD []).lookup "rollout_policy_version"
      (LegiblePolicy policy → ∀ bound ∈ version.rolloutParamVersion,
        ¬Blank param ∧ bound.InBody numbers) ∧
      (¬LegiblePolicy policy → policy ≠ some (.str "") ∧
        (version.rolloutParamVersion = none ∨ Blank param) ∧ ByHeader python headers version) := by
  obtain ⟨policy, policy_ne, held⟩ := policy_of_extract extracted
  have firstParam := fun document found filled =>
    (@fields_of_extract _ _ _ _ _ extracted document filled).1 found
  have firstPolicy := fun document found filled =>
    (@fields_of_extract _ _ _ _ _ extracted document filled).2 found
  have byHeader := @header_agrees python headers version policy held
  have readable : ∀ document, (((nestedVersion body).getD []).lookup "rollout_param_version").or
      version.rolloutParamVersion = some document → ∃ json, document.read numbers = some json := by
    intro document sent
    rw [← payload_param, ← attached_lookup object] at sent
    rcases nestedVersion_read read with ⟨nested, values, found, _, inner⟩ | ⟨none, _⟩
    · rw [found] at sent
      exact readFields_some inner sent
    · rw [none] at sent
      cases sent
  rw [worker_eq read]
  dsimp only
  rw [attached_lookup object, attached_lookup object, payload_param, payload_policy, held,
    Option.map_some]
  generalize ((nestedVersion body).getD []).lookup "rollout_param_version" = param at *
  generalize ((nestedVersion body).getD []).lookup "rollout_policy_version" = field at *
  obtain ⟨hidden, shown⟩ := @asParam_sent numbers _ _ firstParam
  by_cases legible : LegiblePolicy field
  · rw [asPolicy_of_legible legible fun document found filled =>
      Option.some.inj (held.symm.trans (firstPolicy document found filled)),
      if_pos (by rw [Option.isSome_some, Bool.or_true])]
    refine Iff.trans ?_ (and_iff_left (absurd legible)).symm
    rw [forall_prop_of_true legible]
    refine (and_iff_left held.symm).trans ?_
    cases bound : version.rolloutParamVersion with
    | none =>
      have none : (param.or version.rolloutParamVersion).bind (Document.asParam numbers) =
          none := by
        by_cases blank : Blank param
        · exact hidden blank
        · rw [shown blank, bound]
          rfl
      rw [bound] at none
      rw [none]
      exact iff_of_true trivial fun document absent => by cases absent
    | some =>
      simp only [Option.mem_some_iff, forall_eq']
      by_cases blank : Blank param
      · rw [← bound, hidden blank, bound]
        exact iff_of_false id fun both => both.1 blank
      · rw [← bound, shown blank, bound, Option.bind_some, paramAgrees_iff, inBody_iff]
        exact (and_iff_right blank).symm
  · refine Iff.trans ?_ (and_iff_right (absurd · legible)).symm
    rw [forall_prop_of_true legible]
    by_cases empty : field = some (.str "")
    · rw [empty, if_pos (by rw [show (Option.or _ _).bind (Document.asPolicy numbers) =
        some "" from rfl, Option.isSome_some, Bool.or_true])]
      refine iff_of_false (fun agrees => ?_) fun both => both.1 rfl
      have same : some "" = version.rolloutPolicyVersion := agrees.2
      rw [held] at same
      exact policy_ne (Option.some.inj same).symm
    · rw [asPolicy_of_illegible legible empty, Option.isSome_none, Bool.or_false]
      cases read' : (param.or version.rolloutParamVersion).bind (Document.asParam numbers) with
      | some n =>
        rw [if_pos Option.isSome_some]
        refine iff_of_false (fun agrees => ?_) ?_
        · have same : none = version.rolloutPolicyVersion := agrees.2
          rw [held] at same
          cases same
        · rintro ⟨_, none | blank, _⟩
          · by_cases blank : Blank param
            · rw [hidden blank] at read'
              cases read'
            · rw [shown blank, none] at read'
              cases read'
          · rw [hidden blank] at read'
            cases read'
      | none =>
        rw [if_neg (by simp), byHeader]
        refine ⟨fun arrives => ⟨empty, ?_, arrives⟩, fun both => both.2.2⟩
        by_contra neither
        rw [not_or] at neither
        obtain ⟨document, bound⟩ := Option.ne_none_iff_exists'.mp neither.1
        have sent := shown neither.2
        rw [sent, bound, Option.bind_some] at read'
        obtain ⟨json', readable⟩ := readable document (sent.trans bound)
        have inHeader := arrives.2
        rw [bound] at inHeader
        exact asParam_of_inHeader inHeader readable read'

/-- Over every reply that the gateway sends and the worker can parse, both have the same version
exactly if what the gateway does not overwrite lets it arrive. -/
theorem versions_agree_iff (config : ModelGatewayConfig) {body : Document} {reply : Reply}
    {json : Json} (answered : handleProxy python upstream config body headers = .ok reply)
    (read : reply.body.read numbers = some json) :
    Agrees reply.modelVersion (parseModelVersionFromResponse json (responseHeaders reply.headers)) ↔
      Arrives numbers python upstream body headers := by
  obtain ⟨body', stripped, answered⟩ := bind_eq_ok.mp answered
  obtain ⟨nested, object⟩ := reasoning_version stripped
  have extraction : extractResponseModelVersion python upstream body headers =
      extractResponseModelVersion python upstream body' headers := by
    unfold extractResponseModelVersion
    rw [nested]
  dsimp only at answered
  split at answered
  swap
  · cases answered
  cases answered
  unfold Arrives
  dsimp only at read ⊢
  rw [← nested, ← object, extraction]
  cases extracted : extractResponseModelVersion python upstream body' headers with
  | none =>
    rw [extracted] at read
    rw [Option.elim_none, List.append_nil]
    exact unbound_agrees extracted read
  | some version =>
    rw [extracted] at read
    dsimp only
    split
    · next object => exact bound_agrees object extracted read
    · next plain =>
      obtain ⟨policy, _, held⟩ := policy_of_extract extracted
      rw [worker_eq read, Option.elim_some, Option.elim_some,
        attached_plain (Bool.eq_false_iff.mpr plain)]
      exact header_agrees held

end Worker

/-! ### A response with an empty field -/

section Samples

def plainText : PyText := ⟨fun _ => "None", fun _ => by decide⟩

def exactNumbers : SerdeNumbers := ⟨some, fun _ => none⟩

def defaultConfig : ModelGatewayConfig := ⟨false, false⟩

/-- A response of an upstream with fields of the version. -/
def versioned (nested : Fields) : Document := .obj [("uenv_model_version", .obj nested)]

theorem versions_agree_eleven : ∃ reply json, handleProxy plainText "http://a/v1" defaultConfig
        (versioned [("rollout_param_version", .int 11)]) [] = .ok reply ∧
      reply.body.read exactNumbers = some json ∧
      Agrees reply.modelVersion
        (parseModelVersionFromResponse json (responseHeaders reply.headers)) := by
  refine ⟨_, _, rfl, rfl, (@versions_agree_iff exactNumbers plainText "http://a/v1" [] defaultConfig
    (versioned [("rollout_param_version", .int 11)]) _ _ rfl rfl).mpr ?_⟩
  refine ⟨fun _ document bound => ?_, fun illegible => absurd trivial illegible⟩
  obtain rfl : Document.int 11 = document := Option.some.inj bound
  refine ⟨?_, (⟨by decide, by decide⟩ : -2 ^ 63 ≤ (11 : Int) ∧ (11 : Int) < 2 ^ 63)⟩
  rintro ⟨document, found, blank⟩
  cases found
  cases blank

/-- The gateway takes the version from another name, and leaves the empty field to the worker. -/
theorem emptyParam_lost : ∃ reply json, handleProxy plainText "http://a/v1" defaultConfig
        (versioned [("rollout_param_version", .str ""), ("global_step", .int 7)]) [] = .ok reply ∧
      reply.body.read exactNumbers = some json ∧
      reply.modelVersion.bind (·.rolloutParamVersion) = some (.int 7) ∧
      parseModelVersionFromResponse json (responseHeaders reply.headers) =
        (none, some "actor-step-7") ∧
      ¬Agrees reply.modelVersion
        (parseModelVersionFromResponse json (responseHeaders reply.headers)) := by
  refine ⟨_, _, rfl, rfl, rfl, ?_⟩
  have found := @worker_eq exactNumbers (attachModelVersion (versioned
    [("rollout_param_version", .str ""), ("global_step", .int 7)]) (normalizeModelVersion plainText
      "http://a/v1" (fun key => List.lookup key [("rollout_param_version", .str ""),
        ("global_step", .int 7)]) "generation_response_body")) _ rfl
  refine ⟨found _, ?_⟩
  rw [found]
  exact fun agrees => agrees.1

end Samples

end UEnv.Bridge.ModelGateway
