import UEnv.Lib.Panics
import UEnv.Service.Request
import UEnv.Worker.InstancePool

/-!
# Images and warm tags

The image of an instance, the warm tag under which `prewarm_images` keeps it on the host and the
choice between the two when a sandbox is provisioned. Names with the prefix of a warm tag are taken
to come from `warm_tag_image` alone.
-/

namespace UEnv.Worker.WarmTags

open Text Runs
open Service (isWhiteSpace)

/-- `SweInstance`, as far as its image is concerned. -/
structure SweInstance where
  instanceId : List Char
  variant : BenchmarkVariant := .verified
  imageCacheKey : Option (List Char) := none
  deriving DecidableEq

/-! ### References -/

/-- `replace("__", "_1776_")`. -/
def replaceUnderscores : List Char → List Char
  | '_' :: '_' :: rest => "_1776_".toList ++ replaceUnderscores rest
  | c :: rest => c :: replaceUnderscores rest
  | [] => []

/-- `image_ref` of an id. -/
def idImageRef (instanceId : List Char) : List Char :=
  "swebench/sweb.eval.x86_64.".toList ++ replaceUnderscores instanceId ++ ":latest".toList

/-- `SMITH_IMAGE_PREFIX`. -/
def smithImagePrefix : List Char := "swebench/swesmith.".toList

/-- `normalize_swesmith_image_ref` (dataset.rs, 292-303). -/
def normalizeSwesmithImageRef (image : List Char) : List Char :=
  let trimmed := trimBy isWhiteSpace image
  let lastSegment := (trimmed.splitOnP (· == '/')).getLastD []
  if !smithImagePrefix.isPrefixOf trimmed then []
  else if !trimmed.isEmpty && !lastSegment.contains ':' then trimmed ++ ":latest".toList
  else trimmed

section Images

-- `str::to_lowercase`
variable (lower : List Char → List Char)

/-- `smith_image_ref`; it panics where the eighth byte of the commit ends within a character. -/
def smithImageRef (instanceId : List Char) : Option (List Char) :=
  let named := fun (name : List Char) =>
    lower (smithImagePrefix ++ "x86_64.".toList ++ name ++ ":latest".toList)
  match splitAt "__".toList instanceId with
  | none => some (named instanceId)
  | some (owner, rest) =>
    let parts := rest.splitOnP (· == '.')
    let repo := parts.headD []
    let commit := parts.tail.headD []
    if repo = [] ∨ commit = [] then some (named (replaceUnderscores instanceId))
    else (sliceTo (min (byteLength commit) 8) commit).map fun commit8 =>
      named (owner ++ "_1776_".toList ++ repo ++ '.' :: commit8)

/-- `image_ref`; without a value it panics. -/
def SweInstance.imageRef (inst : SweInstance) : Option (List Char) :=
  match inst.imageCacheKey.filter fun img => !(trimBy isWhiteSpace img).isEmpty with
  | some img =>
    match inst.variant with
    | .smith => some (normalizeSwesmithImageRef img)
    | _ => some img
  | none =>
    match inst.variant with
    | .smith => smithImageRef lower inst.instanceId
    | _ => some (idImageRef inst.instanceId)

end Images

/-- A character of a warm tag. -/
def tagChar (c : Char) : Char :=
  if c.isAlphanum || c == '-' || c == '.' then c else '-'

/-- `warm_tag` (image_cache.rs, 360-372). -/
def warmTag (instanceId : List Char) : List Char :=
  "cache/swe-".toList ++ instanceId.map tagChar ++ ":warm".toList

/-- `resolve_provision_image` (image_cache.rs, 376-387). -/
def resolveProvisionImage (imagePresent : List Char → Bool) (baseImage instanceId : List Char) :
    List Char :=
  let tag := warmTag instanceId
  if imagePresent tag then tag else baseImage

/-! ### Runs -/

/-- The catalog, by the keys of its entries, and the image from which each warm tag was last set. -/
structure Host where
  catalog : List Char → Option SweInstance
  tags : List Char → Option (List Char)

inductive Step
  | reload (catalog : List Char → Option SweInstance)
  /-- An entry is warmed; the runtime may refuse the tag. -/
  | warm (key : List Char) (tagged : Bool)
  | provision (key : List Char)

section Hosts

variable (lower : List Char → List Char)

/-- `warm_tag_image` (image_cache.rs, 233-248). -/
def Host.warmTagImage (host : Host) (image instanceId : List Char) : Host :=
  { host with tags := fun tag => if tag = warmTag instanceId then some image else host.tags tag }

/-- What warming an entry leaves. -/
def Host.warm (host : Host) (key : List Char) : Host :=
  match (host.catalog key).bind (·.imageRef lower) with
  | some image => host.warmTagImage image key
  | none => host

/-- The image that a sandbox of an instance is started from. -/
def Host.provisionImage (host : Host) (inst : SweInstance) : Option (List Char) :=
  (inst.imageRef lower).map fun image =>
    resolveProvisionImage (fun tag => (host.tags tag).isSome) image inst.instanceId

def Host.after (host : Host) : Step → Host
  | .reload catalog => { host with catalog }
  | .warm key tagged => if tagged then host.warm lower key else host
  | .provision _ => host

def hosts : System Host Step where
  init host := host.tags = fun _ => none
  step host step := some (host.after lower step)

/-- An image that is the own one of an instance, or its warm tag, last set from the own one. -/
def Own (host : Host) (inst : SweInstance) (image started : List Char) : Prop :=
  started = image ∨
    started = warmTag inst.instanceId ∧ host.tags (warmTag inst.instanceId) = some image

/-- Every sandbox that can be asked for is started from its own image. -/
def StartsOwn (host : Host) : Prop :=
  ∀ key inst, host.catalog key = some inst → ∃ image started,
    inst.imageRef lower = some image ∧ host.provisionImage lower inst = some started ∧
      Own host inst image started

/-- The first eight bytes of the commit in the id of a Smith instance without a key of its own are
whole characters. -/
def SweInstance.Cuttable (inst : SweInstance) : Prop :=
  inst.variant = .smith →
    inst.imageCacheKey.filter (fun img => !(trimBy isWhiteSpace img).isEmpty) = none →
      ∀ owner rest, splitAt "__".toList inst.instanceId = some (owner, rest) →
        let parts := rest.splitOnP (· == '.')
        let commit := parts.tail.headD []
        parts.headD [] ≠ [] → commit ≠ [] → (sliceTo (min (byteLength commit) 8) commit).isSome

/-- A warm tag is not there, was set from the image of the instance, or is its image. -/
def TagFits (tag : Option (List Char)) (inst : SweInstance) : Prop :=
  ∀ image, inst.imageRef lower = some image →
    tag = none ∨ tag = some image ∨ warmTag inst.instanceId = image

/-- A reload brings no instance whose warm tag was set from another image, and what is warmed shares
its tag only with instances of the same image. -/
def Keeps (host : Host) : Step → Prop
  | .reload catalog => ∀ key inst, catalog key = some inst →
    inst.Cuttable ∧ TagFits lower (host.tags (warmTag inst.instanceId)) inst
  | .warm key tagged => tagged = true → ∀ inst image, host.catalog key = some inst →
    inst.imageRef lower = some image → ∀ key' inst', host.catalog key' = some inst' →
      warmTag inst'.instanceId = warmTag key → TagFits lower (some image) inst'
  | .provision _ => True

end Hosts

section Exactness

variable {lower : List Char → List Char}

theorem smithImageRef_isSome_iff (instanceId : List Char) :
    (smithImageRef lower instanceId).isSome ↔
      ∀ owner rest, splitAt "__".toList instanceId = some (owner, rest) →
        let parts := rest.splitOnP (· == '.')
        let commit := parts.tail.headD []
        parts.headD [] ≠ [] → commit ≠ [] →
          (sliceTo (min (byteLength commit) 8) commit).isSome := by
  unfold smithImageRef
  cases cut : splitAt "__".toList instanceId with
  | none => simp
  | some pair =>
    obtain ⟨owner, rest⟩ := pair
    dsimp only
    split
    · rename_i missing
      refine iff_of_true rfl ?_
      rintro _ _ same repo commit
      cases same
      exact absurd missing (not_or.mpr ⟨repo, commit⟩)
    · rename_i there
      rw [Option.isSome_map]
      constructor
      · rintro cuts _ _ same - -
        cases same
        exact cuts
      · intro cuts
        exact cuts owner rest rfl (not_or.mp there).1 (not_or.mp there).2

/-- The image of an instance is a panic exactly if its commit is cut within a character. -/
theorem imageRef_isSome_iff (inst : SweInstance) :
    (inst.imageRef lower).isSome ↔ inst.Cuttable := by
  unfold SweInstance.imageRef SweInstance.Cuttable
  cases key : inst.imageCacheKey.filter fun img => !(trimBy isWhiteSpace img).isEmpty with
  | some => cases inst.variant <;> simp
  | none =>
    cases inst.variant with
    | smith => simpa using smithImageRef_isSome_iff inst.instanceId
    | _ => simp

theorem provisionImage_own_iff (host : Host) (inst : SweInstance) :
    (∃ image started, inst.imageRef lower = some image ∧
        host.provisionImage lower inst = some started ∧ Own host inst image started) ↔
      inst.Cuttable ∧ TagFits lower (host.tags (warmTag inst.instanceId)) inst := by
  rw [← @imageRef_isSome_iff lower]
  unfold Host.provisionImage TagFits Own resolveProvisionImage
  cases own : inst.imageRef lower with
  | none => simp
  | some =>
    cases tag : host.tags (warmTag inst.instanceId) with
    | none => simp [tag]
    | some => simp [tag, eq_comm, or_comm]

theorem startsOwn_iff (host : Host) : StartsOwn lower host ↔
    ∀ key inst, host.catalog key = some inst →
      inst.Cuttable ∧ TagFits lower (host.tags (warmTag inst.instanceId)) inst := by
  simp only [StartsOwn, provisionImage_own_iff]

variable {host : Host}

theorem startsOwn_warmTagImage_iff (own : StartsOwn lower host) (image key : List Char) :
    StartsOwn lower (host.warmTagImage image key) ↔
      ∀ key' inst, host.catalog key' = some inst → warmTag inst.instanceId = warmTag key →
        TagFits lower (some image) inst := by
  rw [startsOwn_iff] at own ⊢
  constructor
  · intro own' key' inst found same
    have fits := (own' key' inst found).2
    simpa only [Host.warmTagImage, if_pos same] using fits
  · intro fits key' inst found
    refine ⟨(own key' inst found).1, ?_⟩
    by_cases same : warmTag inst.instanceId = warmTag key
    · simpa only [Host.warmTagImage, if_pos same] using fits key' inst found same
    · simpa only [Host.warmTagImage, if_neg same] using (own key' inst found).2

/-- After a step every sandbox is started from its own image. -/
def KeepsOwn (lower : List Char → List Char) (host : Host) (step : Step) : Prop :=
  ∀ after, (hosts lower).step host step = some after → StartsOwn lower after

theorem keepsOwn_iff (own : StartsOwn lower host) (step : Step) :
    KeepsOwn lower host step ↔ Keeps lower host step := by
  have after : KeepsOwn lower host step ↔ StartsOwn lower (host.after lower step) := by
    simp [KeepsOwn, hosts]
  rw [after]
  cases step with
  | reload => exact startsOwn_iff _
  | provision => exact iff_of_true own trivial
  | warm key tagged =>
    cases tagged with
    | false => exact iff_of_true own fun impossible => by cases impossible
    | true =>
      have warmed : host.after lower (.warm key true) = host.warm lower key := rfl
      rw [warmed, Host.warm]
      cases named : (host.catalog key).bind (·.imageRef lower) with
      | none =>
        refine iff_of_true own fun _ inst image found ref => ?_
        rw [found, Option.bind_some, ref] at named
        cases named
      | some image =>
        obtain ⟨inst, found, ref⟩ := Option.bind_eq_some_iff.mp named
        rw [startsOwn_warmTagImage_iff own]
        constructor
        · rintro fits - inst' image' found' ref'
          obtain rfl := Option.some.inj (found.symm.trans found')
          obtain rfl := Option.some.inj (ref.symm.trans ref')
          exact fits
        · exact fun fits => fits rfl inst image found ref

/-- In every run of warm tags, reloads and provisions from a host without warm tags, all sandboxes
are started from their own image in every state exactly if no commit of the catalogs is cut within a
character, no instance is warmed that shares its tag with one of another image, and no reload gives
an instance an image other than the one its tag was set from. -/
theorem sandboxes_start_own_iff (lower : List Char → List Char)
    (catalog : List Char → Option SweInstance) (steps : List Step) :
    (StartsOwn lower ⟨catalog, fun _ => none⟩ ∧
        (hosts lower).Along (KeepsOwn lower) ⟨catalog, fun _ => none⟩ steps) ↔
      (∀ key inst, catalog key = some inst → inst.Cuttable) ∧
        (hosts lower).Along (Keeps lower) ⟨catalog, fun _ => none⟩ steps := by
  have fresh : StartsOwn lower ⟨catalog, fun _ => none⟩ ↔
      ∀ key inst, catalog key = some inst → inst.Cuttable := by
    simp [startsOwn_iff, TagFits]
  rw [← fresh]
  refine and_congr_right fun own => ?_
  refine System.along_congr (motive := StartsOwn lower) ?_ ?_ own steps
  · exact fun host step after _ keeps taken => keeps after taken
  · exact fun host step own => keepsOwn_iff own step

end Exactness

/-! ### Two ids with one tag -/

def demo (instanceId : String) : SweInstance := { instanceId := instanceId.toList }

/-- Two repositories whose ids differ in characters that a tag has not. -/
def twoRepositories (key : List Char) : Option SweInstance :=
  if key = "a__b-1".toList then some (demo "a__b-1")
  else if key = "a_-b-1".toList then some (demo "a_-b-1")
  else none

/-- An id whose entry has an image of its own. -/
def rebuilt (key : List Char) : Option SweInstance :=
  if key = "a__b-1".toList then some { demo "a__b-1" with imageCacheKey := some "rebuilt".toList }
  else none

theorem not_startsOwn_of_tag {lower : List Char → List Char} {host : Host} {key : List Char}
    {inst : SweInstance} {image source : List Char} (found : host.catalog key = some inst)
    (ref : inst.imageRef lower = some image)
    (tagged : host.tags (warmTag inst.instanceId) = some source) (stale : source ≠ image)
    (foreign : warmTag inst.instanceId ≠ image) : ¬ StartsOwn lower host := by
  intro own
  rcases ((startsOwn_iff host).mp own key inst found).2 image ref with absent | same | same
  · rw [tagged] at absent
    cases absent
  · rw [tagged] at same
    exact stale (Option.some.inj same)
  · exact foreign same

/-- A sandbox of the one repository is started from the warm image of the other, and a rebuilt image
is not used; the commit of a Smith id is cut within a character. -/
theorem warm_tags_mix_images : ¬ (hosts id).Along (KeepsOwn id) ⟨twoRepositories, fun _ => none⟩
        [.warm "a__b-1".toList true, .provision "a_-b-1".toList] ∧
      ¬ (hosts id).Along (KeepsOwn id) ⟨twoRepositories, fun _ => none⟩
        [.reload rebuilt, .warm "a__b-1".toList true, .reload twoRepositories] ∧
      smithImageRef id "o__r.abcdefgé".toList = none := by
  refine ⟨?_, ?_, by decide +kernel⟩
  · rintro ⟨keeps, -⟩
    refine @not_startsOwn_of_tag id _ "a_-b-1".toList (demo "a_-b-1")
      "swebench/sweb.eval.x86_64.a_-b-1:latest".toList
      "swebench/sweb.eval.x86_64.a_1776_b-1:latest".toList ?_ ?_ ?_ ?_ ?_ (keeps _ rfl)
    · decide +kernel
    · decide +kernel
    · decide +kernel
    · decide +kernel
    · decide +kernel
  · rintro ⟨-, later⟩
    obtain ⟨-, last⟩ := later _ rfl
    obtain ⟨keeps, -⟩ := last _ rfl
    refine @not_startsOwn_of_tag id _ "a__b-1".toList (demo "a__b-1")
      "swebench/sweb.eval.x86_64.a_1776_b-1:latest".toList "rebuilt".toList ?_ ?_ ?_ ?_ ?_
      (keeps _ rfl)
    · decide +kernel
    · decide +kernel
    · decide +kernel
    · decide +kernel
    · decide +kernel

end UEnv.Worker.WarmTags
