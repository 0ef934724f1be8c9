import Mathlib.Data.List.Sort
import UEnv.Lib.Semver

/-!
# Lists of versions

`version.rs` stores a normalized text beside each version of an environment, a package or a stack,
and `list_versions` and `list_stack_versions` order by it. The three tables are one here.
-/

namespace UEnv.Hub

open SemVer Decimal

/-- Width used when zero-padding each numeric component. -/
def PAD : Nat := 5

/-- The text of `ver::normalize`; its characters are ASCII and sort like its bytes. -/
def normalized (v : Version) : List Char :=
  let core := padded PAD v.major ++ '.' :: (padded PAD v.minor ++ '.' :: padded PAD v.patch)
  if v.pre = [] then core ++ ['~'] else core ++ '-' :: joined v.pre

/-- A row of a table of versions, as far as its list is concerned. -/
structure NormalizedRow where
  version : String
  versionNormalized : List Char
  deriving DecidableEq

/-- Why a version is not published. -/
inductive VersionError
  | invalidVersion (version : String)
  | alreadyExists (version : String)
  deriving DecidableEq

section Table

variable (parse : String → Option Version)

/-- A publish, as far as the version and its row are concerned. -/
def publishVersion (rows : List NormalizedRow) (version : String) :
    Except VersionError (List NormalizedRow) :=
  match parse version with
  | none => .error (.invalidVersion version)
  | some v =>
    if rows.any (·.version = version) then .error (.alreadyExists version)
    else .ok (rows ++ [{ version, versionNormalized := normalized v }])

/-- The table after a publish; a refused one leaves it as it was. -/
def afterPublish (rows : List NormalizedRow) (version : String) : List NormalizedRow :=
  match publishVersion parse rows version with
  | .ok rows' => rows'
  | .error _ => rows

def publishedVersions (versions : List String) : List NormalizedRow :=
  versions.foldl (afterPublish parse) []

/-- `ORDER BY version_normalized DESC`; the order of equal texts is left open. -/
structure Listed (rows list : List NormalizedRow) : Prop where
  perm : list.Perm rows
  sorted : list.Pairwise fun row row' => row'.versionNormalized ≤ row.versionNormalized

/-- No version of the list has a higher one after it. -/
def NewestFirst (list : List NormalizedRow) : Prop :=
  list.Pairwise fun row row' => ∀ v v', parse row.version = some v → parse row'.version = some v' →
    ¬v.Precedes v'

end Table

/-! ### The text of a lower version -/

/-- When a lower version is lower as text. The components decide where they differ first: with zeros
to the length of the other the smaller number must not be greater, and the patch of a release, which
has `~` after it, must be smaller even so. -/
def NormalizesBelow (a b : Version) : Prop :=
  if a.major ≠ b.major then a.major * 10 ^ excess PAD a.major b.major ≤ b.major
  else if a.minor ≠ b.minor then a.minor * 10 ^ excess PAD a.minor b.minor ≤ b.minor
  else if a.patch ≠ b.patch then
    (if a.pre = [] then a.patch + 1 else a.patch) * 10 ^ excess PAD a.patch b.patch ≤ b.patch
  else b.pre = [] ∨ PreSorts a.pre b.pre

/-- What follows the core. -/
def preText (pre : List Identifier) : List Char :=
  if pre = [] then ['~'] else '-' :: joined pre

theorem normalized_eq (v : Version) :
    normalized v = padded PAD v.major ++ '.' :: (padded PAD v.minor ++ '.' ::
      (padded PAD v.patch ++ preText v.pre)) := by
  unfold normalized preText
  split <;> simp

theorem preText_lt {a b : List Identifier} (some : a ≠ []) (lower : b = [] ∨ PrePrecedes a b) :
    preText a < preText b ↔ b = [] ∨ PreSorts a b := by
  rw [preText, if_neg some, preText]
  by_cases release : b = []
  · simp only [release, if_pos, true_or, iff_true]
    exact List.cons_lt_cons_iff.mpr (.inl (by decide))
  · rw [if_neg release, List.cons_lt_cons_iff, joined_lt (lower.resolve_left release) some]
    simp [release]

theorem normalized_lt {a b : Version} (lower : a.Precedes b) :
    normalized a < normalized b ↔ NormalizesBelow a b := by
  obtain ⟨major, minor, patch, pre, _⟩ := a
  obtain ⟨major', minor', patch', pre', _⟩ := b
  rw [normalized_eq, normalized_eq, NormalizesBelow]
  dsimp only
  rcases lower with less | ⟨same, lower⟩
  · rw [if_pos less.ne, padded_lt_low less (by decide)]
  obtain rfl : major = major' := same
  rw [if_neg (not_ne_iff.mpr rfl), padded_append_lt, List.cons_lt_cons_iff]
  simp only [Char.lt_irrefl, false_or, true_and]
  rcases lower with less | ⟨same, lower⟩
  · rw [if_pos less.ne, padded_lt_low less (by decide)]
  obtain rfl : minor = minor' := same
  rw [if_neg (not_ne_iff.mpr rfl), padded_append_lt, List.cons_lt_cons_iff]
  simp only [Char.lt_irrefl, false_or, true_and]
  rcases lower with less | ⟨same, some, lower⟩
  · rw [if_pos less.ne]
    by_cases release : pre = []
    · rw [preText, if_pos release, if_pos release, padded_lt_high less (by decide)]
    · rw [preText, if_neg release, if_neg release, padded_lt_low less (by decide)]
  · obtain rfl : patch = patch' := same
    rw [if_neg (not_ne_iff.mpr rfl), padded_append_lt, preText_lt some lower]

/-! ### Tables -/

section Tables

variable {parse : String → Option Version}

theorem afterPublish_cases (parse : String → Option Version) (rows : List NormalizedRow)
    (version : String) :
    (afterPublish parse rows version = rows ∧
      (parse version = none ∨ ∃ row ∈ rows, row.version = version)) ∨
    ∃ v, parse version = some v ∧
      afterPublish parse rows version = rows ++ [⟨version, normalized v⟩] := by
  unfold afterPublish publishVersion
  cases parse version with
  | none => exact .inl ⟨rfl, .inl rfl⟩
  | some v =>
    by_cases present : rows.any (·.version = version)
    · simp only [if_pos present]
      obtain ⟨row, member, same⟩ := List.any_eq_true.mp present
      exact .inl ⟨trivial, .inr ⟨row, member, of_decide_eq_true same⟩⟩
    · simp only [if_neg present]
      exact .inr ⟨v, rfl, rfl⟩

theorem publishedVersions_concat (versions : List String) (version : String) :
    publishedVersions parse (versions ++ [version]) =
      afterPublish parse (publishedVersions parse versions) version := by
  rw [publishedVersions, List.foldl_concat, ← publishedVersions]

variable {versions : List String}

theorem row_published {row : NormalizedRow} (listed : row ∈ publishedVersions parse versions) :
    row.version ∈ versions ∧
      ∃ v, parse row.version = some v ∧ row.versionNormalized = normalized v := by
  induction versions using List.reverseRecOn with
  | nil => cases listed
  | append_singleton versions version ih =>
    rw [publishedVersions_concat] at listed
    have earlier : row ∈ publishedVersions parse versions → row.version ∈ versions ++ [version] ∧
        ∃ v, parse row.version = some v ∧ row.versionNormalized = normalized v := fun before =>
      ⟨List.mem_append_left _ (ih before).1, (ih before).2⟩
    rcases afterPublish_cases parse (publishedVersions parse versions) version with
      ⟨same, _⟩ | ⟨v, parsed, added⟩
    · exact earlier (same ▸ listed)
    · rw [added] at listed
      rcases List.mem_append.mp listed with before | new
      · exact earlier before
      · obtain rfl := List.mem_singleton.mp new
        exact ⟨List.mem_append_right _ (List.mem_singleton_self _), v, parsed, rfl⟩

theorem published_row {version : String} {v : Version} (listed : version ∈ versions)
    (parsed : parse version = some v) :
    ∃ row ∈ publishedVersions parse versions, row.version = version := by
  induction versions using List.reverseRecOn with
  | nil => cases listed
  | append_singleton versions last ih =>
    rw [publishedVersions_concat]
    rcases afterPublish_cases parse (publishedVersions parse versions) last with
      ⟨same, why⟩ | ⟨v', parsed', added⟩
    · rw [same]
      rcases List.mem_append.mp listed with before | new
      · exact ih before
      · obtain rfl := List.mem_singleton.mp new
        exact why.resolve_left fun none => by rw [none] at parsed; cases parsed
    · rw [added]
      rcases List.mem_append.mp listed with before | new
      · obtain ⟨row, member, same⟩ := ih before
        exact ⟨row, List.mem_append_left _ member, same⟩
      · obtain rfl := List.mem_singleton.mp new
        exact ⟨_, List.mem_append_right _ (List.mem_singleton_self _), rfl⟩

/-- A list of versions is in order, whatever the versions and the order of their publishes, exactly
when the lower one of every two is lower as text. -/
theorem newestFirst_iff (parse : String → Option Version) (versions : List String) :
    (∀ list, Listed (publishedVersions parse versions) list → NewestFirst parse list) ↔
      ∀ version ∈ versions, ∀ version' ∈ versions, ∀ v v', parse version = some v →
        parse version' = some v' → v.Precedes v' → NormalizesBelow v v' := by
  constructor
  · intro ordered version listed version' listed' v v' parsed parsed' lower
    obtain ⟨row, member, rfl⟩ := published_row listed parsed
    obtain ⟨row', member', rfl⟩ := published_row listed' parsed'
    obtain ⟨_, _, same, text⟩ := row_published member
    obtain rfl := Option.some.inj (parsed.symm.trans same)
    obtain ⟨_, _, same', text'⟩ := row_published member'
    obtain rfl := Option.some.inj (parsed'.symm.trans same')
    rw [← normalized_lt lower]
    by_contra higher
    have differ : row' ≠ row := by
      rintro rfl
      obtain rfl := Option.some.inj (parsed.symm.trans parsed')
      exact Version.Precedes.irrefl _ lower
    -- a stable sort leaves the two rows in the order in which it gets them
    have first := List.perm_cons_erase member
    have second := List.perm_cons_erase ((List.mem_erase_of_ne differ).mpr member')
    let le := fun row row' : NormalizedRow =>
      decide (row'.versionNormalized ≤ row.versionNormalized)
    have trans : ∀ a b c, le a b → le b c → le a c := fun a b c ab bc =>
      decide_eq_true (le_trans (of_decide_eq_true bc) (of_decide_eq_true ab))
    have total : ∀ a b, le a b || le b a := fun a b => by
      simpa [le] using le_total b.versionNormalized a.versionNormalized
    let rows := row :: row' :: ((publishedVersions parse versions).erase row).erase row'
    have sorted := List.pairwise_mergeSort trans total rows
    have listing : Listed (publishedVersions parse versions) (rows.mergeSort le) :=
      ⟨(List.mergeSort_perm rows le).trans ((second.cons row).symm.trans first.symm),
        sorted.imp of_decide_eq_true⟩
    have pair : [row, row'].Pairwise fun a b => le a b = true := by
      refine List.pairwise_pair.mpr (decide_eq_true ?_)
      rw [text, text']
      exact not_lt.mp higher
    have kept : [row, row'].Sublist (rows.mergeSort le) :=
      List.sublist_mergeSort trans total pair (.cons_cons _ (.cons_cons _ (List.nil_sublist _)))
    have before := (ordered _ listing).sublist kept
    exact List.pairwise_pair.mp before v v' parsed parsed' lower
  · intro below list listing
    refine listing.sorted.imp_of_mem ?_
    intro row row' member member' order v v' parsed parsed' lower
    obtain ⟨listed, _, same, text⟩ := row_published (listing.perm.subset member)
    obtain rfl := Option.some.inj (parsed.symm.trans same)
    obtain ⟨listed', _, same', text'⟩ := row_published (listing.perm.subset member')
    obtain rfl := Option.some.inj (parsed'.symm.trans same')
    rw [text, text'] at order
    have less := below _ listed _ listed' _ _ parsed parsed' lower
    exact absurd ((normalized_lt lower).mpr less) (not_lt.mpr order)

end Tables

/-! ### Release candidates -/

/-- The pre-release `rc` with this number. -/
def candidate (number : Nat) : Version :=
  { major := 1, minor := 0, patch := 0
    pre := [.alphanumeric ⟨['r', 'c'], by decide, by decide⟩, .numeric number] }

/-- What the parser makes of two of them. -/
def parseCandidate (version : String) : Option Version :=
  if version = "1.0.0-rc.9" then some (candidate 9)
  else if version = "1.0.0-rc.10" then some (candidate 10)
  else none

/-- The ninth candidate is listed before the tenth. -/
theorem ninth_first : Listed (publishedVersions parseCandidate ["1.0.0-rc.9", "1.0.0-rc.10"])
      [⟨"1.0.0-rc.9", normalized (candidate 9)⟩, ⟨"1.0.0-rc.10", normalized (candidate 10)⟩] ∧
    ¬NewestFirst parseCandidate
      [⟨"1.0.0-rc.9", normalized (candidate 9)⟩, ⟨"1.0.0-rc.10", normalized (candidate 10)⟩] := by
  refine ⟨⟨.refl _, List.pairwise_pair.mpr (by decide)⟩, ?_⟩
  intro ordered
  refine List.pairwise_pair.mp ordered (candidate 9) (candidate 10) rfl rfl ?_
  have lower : PrePrecedes (candidate 9).pre (candidate 10).pre := .inr ⟨rfl, .inl (by decide)⟩
  exact .inr ⟨rfl, .inr ⟨rfl, .inr ⟨rfl, List.cons_ne_nil _ _, .inr lower⟩⟩⟩

end UEnv.Hub
