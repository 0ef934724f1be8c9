import UEnv.Hub.Store
import UEnv.Lib.Windows

/-!
# Pages of packages and stacks

`list_packages` and `list_stacks`. Rows of one `updated_at` come in any order in an answer of the
database. No row of these tables is ever marked as deleted.
-/

namespace UEnv.Hub

open Records Windows

variable {M I K D : Type}

/-! ### Pages -/

/-- The rows of `env_packages` or of `episode_stacks`, whose names are unique. -/
structure SeriesTable (M : Type) where
  rows : List (Series M) := []
  unique : Unique Series.id rows

/-- `dto::Page`. -/
structure Page (I : Type) where
  items : List I
  page : UInt32
  perPage : UInt32
  total : Nat

/-- `per_page.clamp(1, 200)`. -/
def clampPerPage (perPage : UInt32) : UInt32 :=
  if perPage < 1 then 1 else if 200 < perPage then 200 else perPage

/-- `(page.saturating_sub(1)) * per_page`; `none` is an overflow. -/
def pageOffset (page perPage : UInt32) : Option UInt32 :=
  let offset := (page.toNat - 1) * perPage.toNat
  if offset < UInt32.size then some (UInt32.ofNat offset) else none

/-- A page of a table, for an answer of the database. A row without a summary is left out. -/
def listPage (summary : Series M → Option I) (table : SeriesTable M) (answer : List (Series M))
    (page perPage : UInt32) : Option (Page I) :=
  let perPage := clampPerPage perPage
  (pageOffset page perPage).map fun offset =>
    { items := (window offset.toNat perPage.toNat answer).filterMap summary
      page
      perPage
      total := table.rows.length }

/-- `PackageSummary`; `role` is what `annotate_package_kind` fills in. -/
structure PackageSummary (K : Type) where
  packageId : String
  publisher : Option String
  description : Option String
  latestVersion : Option String
  createdAt : Nat
  updatedAt : Nat
  role : Option K

/-- `package_summary` and `annotate_package_kind`, which classifies a manifest. -/
def packageSummary (classify : M → K) (row : Series M) : PackageSummary K where
  packageId := row.id
  publisher := row.publisher
  description := row.description
  latestVersion := row.latestVersion
  createdAt := row.createdAt
  updatedAt := row.updatedAt
  role := row.latestVersion.bind fun latest =>
    (row.versions.find? fun v => v.version = latest && !v.isYanked).map fun v => classify v.content

/-- `list_packages` (repository.rs, 1052-1081). -/
def listPackages (classify : M → K) : SeriesTable M → List (Series M) → UInt32 → UInt32 →
    Option (Page (PackageSummary K)) :=
  listPage fun row => some (packageSummary classify row)

/-- `StackSummary`; `details` are the fields of the manifest. -/
structure StackSummary (D : Type) where
  stackId : String
  description : Option String
  latestVersion : Option String
  details : D
  createdAt : Nat
  updatedAt : Nat

/-- The summary of a stack whose latest version is there. -/
def stackSummary (details : M → D) (row : Series M) : Option (StackSummary D) := do
  let latest ← row.latestVersion
  let v ← lookup VersionRow.version latest row.versions
  some
    { stackId := row.id
      description := row.description
      latestVersion := some latest
      details := details v.content
      createdAt := row.createdAt
      updatedAt := row.updatedAt }

/-- `list_stacks` (repository.rs, 1437-1491). -/
def listStacks (details : M → D) : SeriesTable M → List (Series M) → UInt32 → UInt32 →
    Option (Page (StackSummary D)) :=
  listPage (stackSummary details)

/-! ### What the pages are for -/

/-- The page after `k` others. -/
def pageNumber (k : Nat) : Option UInt32 :=
  if k + 1 < UInt32.size then some (UInt32.ofNat (k + 1)) else none

/-- The number of pages that `total` implies. -/
def lastPage (total perPage : Nat) : Nat := (total + perPage - 1) / perPage

/-- The pages up to the last one hold every listed item once. -/
structure Partitions (listed : List I) (total : Nat) (perPage : UInt32) (pages : Nat → Page I) :
    Prop where
  once : ((List.range (lastPage total perPage.toNat)).flatMap fun k => (pages k).items).Perm listed
  full : ∀ k, k + 1 < lastPage total perPage.toNat →
    (pages k).items.length = (pages k).perPage.toNat
  total : ∀ k < lastPage total perPage.toNat,
    ((List.range (lastPage total perPage.toNat)).flatMap fun k => (pages k).items).length =
      (pages k).total

/-- A page is listed without an overflow, and the pages of its size partition the list. -/
structure Paged (summary : Series M → Option I)
    (list : SeriesTable M → List (Series M) → UInt32 → UInt32 → Option (Page I))
    (table : SeriesTable M) (page perPage : UInt32) : Prop where
  noOverflow : ∀ answer, Answers Series.updatedAt table.rows answer →
    (list table answer page perPage).isSome
  partition : ∀ answers : Nat → List (Series M),
    (∀ k, Answers Series.updatedAt table.rows (answers k)) →
      ∃ pages : Nat → Page I,
        (∀ k < lastPage table.rows.length (clampPerPage perPage).toNat,
          ((pageNumber k).bind fun page => list table (answers k) page perPage) = some (pages k)) ∧
        Partitions (table.rows.filterMap summary) table.rows.length (clampPerPage perPage) pages

/-- The offsets of the page and of all pages up to the last one are below `2 ^ 32`, and no two rows
on different pages have one `updated_at`. -/
structure Pageable (table : SeriesTable M) (page perPage : UInt32) : Prop where
  page : (page.toNat - 1) * (clampPerPage perPage).toNat < UInt32.size
  pages : lastPage table.rows.length (clampPerPage perPage).toNat < UInt32.size
  offsets : (lastPage table.rows.length (clampPerPage perPage).toNat - 1) *
    (clampPerPage perPage).toNat < UInt32.size
  apart : ∀ k, ¬TiedAt Series.updatedAt table.rows ((k + 1) * (clampPerPage perPage).toNat - 1)

/-! ### When the pages partition the list -/

section Pages

theorem clampPerPage_pos (perPage : UInt32) : 0 < (clampPerPage perPage).toNat := by
  unfold clampPerPage
  split
  · decide
  · split
    · decide
    · next low _ =>
      exact Nat.lt_of_lt_of_le Nat.one_pos (UInt32.le_iff_toNat_le.mp (UInt32.not_lt.mp low))

variable {k : Nat}

theorem lastPage_spec {total n : Nat} (positive : 0 < n) :
    k < lastPage total n ↔ k * n < total := by
  rw [lastPage, Nat.lt_iff_add_one_le, Nat.le_div_iff_mul_le positive, Nat.succ_mul]
  omega

theorem pageOffset_eq_some {page perPage offset : UInt32} : pageOffset page perPage = some offset ↔
      (page.toNat - 1) * perPage.toNat < UInt32.size ∧
        offset.toNat = (page.toNat - 1) * perPage.toNat := by
  unfold pageOffset
  dsimp only
  split
  · next fits =>
    rw [Option.some.injEq, ← UInt32.toNat_inj, UInt32.toNat_ofNat_of_lt' fits]
    exact ⟨fun same => ⟨fits, same.symm⟩, fun same => same.2.symm⟩
  · next fits =>
    refine iff_of_false ?_ fun both => fits both.1
    intro absent
    cases absent

theorem pageNumber_eq_some {page : UInt32} :
    pageNumber k = some page ↔ k + 1 < UInt32.size ∧ page.toNat = k + 1 := by
  unfold pageNumber
  split
  · next fits =>
    rw [Option.some.injEq, ← UInt32.toNat_inj, UInt32.toNat_ofNat_of_lt' fits]
    exact ⟨fun same => ⟨fits, same.symm⟩, fun same => same.2.symm⟩
  · next fits =>
    refine iff_of_false ?_ fun both => fits both.1
    intro absent
    cases absent

variable {summary : Series M → Option I} {table : SeriesTable M} {perPage : UInt32}

/-- The page after `k` others, if its offset fits. -/
theorem requested_eq_some {answer : List (Series M)} {p : Page I} :
    ((pageNumber k).bind fun page => listPage summary table answer page perPage) = some p ↔
      k + 1 < UInt32.size ∧ k * (clampPerPage perPage).toNat < UInt32.size ∧
        p = { items := (window (k * (clampPerPage perPage).toNat) (clampPerPage perPage).toNat
                answer).filterMap summary
              page := UInt32.ofNat (k + 1)
              perPage := clampPerPage perPage
              total := table.rows.length } := by
  simp only [Option.bind_eq_some_iff, listPage, Option.map_eq_some_iff, pageNumber_eq_some,
    pageOffset_eq_some]
  constructor
  · rintro ⟨page, ⟨low, number⟩, offset, ⟨fits, value⟩, rfl⟩
    rw [number, Nat.add_sub_cancel] at fits value
    have named : page = UInt32.ofNat (k + 1) :=
      UInt32.toNat_inj.mp (number.trans (UInt32.toNat_ofNat_of_lt' low).symm)
    exact ⟨low, fits, by rw [value, named]⟩
  · rintro ⟨low, fits, rfl⟩
    have number := UInt32.toNat_ofNat_of_lt' low
    refine ⟨UInt32.ofNat (k + 1), ⟨low, number⟩,
      UInt32.ofNat (k * (clampPerPage perPage).toNat), ⟨?_, ?_⟩, ?_⟩
    · rwa [number, Nat.add_sub_cancel]
    · rw [number, Nat.add_sub_cancel, UInt32.toNat_ofNat_of_lt' fits]
    · rw [UInt32.toNat_ofNat_of_lt' fits]

theorem Partitions.disjoint {listed : List I} {total : Nat} {pages : Nat → Page I}
    (partitions : Partitions listed total perPage pages) (distinct : listed.Nodup) {j : Nat}
    (less : j < k) (low : k < lastPage total perPage.toNat) {item : I}
    (here : item ∈ (pages j).items) : item ∉ (pages k).items := by
  have nodup := partitions.once.nodup_iff.mpr distinct
  have apart := (List.nodup_flatMap.mp nodup).2
  rw [List.pairwise_iff_getElem] at apart
  have pair := apart j k (by simp; omega) (by simpa using low) less
  simp only [List.getElem_range] at pair
  exact pair here

theorem nodup_summaries (name : I → String)
    (named : ∀ row item, summary row = some item → name item = row.id) :
    (table.rows.filterMap summary).Nodup := by
  refine List.Nodup.of_map name ?_
  have names : (table.rows.filterMap summary).map name =
      (table.rows.filter fun row => (summary row).isSome).map Series.id := by
    induction table.rows with
    | nil => rfl
    | cons row rows ih =>
      cases found : summary row with
      | none => rw [List.filterMap_cons_none found, List.filter_cons_of_neg (by simp [found]), ih]
      | some item =>
        rw [List.filterMap_cons_some found, List.filter_cons_of_pos (by simp [found]),
          List.map_cons, List.map_cons, ih, named row item found]
  rw [names]
  exact table.unique.sublist (List.filter_sublist.map _)

theorem Paged.pageable {page : UInt32} (name : I → String)
    (named : ∀ row item, summary row = some item → name item = row.id)
    (paged : Paged summary (listPage summary) table page perPage) :
    Pageable table page perPage ∧ ∀ row ∈ table.rows, (summary row).isSome := by
  have positive := clampPerPage_pos perPage
  obtain ⟨answer, answered⟩ := @exists_answer _ _ _ Series.updatedAt table.rows
  obtain ⟨pages, requested, partitions⟩ := paged.partition (fun _ => answer) fun _ => answered
  have summarized : ∀ row ∈ table.rows, (summary row).isSome := by
    intro row listed
    have some_page : 0 < lastPage table.rows.length (clampPerPage perPage).toNat :=
      (lastPage_spec positive).mpr (by simpa using List.length_pos_of_mem listed)
    have count := partitions.total 0 some_page
    rw [partitions.once.length_eq, (requested_eq_some.mp (requested 0 some_page)).2.2] at count
    exact List.filterMap_length_eq_length.mp count row listed
  refine ⟨⟨?_, ?_, ?_, ?_⟩, summarized⟩
  · obtain ⟨p, listed⟩ := Option.isSome_iff_exists.mp (paged.noOverflow answer answered)
    obtain ⟨offset, fits, _⟩ := Option.map_eq_some_iff.mp listed
    exact (pageOffset_eq_some.mp fits).1
  · rcases Nat.eq_zero_or_pos (lastPage table.rows.length (clampPerPage perPage).toNat) with
      none | some
    · rw [none]
      decide
    · have last := (requested_eq_some.mp (requested _ (Nat.sub_lt some Nat.one_pos))).1
      rwa [Nat.sub_add_cancel some] at last
  · rcases Nat.eq_zero_or_pos (lastPage table.rows.length (clampPerPage perPage).toNat) with
      none | some
    · rw [none, Nat.zero_sub, Nat.zero_mul]
      decide
    · exact (requested_eq_some.mp (requested _ (Nat.sub_lt some Nat.one_pos))).2.1
  · intro k tied
    obtain ⟨answers, answered, row, listed, here, there⟩ := exists_row_twice positive tied
    obtain ⟨pages, requested, partitions⟩ := paged.partition answers answered
    have inside := tied.lt_length
    have low : k + 1 < lastPage table.rows.length (clampPerPage perPage).toNat := by
      refine (lastPage_spec positive).mpr ?_
      have := Nat.mul_pos (Nat.succ_pos k) positive
      omega
    obtain ⟨item, found⟩ := Option.isSome_iff_exists.mp (summarized row listed)
    have holds : ∀ j < lastPage table.rows.length (clampPerPage perPage).toNat,
        row ∈ window (j * (clampPerPage perPage).toNat) (clampPerPage perPage).toNat (answers j) →
          item ∈ (pages j).items := by
      intro j low member
      rw [(requested_eq_some.mp (requested j low)).2.2]
      exact List.mem_filterMap.mpr ⟨row, member, found⟩
    exact partitions.disjoint (nodup_summaries name named) (Nat.lt_succ_self k) low
      (holds k (Nat.lt_of_succ_lt low) here) (holds (k + 1) low there)

theorem Pageable.paged {page : UInt32} (pageable : Pageable table page perPage)
    (summarized : ∀ row ∈ table.rows, (summary row).isSome) :
    Paged summary (listPage summary) table page perPage where
  noOverflow := by
    intro answer _
    rw [listPage, Option.isSome_map]
    exact Option.isSome_iff_exists.mpr ⟨_, pageOffset_eq_some.mpr
      ⟨pageable.page, UInt32.toNat_ofNat_of_lt' pageable.page⟩⟩
  partition := by
    intro answers answered
    have positive := clampPerPage_pos perPage
    generalize width : (clampPerPage perPage).toNat = n at positive
    generalize count : lastPage table.rows.length n = last
    have pages := width ▸ pageable.pages
    have offsets := width ▸ pageable.offsets
    have apart := width ▸ pageable.apart
    rw [count] at pages offsets
    refine ⟨fun k =>
      { items := (window (k * n) n (answers k)).filterMap summary
        page := UInt32.ofNat (k + 1)
        perPage := clampPerPage perPage
        total := table.rows.length }, fun k low => ?_, ?_⟩
    · have before : k * n ≤ (last - 1) * n := Nat.mul_le_mul_right n (by omega)
      refine requested_eq_some.mpr ⟨by omega, ?_, ?_⟩
      · rw [width]
        omega
      · rw [width]
    · have whole : ((List.range last).flatMap fun k =>
          (window (k * n) n (answers k)).filterMap summary).Perm
            (table.rows.filterMap summary) := by
        rw [← List.filterMap_flatMap]
        refine List.Perm.filterMap summary ?_
        refine (windows_perm answered (answered 0) positive fun k _ => apart k).trans ?_
        rw [List.take_of_length_le]
        · exact (answered 0).perm
        · rw [(answered 0).length]
          have past := (lastPage_spec (k := last) positive).not.mp (by rw [count]; omega)
          omega
      refine ⟨?_, fun k low => ?_, fun k low => ?_⟩
      · rw [width, count]
        exact whole
      · rw [width, count] at low
        have inside := (lastPage_spec positive).mp (count ▸ low)
        have filled : (window (k * n) n (answers k)).length = n := by
          rw [window, List.length_take, List.length_drop, (answered k).length]
          rw [Nat.succ_mul] at inside
          omega
        change ((window (k * n) n (answers k)).filterMap summary).length = _
        rw [width, List.filterMap_length_eq_length.mpr, filled]
        intro row member
        refine summarized row ((answered k).perm.mem_iff.mp ?_)
        exact List.mem_of_mem_drop (List.mem_of_mem_take member)
      · rw [width, count, whole.length_eq]
        exact List.filterMap_length_eq_length.mpr summarized

end Pages

/-- The pages partition the packages and the stacks just if the offsets fit, no tie is cut, and for
stacks the latest version of each is there. -/
theorem pages_partition_iff (classify : M → K) (details : M → D)
    (packages episodeStacks : SeriesTable M) (page perPage : UInt32) :
    (Paged (fun row => some (packageSummary classify row)) (listPackages classify) packages page
        perPage ↔ Pageable packages page perPage) ∧
      (Paged (stackSummary details) (listStacks details) episodeStacks page perPage ↔
        Pageable episodeStacks page perPage ∧
          ∀ row ∈ episodeStacks.rows, (stackSummary details row).isSome) := by
  refine ⟨⟨fun paged => ?_, fun pageable => ?_⟩, ⟨fun paged => ?_, fun both => ?_⟩⟩
  · refine (Paged.pageable PackageSummary.packageId (fun row item found => ?_) paged).1
    rw [← Option.some.inj found]
    rfl
  · exact pageable.paged fun row _ => rfl
  · refine Paged.pageable StackSummary.stackId (fun row item found => ?_) paged
    obtain ⟨latest, _, found⟩ := Option.bind_eq_some_iff.mp found
    obtain ⟨v, _, found⟩ := Option.bind_eq_some_iff.mp found
    rw [← Option.some.inj found]
  · exact both.1.paged both.2

/-- The last page number with the default page size. -/
theorem last_page_overflows : ¬Paged (fun row : Series Unit => some (packageSummary id row))
    (listPackages id) ⟨[], List.nodup_nil⟩ 4294967295 20 := by
  intro paged
  have listed := paged.noOverflow [] ⟨List.Perm.refl _, List.Pairwise.nil⟩
  exact Bool.false_ne_true listed

end UEnv.Hub
