import Mathlib.Data.List.Infix
import UEnv.Lib.Decimal

/-!
# Semantic versions

Versions, their precedence, and when two lists of pre-release identifiers joined by dots sort as
text as they do in precedence.
-/

namespace UEnv.SemVer

/-- The characters of an identifier. -/
def isIdentifierChar (c : Char) : Bool := c.isDigit || c.isUpper || c.isLower || c == '-'

/-- An identifier that is not a number. -/
structure Alphanumeric where
  text : List Char
  chars : text.all isIdentifierChar
  letter : text.any fun c => !c.isDigit
  deriving DecidableEq

/-- A pre-release identifier; a number has no leading zeros. -/
inductive Identifier
  | numeric (value : Nat)
  | alphanumeric (name : Alphanumeric)
  deriving DecidableEq

/-- A version; `pre` is empty for a release. -/
structure Version where
  major : Nat
  minor : Nat
  patch : Nat
  pre : List Identifier := []
  build : List Char := []
  deriving DecidableEq

def Identifier.text : Identifier → List Char
  | numeric value => Nat.toDigits 10 value
  | alphanumeric name => name.text

/-- Numbers by value and below the names, names as text. -/
def Identifier.Precedes : Identifier → Identifier → Prop
  | numeric x, numeric y => x < y
  | numeric _, alphanumeric _ => True
  | alphanumeric _, numeric _ => False
  | alphanumeric x, alphanumeric y => x.text < y.text

instance (i j : Identifier) : Decidable (i.Precedes j) := by
  cases i <;> cases j <;> unfold Identifier.Precedes <;> infer_instance

/-- The first different identifiers decide, and of two lists that agree the shorter is lower. -/
def PrePrecedes : List Identifier → List Identifier → Prop
  | _, [] => False
  | [], _ :: _ => True
  | i :: rest, j :: rest' => i.Precedes j ∨ i = j ∧ PrePrecedes rest rest'

/-- Precedence; the build is no part of it. -/
def Version.Precedes (a b : Version) : Prop :=
  a.major < b.major ∨ a.major = b.major ∧ (a.minor < b.minor ∨ a.minor = b.minor ∧
    (a.patch < b.patch ∨ a.patch = b.patch ∧ a.pre ≠ [] ∧ (b.pre = [] ∨ PrePrecedes a.pre b.pre)))

/-- Each identifier with a dot before it. -/
def dotted (pre : List Identifier) : List Char := pre.flatMap fun i => '.' :: i.text

/-- The identifiers joined by dots. -/
def joined : List Identifier → List Char
  | [] => []
  | i :: rest => i.text ++ dotted rest

/-- Two lists of identifiers sort as text as the first ones that differ: they must do so as texts,
and if one of them begins with the other and a hyphen, nothing may follow the other. -/
def PreSorts : List Identifier → List Identifier → Prop
  | i :: rest, j :: rest' =>
    if i = j then PreSorts rest rest'
    else i.text < j.text ∧ (rest ≠ [] → ¬i.text ++ ['-'] <+: j.text)
  | _, _ => True

variable {c : Char} {i j : Identifier} {s t : List Char} {a b : List Identifier}

theorem dot_below (valid : isIdentifierChar c) : '.' < c ↔ c ≠ '-' := by
  constructor
  · rintro above rfl
    exact absurd above (by decide)
  · intro other
    simp only [isIdentifierChar, Bool.or_eq_true, beq_iff_eq, other, or_false] at valid
    rw [Char.lt_def, UInt32.lt_iff_toNat_lt]
    have dot : ('.' : Char).val.toNat = 46 := rfl
    rcases valid with (digit | upper) | lower
    · have := (Char.isDigit_iff_toNat.mp digit).1
      rw [dot]
      exact Nat.lt_of_lt_of_le (by decide) this
    · have bounds : 'A'.val ≤ c.val ∧ c.val ≤ 'Z'.val := of_decide_eq_true upper
      have := UInt32.le_iff_toNat_le.mp bounds.1
      exact Nat.lt_of_lt_of_le (by decide) this
    · have bound : 'a'.val ≤ c.val := of_decide_eq_true (Bool.and_eq_true_iff.mp lower).1
      have := UInt32.le_iff_toNat_le.mp bound
      exact Nat.lt_of_lt_of_le (by decide) this

theorem Identifier.text_chars (i : Identifier) (listed : c ∈ i.text) : isIdentifierChar c := by
  cases i with
  | numeric =>
    have digit := Nat.isDigit_of_mem_toDigits (by decide) (by decide) listed
    simp [isIdentifierChar, digit]
  | alphanumeric name => exact List.all_eq_true.mp name.chars c listed

theorem Identifier.text_inj (same : i.text = j.text) : i = j := by
  have digits_only : ∀ value (name : Alphanumeric), Nat.toDigits 10 value ≠ name.text := by
    intro value name same
    obtain ⟨c, listed, letter⟩ := List.any_eq_true.mp name.letter
    rw [← same] at listed
    rw [Nat.isDigit_of_mem_toDigits (by decide) (by decide) listed] at letter
    cases letter
  cases i with
  | numeric x =>
    cases j with
    | numeric y =>
      have values := congrArg (Nat.ofDigitChars 10 · 0) same
      simp only [text, Nat.ofDigitChars_ten_toDigits] at values
      rw [values]
    | alphanumeric y => exact absurd same (digits_only x y)
  | alphanumeric x =>
    cases j with
    | numeric y => exact absurd same.symm (digits_only y x)
    | alphanumeric y =>
      obtain ⟨_, _, _⟩ := x
      obtain rfl : _ = y.text := same
      rfl

theorem Identifier.Precedes.not_begins (lower : i.Precedes j) : ¬j.text <+: i.text := by
  intro begins
  cases i with
  | numeric x =>
    cases j with
    | numeric y =>
      have longer : (Nat.toDigits 10 x).length ≤ (Nat.toDigits 10 y).length := by
        have := Decimal.width_mono 0 (Nat.le_of_lt lower)
        simpa [Decimal.width] using this
      have same : numeric y = numeric x := text_inj (begins.eq_of_length_le longer)
      cases same
      exact absurd lower (Nat.lt_irrefl _)
    | alphanumeric y =>
      obtain ⟨c, listed, letter⟩ := List.any_eq_true.mp y.letter
      rw [Nat.isDigit_of_mem_toDigits (by decide) (by decide) (begins.subset listed)] at letter
      cases letter
  | alphanumeric x =>
    cases j with
    | numeric y => exact lower
    | alphanumeric y => exact begins.le lower

theorem PrePrecedes.irrefl (pre : List Identifier) : ¬PrePrecedes pre pre := by
  induction pre with
  | nil => exact not_false
  | cons i rest ih =>
    rintro (less | ⟨_, below⟩)
    · exact less.not_begins (List.prefix_refl _)
    · exact ih below

theorem Version.Precedes.irrefl (v : Version) : ¬v.Precedes v := by
  rintro (less | ⟨_, less | ⟨_, less | ⟨_, some, release | below⟩⟩⟩)
  · exact Nat.lt_irrefl _ less
  · exact Nat.lt_irrefl _ less
  · exact Nat.lt_irrefl _ less
  · exact some release
  · exact PrePrecedes.irrefl _ below

/-- Texts that do not begin with the other sort on their own, unless the one that ends is followed
by a dot where the other has a hyphen. -/
theorem text_append_lt {p q : List Char} (chars : ∀ c ∈ q, isIdentifierChar c) (other : ¬q <+: p)
    (dot : s = [] ∨ ∃ rest, s = '.' :: rest) :
    p ++ s < q ++ t ↔ p < q ∧ (s ≠ [] → ¬p ++ ['-'] <+: q) := by
  induction p generalizing q with
  | nil =>
    cases q with
    | nil => exact absurd (List.prefix_refl _) other
    | cons c q =>
      rcases dot with rfl | ⟨rest, rfl⟩
      · simp
      · have above := dot_below (chars c List.mem_cons_self)
        simp only [List.nil_append, List.cons_append, List.cons_lt_cons_iff, List.nil_lt_cons,
          true_and, ne_eq, reduceCtorEq, not_false_eq_true, forall_const, List.cons_prefix_cons,
          List.nil_prefix, and_true]
        constructor
        · rintro (less | ⟨rfl, _⟩)
          · exact fun hyphen => above.mp less hyphen.symm
          · decide
        · exact fun hyphen => .inl (above.mpr fun same => hyphen same.symm)
  | cons c p ih =>
    cases q with
    | nil => exact absurd List.nil_prefix other
    | cons d q =>
      by_cases same : c = d
      · subst same
        have rest := ih (fun c listed => chars c (List.mem_cons_of_mem _ listed))
          (fun begins => other (List.cons_prefix_cons.mpr ⟨rfl, begins⟩))
        simpa [List.cons_lt_cons_iff] using rest
      · simp [List.cons_lt_cons_iff, List.cons_prefix_cons, same]

theorem append_lt_append (p : List Char) : p ++ s < p ++ t ↔ s < t := by
  induction p with
  | nil => rfl
  | cons c p ih => simpa [List.cons_lt_cons_iff] using ih

theorem dotted_cases (pre : List Identifier) :
    dotted pre = [] ∧ pre = [] ∨ pre ≠ [] ∧ ∃ rest, dotted pre = '.' :: rest := by
  cases pre with
  | nil => exact .inl ⟨rfl, rfl⟩
  | cons i rest => exact .inr ⟨List.cons_ne_nil _ _, i.text ++ dotted rest, rfl⟩

theorem dotted_lt (lower : PrePrecedes a b) : dotted a < dotted b ↔ PreSorts a b := by
  induction a generalizing b with
  | nil =>
    cases b with
    | nil => cases lower
    | cons =>
      simp only [dotted, List.flatMap_nil, PreSorts, iff_true]
      exact List.nil_lt_cons ..
  | cons i rest ih =>
    cases b with
    | nil => cases lower
    | cons j rest' =>
      have text : ∀ i rest, dotted (i :: rest) = '.' :: (i.text ++ dotted rest) := fun _ _ => rfl
      rw [text, text, List.cons_lt_cons_iff]
      simp only [Char.lt_irrefl, false_or, true_and]
      by_cases same : i = j
      · subst same
        have below : PrePrecedes rest rest' := by
          rcases lower with less | ⟨_, below⟩
          · exact absurd (List.prefix_refl _) less.not_begins
          · exact below
        rw [append_lt_append, ih below, PreSorts, if_pos rfl]
      · have less : i.Precedes j := lower.resolve_right fun both => same both.1
        have dot : dotted rest = [] ∨ ∃ more, dotted rest = '.' :: more :=
          (dotted_cases rest).imp And.left And.right
        have more : dotted rest ≠ [] ↔ rest ≠ [] := by
          rcases dotted_cases rest with ⟨empty, rfl⟩ | ⟨some, tail, text⟩
          · simp [empty]
          · simp [some, text]
        rw [text_append_lt (fun c => j.text_chars) less.not_begins dot, PreSorts, if_neg same, more]

theorem joined_lt (lower : PrePrecedes a b) (some : a ≠ []) :
    joined a < joined b ↔ PreSorts a b := by
  rw [← dotted_lt lower]
  cases a with
  | nil => exact absurd rfl some
  | cons i rest =>
    cases b with
    | nil => cases lower
    | cons =>
      have text : ∀ i rest, dotted (i :: rest) = '.' :: joined (i :: rest) := fun _ _ => rfl
      rw [text, text, List.cons_lt_cons_iff]
      simp

end UEnv.SemVer
