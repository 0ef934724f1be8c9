import UEnv.Lib.Braces
import UEnv.Lib.Numerals
import UEnv.Service.Request

/-!
# Numeric answers

`parse_numeric` and `numeric_equivalent` of the math backends. The arithmetic of floats is that of
rational numbers here.
-/

namespace UEnv.Plugins.NumericAnswers

open Numerals Text
open Service (isWhiteSpace)

/-! ### The source -/

def trim (text : List Char) : List Char := trimBy isWhiteSpace text

/-- `NUMERIC_EPS`. -/
def numericEps : ℚ := 1 / 10 ^ 9

def unescaped (_ : Bool) (_ : Char) : Bool := false

/-- `take_braced_open` (common/mod.rs, 132-148). -/
def takeBracedOpen (text : List Char) : Option (List Char × List Char) :=
  Braces.close unescaped 0 false text

/-- The commands that are made into `a/b`. -/
def cmds : List (List Char) := ["\\dfrac\x7b".toList, "\\tfrac\x7b".toList, "\\frac\x7b".toList]

/-- The loop over one command. Every turn makes the text shorter. -/
def splice (cmd : List Char) : Nat → List Char → Option (List Char)
  | 0, text => some text
  | fuel + 1, text =>
    match splitAt cmd text with
    | none => some text
    | some (before, rest) =>
      match takeBracedOpen rest with
      | some (numerator, '{' :: afterNum) =>
        (takeBracedOpen afterNum).bind fun (denominator, tail) =>
          splice cmd fuel (before ++ trim numerator ++ '/' :: trim denominator ++ tail)
      | _ => none

/-- Written with commas, a dollar sign and blanks, which are dropped. -/
def isNoise (c : Char) : Bool := c ∈ [',', '$', ' ', '\t', '\n', '\r']

/-- The characters that are kept. -/
def isKept (c : Char) : Bool := c.isDigit || c ∈ ['.', '/', '-']

/-- The loop over the characters, with what was kept of them. -/
def clean (out : List Char) : List Char → Option (List Char)
  | [] => some out
  | c :: rest =>
    if isKept c then clean (out ++ [c]) rest
    else if c = '+' ∧ out = [] then clean out rest
    else if isNoise c then clean out rest
    else none

/-- `normalize_numeric_text` (common/mod.rs, 99-129). -/
def normalizeNumericText (raw : List Char) : Option (List Char) :=
  let text := trim raw
  (cmds.foldlM (fun text cmd => splice cmd text.length text) text).bind fun text =>
    (clean [] text).filter (· ≠ [])

/-- What `parse_numeric` does with a text that was normalized. -/
def readCleaned (cleaned : List Char) : Option ℚ :=
  match readSigned cleaned with
  | some v => some v
  | none => (splitFirst (· = '/') cleaned).bind fun (num, den) =>
    (readSigned num).bind fun num => (readSigned den).bind fun den =>
      if den = 0 then none else some (num / den)

/-- `parse_numeric` (common/mod.rs, 79-92). -/
def parseNumeric (raw : List Char) : Option ℚ := (normalizeNumericText raw).bind readCleaned

/-- The difference up to which two values count as one. -/
def tolerance (a b : ℚ) : ℚ := numericEps * max (max |a| |b|) 1

/-- `numeric_equivalent` (common/mod.rs, 152-157). -/
def numericEquivalent (left right : List Char) : Option Bool :=
  (parseNumeric left).bind fun a => (parseNumeric right).map fun b => |a - b| ≤ tolerance a b

/-! ### Ordinary notation -/

/-- Signs and dollar signs before a number, and whether the number is negative. -/
def leads : List (List Char × Bool) :=
  [([], false), (['-'], true), (['+'], false), (['$'], false), (['-', '$'], true),
    (['+', '$'], false), (['$', '-'], true), (['$', '+'], false)]

def signed (negative : Bool) (v : ℚ) : ℚ := if negative then -v else v

/-- A number and its value. -/
inductive Number : List Char → ℚ → Prop
  | mk {lead body bare : List Char} {negative : Bool} {v : ℚ} (led : (lead, negative) ∈ leads)
      (decimal : Decimal body bare v) : Number (lead ++ body) (signed negative v)

/-- A denominator and its value. -/
inductive Denominator : List Char → ℚ → Prop
  | mk {body bare : List Char} {negative : Bool} {v : ℚ} (decimal : Decimal body bare v)
      (nonzero : v ≠ 0) :
      Denominator ((if negative then ['-'] else []) ++ body) (signed negative v)

def Blank (text : List Char) : Prop := ∀ c ∈ text, isWhiteSpace c = true

/-- A fraction command with its two arguments, each with blanks around it. -/
structure Fraction (text numerator denominator : List Char) : Prop where
  cut : ∃ cmd w₁ w₂ w₃ w₄, cmd ∈ cmds ∧ Blank w₁ ∧ Blank w₂ ∧ Blank w₃ ∧ Blank w₄ ∧
    text = cmd ++ (w₁ ++ numerator ++ w₂) ++ '}' :: '{' :: (w₃ ++ denominator ++ w₄) ++ ['}']

/-- One number in ordinary notation that is not a mixed one. -/
inductive Plain : List Char → ℚ → Prop
  | number {text : List Char} {v : ℚ} (number : Number text v) : Plain text v
  | ratio {num den : List Char} {a b : ℚ} (number : Number num a) (number' : Denominator den b) :
      Plain (num ++ '/' :: den) (a / b)
  /-- The sign may stand before the command or in the numerator. -/
  | fraction {lead num den text : List Char} {a b : ℚ}
      (led : ∃ more negative, (lead ++ more, negative) ∈ leads)
      (number : Number (lead ++ num) a) (number' : Denominator den b)
      (fraction : Fraction text num den) :
      Plain (lead ++ text) (a / b)

/-- A number with blanks around it. -/
def Ordinary (text : List Char) (v : ℚ) : Prop :=
  ∃ w body w', Blank w ∧ Blank w' ∧ text = w ++ body ++ w' ∧ Plain body v

/-! ### Characters that are kept -/

theorem clean_append (out text rest : List Char) :
    clean out (text ++ rest) = (clean out text).bind fun out => clean out rest := by
  induction text generalizing out with
  | nil => rfl
  | cons c text ih =>
    rw [List.cons_append, clean, clean]
    split
    · exact ih _
    · split
      · exact ih _
      · split
        · exact ih _
        · rfl

theorem clean_kept {text : List Char} (kept : ∀ c ∈ text, isKept c = true) (out : List Char) :
    clean out text = some (out ++ text) := by
  induction text generalizing out with
  | nil => rw [clean, List.append_nil]
  | cons c text ih =>
    rw [clean, if_pos (kept c List.mem_cons_self),
      ih fun d here => kept d (List.mem_cons_of_mem _ here), List.append_assoc]
    rfl

theorem clean_digits {text : List Char} (digits : Digits text) (out : List Char) :
    clean out text = some (out ++ text) :=
  clean_kept (fun c here => by rw [isKept, digits c here, Bool.true_or]) out

variable {digits w w' name before rest : List Char} {c : Char}

theorem clean_groups {text : List Char} (groups : Groups text digits) (out : List Char) :
    clean out text = some (out ++ digits) := by
  induction groups generalizing out with
  | nil => rw [clean, List.append_nil]
  | @cons a b c text digits three _ ih =>
    have comma : clean out (',' :: a :: b :: c :: text) = clean out ([a, b, c] ++ text) := by
      rw [clean, if_neg (by decide), if_neg (by simp), if_pos (by decide)]
      rfl
    rw [comma, clean_append, clean_digits three, Option.bind_some, ih, List.append_assoc]
    rfl

theorem clean_whole {text : List Char} (whole : Whole text digits) (out : List Char) :
    clean out text = some (out ++ digits) := by
  obtain ⟨first, rest, more, rfl, rfl, leading, -, groups, -⟩ := whole.cut
  rw [clean_append, clean_digits leading, Option.bind_some, clean_groups groups, List.append_assoc]

theorem clean_decimal {text bare : List Char} {v : ℚ} (decimal : Decimal text bare v)
    (out : List Char) : clean out text = some (out ++ bare) := by
  cases decimal with
  | whole whole => exact clean_whole whole out
  | @point text digits part whole decimals =>
    have front : clean out text = some (out ++ digits) := by
      rcases whole with whole | ⟨rfl, rfl⟩
      · exact clean_whole whole out
      · rw [clean, List.append_nil]
    have back : ∀ c ∈ '.' :: part, isKept c = true := by
      intro c here
      rcases List.mem_cons.mp here with rfl | here
      · rfl
      · rw [isKept, decimals c here, Bool.true_or]
    rw [clean_append, front, Option.bind_some, clean_kept back, List.append_assoc]

/-- The sign that is kept. -/
def minus (negative : Bool) : List Char := if negative then ['-'] else []

theorem clean_lead : ∀ lead ∈ leads, clean [] lead.1 = some (minus lead.2) := by decide

theorem clean_minus (negative : Bool) (out : List Char) :
    clean out (minus negative) = some (out ++ minus negative) := by
  cases negative with
  | true => exact clean_kept (fun c here => by rw [List.mem_singleton.mp here]; rfl) out
  | false => rw [minus, if_neg Bool.false_ne_true, clean, List.append_nil]

/-! ### Numbers that are read -/

theorem read_minus {bare : List Char} {v : ℚ} (found : readUnsigned bare = some v)
    (negative : Bool) : readSigned (minus negative ++ bare) = some (signed negative v) := by
  cases negative with
  | true =>
    change (readUnsigned bare).map _ = _
    rw [found]
    rfl
  | false =>
    have chars := chars_of_read found
    change readSigned bare = some v
    cases bare with
    | nil => exact found
    | cons c =>
      have first := chars c List.mem_cons_self
      rw [readSigned]
      · exact found
      · intro _ same
        cases same
        exact absurd first (by decide)
      · intro _ same
        cases same
        exact absurd first (by decide)

theorem chars_of_read_signed {text : List Char} {v : ℚ} (found : readSigned text = some v) :
    '/' ∉ text := by
  intro slash
  have unsigned : ∀ {rest : List Char} {v : ℚ}, readUnsigned rest = some v → '/' ∉ rest :=
    fun found here => absurd (chars_of_read found '/' here) (by decide)
  unfold readSigned at found
  split at found
  · obtain ⟨v, found, -⟩ := Option.map_eq_some_iff.mp found
    exact unsigned found ((List.mem_cons.mp slash).resolve_left (by decide))
  · exact unsigned found ((List.mem_cons.mp slash).resolve_left (by decide))
  · exact unsigned found slash

theorem readCleaned_ratio {num den : List Char} {a b : ℚ} (found : readSigned num = some a)
    (found' : readSigned den = some b) (nonzero : b ≠ 0) :
    readCleaned (num ++ '/' :: den) = some (a / b) := by
  have whole : readSigned (num ++ '/' :: den) = none := by
    cases both : readSigned (num ++ '/' :: den) with
    | none => rfl
    | some v => exact absurd (by simp) (chars_of_read_signed both)
  have cut : splitFirst (· = '/') (num ++ '/' :: den) = some (num, den) := by
    refine splitFirst_append den (fun c here => decide_eq_false ?_) rfl
    rintro rfl
    exact chars_of_read_signed found here
  rw [readCleaned, whole, cut]
  simp [found, found', nonzero]

/-! ### Blanks around a text -/

theorem trim_blank {text : List Char} (blank : Blank w) : trim (w ++ text) = trim text := by
  rw [trim, trimBy, List.dropWhile_append_of_pos blank]
  rfl

theorem trimEndBy_blank {text : List Char} (blank : Blank w) :
    trimEndBy isWhiteSpace (text ++ w) = trimEndBy isWhiteSpace text := by
  rw [trimEndBy, List.reverse_append, List.dropWhile_append_of_pos fun c here =>
    blank c (List.mem_reverse.mp here)]
  rfl

theorem trim_pad {text : List Char} {d : Char} {front back : List Char} (blank : Blank w)
    (blank' : Blank w') (starts : text = c :: back) (ends : text = front ++ [d])
    (visible : isWhiteSpace c = false) (visible' : isWhiteSpace d = false) :
    trim (w ++ text ++ w') = text := by
  rw [List.append_assoc, trim_blank blank, trim]
  conv_lhs => rw [starts, List.cons_append, trimBy_cons visible, ← List.cons_append, ← starts]
  rw [trimEndBy_blank blank', ends, trimEndBy, List.reverse_append, List.reverse_singleton,
    List.singleton_append, List.dropWhile_cons_of_neg (by simp [visible']), List.reverse_cons,
    List.reverse_reverse]

def Visible (text : List Char) : Prop := ∀ c ∈ text, isWhiteSpace c = false

theorem trim_visible {text : List Char} (blank : Blank w) (blank' : Blank w')
    (visible : Visible text) : trim (w ++ text ++ w') = text := by
  by_cases empty : text = []
  · subst empty
    rw [List.append_nil, trim, ← List.append_nil (w ++ w'), List.append_assoc]
    have both : Blank (w ++ w') := by
      intro c here
      rcases List.mem_append.mp here with here | here
      · exact blank c here
      · exact blank' c here
    rw [← List.append_assoc]
    exact (trim_blank both).trans rfl
  · obtain ⟨c, back, starts⟩ := List.exists_cons_of_ne_nil empty
    have ends := (List.dropLast_append_getLast empty).symm
    exact trim_pad blank blank' starts ends (visible c (starts ▸ List.mem_cons_self))
      (visible _ (List.getLast_mem empty))

/-! ### Fractions that are spliced -/

theorem splitAt_absent (plain : c ∉ before) : splitAt (c :: name) before = none := by
  have passed := @splitAt_append Char _ _ c name before plain []
  rw [List.append_nil] at passed
  rw [passed]
  rfl

theorem splice_plain {text : List Char} (plain : '\\' ∉ text) (name : List Char) (fuel : Nat) :
    splice ('\\' :: name) fuel text = some text := by
  cases fuel with
  | zero => rfl
  | succ => rw [splice, splitAt_absent plain]

theorem cmds_slash : ∀ cmd ∈ cmds, ∃ name, cmd = '\\' :: name := by
  intro cmd here
  simp only [cmds, List.mem_cons, List.not_mem_nil, or_false] at here
  rcases here with rfl | rfl | rfl <;> exact ⟨_, rfl⟩

theorem splices_plain {text : List Char} (plain : '\\' ∉ text) (cmds' : List (List Char))
    (all : ∀ cmd ∈ cmds', cmd ∈ cmds) :
    cmds'.foldlM (fun text cmd => splice cmd text.length text) text = some text := by
  induction cmds' with
  | nil => rfl
  | cons cmd rest ih =>
    obtain ⟨name, rfl⟩ := cmds_slash cmd (all _ List.mem_cons_self)
    rw [List.foldlM_cons, splice_plain plain]
    exact ih fun cmd here => all cmd (List.mem_cons_of_mem _ here)

theorem takeBracedOpen_plain {text : List Char} (opens : '{' ∉ text) (closes : '}' ∉ text)
    (rest : List Char) : takeBracedOpen (text ++ '}' :: rest) = some (text, rest) := by
  unfold takeBracedOpen
  induction text with
  | nil => simp [Braces.close]
  | cons c text ih =>
    rw [List.mem_cons, not_or] at opens closes
    rw [List.cons_append, Braces.close_plain (Ne.symm opens.1) (Ne.symm closes.1)]
    change (Braces.close unescaped 0 false (text ++ '}' :: rest)).map _ = _
    rw [ih opens.2 closes.2]
    rfl

/-- Characters that neither begin a command nor stand around an argument. -/
def Inert (text : List Char) : Prop := ∀ c ∈ text, c ≠ '\\' ∧ c ≠ '{' ∧ c ≠ '}'

theorem Inert.append {text : List Char} (inert : Inert text) (inert' : Inert rest) :
    Inert (text ++ rest) := by
  intro c here
  rcases List.mem_append.mp here with here | here
  · exact inert c here
  · exact inert' c here

theorem Inert.slash {text : List Char} (inert : Inert text) : '\\' ∉ text :=
  fun here => (inert _ here).1 rfl

theorem inert_blank (blank : Blank w) : Inert w := by
  intro c here
  have white := blank c here
  refine ⟨?_, ?_, ?_⟩ <;> rintro rfl <;> exact absurd white (by decide)

theorem splitAt_name {name' : List Char} (plain : '\\' ∉ before) (plain' : '\\' ∉ rest)
    (other : ¬ name <+: name' ++ rest) (slash : '\\' ∉ name') :
    splitAt ('\\' :: name) (before ++ '\\' :: (name' ++ rest)) = none := by
  have back : '\\' ∉ name' ++ rest := by
    rw [List.mem_append, not_or]
    exact ⟨slash, plain'⟩
  have starts : ¬ ('\\' :: name).isPrefixOf ('\\' :: (name' ++ rest)) = true := by
    rw [List.isPrefixOf_iff_prefix, List.cons_prefix_cons]
    exact fun both => other both.2
  rw [splitAt_append plain, splitAt, if_neg starts, splitAt_absent back]
  rfl

section Fractions

variable {lead numerator denominator : List Char}

/-- A fraction command with its arguments as they are written. -/
def written (lead cmd numerator denominator : List Char) : List Char :=
  lead ++ (cmd ++ (numerator ++ '}' :: '{' :: (denominator ++ ['}'])))

variable {name : List Char}

theorem splice_fraction (front : Inert lead) (inert : Inert numerator) (inert' : Inert denominator)
    (fuel : Nat) :
    splice ('\\' :: name) (fuel + 1) (written lead ('\\' :: name) numerator denominator) =
      some (lead ++ trim numerator ++ '/' :: trim denominator) := by
  have cut : splitAt ('\\' :: name) (written lead ('\\' :: name) numerator denominator) =
      some (lead, numerator ++ '}' :: '{' :: (denominator ++ ['}'])) := by
    rw [written, splitAt_append front.slash, splitAt_needle (List.cons_ne_nil _ _)]
    simp
  have first := takeBracedOpen_plain (fun here => (inert _ here).2.1 rfl)
    (fun here => (inert _ here).2.2 rfl) ('{' :: (denominator ++ ['}']))
  have second := takeBracedOpen_plain (fun here => (inert' _ here).2.1 rfl)
    (fun here => (inert' _ here).2.2 rfl) []
  have trimmed : ∀ {text : List Char}, Inert text → '\\' ∉ trim text := fun inert here =>
    inert.slash ((trimBy_isInfix _).subset here)
  simp only [splice, cut, first]
  rw [second, Option.bind_some, List.append_nil]
  refine splice_plain ?_ name fuel
  simp only [List.mem_append, List.mem_cons, not_or]
  exact ⟨⟨front.slash, trimmed inert⟩, by decide, trimmed inert'⟩

theorem splice_other {name' : List Char} (front : Inert lead) (inert : Inert numerator)
    (inert' : Inert denominator) (slash : '\\' ∉ name') (other : ∀ rest, ¬ name <+: name' ++ rest)
    (fuel : Nat) : splice ('\\' :: name) fuel (written lead ('\\' :: name') numerator denominator) =
      some (written lead ('\\' :: name') numerator denominator) := by
  cases fuel with
  | zero => rfl
  | succ =>
    have behind : '\\' ∉ numerator ++ '}' :: '{' :: (denominator ++ ['}']) := by
      simp only [List.mem_append, List.mem_cons, not_or]
      exact ⟨inert.slash, by decide, by decide, inert'.slash, by decide, by decide⟩
    rw [splice, written, List.cons_append, splitAt_name front.slash behind (other _) slash]

theorem splices_fraction {cmd : List Char} (known : cmd ∈ cmds) (front : Inert lead)
    (inert : Inert numerator) (inert' : Inert denominator) :
    cmds.foldlM (fun text cmd => splice cmd text.length text)
        (written lead cmd numerator denominator) =
      some (lead ++ trim numerator ++ '/' :: trim denominator) := by
  have long : ∀ name : List Char, ∃ fuel,
      (written lead ('\\' :: name) numerator denominator).length = fuel + 1 := by
    intro name
    refine ⟨lead.length + (name ++ (numerator ++ '}' :: '{' :: (denominator ++ ['}']))).length, ?_⟩
    simp only [written, List.length_append, List.length_cons]
    omega
  have plain : '\\' ∉ lead ++ trim numerator ++ '/' :: trim denominator := by
    simp only [List.mem_append, List.mem_cons, not_or]
    exact ⟨⟨front.slash, fun here => inert.slash ((trimBy_isInfix _).subset here)⟩, by decide,
      fun here => inert'.slash ((trimBy_isInfix _).subset here)⟩
  have other : ∀ {name name' : List Char} {c d : Char} (fuel : Nat), c ≠ d → '\\' ∉ d :: name' →
      splice ('\\' :: c :: name) fuel (written lead ('\\' :: d :: name') numerator denominator) =
        some (written lead ('\\' :: d :: name') numerator denominator) :=
    fun fuel different slash => splice_other front inert inert' slash
      (fun _ starts => different (List.cons_prefix_cons.mp starts).1) fuel
  have hit : ∀ name : List Char, splice ('\\' :: name)
      (written lead ('\\' :: name) numerator denominator).length
      (written lead ('\\' :: name) numerator denominator) =
        some (lead ++ trim numerator ++ '/' :: trim denominator) := by
    intro name
    obtain ⟨fuel, length⟩ := long name
    rw [length]
    exact splice_fraction front inert inert' fuel
  have rest := splices_plain plain
  simp only [cmds, List.mem_cons, List.not_mem_nil, or_false] at known
  rw [cmds, List.foldlM_cons]
  rcases known with rfl | rfl | rfl
  · refine (congrArg (Option.bind · _) (hit "dfrac\x7b".toList)).trans ?_
    exact rest ["\\tfrac\x7b".toList, "\\frac\x7b".toList] (by decide)
  · refine (congrArg (Option.bind · _) (other _ (by decide) (by decide))).trans ?_
    rw [Option.bind_some, List.foldlM_cons]
    refine (congrArg (Option.bind · _) (hit "tfrac\x7b".toList)).trans ?_
    exact rest ["\\frac\x7b".toList] (by decide)
  · refine (congrArg (Option.bind · _) (other _ (by decide) (by decide))).trans ?_
    rw [Option.bind_some, List.foldlM_cons]
    refine (congrArg (Option.bind · _) (other _ (by decide) (by decide))).trans ?_
    rw [Option.bind_some, List.foldlM_cons]
    refine (congrArg (Option.bind · _) (hit "frac\x7b".toList)).trans ?_
    exact rest [] (by decide)

end Fractions

/-! ### Numbers that are written -/

def isNumeral (c : Char) : Bool := c.isDigit || c ∈ ['.', ',', '-', '+', '$']

def Numeral (text : List Char) : Prop := ∀ c ∈ text, isNumeral c = true

theorem numeral_append {text : List Char} (numeral : Numeral text) (numeral' : Numeral rest) :
    Numeral (text ++ rest) := by
  intro c here
  rcases List.mem_append.mp here with here | here
  · exact numeral c here
  · exact numeral' c here

theorem Numeral.inert {text : List Char} (numeral : Numeral text) : Inert text := by
  intro c here
  have known := numeral c here
  refine ⟨?_, ?_, ?_⟩ <;> rintro rfl <;> exact absurd known (by decide)

theorem visible_digit (digit : c.isDigit = true) : isWhiteSpace c = false := by
  have bounds : 48 ≤ c.toNat ∧ c.toNat ≤ 57 := by
    rw [Char.isDigit, Bool.and_eq_true, decide_eq_true_eq, decide_eq_true_eq] at digit
    exact digit
  rw [← Bool.not_eq_true]
  simp only [isWhiteSpace, Bool.or_eq_true, Bool.and_eq_true, decide_eq_true_eq, beq_iff_eq]
  omega

theorem Numeral.visible {text : List Char} (numeral : Numeral text) : Visible text := by
  intro c here
  have known := numeral c here
  rw [isNumeral, Bool.or_eq_true] at known
  rcases known with digit | listed
  · exact visible_digit digit
  · have all : [ '.', ',', '-', '+', '$'].all (fun c => !isWhiteSpace c) = true := by decide
    exact (Bool.not_eq_true' _).mp (List.all_eq_true.mp all c (of_decide_eq_true listed))

theorem Digits.numeral {text : List Char} (digits : Digits text) : Numeral text :=
  fun c here => by rw [isNumeral, digits c here, Bool.true_or]

theorem groups_numeral {text : List Char} (groups : Groups text digits) : Numeral text := by
  induction groups with
  | nil => exact fun c here => absurd here List.not_mem_nil
  | cons three _ ih =>
    intro c here
    rcases List.mem_cons.mp here with rfl | here
    · rfl
    · exact numeral_append (Digits.numeral three) ih c here

theorem decimal_numeral {text bare : List Char} {v : ℚ} (decimal : Decimal text bare v) :
    Numeral text := by
  have wholes : ∀ {text digits : List Char}, Whole text digits → Numeral text := by
    intro text digits whole
    obtain ⟨first, rest, more, rfl, -, leading, -, groups, -⟩ := whole.cut
    exact numeral_append (Digits.numeral leading) (groups_numeral groups)
  cases decimal with
  | whole whole => exact wholes whole
  | point whole decimals =>
    refine numeral_append ?_ fun c here => ?_
    · rcases whole with whole | ⟨rfl, -⟩
      · exact wholes whole
      · exact fun c here => absurd here List.not_mem_nil
    · rcases List.mem_cons.mp here with rfl | here
      · rfl
      · exact Digits.numeral decimals c here

theorem lead_numeral : ∀ lead ∈ leads, lead.1.all isNumeral = true := by decide

theorem Number.cleaned {text : List Char} {v : ℚ} (number : Number text v) :
    Numeral text ∧ ∃ bare, clean [] text = some bare ∧ readSigned bare = some v := by
  obtain ⟨led, decimal⟩ := number
  rename_i lead body bare negative v
  refine ⟨numeral_append (List.all_eq_true.mp (lead_numeral _ led)) (decimal_numeral decimal),
    minus negative ++ bare, ?_, read_minus decimal.read negative⟩
  rw [clean_append, clean_lead _ led, Option.bind_some, clean_decimal decimal]

theorem Denominator.cleaned {text : List Char} {v : ℚ} (denominator : Denominator text v) :
    Numeral text ∧ v ≠ 0 ∧ ∃ bare, (∀ out, clean out text = some (out ++ bare)) ∧
      readSigned bare = some v := by
  obtain ⟨decimal, nonzero⟩ := denominator
  rename_i body bare negative v
  have sign : (minus negative).all isNumeral = true := by cases negative <;> decide
  have nonzero' : signed negative v ≠ 0 := by
    cases negative with
    | true => exact neg_ne_zero.mpr nonzero
    | false => exact nonzero
  refine ⟨numeral_append (List.all_eq_true.mp sign) (decimal_numeral decimal), nonzero',
    minus negative ++ bare, fun out => ?_, read_minus decimal.read negative⟩
  change clean out (minus negative ++ body) = _
  rw [clean_append, clean_minus, Option.bind_some, clean_decimal decimal, List.append_assoc]

theorem read_ne_nil {text : List Char} {v : ℚ} (found : readSigned text = some v) : text ≠ [] := by
  rintro rfl
  cases found

theorem ratio_cleaned {num den : List Char} {a b : ℚ} (number : Number num a)
    (denominator : Denominator den b) :
    ((clean [] (num ++ '/' :: den)).filter (· ≠ [])).bind readCleaned = some (a / b) := by
  obtain ⟨-, bare, cleaned, found⟩ := number.cleaned
  obtain ⟨-, nonzero, bare', cleaned', found'⟩ := denominator.cleaned
  have slash : clean bare ('/' :: den) = some (bare ++ '/' :: bare') := by
    rw [clean, if_pos (by decide), cleaned', List.append_assoc]
    rfl
  rw [clean_append, cleaned, Option.bind_some, slash, Option.filter_some,
    if_pos (by simp), Option.bind_some]
  exact readCleaned_ratio found found' nonzero

theorem fraction_written {lead cmd numerator denominator : List Char} :
    lead ++ (cmd ++ numerator ++ '}' :: '{' :: denominator ++ ['}']) =
      written lead cmd numerator denominator := by
  simp [written]

theorem Plain.trim {body : List Char} {v : ℚ} (plain : Plain body v) (blank : Blank w)
    (blank' : Blank w') : trim (w ++ body ++ w') = body := by
  cases plain with
  | number number => exact trim_visible blank blank' number.cleaned.1.visible
  | @ratio num den a b number denominator =>
    refine trim_visible blank blank' fun c here => ?_
    rcases List.mem_append.mp here with here | here
    · exact number.cleaned.1.visible c here
    · rcases List.mem_cons.mp here with rfl | here
      · rfl
      · exact denominator.cleaned.1.visible c here
  | @fraction lead num den text a b led number denominator fraction =>
    obtain ⟨cmd, w₁, w₂, w₃, w₄, known, blank₁, blank₂, blank₃, blank₄, rfl⟩ := fraction.cut
    obtain ⟨name, slash⟩ := cmds_slash cmd known
    rw [fraction_written]
    obtain ⟨c, back, starts, visible⟩ : ∃ c back,
        written lead cmd (w₁ ++ num ++ w₂) (w₃ ++ den ++ w₄) = c :: back ∧
          isWhiteSpace c = false := by
      cases lead with
      | nil => exact ⟨'\\', _, by rw [written, slash]; rfl, by decide⟩
      | cons c => exact ⟨c, _, rfl, number.cleaned.1.visible c List.mem_cons_self⟩
    have ends : written lead cmd (w₁ ++ num ++ w₂) (w₃ ++ den ++ w₄) =
        (lead ++ (cmd ++ (w₁ ++ num ++ w₂ ++ '}' :: '{' :: (w₃ ++ den ++ w₄)))) ++ ['}'] := by
      simp [written]
    exact trim_pad blank blank' starts ends visible (by decide)

theorem Plain.read {body : List Char} {v : ℚ} (plain : Plain body v) :
    ((cmds.foldlM (fun text cmd => splice cmd text.length text) body).bind fun text =>
      (clean [] text).filter (· ≠ [])).bind readCleaned = some v := by
  cases plain with
  | number number =>
    obtain ⟨numeral, bare, cleaned, found⟩ := number.cleaned
    rw [splices_plain numeral.inert.slash _ (by simp), Option.bind_some, cleaned,
      Option.filter_some, if_pos (by simpa using read_ne_nil found), Option.bind_some, readCleaned,
      found]
  | @ratio num den a b number denominator =>
    have plain : '\\' ∉ num ++ '/' :: den := by
      simp only [List.mem_append, List.mem_cons, not_or]
      exact ⟨number.cleaned.1.inert.slash, by decide, denominator.cleaned.1.inert.slash⟩
    rw [splices_plain plain _ (by simp), Option.bind_some]
    exact ratio_cleaned number denominator
  | @fraction lead num den text a b led number denominator fraction =>
    obtain ⟨cmd, w₁, w₂, w₃, w₄, known, blank₁, blank₂, blank₃, blank₄, rfl⟩ := fraction.cut
    have numeral := number.cleaned.1
    have numeral' := denominator.cleaned.1
    have front : Numeral lead := fun c here => numeral c (List.mem_append_left _ here)
    have inner : Numeral num := fun c here => numeral c (List.mem_append_right _ here)
    have inert := ((inert_blank blank₁).append inner.inert).append (inert_blank blank₂)
    have inert' := ((inert_blank blank₃).append numeral'.inert).append (inert_blank blank₄)
    rw [fraction_written, splices_fraction known front.inert inert inert', Option.bind_some,
      trim_visible blank₁ blank₂ inner.visible, trim_visible blank₃ blank₄ numeral'.visible]
    exact ratio_cleaned number denominator

theorem Ordinary.parse {text : List Char} {v : ℚ} (ordinary : Ordinary text v) :
    parseNumeric text = some v := by
  obtain ⟨w, body, w', blank, blank', rfl, plain⟩ := ordinary
  rw [parseNumeric, normalizeNumericText, plain.trim blank blank']
  exact plain.read

theorem Ordinary.trim {text : List Char} {v : ℚ} (ordinary : Ordinary text v) :
    Ordinary (trim text) v := by
  obtain ⟨w, body, w', blank, blank', rfl, plain⟩ := ordinary
  rw [plain.trim blank blank']
  have none : Blank [] := fun c here => absurd here List.not_mem_nil
  exact ⟨[], body, [], none, none, by simp, plain⟩

theorem Ordinary.unique {text : List Char} {v v' : ℚ} (ordinary : Ordinary text v)
    (ordinary' : Ordinary text v') : v = v' :=
  Option.some.inj (ordinary.parse.symm.trans ordinary'.parse)

/-! ### Texts without commas, dollar signs, commands and inner blanks -/

/-- Within the text there are no characters that are dropped, and no commands. -/
def Clear (text : List Char) : Prop :=
  ∀ c ∈ trim text, c ∉ [',', '$', '+', '\\', ' ', '\t', '\n', '\r']

theorem trim_cut (text : List Char) : ∃ w w', Blank w ∧ Blank w' ∧ text = w ++ trim text ++ w' := by
  have white : ∀ (text : List Char), Blank (text.takeWhile isWhiteSpace) :=
    fun text => List.all_eq_true.mp List.all_takeWhile
  let rest := (text.dropWhile isWhiteSpace).reverse
  refine ⟨text.takeWhile isWhiteSpace, (rest.takeWhile isWhiteSpace).reverse, white text,
    fun c here => white rest c (List.mem_reverse.mp here), ?_⟩
  have back : trim text ++ (rest.takeWhile isWhiteSpace).reverse = text.dropWhile isWhiteSpace := by
    rw [trim, trimBy, ← List.reverse_append, List.takeWhile_append_dropWhile, List.reverse_reverse]
  rw [List.append_assoc, back, List.takeWhile_append_dropWhile]

theorem clean_clear {text : List Char}
    (clear : ∀ c ∈ text, c ∉ [',', '$', '+', '\\', ' ', '\t', '\n', '\r'])
    {out cleaned : List Char} (found : clean out text = some cleaned) : cleaned = out ++ text := by
  induction text generalizing out with
  | nil =>
    cases found
    rw [List.append_nil]
  | cons c text ih =>
    have here := clear c List.mem_cons_self
    rw [clean] at found
    split at found
    · rw [ih (fun d there => clear d (List.mem_cons_of_mem _ there)) found, List.append_assoc]
      rfl
    · split at found
      · rename_i plus
        exact absurd (by rw [plus.1]; decide) here
      · split at found
        · rename_i noise
          have wide : ∀ d ∈ [',', '$', ' ', '\t', '\n', '\r'],
              d ∈ [',', '$', '+', '\\', ' ', '\t', '\n', '\r'] := by simp
          exact absurd (wide c (of_decide_eq_true noise)) here
        · cases found

theorem number_of_read {text : List Char} {v : ℚ} (found : readSigned text = some v)
    (unsigned : '+' ∉ text) :
    ∃ negative body v', text = minus negative ++ body ∧ v = signed negative v' ∧
      Decimal body body v' := by
  unfold readSigned at found
  split at found
  · rename_i rest
    obtain ⟨v', inner, rfl⟩ := Option.map_eq_some_iff.mp found
    exact ⟨true, rest, v', rfl, rfl, decimal_of_read inner⟩
  · exact absurd List.mem_cons_self unsigned
  · exact ⟨false, text, v, rfl, rfl, decimal_of_read found⟩

theorem minus_led (negative : Bool) : (minus negative, negative) ∈ leads := by
  cases negative <;> decide

theorem ordinary_of_clear {text : List Char} {v : ℚ} (clear : Clear text)
    (found : parseNumeric text = some v) : Ordinary text v := by
  obtain ⟨w, w', blank, blank', cut⟩ := trim_cut text
  refine ⟨w, trim text, w', blank, blank', cut, ?_⟩
  have plain : '\\' ∉ trim text := fun here => clear _ here (by decide)
  have unsigned : '+' ∉ trim text := fun here => clear _ here (by decide)
  rw [parseNumeric, normalizeNumericText, splices_plain plain _ (by simp),
    Option.bind_some] at found
  obtain ⟨cleaned, kept, found⟩ := Option.bind_eq_some_iff.mp found
  obtain ⟨kept, -⟩ := Option.filter_eq_some_iff.mp kept
  obtain rfl : cleaned = trim text := clean_clear clear kept
  rw [readCleaned] at found
  split at found
  · rename_i value
    cases found
    obtain ⟨negative, body, v', text, rfl, decimal⟩ := number_of_read value unsigned
    rw [text]
    exact .number (.mk (minus_led negative) decimal)
  · obtain ⟨⟨num, den⟩, parts, found⟩ := Option.bind_eq_some_iff.mp found
    obtain ⟨a, num_read, found⟩ := Option.bind_eq_some_iff.mp found
    obtain ⟨b, den_read, found⟩ := Option.bind_eq_some_iff.mp found
    obtain ⟨c, split, slash⟩ := splitFirst_spec parts
    obtain rfl := of_decide_eq_true slash
    rw [split, List.mem_append, List.mem_cons, not_or, not_or] at unsigned
    obtain ⟨negative, body, v', rfl, rfl, decimal⟩ := number_of_read num_read unsigned.1
    obtain ⟨negative', body', v'', rfl, rfl, decimal'⟩ := number_of_read den_read unsigned.2.2
    split at found
    · cases found
    · rename_i nonzero
      cases found
      rw [split]
      refine .ratio (.mk (minus_led negative) decimal) (.mk decimal' ?_)
      rintro rfl
      cases negative' <;> exact nonzero (by simp [signed])

end UEnv.Plugins.NumericAnswers
