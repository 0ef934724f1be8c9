import UEnv.Hub.PythonScan

/-!
# What the scan of a `models.py` panics at

The scan agrees with the pure reader of the classes, under a condition on the statements of the
class bodies: a default `Field(…)` has something after its parenthesis and ends in a character of
one byte. Every other slice is at the offset of a search, every other index within the lines. The
depth of `split_top_level` has to be an `i32`.
-/

namespace UEnv.Hub

open Obs Text Panics Fallible
open Service (isWhiteSpace)

/-! ### Conditions -/

/-- The brackets and parentheses that a text opens and does not close. -/
def openBrackets (text : List Char) : Int :=
  (text.count '[' + text.count '(' : Nat) - (text.count ']' + text.count ')' : Nat)

/-- The depth in a text is an `i32` throughout. -/
def DepthFits (text : List Char) : Prop :=
  ∀ before, before <+: text →
    -(2 : Int) ^ 31 ≤ openBrackets before ∧ openBrackets before < (2 : Int) ^ 31

/-- The texts of an annotation that are split at their commas have such a depth. -/
def AnnotationFits : Nat → List Char → Prop
  | 0, _ => True
  | fuel + 1, ty =>
    let t := trimBy isWhiteSpace ty
    let lower := t.map Char.toLower
    match optionalInner lower t with
    | some inner => AnnotationFits fuel inner
    | none =>
      match bracketed "list[" lower t with
      | some inner => AnnotationFits fuel inner
      | none =>
        if "dict[".toList.isPrefixOf lower ∨ lower = "dict".toList then True
        else match bracketed "union[" lower t with
          | some inner => DepthFits inner ∧ ∀ part ∈ splitTopLevel inner, AnnotationFits fuel part
          | none => True

/-- There is something after the parenthesis of a `Field(…)`, and it ends in a character of one
byte. -/
def CallReads (call : List Char) : Prop :=
  ∃ inner last, call = "Field(".toList ++ inner ++ [last] ∧ last.utf8Size = 1 ∧ DepthFits inner

/-- The default of a field is no `Field(…)`, or one that can be read. -/
def DefaultReads (default : Option (List Char)) : Prop :=
  ∀ call ∈ default, "Field(".toList.isPrefixOf call = true → CallReads call

/-- If a statement declares a field, its annotation and its default can be read. -/
def StatementReads (stmt : List Char) : Prop :=
  ∀ cut ∈ splitFirst (· = ':') stmt, isIdentifier (trimBy isWhiteSpace cut.1) = true →
    (annotated (trimBy isWhiteSpace cut.2)).1 ≠ [] →
      AnnotationFits ((annotated (trimBy isWhiteSpace cut.2)).1.length + 1)
          (annotated (trimBy isWhiteSpace cut.2)).1 ∧
        DefaultReads (annotated (trimBy isWhiteSpace cut.2)).2

/-- The text between the parentheses of a class header, which is split at its commas. -/
def basesText (header : List Char) : Option (List Char) :=
  (splitFirst (· = '(') header).map fun cut =>
    match splitLast (· = ')') cut.2 with
    | some (inside, _) => inside
    | none => if ')' ∈ cut.1 then [] else cut.2

/-- The bases of a class can be split. -/
def HeaderReads (header : List Char) : Prop := ∀ bases ∈ basesText header, DepthFits bases

/-- What is read of a class panics nowhere. -/
def SectionReads (part : List Char × List (List Char)) : Prop :=
  HeaderReads part.1 ∧ ∀ stmt ∈ part.2, StatementReads stmt

/-! ### Splitting at commas -/

theorem addI32_agrees {x y : Int} :
    Agrees (addI32 x y) (-(2 : Int) ^ 31 ≤ x + y ∧ x + y < (2 : Int) ^ 31) (some (x + y)) := by
  unfold addI32
  split
  · next fits => exact .answers _ fits rfl rfl
  · next wide => exact .panics wide rfl

theorem forall_prefix_cons {α : Type} {p : List α → Prop} {a : α} {rest : List α} :
    (∀ before, before <+: a :: rest → p before) ↔
      p [] ∧ ∀ before, before <+: rest → p (a :: before) := by
  constructor
  · intro all
    exact ⟨all [] List.nil_prefix,
      fun before inside => all _ (List.cons_prefix_cons.mpr ⟨rfl, inside⟩)⟩
  · rintro ⟨none, some⟩ before inside
    cases before with
    | nil => exact none
    | cons b before =>
      obtain ⟨rfl, shorter⟩ := List.cons_prefix_cons.mp inside
      exact some before shorter

/-- The change of the depth at a character. -/
def bracketStep (ch : Char) : Int :=
  if ch = '[' ∨ ch = '(' then 1 else if ch = ']' ∨ ch = ')' then -1 else 0

theorem openBrackets_cons (ch : Char) (rest : List Char) :
    openBrackets (ch :: rest) = bracketStep ch + openBrackets rest := by
  have counts : ∀ c, (ch :: rest).count c = rest.count c + if ch = c then 1 else 0 := by
    intro c
    rw [List.count_cons]
    simp
  unfold openBrackets bracketStep
  simp only [counts]
  by_cases opens : ch = '[' ∨ ch = '('
  · rcases opens with rfl | rfl <;> simp <;> omega
  · by_cases closes : ch = ']' ∨ ch = ')'
    · rcases closes with rfl | rfl <;> simp <;> omega
    · rw [if_neg opens, if_neg closes]
      rw [not_or] at opens closes
      simp [opens, closes]

/-- The depth stays an `i32` in a text at the depth that it starts with. -/
def FitsFrom (depth : Int) (s : List Char) : Prop :=
  ∀ before, before <+: s →
    -(2 : Int) ^ 31 ≤ depth + openBrackets before ∧ depth + openBrackets before < (2 : Int) ^ 31

variable {rest s lower t inner : List Char} {depth : Int} {head : String}

theorem fitsFrom_start (fits : FitsFrom depth s) :
    -(2 : Int) ^ 31 ≤ depth ∧ depth < (2 : Int) ^ 31 := by
  simpa [openBrackets] using fits [] List.nil_prefix

theorem fitsFrom_nil (start : -(2 : Int) ^ 31 ≤ depth ∧ depth < (2 : Int) ^ 31) :
    FitsFrom depth [] := by
  intro before empty
  rw [List.prefix_nil.mp empty]
  simpa [openBrackets] using start

theorem fitsFrom_cons {ch : Char} (start : -(2 : Int) ^ 31 ≤ depth ∧ depth < (2 : Int) ^ 31) :
    FitsFrom depth (ch :: rest) ↔ FitsFrom (depth + bracketStep ch) rest := by
  unfold FitsFrom
  rw [forall_prefix_cons]
  simp only [openBrackets_cons, ← add_assoc]
  refine and_iff_right ?_
  simpa [openBrackets] using start

theorem splitTopLevelFrom_agrees (depth : Int) (cur s : List Char)
    (start : -(2 : Int) ^ 31 ≤ depth ∧ depth < (2 : Int) ^ 31) :
    Agrees (Scan.splitTopLevelFrom depth cur s) (FitsFrom depth s)
      (some (splitTopLevelFrom depth cur s)) := by
  induction s generalizing depth cur with
  | nil => exact (Agrees.ok rfl).congr (iff_of_true trivial (fitsFrom_nil start))
  | cons ch rest ih =>
    rw [Scan.splitTopLevelFrom, splitTopLevelFrom]
    -- a bracket moves the depth, which has to stay in the range for the rest to be read at all
    have moved : ∀ step, bracketStep ch = step →
        Agrees (addI32 depth step >>= fun d => Scan.splitTopLevelFrom d (ch :: cur) rest)
          (FitsFrom depth (ch :: rest))
          (some (splitTopLevelFrom (depth + step) (ch :: cur) rest)) := by
      rintro step rfl
      have next := addI32_agrees.bind (f := fun d => Scan.splitTopLevelFrom d (ch :: cur) rest)
        (g := fun d => some (splitTopLevelFrom d (ch :: cur) rest)) fun d fits same => by
          cases same
          exact ih (depth + bracketStep ch) (ch :: cur) fits
      exact next.congr ((and_iff_right_of_imp fitsFrom_start).trans (fitsFrom_cons start).symm)
    by_cases opens : ch = '[' ∨ ch = '('
    · rw [if_pos opens, if_pos opens]
      exact moved 1 (if_pos opens)
    · rw [if_neg opens, if_neg opens]
      by_cases closes : ch = ']' ∨ ch = ')'
      · rw [if_pos closes, if_pos closes]
        exact moved (-1) (by rw [bracketStep, if_neg opens, if_pos closes])
      · rw [if_neg closes, if_neg closes]
        have still : FitsFrom depth rest ↔ FitsFrom depth (ch :: rest) := by
          rw [fitsFrom_cons start, bracketStep, if_neg opens, if_neg closes, add_zero]
        by_cases comma : ch = ',' ∧ depth = 0
        · rw [if_pos comma, if_pos comma]
          exact ((ih depth [] start).map _).congr still
        · rw [if_neg comma, if_neg comma]
          exact (ih depth (ch :: cur) start).congr still

theorem splitTopLevel_agrees (s : List Char) :
    Agrees (Scan.splitTopLevel s) (DepthFits s) (some (splitTopLevel s)) := by
  refine (splitTopLevelFrom_agrees 0 [] s (by omega)).congr ?_
  simp only [FitsFrom, DepthFits, zero_add]

/-! ### Slices of an annotation -/

theorem toLower_utf8Size (c : Char) : c.toLower.utf8Size = c.utf8Size := by
  unfold Char.toLower
  split
  · next upper =>
    have high : c.val.toNat ≤ 90 := UInt32.le_iff_toNat_le.mp upper.2
    have sum : (c.val + ('a'.val - 'A'.val)).toNat ≤ 127 := by
      have shift : ('a'.val - 'A'.val).toNat = 32 := by decide
      rw [UInt32.toNat_add, shift]
      omega
    have own : c.val ≤ 127 := UInt32.le_iff_toNat_le.mpr (high.trans (by decide))
    have lowered : c.val + ('a'.val - 'A'.val) ≤ 127 := UInt32.le_iff_toNat_le.mpr sum
    rw [Char.utf8Size, Char.utf8Size]
    exact (if_pos lowered).trans (if_pos own).symm
  · rfl

theorem byteLength_toLower (text : List Char) :
    byteLength (text.map Char.toLower) = byteLength text := by
  induction text with
  | nil => rfl
  | cons c rest ih => rw [List.map_cons, byteLength_cons, byteLength_cons, ih, toLower_utf8Size]

/-- The slice of a bracketed annotation starts after its head and ends before its last bracket. -/
theorem bracketed_eq (opens : head.toList.getLast? = some '[') (t : List Char) :
    Scan.bracketed head (t.map Char.toLower) t = .ok (bracketed head (t.map Char.toLower) t) := by
  unfold Scan.bracketed bracketed
  split
  · next both =>
    obtain ⟨starts, ends⟩ := both
    obtain ⟨rest, split⟩ := List.isPrefixOf_iff_prefix.mp starts
    obtain ⟨front, back, rfl, lower, -⟩ := List.map_eq_append_iff.mp split.symm
    have last : back ≠ [] := by
      rintro rfl
      rw [List.append_nil] at ends
      have ended := congrArg List.getLast? lower
      rw [List.getLast?_map, ends, opens] at ended
      revert ended
      decide
    rw [List.getLast?_append_of_ne_nil _ last] at ends
    obtain ⟨inner, rfl⟩ := List.getLast?_eq_some_iff.mp ends
    have start : byteLength head.toList = byteLength front := by rw [← lower, byteLength_toLower]
    have stop : byteLength (front ++ (inner ++ [']'])) - 1 = byteLength (front ++ inner) := by
      rw [← List.append_assoc, byteLength_append _ [']']]
      rfl
    have length : head.length = front.length := by
      rw [← String.length_toList, ← lower, List.length_map]
    rw [start, stop, ← List.append_assoc, slice_append, length, List.append_assoc,
      List.drop_left, List.dropLast_concat]
    rfl
  · rfl

theorem optionalInner_eq (t : List Char) :
    Scan.optionalInner (t.map Char.toLower) t = .ok (optionalInner (t.map Char.toLower) t) := by
  rw [Scan.optionalInner, bracketed_eq (by decide), ok_bind, optionalInner]
  cases bracketed "optional[" (t.map Char.toLower) t with
  | some => rfl
  | none => exact (apply_ite (Except.ok (ε := Stop)) _ _ _).symm

/-! ### Annotations -/

theorem length_trimBy_le (p : Char → Bool) (text : List Char) :
    (trimBy p text).length ≤ text.length :=
  (trimBy_isInfix text).length_le

theorem length_bracketed (found : bracketed head lower t = some inner) :
    inner.length < t.length := by
  unfold bracketed at found
  split at found
  · next both =>
    cases found
    have some : t ≠ [] := by
      rintro rfl
      cases both.2
    have := List.length_pos_iff.mpr some
    rw [List.length_dropLast, List.length_drop]
    omega
  · cases found

theorem length_optionalInner (found : optionalInner lower t = some inner) :
    inner.length < t.length := by
  unfold optionalInner at found
  split at found
  · next inner' bracket =>
    cases found
    exact length_bracketed bracket
  · split at found
    · next ends =>
      cases found
      have long := (List.isSuffixOf_iff_suffix.mp ends).length_le
      have size : "| None".toList.length = 6 := by decide
      refine (length_trimBy_le _ _).trans_lt ?_
      rw [List.length_take]
      omega
    · cases found

theorem length_part {cur part : List Char} (member : part ∈ splitTopLevelFrom depth cur s) :
    part.length ≤ cur.length + s.length := by
  induction s generalizing depth cur with
  | nil =>
    rw [splitTopLevelFrom] at member
    have short := length_trimBy_le isWhiteSpace cur.reverse
    rw [List.length_reverse] at short
    split at member
    · cases member
    · obtain rfl := List.mem_singleton.mp member
      exact short
  | cons ch rest ih =>
    rw [splitTopLevelFrom] at member
    have pushed : ∀ d, part ∈ splitTopLevelFrom d (ch :: cur) rest →
        part.length ≤ cur.length + (ch :: rest).length := by
      intro d inside
      have := ih inside
      rw [List.length_cons] at this ⊢
      omega
    split at member
    · exact pushed _ member
    split at member
    · exact pushed _ member
    split at member
    · rcases List.mem_cons.mp member with rfl | later
      · have short := length_trimBy_le isWhiteSpace cur.reverse
        rw [List.length_reverse] at short
        omega
      · have := ih later
        rw [List.length_nil] at this
        rw [List.length_cons]
        omega
    · exact pushed _ member

theorem pyTypeToSchema_agrees {fuel : Nat} {ty : List Char} (short : ty.length < fuel) :
    Agrees (Scan.pyTypeToSchema fuel ty) (AnnotationFits fuel ty)
      (some (pyTypeToSchemaFrom fuel ty)) := by
  induction fuel generalizing ty with
  | zero => omega
  | succ fuel ih =>
    have trimmed := length_trimBy_le isWhiteSpace ty
    rw [Scan.pyTypeToSchema, pyTypeToSchemaFrom, AnnotationFits]
    simp only [optionalInner_eq, ok_bind]
    cases optional : optionalInner ((trimBy isWhiteSpace ty).map Char.toLower)
        (trimBy isWhiteSpace ty) with
    | some inner =>
      have shorter := length_optionalInner optional
      exact (ih (by omega)).map nullable
    | none =>
      simp only [bracketed_eq (show "list[".toList.getLast? = some '[' by decide), ok_bind]
      cases listed : bracketed "list[" ((trimBy isWhiteSpace ty).map Char.toLower)
          (trimBy isWhiteSpace ty) with
      | some inner =>
        have shorter := length_bracketed listed
        exact (ih (by omega)).map fun items =>
          Json.obj [("items", items), ("type", Json.str "array")]
      | none =>
        dsimp only
        split
        · exact Agrees.ok rfl
        · simp only [bracketed_eq (show "union[".toList.getLast? = some '[' by decide), ok_bind]
          cases union : bracketed "union[" ((trimBy isWhiteSpace ty).map Char.toLower)
              (trimBy isWhiteSpace ty) with
          | some inner =>
            have shorter := length_bracketed union
            have parts : ∀ part ∈ splitTopLevel inner, Agrees
                (Scan.pyTypeToSchema fuel part >>= fun schema => pure (part, schema))
                (AnnotationFits fuel part) (some (part, pyTypeToSchemaFrom fuel part)) := by
              intro part member
              have := length_part member
              rw [List.length_nil] at this
              exact (ih (by omega)).map fun schema => (part, schema)
            have schemas := Agrees.mapM parts
            have all : (splitTopLevel inner).mapM
                (fun part => some (part, pyTypeToSchemaFrom fuel part)) = some _ := List.mapM_pure
            rw [all] at schemas
            refine Agrees.bind (y := some (splitTopLevel inner))
              (g := fun _ => some _) (splitTopLevel_agrees inner) fun parts _ same => ?_
            cases same
            exact schemas.map _
          | none =>
            dsimp only
            split_ifs <;> exact Agrees.ok rfl

/-! ### Fields -/

/-- The slices of `extract_kwarg` are at the offsets of its searches. -/
theorem extractKwarg_eq (call : List Char) (key : String) :
    Scan.extractKwarg call key = .ok (extractKwarg call key) := by
  unfold Scan.extractKwarg extractKwarg findText
  cases found : splitAt key.toList call with
  | none => rfl
  | some cut =>
    obtain ⟨before, after⟩ := cut
    obtain rfl := splitAt_spec found
    rw [Option.map_some]
    simp only
    rw [← byteLength_append, sliceFrom_append]
    simp only [orPanic, ok_bind]
    cases after.dropWhile isWhiteSpace with
    | nil => rfl
    | cons first rest =>
      simp only [List.head?_cons]
      by_cases quoted : first = '"' ∨ first = '\''
      · rw [if_pos quoted, if_pos quoted]
        have one : first.utf8Size = 1 := by rcases quoted with rfl | rfl <;> decide
        have size : byteLength [first] = 1 := by rw [byteLength_cons, one, byteLength_nil]
        have tail : sliceFrom 1 (first :: rest) = some rest := by
          rw [← size]
          exact sliceFrom_append [first] rest
        simp only [tail, ok_bind, findBy]
        cases ended : splitFirst (fun c => decide (c = first)) rest with
        | none => rfl
        | some cut =>
          obtain ⟨inside, after⟩ := cut
          obtain ⟨c, -, rfl⟩ := splitFirst_spec ended
          have cut : slice 1 (byteLength inside + 1) (first :: (inside ++ c :: after)) =
              some inside := by
            have := slice_append [first] inside (c :: after)
            rw [byteLength_append, size, Nat.add_comm] at this
            exact this
          rw [Option.map_some]
          simp only [cut, ok_bind]
          rfl
      · rw [if_neg quoted, if_neg quoted, slice_zero, sliceTo_findBy]
        rfl

theorem annotated_eq (after : List Char) : Scan.annotated after = .ok (annotated after) := by
  unfold Scan.annotated annotated findBy
  cases found : splitFirst (fun c => decide (c = '=')) after with
  | none => rfl
  | some cut =>
    obtain ⟨ty, default⟩ := cut
    obtain ⟨c, is, rfl⟩ := splitFirst_spec found
    obtain rfl : c = '=' := of_decide_eq_true is
    have tail : sliceFrom (byteLength ty + 1) (ty ++ '=' :: default) = some default := by
      have := sliceFrom_append (ty ++ ['=']) default
      rwa [byteLength_append, List.append_assoc] at this
    simp only [Option.map_some, sliceTo_append, tail]
    rfl

theorem callReads_nil : ¬CallReads "Field(".toList := by
  rintro ⟨inner, last, same, -⟩
  have length := congrArg List.length same
  simp at length

theorem callReads_concat {last : Char} :
    CallReads ("Field(".toList ++ inner ++ [last]) ↔ last.utf8Size = 1 ∧ DepthFits inner := by
  constructor
  · rintro ⟨inner', last', same, one, fits⟩
    obtain ⟨front, ended⟩ := List.append_inj' same rfl
    obtain rfl := List.append_cancel_left front
    obtain rfl := List.singleton_inj.mp ended
    exact ⟨one, fits⟩
  · rintro ⟨one, fits⟩
    exact ⟨inner, last, rfl, one, fits⟩

theorem fieldCall_agrees (schema : Json) {call : List Char}
    (starts : "Field(".toList.isPrefixOf call = true) :
    Agrees (Scan.fieldCall schema call) (CallReads call) (fieldCall schema call) := by
  obtain ⟨body, rfl⟩ := List.isPrefixOf_iff_prefix.mp starts
  have dropped : ("Field(".toList ++ body).drop 6 = body := @List.drop_left _ "Field(".toList body
  unfold Scan.fieldCall fieldCall
  rw [dropped]
  cases body using List.reverseRecOn with
  | nil => exact .panics callReads_nil rfl
  | append_singleton inner last =>
    rw [← List.append_assoc, slice, sliceTo_before_last, List.getLast?_concat, List.dropLast_concat]
    by_cases one : last.utf8Size = 1
    · simp only [if_pos one, Option.bind_some]
      rw [if_neg (not_not.mpr one)]
      have tail : sliceFrom 6 ("Field(".toList ++ inner) = some inner :=
        sliceFrom_append "Field(".toList inner
      rw [tail]
      refine Agrees.congr (Agrees.after rfl ?_) (callReads_concat.trans (and_iff_right one)).symm
      simp only [extractKwarg_eq, ok_bind]
      exact (splitTopLevel_agrees inner).map _
    · refine .panics (fun reads => one (callReads_concat.mp reads).1) ?_
      rw [if_neg one]
      rfl

theorem fieldDefault_agrees (schema : Json) (default : Option (List Char)) :
    Agrees (Scan.fieldDefault schema default) (DefaultReads default)
      (fieldDefault schema default) := by
  cases default with
  | none => exact (Agrees.ok rfl).congr (by simp [DefaultReads])
  | some call =>
    rw [Scan.fieldDefault, fieldDefault]
    by_cases starts : "Field(".toList.isPrefixOf call = true
    · rw [if_pos starts, if_pos starts]
      refine (fieldCall_agrees schema starts).congr ?_
      simp only [DefaultReads, Option.mem_some_iff, forall_eq', starts, forall_const]
    · rw [if_neg starts, if_neg starts]
      refine (Agrees.ok rfl).congr (iff_of_true trivial fun found same starting => ?_)
      cases same
      exact absurd starting starts

theorem fieldStatement_agrees (stmt : List Char) :
    Agrees (Scan.fieldStatement stmt) (StatementReads stmt) (fieldStatement stmt) := by
  unfold Scan.fieldStatement fieldStatement StatementReads findBy
  cases found : splitFirst (fun c => decide (c = ':')) stmt with
  | none => exact (Agrees.ok rfl).congr (by simp)
  | some cut =>
    obtain ⟨before, after⟩ := cut
    obtain ⟨c, is, rfl⟩ := splitFirst_spec found
    obtain rfl : c = ':' := of_decide_eq_true is
    have tail : sliceFrom (byteLength before + 1) (before ++ ':' :: after) = some after := by
      have := sliceFrom_append (before ++ [':']) after
      rwa [byteLength_append, List.append_assoc] at this
    simp only [Option.map_some, sliceTo_append, tail, orPanic, ok_bind, annotated_eq,
      Option.mem_some_iff, forall_eq']
    generalize annotated (trimBy isWhiteSpace after) = declared
    obtain ⟨ty, default⟩ := declared
    by_cases named : isIdentifier (trimBy isWhiteSpace before) = true
    · simp only [named, Bool.not_true, Bool.false_eq_true, if_false, Bool.false_or, true_implies]
      by_cases typed : ty = []
      · subst typed
        exact (Agrees.ok rfl).congr (by simp)
      · rw [if_neg (by simpa using typed), if_neg (by simpa using typed)]
        refine Agrees.congr ?_ (forall_prop_of_true typed).symm
        refine Agrees.bind (y := some (pyTypeToSchema ty))
          (g := fun schema => (fieldDefault schema default).map fun found => some
            ({ name := String.ofList (trimBy isWhiteSpace before)
               schema := describe found.2.2 found.1
               required := found.2.1
               description := found.2.2 } : PyField))
          (pyTypeToSchema_agrees (Nat.lt_succ_self _)) fun schema _ _ => ?_
        exact (fieldDefault_agrees schema default).map _
    · simp only [named, Bool.not_false, if_true, Bool.true_or]
      exact (Agrees.ok rfl).congr (by simp)

/-! ### Headers -/

theorem basesText_slice {name : List Char}
    (clean : splitFirst (· = '(') (name ++ '(' :: rest) = some (name, rest)) :
    ∃ bases, basesText (name ++ '(' :: rest) = some bases ∧ slice (byteLength name + 1)
        (max ((rfindBy (· = ')') (name ++ '(' :: rest)).getD (byteLength (name ++ '(' :: rest)))
          (byteLength name + 1)) (name ++ '(' :: rest) = some bases := by
  have start : byteLength name + 1 = byteLength (name ++ ['(']) := by
    rw [byteLength_append]
    rfl
  have whole : name ++ '(' :: rest = name ++ ['('] ++ rest := by simp
  unfold basesText rfindBy
  rw [clean, Option.map_some, whole, splitLast_append, start]
  simp only
  cases closed : splitLast (fun c => decide (c = ')')) rest with
  | some cut =>
    obtain ⟨inside, after⟩ := cut
    obtain ⟨c, is, rfl⟩ := splitLast_spec closed
    refine ⟨inside, rfl, ?_⟩
    have stop : byteLength (name ++ ['(']) ≤ byteLength (name ++ ['('] ++ inside) := by
      rw [byteLength_append _ inside]
      omega
    simp only [Option.map_some, Option.some_or, Option.getD_some, max_eq_left stop]
    rw [← List.append_assoc]
    exact slice_append (name ++ ['(']) inside (c :: after)
  | none =>
    simp only [Option.map_none, Option.none_or]
    by_cases early : ')' ∈ name
    · rw [if_pos early]
      cases earlier : splitLast (fun c => decide (c = ')')) (name ++ ['(']) with
      | none =>
        have none := splitLast_eq_none.mp earlier ')' (List.mem_append_left _ early)
        simp at none
      | some cut =>
        obtain ⟨before, after⟩ := cut
        obtain ⟨c, -, split⟩ := splitLast_spec earlier
        refine ⟨[], rfl, ?_⟩
        have stop : byteLength before ≤ byteLength (name ++ ['(']) := by
          rw [split, byteLength_append]
          omega
        have empty := slice_append (name ++ ['(']) [] rest
        rw [List.append_nil] at empty
        simp only [Option.map_some, Option.getD_some, max_eq_right stop, empty]
    · rw [if_neg early]
      have none : splitLast (fun c => decide (c = ')')) (name ++ ['(']) = none := by
        refine splitLast_eq_none.mpr fun c member => ?_
        rcases List.mem_append.mp member with member | member
        · exact decide_eq_false fun same => early (same ▸ member)
        · rw [List.mem_singleton.mp member]
          rfl
      refine ⟨rest, rfl, ?_⟩
      have stop : byteLength (name ++ ['(']) ≤ byteLength (name ++ ['('] ++ rest) := by
        rw [byteLength_append _ rest]
        omega
      have last := slice_append (name ++ ['(']) rest []
      rw [List.append_nil] at last
      simp only [none, Option.map_none, Option.getD_none, max_eq_left stop, last]

theorem classHeader_agrees (header : List Char) :
    Agrees (Scan.classHeader header) (HeaderReads header) (some (classHeader header)) := by
  unfold Scan.classHeader classHeader HeaderReads findBy
  cases found : splitFirst (fun c => decide (c = '(')) header with
  | none => exact (Agrees.ok rfl).congr (by simp [basesText, found])
  | some cut =>
    obtain ⟨name, rest⟩ := cut
    obtain ⟨c, is, rfl⟩ := splitFirst_spec found
    obtain rfl : c = '(' := of_decide_eq_true is
    obtain ⟨bases, text, slice⟩ := basesText_slice found
    simp only [Option.map_some, sliceTo_append, slice, orPanic, ok_bind, text, Option.mem_some_iff,
      forall_eq']
    rw [basesText, found, Option.map_some, Option.some.injEq] at text
    subst text
    exact (splitTopLevel_agrees _).map _

/-! ### Statements -/

/-- The statements that the loop over the body of a class reads, and the lines after the body. -/
def bodyStatements (classIndent : Nat) : Nat → List (List Char) →
    List (List Char) × List (List Char)
  | 0, rest => ([], rest)
  | _ + 1, [] => ([], [])
  | fuel + 1, line :: rest =>
    let body := line.dropWhile isWhiteSpace
    if body.isEmpty then bodyStatements classIndent fuel rest
    else if indentOf line ≤ classIndent then ([], line :: rest)
    else if startsWithAny ["\"\"\"", "'''"] body then
      bodyStatements classIndent fuel (afterDocstring body rest)
    else if startsWithAny ["#", "@", "def ", "class ", "pass", "return"] body then
      bodyStatements classIndent fuel rest
    else
      let (stmt, rest) := joinLines body rest
      let (stmts, after) := bodyStatements classIndent fuel rest
      (stmt :: stmts, after)

/-- The headers of the classes with the statements of their bodies. -/
def classSections : Nat → List (List Char) → List (List Char × List (List Char))
  | 0, _ => []
  | _ + 1, [] => []
  | fuel + 1, line :: rest =>
    let trimmed := line.dropWhile isWhiteSpace
    if "class ".toList.isPrefixOf trimmed then
      let (stmts, after) := bodyStatements (indentOf line) rest.length rest
      (trimBy isWhiteSpace (trimmed.drop 6), stmts) :: classSections fuel after
    else classSections fuel rest

/-- A class from its header and the statements of its body. -/
def readClass (part : List Char × List (List Char)) : Option PyClass :=
  (part.2.mapM fieldStatement).map fun fields =>
    { name := (classHeader part.1).1
      bases := (classHeader part.1).2
      fields := fields.reduceOption }

theorem reduceOption_cons {α : Type} (field : Option α) (fields : List (Option α)) :
    (field :: fields).reduceOption = field.toList ++ fields.reduceOption := by
  cases field <;> rfl

theorem classBody_eq (classIndent fuel : Nat) (rest : List (List Char)) :
    classBody classIndent fuel rest =
      ((bodyStatements classIndent fuel rest).1.mapM fieldStatement).map fun fields =>
        (fields.reduceOption, (bodyStatements classIndent fuel rest).2) := by
  induction fuel generalizing rest with
  | zero => rfl
  | succ fuel ih =>
    cases rest with
    | nil => rfl
    | cons line rest =>
      rw [classBody, bodyStatements]
      split
      · exact ih rest
      split
      · rfl
      split
      · exact ih _
      split
      · exact ih rest
      · simp only [ih, List.mapM_cons]
        cases fieldStatement (joinLines (line.dropWhile isWhiteSpace) rest).1 with
        | none => rfl
        | some =>
          cases (bodyStatements classIndent fuel
              (joinLines (line.dropWhile isWhiteSpace) rest).2).1.mapM fieldStatement with
          | none => rfl
          | some fields => simp [reduceOption_cons]

theorem parseClasses_eq (fuel : Nat) (rest : List (List Char)) :
    parseClasses fuel rest = (classSections fuel rest).mapM readClass := by
  induction fuel generalizing rest with
  | zero => rfl
  | succ fuel ih =>
    cases rest with
    | nil => rfl
    | cons line rest =>
      rw [parseClasses, classSections]
      split
      · simp only [classBody_eq, ih, List.mapM_cons, readClass, Option.bind_eq_bind,
          Option.pure_def, Option.bind_map]
        rfl
      · exact ih rest

/-! ### Loops -/

section Loops

variable (lines : List (List Char))

variable {lines} in
theorem line_eq {i : Nat} (inside : i < lines.length) : Scan.line lines i = .ok lines[i] := by
  rw [Scan.line, List.getElem?_eq_getElem inside]
  rfl

theorem endOfDocstring_ends (quote : List Char) (fuel i : Nat) (enough : lines.length - i < fuel) :
    ∃ j, Scan.endOfDocstring lines quote fuel i = .ok j ∧ i ≤ j ∧
      lines.drop j = (lines.drop i).dropWhile fun line => !has quote line := by
  induction fuel generalizing i with
  | zero => omega
  | succ fuel ih =>
    rw [Scan.endOfDocstring]
    by_cases inside : i < lines.length
    · rw [if_pos inside, line_eq inside, ok_bind, List.drop_eq_getElem_cons inside]
      cases found : has quote lines[i] with
      | true =>
        refine ⟨i, rfl, le_rfl, ?_⟩
        rw [List.dropWhile_cons_of_neg (by simp [found]), List.drop_eq_getElem_cons inside]
      | false =>
        obtain ⟨j, ran, le, same⟩ := ih (i + 1) (by omega)
        refine ⟨j, by simpa [found] using ran, by omega, ?_⟩
        rw [List.dropWhile_cons_of_pos (by simp [found]), same]
    · refine ⟨i, by rw [if_neg inside]; rfl, le_rfl, ?_⟩
      rw [List.drop_of_length_le (not_lt.mp inside)]
      rfl

theorem afterDocstring_ends {body : List Char} (i : Nat)
    (starts : startsWithAny ["\"\"\"", "'''"] body = true) :
    ∃ j, Scan.afterDocstring lines body i = .ok j ∧ i < j ∧
      lines.drop j = afterDocstring body (lines.drop (i + 1)) := by
  obtain ⟨word, listed, starts⟩ := List.any_eq_true.mp starts
  obtain ⟨rest, rfl⟩ := List.isPrefixOf_iff_prefix.mp starts
  obtain ⟨length, size⟩ : word.toList.length = 3 ∧ byteLength word.toList = 3 := by
    rcases List.mem_pair.mp listed with rfl | rfl <;> decide
  have front : sliceTo 3 (word.toList ++ rest) = some word.toList := by
    rw [← size]
    exact sliceTo_append _ rest
  have back : sliceFrom 3 (word.toList ++ rest) = some rest := by
    rw [← size]
    exact sliceFrom_append _ rest
  have long : has word.toList rest = true → 6 ≤ byteLength (word.toList ++ rest) := by
    intro found
    obtain ⟨before, after, rfl⟩ := has_iff_isInfix.mp found
    simp only [byteLength_append, size]
    omega
  have quote : (word.toList ++ rest).take 3 = word.toList := by rw [← length, List.take_left]
  have tail : (word.toList ++ rest).drop 3 = rest := by rw [← length, List.drop_left]
  have single : Scan.singleLine word.toList (word.toList ++ rest) = .ok (has word.toList rest) := by
    rw [Scan.singleLine]
    split
    · rw [back]
      rfl
    · next short =>
      rw [Bool.eq_false_iff.mpr fun found => short (long found)]
      rfl
  simp only [Scan.afterDocstring, afterDocstring, front, quote, tail, orPanic, ok_bind, single]
  cases found : has word.toList rest with
  | true => exact ⟨i + 1, rfl, by omega, rfl⟩
  | false =>
    obtain ⟨j, ran, le, same⟩ :=
      endOfDocstring_ends lines word.toList (lines.length + 1) (i + 1) (by omega)
    refine ⟨j + 1, ?_, by omega, ?_⟩
    · rw [if_neg Bool.false_ne_true, ran]
      rfl
    · rw [if_neg Bool.false_ne_true, ← same, List.drop_drop]

theorem joinLines_ends (fuel i : Nat) (stmt : List Char) (inside : i < lines.length)
    (enough : lines.length - i < fuel) :
    ∃ j, Scan.joinLines lines fuel i stmt =
        .ok (j, (joinLines stmt (lines.drop (i + 1))).1) ∧ i ≤ j ∧
      lines.drop (j + 1) = (joinLines stmt (lines.drop (i + 1))).2 := by
  induction fuel generalizing i stmt with
  | zero => omega
  | succ fuel ih =>
    rw [Scan.joinLines]
    by_cases more : i + 1 < lines.length
    · rw [List.drop_eq_getElem_cons more, joinLines]
      by_cases opens : stmt.count ')' < stmt.count '('
      · rw [if_pos ⟨opens, more⟩, if_pos opens, line_eq more, ok_bind]
        obtain ⟨j, ran, le, same⟩ := ih (i + 1) (stmt ++ ' ' :: trimBy isWhiteSpace lines[i + 1])
          more (by omega)
        exact ⟨j, ran, by omega, same⟩
      · rw [if_neg (fun both => opens both.1), if_neg opens]
        exact ⟨i, rfl, le_rfl, List.drop_eq_getElem_cons more⟩
    · rw [if_neg (fun both => more both.2), List.drop_of_length_le (not_lt.mp more), joinLines]
      exact ⟨i, rfl, le_rfl, List.drop_of_length_le (not_lt.mp more)⟩

theorem indent_eq (line : List Char) :
    byteLength line - byteLength (line.dropWhile isWhiteSpace) = indentOf line := by
  have whole := byteLength_append (line.takeWhile isWhiteSpace) (line.dropWhile isWhiteSpace)
  rw [List.takeWhile_append_dropWhile] at whole
  rw [whole, Nat.add_sub_cancel, indentOf]

theorem classBody_scans (classIndent fuel i m : Nat) (enough : lines.length - i < fuel)
    (room : lines.length - i ≤ m) :
    ∃ j, i ≤ j ∧ (bodyStatements classIndent m (lines.drop i)).2 = lines.drop j ∧
      Scan.classBody lines classIndent fuel i =
        ((bodyStatements classIndent m (lines.drop i)).1.mapM Scan.fieldStatement).map
          fun fields => (fields.reduceOption, j) := by
  induction fuel generalizing i m with
  | zero => omega
  | succ fuel ih =>
    rw [Scan.classBody]
    by_cases inside : i < lines.length
    · obtain ⟨m, rfl⟩ : ∃ k, m = k + 1 := ⟨m - 1, by omega⟩
      rw [if_pos inside, line_eq inside, ok_bind, List.drop_eq_getElem_cons inside, bodyStatements]
      dsimp only
      rw [indent_eq]
      split
      · obtain ⟨j, le, after, ran⟩ := ih (i + 1) m (by omega) (by omega)
        exact ⟨j, by omega, after, ran⟩
      split
      · exact ⟨i, le_rfl, (List.drop_eq_getElem_cons inside).symm, rfl⟩
      split
      · next docstring =>
        obtain ⟨k, skipped, lt, dropped⟩ := afterDocstring_ends lines i docstring
        rw [skipped, ok_bind, ← dropped]
        obtain ⟨j, le, after, ran⟩ := ih k m (by omega) (by omega)
        exact ⟨j, by omega, after, ran⟩
      split
      · obtain ⟨j, le, after, ran⟩ := ih (i + 1) m (by omega) (by omega)
        exact ⟨j, by omega, after, ran⟩
      · obtain ⟨k, joined, le, dropped⟩ := joinLines_ends lines (lines.length + 1) i
          (lines[i].dropWhile isWhiteSpace) inside (by omega)
        rw [joined, ok_bind]
        simp only
        rw [← dropped]
        obtain ⟨j, le, after, ran⟩ := ih (k + 1) m (by omega) (by omega)
        refine ⟨j, by omega, after, ?_⟩
        rw [ran, List.mapM_cons]
        cases Scan.fieldStatement (joinLines (lines[i].dropWhile isWhiteSpace)
            (lines.drop (i + 1))).1 with
        | error stop => rfl
        | ok field =>
          simp only [ok_bind]
          cases (bodyStatements classIndent m (lines.drop (k + 1))).1.mapM Scan.fieldStatement with
          | error => rfl
          | ok =>
            simp only [map_ok, ok_bind]
            rw [← reduceOption_cons]
            rfl
    · refine ⟨i, le_rfl, ?_, ?_⟩
      · rw [List.drop_of_length_le (not_lt.mp inside)]
        cases m <;> rfl
      · rw [if_neg inside, List.drop_of_length_le (not_lt.mp inside)]
        cases m <;> rfl

end Loops

/-- `readClass` on the scan. -/
def scanClass (part : List Char × List (List Char)) : Run PyClass := do
  let (name, bases) ← Scan.classHeader part.1
  let fields ← part.2.mapM Scan.fieldStatement
  return { name, bases, fields := fields.reduceOption }

theorem parseClasses_scans (lines : List (List Char)) (fuel i m : Nat)
    (enough : lines.length - i < fuel) (room : lines.length - i ≤ m) :
    Scan.parseClasses lines fuel i = (classSections m (lines.drop i)).mapM scanClass := by
  induction fuel generalizing i m with
  | zero => omega
  | succ fuel ih =>
    rw [Scan.parseClasses]
    by_cases inside : i < lines.length
    · obtain ⟨m, rfl⟩ : ∃ k, m = k + 1 := ⟨m - 1, by omega⟩
      rw [if_pos inside, line_eq inside, ok_bind, List.drop_eq_getElem_cons inside, classSections]
      dsimp only
      split
      · next starts =>
        obtain ⟨header, split⟩ := List.isPrefixOf_iff_prefix.mp starts
        have cut : sliceFrom 6 (lines[i].dropWhile isWhiteSpace) =
            some ((lines[i].dropWhile isWhiteSpace).drop 6) := by
          rw [← split]
          exact (sliceFrom_append "class ".toList header).trans
            (congrArg some (@List.drop_left _ "class ".toList header).symm)
        obtain ⟨j, le, after, ran⟩ := classBody_scans lines (indentOf lines[i])
          (lines.length + 1) (i + 1) (lines.drop (i + 1)).length (by omega)
          (by rw [List.length_drop])
        rw [cut, indent_eq, ran, after, List.mapM_cons, scanClass]
        simp only [orPanic, ok_bind]
        cases Scan.classHeader (trimBy isWhiteSpace ((lines[i].dropWhile isWhiteSpace).drop 6)) with
        | error => rfl
        | ok =>
          simp only [ok_bind]
          cases (bodyStatements (indentOf lines[i]) (lines.drop (i + 1)).length
              (lines.drop (i + 1))).1.mapM Scan.fieldStatement with
          | error stop => rfl
          | ok fields =>
            simp only [map_ok, ok_bind]
            rw [ih j m (by omega) (by omega)]
            rfl
      · exact ih (i + 1) m (by omega) (by omega)
    · rw [if_neg inside, List.drop_of_length_le (not_lt.mp inside)]
      cases m <;> rfl

/-! ### Totality -/

/-- Every class that the loops come to can be read. -/
def Readable (src : List Char) : Prop :=
  ∀ part ∈ classSections (lines src).length (lines src), SectionReads part

theorem scanClass_agrees (part : List Char × List (List Char)) :
    Agrees (scanClass part) (SectionReads part) (readClass part) := by
  refine Agrees.bind (y := some (classHeader part.1)) (g := fun header =>
    (part.2.mapM fieldStatement).map fun fields =>
      ({ name := header.1, bases := header.2, fields := fields.reduceOption } : PyClass))
    (classHeader_agrees part.1) fun header _ _ => ?_
  exact (Agrees.mapM fun stmt _ => fieldStatement_agrees stmt).map _

theorem parsePythonModels_agrees (src : List Char) :
    Agrees (Scan.parsePythonModels src) (Readable src) (parsePythonModels src) := by
  rw [Scan.parsePythonModels, parseClasses_scans _ _ 0 (lines src).length (by omega) (by omega),
    parsePythonModels, parseClasses_eq]
  exact Agrees.mapM fun part _ => scanClass_agrees part

/-- `schema_for` of the classes of a source. -/
def Scan.sideSchema (src : List Char) (declared : Option ClassRef) (kind : Kind) :
    Run (Option Json) := do
  return schemaFor (← Scan.parsePythonModels src) declared kind

/-- Reading a source ends, and it ends in a panic exactly if some class in it cannot be read. -/
theorem scan_total_iff (src : List Char) :
    ((∀ declared kind, ∃ schema, Scan.sideSchema src declared kind = .ok schema) ↔ Readable src) ∧
      ∀ declared kind, Scan.sideSchema src declared kind ≠ .error .fuel := by
  have side := fun declared kind => (parsePythonModels_agrees src).map
    fun classes => schemaFor classes declared kind
  refine ⟨⟨fun total => ?_, fun readable declared kind => ?_⟩,
    fun declared kind => (side declared kind).terminates⟩
  · exact (side none .action).isOk_iff.mp (total none .action)
  · exact (side declared kind).isOk_iff.mpr readable

/-- A source that ends after the parenthesis of a field. -/
def unfinishedField : List Char := "class A(Action):\n  x: int = Field(".toList

set_option maxRecDepth 20000 in
theorem unfinishedField_panics : Scan.parsePythonModels unfinishedField = .error .panic := by
  rfl

theorem unfinished_not_total :
    ¬∀ declared kind, ∃ schema, Scan.sideSchema unfinishedField declared kind = .ok schema := by
  intro total
  obtain ⟨schema, ran⟩ := total none .action
  rw [Scan.sideSchema, unfinishedField_panics] at ran
  cases ran

end UEnv.Hub
