import UEnv.Bridge.NativeAgentControl

/-!
# The file editor over the gateway

`UEnvGatewayFileEditorExecutor` of `gateway_tools.py` over the read and the write of a sandbox
session. The command `view`, which changes nothing, is left out.
-/

namespace UEnv.OpenHands

open Tables Text

/-! ### The session -/

/-- What is at a path of the container: the text of a file in UTF-8, or a directory with the files
that were copied into it. -/
inductive Entry
  | file (text : List Char)
  | directory (files : Map String (List Char))

abbrev Container := Map String Entry

/-- `String::from_utf8_lossy` of the first bytes of a text in UTF-8: a character that is cut gives
U+FFFD. -/
def lossyPrefix : Nat → List Char → List Char
  | _, [] => []
  | room, c :: rest =>
    if c.utf8Size ≤ room then c :: lossyPrefix (room - c.utf8Size) rest
    else if room = 0 then [] else ['\uFFFD']

/-- `truncate_output` of a text, decoded, and whether something was cut. -/
def truncateOutput (maxOutputBytes : Nat) (text : List Char) : List Char × Bool :=
  if byteLength text > maxOutputBytes then (lossyPrefix maxOutputBytes text, true)
  else (text, false)

/-- `DEFAULT_MAX_OUTPUT_BYTES`. -/
def defaultMaxOutputBytes : Nat := 65536

/-- The worker: the limit of its command policy and its process id. -/
structure SessionWorker where
  maxOutputBytes : Nat := defaultMaxOutputBytes
  pid : Nat

/-- `read_file` with the output of `cat`; whether it was truncated is not told. -/
def SessionWorker.readFile (worker : SessionWorker) (container : Container) (path : String) :
    Except String (List Char) :=
  match container[path]? with
  | some (.file text) => .ok (truncateOutput worker.maxOutputBytes text).1
  | some (.directory _) => .error s!"read {path} failed (code 1): cat: {path}: Is a directory\n"
  | none => .error s!"read {path} failed (code 1): cat: {path}: No such file or directory\n"

/-- `write_file`: `cp` puts a file into a directory under its name on the host. -/
def SessionWorker.writeFile (worker : SessionWorker) (container : Container) (path : String)
    (text : List Char) : Container :=
  match container[path]? with
  | some (.directory files) =>
    container.insert path (.directory (files.insert s!"uenv-swe-write-{worker.pid}" text))
  | _ => container.insert path (.file text)

/-- The end of a write: its answer, an error of the worker, or no answer, with the write carried out
or not. -/
inductive Delivery
  | answered
  | refused (message : String)
  | lost (written : Bool) (message : String)

/-- How the calls of an action end: an error of the read that is not the worker's, and the write. -/
structure Calls where
  readFailure : Option String := none
  write : Delivery := .answered

/-! ### The executor -/

structure UEnvWorkspace where
  containerWorkingDir : String := "/app"
  instanceId : String

inductive EditorCommand
  | create
  | strReplace
  | insert
  | undoEdit
  deriving DecidableEq

structure FileEditorAction where
  command : EditorCommand
  path : String
  fileText : Option (List Char) := none
  oldStr : Option (List Char) := none
  newStr : Option (List Char) := none
  insertLine : Option Int := none

inductive EditorError
  | outsideWorkspace (path workingDir : String)
  | otherRepository (path instanceId workingDir : String)
  -- `assert action.file_text is not None`
  | noFileText
  | writeFailed
  | notFound (path : String)
  | gateway (message : String)
  | undoUnsupported

/-- `rstrip("/")`. -/
def rstripSlash (path : String) : String := String.ofList (trimEndBy (· = '/') path.toList)

/-- `x or y` of two texts. -/
def orElse (text other : String) : String := if text = "" then other else text

def UEnvWorkspace.remoteWorkingDir (workspace : UEnvWorkspace) : String :=
  orElse (rstripSlash (orElse workspace.containerWorkingDir "/app")) "/app"

/-- The path in the container that an absolute or a relative path names. -/
def UEnvWorkspace.locate (workspace : UEnvWorkspace) (path : String) : String :=
  if path.toList.head? = some '/' then path
  else s!"{rstripSlash workspace.remoteWorkingDir}/{path}"

/-- `_abs_path` (gateway_tools.py, 65-71). -/
def absPath (workspace : UEnvWorkspace) (path : String) : String :=
  workspace.locate (Bridge.NativeAgentControl.strip path)

/-- `_assert_path_in_workspace` (gateway_tools.py, 74-93). -/
def assertPathInWorkspace (workspace : UEnvWorkspace) (path : String) : Except EditorError Unit :=
  let workingDir := orElse (rstripSlash workspace.remoteWorkingDir) "/app"
  let path := absPath workspace path
  let instanceId := workspace.instanceId.map Char.toLower
  if ¬(path = workingDir ∨ (workingDir.toList ++ ['/']).isPrefixOf path.toList) then
    .error (.outsideWorkspace path workingDir)
  else if has "openlibrary".toList (path.map Char.toLower).toList &&
      !has "openlibrary".toList instanceId.toList then
    .error (.otherRepository path instanceId workingDir)
  else .ok ()

/-- The characters at which `str.splitlines` cuts. -/
def isLineBreak (c : Char) : Bool :=
  c ∈ ['\n', '\r', '\x0b', '\x0c', '\x1c', '\x1d', '\x1e', '\u0085', '\u2028', '\u2029']

/-- A text with a line feed at its end. -/
def withNewline (text : List Char) : List Char :=
  if text.getLast? = some '\n' then text else text ++ ['\n']

/-- The place of `list.insert`. -/
def insertPosition (index : Int) (length : Nat) : Nat :=
  if index < 0 then (length + index).toNat else min index.toNat length

/-- `content.replace(old, new, 1)`, if `old` is in the content. -/
def replaceFirst (old new content : List Char) : Option (List Char) :=
  (splitAt old content).map fun cut => cut.1 ++ new ++ cut.2

/-- The text with lines put in after the first ones of the content. -/
def insertLines (lines : List (List Char)) (position : Nat) (new : List Char) : List Char :=
  (lines.take position).flatten ++ new ++ (lines.drop position).flatten

section Executor

variable (workspace : UEnvWorkspace) (worker : SessionWorker) (calls : Calls)
  (container : Container)

def readRemoteText (path : String) : Except EditorError (List Char) :=
  match calls.readFailure with
  | some message => .error (.gateway message)
  | none => (worker.readFile container path).mapError .gateway

/-- The text that an action writes to a path. -/
def newText (path : String) (action : FileEditorAction) : Except EditorError (List Char) :=
  match action.command with
  | .create =>
    match action.fileText with
    | some text => .ok text
    | none => .error .noFileText
  | .strReplace =>
    match readRemoteText worker calls container path with
    | .error error => .error error
    | .ok content =>
      match replaceFirst (action.oldStr.getD []) (action.newStr.getD []) content with
      | some text => .ok text
      | none => .error (.notFound path)
  | .insert =>
    match readRemoteText worker calls container path with
    | .error error => .error error
    | .ok content =>
      let lines := keptLines isLineBreak content
      .ok (insertLines lines (insertPosition (action.insertLine.getD 0) lines.length)
        (withNewline (action.newStr.getD [])))
  | .undoEdit => .error .undoUnsupported

def writeRemoteText (path : String) (text : List Char) : Except EditorError Bool × Container :=
  match calls.write with
  | .answered => (.ok true, worker.writeFile container path text)
  | .refused message => (.error (.gateway message), container)
  | .lost true message => (.error (.gateway message), worker.writeFile container path text)
  | .lost false message => (.error (.gateway message), container)

/-- The text of an observation that is not an error. -/
def observed (path : String) (action : FileEditorAction) : String :=
  match action.command with
  | .create => s!"File created at {path}"
  | .strReplace => s!"Replacement applied in {path}"
  | .insert => s!"Inserted at line {action.insertLine.getD 0} in {path}"
  | .undoEdit => ""

/-- `__call__`, with the observation and the container after it. -/
def fileEditor (action : FileEditorAction) : Except EditorError String × Container :=
  let path := absPath workspace action.path
  match assertPathInWorkspace workspace path with
  | .error error => (.error error, container)
  | .ok () =>
    match newText worker calls container path action with
    | .error error => (.error error, container)
    | .ok text =>
      match writeRemoteText worker calls container path text with
      | (.error error, after) => (.error error, after)
      | (.ok written, after) =>
        -- only `create` looks at what the write returns
        if action.command = .create ∧ written = false then (.error .writeFailed, after)
        else (.ok (observed path action), after)

end Executor

/-! ### Exact edits -/

/-- A text that ends with an end of line, if it has a line. -/
def closeLine (ends : Char → Bool) (text : List Char) : List Char :=
  if text.getLast?.all ends then text else text ++ ['\n']

/-- A text in lines of its own after a line of the content, if there is such a line, for the
characters that end a line. -/
def insertAfterLine (ends : Char → Bool) (line : Int) (new content : List Char) :
    Option (List Char) :=
  let lines := keptLines ends content
  if 0 ≤ line ∧ line.toNat ≤ lines.length then
    some (closeLine ends (lines.take line.toNat).flatten ++ withNewline new ++
      (lines.drop line.toNat).flatten)
  else none

/-- The text that an action asks for. -/
def requested (ends : Char → Bool) (action : FileEditorAction) (old : Option Entry) :
    Option (List Char) :=
  match action.command, old with
  | .create, _ => action.fileText
  | .strReplace, some (.file content) =>
    replaceFirst (action.oldStr.getD []) (action.newStr.getD []) content
  | .insert, some (.file content) =>
    insertAfterLine ends (action.insertLine.getD 0) (action.newStr.getD []) content
  | _, _ => none

/-- Without an error the file is as requested, and with one as before. -/
def Exact (ends : Char → Bool) (workspace : UEnvWorkspace) (container : Container)
    (action : FileEditorAction) (result : Except EditorError String × Container) : Prop :=
  let path := workspace.locate action.path
  match result.1 with
  | .error _ => result.2[path]? = container[path]?
  | .ok _ => ∃ text, requested ends action container[path]? = some text ∧
    result.2[path]? = some (.file text)

/-- What is read of a content is the content. -/
def ReadWhole (worker : SessionWorker) (content : List Char) : Prop :=
  (truncateOutput worker.maxOutputBytes content).1 = content

/-- The line is one of the content and has an end, and it ends where the line of that number ends
for `str.splitlines`, or the new text commutes with what is between. -/
def SameLine (ends : Char → Bool) (line : Int) (new content : List Char) : Prop :=
  let first := ((keptLines ends content).take line.toNat).flatten
  let first' := ((keptLines isLineBreak content).take line.toNat).flatten
  0 ≤ line ∧ line.toNat ≤ (keptLines ends content).length ∧ first.getLast?.all ends = true ∧
    withNewline new ++ between content first'.length first.length =
      between content first'.length first.length ++ withNewline new

/-- The path is that of no directory, and the content is read whole and has the line. -/
def Editable (ends : Char → Bool) (worker : SessionWorker) (action : FileEditorAction) :
    Option Entry → Prop
  | some (.directory _) => False
  | none => True
  | some (.file content) =>
    match action.command with
    | .create | .undoEdit => True
    | .strReplace => ReadWhole worker content
    | .insert => ReadWhole worker content ∧
      SameLine ends (action.insertLine.getD 0) (action.newStr.getD []) content

/-- When the write of an action is answered, the path has no white space around it, and the file can
be edited there, or what is at the path is already as requested; when its answer is lost, carrying
it out has changed nothing at the path. -/
def EditsExactly (ends : Char → Bool) (workspace : UEnvWorkspace) (worker : SessionWorker)
    (calls : Calls) (container : Container) (action : FileEditorAction) : Prop :=
  let path := workspace.locate action.path
  let edited := absPath workspace action.path
  match assertPathInWorkspace workspace edited, newText worker calls container edited action,
    calls.write with
  | .ok (), .ok text, .lost true _ =>
    (worker.writeFile container edited text)[path]? = container[path]?
  | .ok (), .ok _, .answered =>
    if edited = path then Editable ends worker action container[path]?
    else ∃ text, requested ends action container[path]? = some text ∧
      container[path]? = some (.file text)
  | _, _, _ => True

theorem lossyPrefix_spec (room : Nat) (text : List Char) :
    ∃ kept rest, text = kept ++ rest ∧ (lossyPrefix room text = kept ∨
      rest ≠ [] ∧ lossyPrefix room text = kept ++ ['\uFFFD']) := by
  induction text generalizing room with
  | nil => exact ⟨[], [], rfl, .inl rfl⟩
  | cons c rest ih =>
    rw [lossyPrefix]
    split
    · obtain ⟨kept, cut, split, read⟩ := ih (room - c.utf8Size)
      refine ⟨c :: kept, cut, by rw [split]; rfl, ?_⟩
      rcases read with read | ⟨some, read⟩
      · exact .inl (by rw [read])
      · exact .inr ⟨some, by rw [read]; rfl⟩
    · split
      · exact ⟨[], c :: rest, rfl, .inl rfl⟩
      · exact ⟨[], c :: rest, rfl, .inr ⟨by simp, rfl⟩⟩

theorem truncateOutput_spec (maxOutputBytes : Nat) (text : List Char) :
    ∃ kept rest, text = kept ++ rest ∧ ((truncateOutput maxOutputBytes text).1 = kept ∨
      rest ≠ [] ∧ (truncateOutput maxOutputBytes text).1 = kept ++ ['\uFFFD']) := by
  unfold truncateOutput
  split
  · exact lossyPrefix_spec _ text
  · exact ⟨text, [], by simp, .inl rfl⟩

theorem truncateOutput_length_le (maxOutputBytes : Nat) (text : List Char) :
    (truncateOutput maxOutputBytes text).1.length ≤ text.length := by
  obtain ⟨kept, rest, split, read | ⟨some, read⟩⟩ := truncateOutput_spec maxOutputBytes text
  · rw [read, split, List.length_append]
    omega
  · have := List.length_pos_iff.mpr some
    rw [read, split, List.length_append, List.length_append]
    simp only [List.length_cons, List.length_nil]
    omega

variable {worker : SessionWorker} {content : List Char}

theorem readWhole_of_perm (same : (truncateOutput worker.maxOutputBytes content).1.Perm content) :
    ReadWhole worker content := by
  unfold ReadWhole
  obtain ⟨kept, rest, split, read | ⟨some, read⟩⟩ :=
    truncateOutput_spec worker.maxOutputBytes content
  · have length := same.length_eq
    rw [read, split, List.length_append] at length
    have none : rest = [] := List.length_eq_zero_iff.mp (by omega)
    rw [read, split, none, List.append_nil]
  · rw [read, split] at same
    have last := (List.perm_append_left_iff kept).mp same
    rw [read, split, List.singleton_perm.mp last]

theorem lossyPrefix_eq_self_iff (room : Nat) (text : List Char) :
    lossyPrefix room text = text ↔ byteLength text ≤ room ∨
      ∃ kept, text = kept ++ ['\uFFFD'] ∧ byteLength kept < room := by
  induction text generalizing room with
  | nil => simp [lossyPrefix, byteLength]
  | cons c rest ih =>
    have size := c.utf8Size_pos
    rw [lossyPrefix, byteLength_cons]
    split
    · rename_i fits
      rw [List.cons.injEq, and_iff_right rfl, ih]
      constructor
      · rintro (short | ⟨kept, rfl, short⟩)
        · exact .inl (by omega)
        · exact .inr ⟨c :: kept, rfl, by rw [byteLength_cons]; omega⟩
      · rintro (short | ⟨kept, split, short⟩)
        · exact .inl (by omega)
        · cases kept with
          | nil =>
            obtain ⟨rfl, rfl⟩ : c = '\uFFFD' ∧ rest = [] := by simpa using split
            exact .inl (Nat.zero_le _)
          | cons d kept =>
            obtain ⟨rfl, rfl⟩ : c = d ∧ rest = kept ++ ['\uFFFD'] := by simpa using split
            rw [byteLength_cons] at short
            exact .inr ⟨kept, rfl, by omega⟩
    · rename_i cut
      split
      · simp_all
      · rename_i room'
        constructor
        · intro same
          obtain ⟨rfl, rfl⟩ : '\uFFFD' = c ∧ [] = rest := by simpa using same
          exact .inr ⟨[], rfl, by rw [byteLength, List.foldl_nil]; omega⟩
        · rintro (short | ⟨kept, split, short⟩)
          · omega
          · cases kept with
            | nil => exact split.symm
            | cons d kept =>
              obtain ⟨rfl, -⟩ : c = d ∧ rest = kept ++ ['\uFFFD'] := by simpa using split
              rw [byteLength_cons] at short
              omega

theorem readWhole_iff (worker : SessionWorker) (content : List Char) :
    ReadWhole worker content ↔ byteLength content ≤ worker.maxOutputBytes ∨
      ∃ kept, content = kept ++ ['\uFFFD'] ∧ byteLength kept < worker.maxOutputBytes := by
  unfold ReadWhole truncateOutput
  split
  · exact lossyPrefix_eq_self_iff _ content
  · rename_i fits
    simp [Nat.not_lt.mp fits]

/-- A replacement in what was read is the one in the content exactly if the content was read
whole. -/
theorem replaceFirst_iff {old new text : List Char}
    (written : replaceFirst old new (truncateOutput worker.maxOutputBytes content).1 = some text) :
    replaceFirst old new content = some text ↔ ReadWhole worker content := by
  constructor
  · intro asked
    obtain ⟨⟨before', after'⟩, cut', same'⟩ := Option.map_eq_some_iff.mp written
    obtain ⟨⟨before, after⟩, cut, same⟩ := Option.map_eq_some_iff.mp asked
    refine readWhole_of_perm (List.perm_iff_count.mpr fun c => ?_)
    rw [splitAt_spec cut']
    conv_rhs => rw [splitAt_spec cut]
    have counts := congrArg (List.count c) (same'.trans same.symm)
    simp only [List.count_append] at counts ⊢
    omega
  · intro whole
    rw [← written, show (truncateOutput worker.maxOutputBytes content).1 = content from whole]

theorem flatten_take_append_drop (lines : List (List Char)) (position : Nat) :
    (lines.take position).flatten ++ (lines.drop position).flatten = lines.flatten := by
  rw [← List.flatten_append, List.take_append_drop]

theorem insertLines_eq (lines : List (List Char)) (position : Nat) (new : List Char) :
    insertLines lines position new =
      lines.flatten.take (lines.take position).flatten.length ++ new ++
        lines.flatten.drop (lines.take position).flatten.length := by
  rw [insertLines, ← flatten_take_append_drop lines position, List.take_left, List.drop_left]

/-- An insertion into what was read is the one into the content exactly if the content was read
whole and the line is where `str.splitlines` has it. -/
theorem insertLines_iff (ends : Char → Bool) (worker : SessionWorker) (line : Int)
    (new content : List Char) :
    (insertAfterLine ends line new content =
      let lines := keptLines isLineBreak (truncateOutput worker.maxOutputBytes content).1
      some (insertLines lines (insertPosition line lines.length) (withNewline new))) ↔
        ReadWhole worker content ∧ SameLine ends line new content := by
  have position : 0 ≤ line → ∀ lines : List (List Char),
      insertLines lines (insertPosition line lines.length) (withNewline new) =
        insertLines lines line.toNat (withNewline new) := by
    intro natural lines
    rw [insertPosition, if_neg (by omega), insertLines, insertLines]
    by_cases inside : line.toNat ≤ lines.length
    · rw [min_eq_left inside]
    · rw [min_eq_right (by omega), List.take_of_length_le (le_refl _),
        List.take_of_length_le (by omega), List.drop_of_length_le (le_refl _),
        List.drop_of_length_le (by omega)]
  constructor
  · intro asked
    simp only [insertAfterLine] at asked
    split at asked
    · rename_i found
      obtain ⟨natural, inside⟩ := found
      have same := Option.some.inj asked
      rw [position natural] at same
      have parts := flatten_take_append_drop (keptLines ends content) line.toNat
      have parts' := flatten_take_append_drop
        (keptLines isLineBreak (truncateOutput worker.maxOutputBytes content).1) line.toNat
      rw [keptLines_flatten] at parts parts'
      have ended : ((keptLines ends content).take line.toNat).flatten.getLast?.all ends = true := by
        by_contra unended
        -- the line feed that closes the last line is one character too many
        have lengths := congrArg List.length same
        have short := truncateOutput_length_le worker.maxOutputBytes content
        have length := congrArg List.length parts
        have length' := congrArg List.length parts'
        rw [closeLine, if_neg unended, insertLines] at lengths
        simp only [List.length_append, List.length_cons, List.length_nil] at lengths length length'
        omega
      rw [closeLine, if_pos ended] at same
      have whole : ReadWhole worker content := by
        refine readWhole_of_perm (List.perm_iff_count.mpr fun c => ?_)
        have counts := congrArg (List.count c) same
        have count := congrArg (List.count c) parts
        have count' := congrArg (List.count c) parts'
        rw [insertLines] at counts
        simp only [List.count_append] at counts count count'
        omega
      refine ⟨whole, natural, inside, ended, (splice_eq_iff content _ _ _).mp ?_⟩
      rw [show (truncateOutput worker.maxOutputBytes content).1 = content from whole,
        ← insertLines.eq_def (keptLines ends content), insertLines_eq, insertLines_eq,
        keptLines_flatten, keptLines_flatten] at same
      exact same.symm
    · cases asked
  · rintro ⟨whole, natural, inside, ended, commutes⟩
    have closed : closeLine ends ((keptLines ends content).take line.toNat).flatten =
        ((keptLines ends content).take line.toNat).flatten := by rw [closeLine, if_pos ended]
    rw [show (truncateOutput worker.maxOutputBytes content).1 = content from whole,
      insertAfterLine, if_pos ⟨natural, inside⟩, closed]
    simp only [position natural, ← insertLines.eq_def]
    rw [insertLines_eq, insertLines_eq, keptLines_flatten, keptLines_flatten]
    exact congrArg some (((splice_eq_iff content _ _ _).mpr commutes).symm)

section Exactness

variable {ends : Char → Bool} {worker : SessionWorker} {calls : Calls} {container : Container}
  {path : String} {action : FileEditorAction} {text : List Char}

theorem readRemoteText_ok {read : List Char}
    (ok : readRemoteText worker calls container path = .ok read) :
    ∃ content, container[path]? = some (.file content) ∧
      read = (truncateOutput worker.maxOutputBytes content).1 := by
  unfold readRemoteText at ok
  split at ok
  · cases ok
  · unfold SessionWorker.readFile at ok
    split at ok
    · rename_i content found
      cases ok
      exact ⟨content, found, rfl⟩
    · cases ok
    · cases ok

/-- The text that an action writes is the one it asks for exactly if the file can be edited. -/
theorem requested_iff_editable (planned : newText worker calls container path action = .ok text) :
    (requested ends action container[path]? = some text ∧
      ∀ files, container[path]? ≠ some (.directory files)) ↔
        Editable ends worker action container[path]? := by
  unfold newText at planned
  split at planned
  · rename_i create
    split at planned
    · rename_i content given
      cases planned
      cases container[path]? with
      | none => simp [requested, Editable, create, given]
      | some entry => cases entry <;> simp [requested, Editable, create, given]
    · cases planned
  · rename_i strReplace
    split at planned
    · cases planned
    · rename_i read ok
      obtain ⟨content, found, rfl⟩ := readRemoteText_ok ok
      split at planned
      · rename_i written
        cases planned
        simpa [requested, Editable, strReplace, found] using replaceFirst_iff written
      · cases planned
  · rename_i insert
    split at planned
    · cases planned
    · rename_i read ok
      obtain ⟨content, found, rfl⟩ := readRemoteText_ok ok
      cases planned
      simpa [requested, Editable, insert, found] using insertLines_iff ends worker
        (action.insertLine.getD 0) (action.newStr.getD []) content
  · cases planned

theorem lookup_writeFile_self (container : Container) (path : String) (text : List Char)
    (noDirectory : ∀ files, container[path]? ≠ some (.directory files)) :
    (worker.writeFile container path text)[path]? = some (.file text) := by
  unfold SessionWorker.writeFile
  split
  · rename_i files found
    exact absurd found (noDirectory files)
  · simp

theorem lookup_writeFile_ne {other : String} (ne : path ≠ other) :
    (worker.writeFile container path text)[other]? = container[other]? := by
  unfold SessionWorker.writeFile
  split
  · rw [lookup_insert, if_neg ne]
  · rw [lookup_insert, if_neg ne]

/-- A file is at the path after the write exactly if the text is that file's and the path is not a
directory's. -/
theorem file_writeFile_iff {asked : List Char} :
    (worker.writeFile container path text)[path]? = some (.file asked) ↔
      asked = text ∧ ∀ files, container[path]? ≠ some (.directory files) := by
  constructor
  · intro found
    have noDirectory : ∀ files, container[path]? ≠ some (.directory files) := by
      intro files directory
      simp [SessionWorker.writeFile, directory] at found
    rw [lookup_writeFile_self container path text noDirectory] at found
    cases found
    exact ⟨rfl, noDirectory⟩
  · rintro ⟨rfl, noDirectory⟩
    exact lookup_writeFile_self container path asked noDirectory

theorem fileEditor_answered {workspace : UEnvWorkspace}
    (edited : absPath workspace action.path = path)
    (allowed : assertPathInWorkspace workspace path = .ok ())
    (planned : newText worker calls container path action = .ok text)
    (answered : calls.write = .answered) :
    fileEditor workspace worker calls container action =
      (.ok (observed path action), worker.writeFile container path text) := by
  unfold fileEditor
  simp only [edited, allowed]
  rw [planned]
  simp only [writeRemoteText, answered, Bool.true_eq_false, and_false, if_false]

end Exactness

/-- An action ends as it should exactly if its edit is one that the executor can do. -/
theorem exact_iff_editsExactly (ends : Char → Bool) (workspace : UEnvWorkspace)
    (worker : SessionWorker) (calls : Calls) (container : Container) (action : FileEditorAction) :
    Exact ends workspace container action (fileEditor workspace worker calls container action) ↔
      EditsExactly ends workspace worker calls container action := by
  unfold fileEditor EditsExactly
  simp only
  generalize edited : absPath workspace action.path = path
  cases allowed : assertPathInWorkspace workspace path with
  | error => simp [Exact]
  | ok _ =>
    cases planned : newText worker calls container path action with
    | error => simp [Exact]
    | ok text =>
      unfold writeRemoteText
      cases calls.write with
      | refused => simp [Exact]
      | lost written => cases written <;> simp [Exact]
      | answered =>
        simp only [Bool.true_eq_false, and_false, if_false, Exact]
        by_cases same : path = workspace.locate action.path
        · rw [if_pos same, ← same, ← requested_iff_editable planned]
          simp only [file_writeFile_iff]
          constructor
          · rintro ⟨asked, want, rfl, noDirectory⟩
            exact ⟨want, noDirectory⟩
          · rintro ⟨want, noDirectory⟩
            exact ⟨text, want, rfl, noDirectory⟩
        · rw [if_neg same]
          simp only [lookup_writeFile_ne same]

/-- A file without a line feed at its end. -/
def openFile : Container := (∅ : Container).insert "/app/a.txt" (.file ['a'])

def insertAtEnd : FileEditorAction :=
  { command := .insert, path := "/app/a.txt", insertLine := some 1, newStr := some ['b'] }

/-- A line that is put in after a last line without an end is joined to it. -/
theorem joined_to_last_line :
    requested (· = '\n') insertAtEnd openFile["/app/a.txt"]? = some ['a', '\n', 'b', '\n'] ∧
      ¬ Exact (· = '\n') { instanceId := "a" } openFile insertAtEnd
        (fileEditor { instanceId := "a" } { pid := 1 } {} openFile insertAtEnd) := by
  have found : openFile["/app/a.txt"]? = some (.file ['a']) := by simp [openFile]
  have asked : requested (· = '\n') insertAtEnd openFile["/app/a.txt"]? =
      some ['a', '\n', 'b', '\n'] := by
    rw [found]
    rfl
  have located : UEnvWorkspace.locate { instanceId := "a" } insertAtEnd.path = "/app/a.txt" := by
    decide +kernel
  have edited : absPath { instanceId := "a" } insertAtEnd.path = "/app/a.txt" := by decide +kernel
  have allowed : assertPathInWorkspace { instanceId := "a" } "/app/a.txt" = .ok () := by
    have passes : (assertPathInWorkspace { instanceId := "a" } "/app/a.txt").isOk = true := by
      decide +kernel
    cases checked : assertPathInWorkspace { instanceId := "a" } "/app/a.txt" with
    | ok _ => rfl
    | error =>
      rw [checked] at passes
      cases passes
  have planned : newText { pid := 1 } {} openFile "/app/a.txt" insertAtEnd =
      .ok ['a', 'b', '\n'] := by
    have read : readRemoteText { pid := 1 } {} openFile "/app/a.txt" = .ok ['a'] := by
      rw [readRemoteText, SessionWorker.readFile, found]
      rfl
    simp only [newText, insertAtEnd, read]
    rfl
  have noDirectory : ∀ files, openFile["/app/a.txt"]? ≠ some (.directory files) := by
    simp [found]
  refine ⟨asked, ?_⟩
  rw [fileEditor_answered edited allowed planned rfl]
  rintro ⟨text, want, got⟩
  rw [located, lookup_writeFile_self _ _ _ noDirectory] at got
  rw [located, asked] at want
  cases want
  cases got

end UEnv.OpenHands
