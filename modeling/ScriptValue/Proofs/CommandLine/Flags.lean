import ScriptValue.Proofs.CommandLine.Outcome

/-!
# Where flags stand

Up to the first `--`, flags may stand anywhere on a command line. Verbosity flags are passed over,
so a command line asks for the same without them. A `--json` that is the only one is noted where
it stands, and the arguments around it are read as if it were not there. And `--` right behind the
word makes no difference where all arguments behind it are operands anyway.

The position of `--json` matters only if there is another one: each side of the word has its own
count of them. Behind `help` nothing is a flag, so all this holds for command lines whose first
argument that is no flag is something else.

* `Request.read?_filter`: verbosity flags.
* `Request.read?_insert_json`: a single `--json`.
* `Request.read?_append_congr`, `Request.operands?_of_arePlain`: operands without flags.
* `flags_transparent`: the outcomes of command lines.
-/

namespace ScriptValue

namespace Request

/-- A flag that may stand before the word. -/
def isFlag (arg : String) : Bool :=
  arg == "--json" || isVerbosity arg

/-- The first argument that is no flag. -/
def first? (line : List String) : Option String :=
  line.find? (!isFlag ·)

/-- An argument that is neither a flag, alone or with a value, nor `--`, and does not ask for
help. -/
def isPlain (room : Nat) (arg : String) : Bool :=
  arg != "--" && !isFlag arg && !isFlagWithValue arg && !isHelp room arg

/-- Each argument is plain where it stands. -/
def arePlain : Nat → List String → Bool
  | _, [] => true
  | room, arg :: args => isPlain room arg && arePlain (room - 1) args

/-! ## Single arguments -/

theorem isFlagWithValue_of_isVerbosity {flag : String} (h : isVerbosity flag = true) :
    isFlagWithValue flag = false := by
  unfold isVerbosity at h
  unfold isFlagWithValue
  split at h
  · rename_i word hWord
    rw [hWord, eq_of_beq h]
    decide
  · rename_i letters hLetters
    rw [hLetters]
    rfl
  · cases h

theorem ne_of_isVerbosity {flag : String} (h : isVerbosity flag = true) :
    flag ≠ "--" ∧ flag ≠ "--json" := by
  constructor
  · rintro rfl
    revert h
    decide
  · rintro rfl
    revert h
    decide

theorem operands?_verbosity (room : Nat) (json : Bool) {flag : String}
    (h : isVerbosity flag = true) (args : List String) :
    operands? room json (flag :: args) = operands? room json args := by
  have hValue := isFlagWithValue_of_isVerbosity h
  obtain ⟨hTerminator, hJson⟩ := ne_of_isVerbosity h
  simp [operands?, hTerminator, hJson, hValue, h]

theorem read?_verbosity (json : Bool) {flag : String} (h : isVerbosity flag = true)
    (args : List String) : read? json (flag :: args) = read? json args := by
  simp [read?, (ne_of_isVerbosity h).2, h]

theorem ne_of_isFlag_eq_false {arg : String} (h : isFlag arg = false) :
    arg ≠ "--json" ∧ isVerbosity arg = false := by
  simpa [isFlag] using h

/-- The request of the first argument that is no flag, if it is not `help`, with what is read of
the arguments behind it for each word. -/
def ofFirst? (json : Bool) (arg : String) (operands : Word → Option Operands) : Option Request :=
  if isHelp 0 arg then some (.help .program)
  else if isVersion arg then some .version
  else (Word.ofText? arg).bind fun word => (operands word).bind (word.request? json)

theorem read?_first (json : Bool) {arg : String} (hFlag : isFlag arg = false)
    (hHelp : arg ≠ "help") (args : List String) :
    read? json (arg :: args) = ofFirst? json arg fun word => operands? word.arity false args := by
  obtain ⟨hJson, hVerbosity⟩ := ne_of_isFlag_eq_false hFlag
  simp only [read?, hJson, hVerbosity, hHelp, if_false, Bool.false_eq_true, ofFirst?]
  cases Word.ofText? arg <;> rfl

theorem first?_of_isFlag {arg : String} (h : isFlag arg = true) (args : List String) :
    first? (arg :: args) = first? args :=
  List.find?_cons_of_neg (by simp [h])

theorem first?_of_isFlag_eq_false {arg : String} (h : isFlag arg = false) (args : List String) :
    first? (arg :: args) = some arg :=
  List.find?_cons_of_pos (by simp [h])

/-! ## Verbosity -/

theorem first?_filter (line : List String) :
    first? (line.filter (!isVerbosity ·)) = first? line := by
  unfold first?
  rw [List.find?_filter]
  congr 1
  funext arg
  rw [Bool.eq_iff_iff]
  simp only [isFlag, decide_eq_true_eq, Bool.not_eq_true', Bool.or_eq_false_iff]
  exact and_iff_right_of_imp And.right

theorem operands?_filter (room : Nat) (json : Bool) {args : List String} (hArgs : "--" ∉ args)
    (rest : List String) :
    operands? room json (args.filter (!isVerbosity ·) ++ rest) =
      operands? room json (args ++ rest) := by
  induction args generalizing room json with
  | nil => rfl
  | cons arg args ih =>
    have hArg := List.ne_of_not_mem_cons hArgs
    have hTail := List.not_mem_of_not_mem_cons hArgs
    by_cases hVerbosity : isVerbosity arg = true
    · rw [List.filter_cons_of_neg (by simp [hVerbosity]), ih room json hTail, List.cons_append,
        operands?_verbosity room json hVerbosity]
    · rw [List.filter_cons_of_pos (by simp [hVerbosity])]
      simp only [List.cons_append, operands?, if_neg (Ne.symm hArg), ih _ _ hTail]

/-- A command line asks for the same without the verbosity flags before the first `--`. -/
theorem read?_filter (json : Bool) {line : List String} (hLine : "--" ∉ line)
    (hFirst : first? line ≠ some "help") (rest : List String) :
    read? json (line.filter (!isVerbosity ·) ++ rest) = read? json (line ++ rest) := by
  induction line generalizing json with
  | nil => rfl
  | cons arg args ih =>
    have hTail := List.not_mem_of_not_mem_cons hLine
    by_cases hVerbosity : isVerbosity arg = true
    · rw [first?_of_isFlag (by simp [isFlag, hVerbosity])] at hFirst
      rw [List.filter_cons_of_neg (by simp [hVerbosity]), ih json hTail hFirst, List.cons_append,
        read?_verbosity json hVerbosity]
    · rw [List.filter_cons_of_pos (by simp [hVerbosity]), List.cons_append, List.cons_append]
      by_cases hJson : arg = "--json"
      · rw [first?_of_isFlag (by simp [isFlag, hJson])] at hFirst
        simp only [read?, hJson, if_true, ih _ hTail hFirst]
      · have hFlag : isFlag arg = false := by simp [isFlag, hJson, hVerbosity]
        rw [first?_of_isFlag_eq_false hFlag] at hFirst
        have hHelp : arg ≠ "help" := fun h => hFirst (congrArg some h)
        simp only [read?_first _ hFlag hHelp, operands?_filter _ _ hTail]

/-! ## A single `--json` -/

/-- What is left of a command line from the first `--` on. -/
def IsRest (rest : List String) : Prop :=
  rest = [] ∨ ∃ operands, rest = "--" :: operands

/-- The same request, but for a document. -/
def withJson : Request → Request
  | help topic => help topic
  | version => version
  | perform _ task => perform true task

/-- The same operands, with `--json` among them. -/
def Operands.withJson : Operands → Operands
  | help => help
  | given _ operands => given true operands

theorem Operands.withJson_cons (arg : String) (operands : Operands) :
    (operands.cons arg).withJson = operands.withJson.cons arg := by
  cases operands <;> rfl

theorem Operands.map_cons_withJson (arg : String) (operands : Option Operands) :
    (operands.map withJson).map (cons arg) = (operands.map (cons arg)).map withJson := by
  rw [Option.map_map, Option.map_map]
  congr 1
  funext operands
  exact (withJson_cons arg operands).symm

theorem Word.request?_true (word : Word) (operands : Operands) :
    word.request? true operands = (word.request? false operands).map withJson := by
  cases operands with
  | help => rfl
  | given json operands => cases hTask : word.task? operands <;> simp [request?, hTask, withJson]

/-- It makes no difference on which side of the word `--json` stands. -/
theorem Word.request?_withJson (word : Word) (operands : Operands) :
    word.request? false operands.withJson = word.request? true operands := by
  cases operands <;> rfl

theorem ofFirst?_true (arg : String) (operands : Word → Option Operands) :
    ofFirst? true arg operands = (ofFirst? false arg operands).map withJson := by
  unfold ofFirst?
  split
  · rfl
  · split
    · rfl
    · cases Word.ofText? arg with
      | none => rfl
      | some word =>
        cases hOperands : operands word with
        | none => simp [hOperands]
        | some o => simp [hOperands, word.request?_true]

theorem ofFirst?_map_withJson (arg : String) (operands : Word → Option Operands) :
    ofFirst? false arg (fun word => (operands word).map .withJson) =
      ofFirst? true arg operands := by
  unfold ofFirst?
  simp only [Option.bind_map, Function.comp_def, Word.request?_withJson]

theorem operands?_true (room : Nat) {args rest : List String} (hJson : "--json" ∉ args)
    (hRest : IsRest rest) :
    operands? room true (args ++ rest) =
      (operands? room false (args ++ rest)).map .withJson := by
  induction args generalizing room with
  | nil =>
    rcases hRest with rfl | ⟨operands, rfl⟩
    · rfl
    · simp [operands?, Operands.withJson]
  | cons arg args ih =>
    have hArg := List.ne_of_not_mem_cons hJson
    have hTail := List.not_mem_of_not_mem_cons hJson
    simp only [List.cons_append, operands?, if_neg (Ne.symm hArg), ih _ hTail]
    split
    · rfl
    · split
      · rfl
      · split
        · rfl
        · split
          · rfl
          · cases room with
            | zero => rfl
            | succ room => exact Operands.map_cons_withJson arg _

theorem operands?_insert_json (room : Nat) {before after rest : List String}
    (hBefore : "--" ∉ before) (hJson : "--json" ∉ before ++ after) (hRest : IsRest rest) :
    operands? room false (before ++ "--json" :: (after ++ rest)) =
      (operands? room false (before ++ (after ++ rest))).map .withJson := by
  induction before generalizing room with
  | nil =>
    have hAfter := operands?_true room (List.nil_append after ▸ hJson) hRest
    simpa [operands?] using hAfter
  | cons arg args ih =>
    have hTerminator := List.ne_of_not_mem_cons hBefore
    have hArg := List.ne_of_not_mem_cons hJson
    have hBeforeTail := List.not_mem_of_not_mem_cons hBefore
    have hJsonTail := List.not_mem_of_not_mem_cons hJson
    simp only [List.cons_append, operands?, if_neg (Ne.symm hTerminator), if_neg (Ne.symm hArg),
      ih _ hBeforeTail hJsonTail]
    split
    · rfl
    · split
      · rfl
      · split
        · rfl
        · cases room with
          | zero => rfl
          | succ room => exact Operands.map_cons_withJson arg _

theorem read?_true {args rest : List String} (hJson : "--json" ∉ args)
    (hFirst : first? args ≠ some "help") (hRest : IsRest rest) :
    read? true (args ++ rest) = (read? false (args ++ rest)).map withJson := by
  induction args with
  | nil =>
    rcases hRest with rfl | ⟨operands, rfl⟩
    · rfl
    · rfl
  | cons arg args ih =>
    have hArg := List.ne_of_not_mem_cons hJson
    have hTail := List.not_mem_of_not_mem_cons hJson
    by_cases hVerbosity : isVerbosity arg = true
    · rw [first?_of_isFlag (by simp [isFlag, hVerbosity])] at hFirst
      simp only [List.cons_append, read?_verbosity _ hVerbosity, ih hTail hFirst]
    · have hFlag : isFlag arg = false := by simp [isFlag, Ne.symm hArg, hVerbosity]
      rw [first?_of_isFlag_eq_false hFlag] at hFirst
      have hHelp : arg ≠ "help" := fun h => hFirst (congrArg some h)
      simp only [List.cons_append, read?_first _ hFlag hHelp, ofFirst?_true]

/-- A `--json` that is the only one before the first `--` adds nothing but the request for a
document, wherever it stands. -/
theorem read?_insert_json {before after rest : List String} (hBefore : "--" ∉ before)
    (hJson : "--json" ∉ before ++ after) (hFirst : first? (before ++ after) ≠ some "help")
    (hRest : IsRest rest) :
    read? false (before ++ "--json" :: (after ++ rest)) =
      (read? false (before ++ (after ++ rest))).map withJson := by
  induction before with
  | nil =>
    have hAfter := read?_true (List.nil_append after ▸ hJson) hFirst hRest
    simpa [read?] using hAfter
  | cons arg args ih =>
    have hArg := List.ne_of_not_mem_cons hJson
    have hBeforeTail := List.not_mem_of_not_mem_cons hBefore
    have hJsonTail := List.not_mem_of_not_mem_cons hJson
    rw [List.cons_append] at hFirst
    by_cases hVerbosity : isVerbosity arg = true
    · rw [first?_of_isFlag (by simp [isFlag, hVerbosity])] at hFirst
      simp only [List.cons_append, read?_verbosity _ hVerbosity, ih hBeforeTail hJsonTail hFirst]
    · have hFlag : isFlag arg = false := by simp [isFlag, Ne.symm hArg, hVerbosity]
      rw [first?_of_isFlag_eq_false hFlag] at hFirst
      have hHelp : arg ≠ "help" := fun h => hFirst (congrArg some h)
      simp only [List.cons_append, read?_first _ hFlag hHelp,
        operands?_insert_json _ hBeforeTail hJsonTail hRest, ofFirst?_map_withJson, ofFirst?_true]

/-! ## Operands without flags -/

theorem operands?_of_arePlain (json : Bool) {room : Nat} {args : List String}
    (hArgs : arePlain room args = true) :
    operands? room json args = if args.length ≤ room then some (.given json args) else none := by
  induction args generalizing room with
  | nil => rfl
  | cons arg args ih =>
    simp only [arePlain, isPlain, isFlag, Bool.and_eq_true, bne_iff_ne, Bool.not_eq_true',
      Bool.or_eq_false_iff, beq_eq_false_iff_ne] at hArgs
    obtain ⟨⟨⟨⟨hTerminator, hJson, hVerbosity⟩, hValue⟩, hHelp⟩, hTail⟩ := hArgs
    simp only [operands?, hTerminator, hJson, hVerbosity, hValue, hHelp, if_false,
      Bool.false_eq_true]
    cases room with
    | zero => rfl
    | succ room =>
      have hRest : operands? room json args = _ := ih hTail
      simp only [hRest, List.length_cons, Nat.add_le_add_iff_right]
      split <;> rfl

theorem Word.task?_eq_none {word : Word} {operands : List String}
    (h : word.arity < operands.length) : word.task? operands = none := by
  unfold task?
  split
  · exact absurd h (Nat.lt_irrefl 3)
  · exact absurd h (Nat.lt_irrefl 2)
  · exact absurd h (Nat.lt_irrefl 1)
  · rfl

/-- Operands too many are refused behind `--` as well. -/
theorem Word.bind_operands?_of_arePlain {word : Word} {args : List String}
    (hArgs : arePlain word.arity args = true) (json : Bool) :
    (operands? word.arity false args).bind (word.request? json) =
      word.request? json (.given false args) := by
  rw [operands?_of_arePlain false hArgs]
  split
  · rfl
  · rename_i hMany
    rw [request?, task?_eq_none (Nat.lt_of_not_le hMany)]
    rfl

/-- Behind flags and the word, only the operands count. -/
theorem read?_append_congr (json : Bool) {flags : List String}
    (hFlags : ∀ flag ∈ flags, isFlag flag = true) {word : Word} {args args' : List String}
    (hOperands : ∀ json, (operands? word.arity false args).bind (word.request? json) =
      (operands? word.arity false args').bind (word.request? json)) :
    read? json (flags ++ word.text :: args) = read? json (flags ++ word.text :: args') := by
  induction flags generalizing json with
  | nil => rw [List.nil_append, List.nil_append, read?_word, read?_word, hOperands]
  | cons flag flags ih =>
    have hTail := fun json => ih json fun flag hFlag => hFlags flag (List.mem_cons_of_mem _ hFlag)
    have hFlag := hFlags flag List.mem_cons_self
    simp only [isFlag, Bool.or_eq_true, beq_iff_eq] at hFlag
    rcases hFlag with rfl | hVerbosity
    · simp only [List.cons_append, read?, if_true, hTail]
    · simp only [List.cons_append, read?_verbosity _ hVerbosity, hTail]

/-! ## Command lines -/

theorem ofArguments?_verbosity {line line' rest : List String} (hLine : "--" ∉ line)
    (hFirst : first? line ≠ some "help")
    (hSame : line'.filter (!isVerbosity ·) = line.filter (!isVerbosity ·)) :
    ofArguments? (line' ++ rest) = ofArguments? (line ++ rest) := by
  have hLine' : "--" ∉ line' := by
    intro hMem
    have hKept : "--" ∈ line'.filter (!isVerbosity ·) :=
      List.mem_filter.mpr ⟨hMem, by decide⟩
    rw [hSame] at hKept
    exact hLine (List.mem_filter.mp hKept).1
  have hFirst' : first? line' ≠ some "help" := by
    rwa [← first?_filter, hSame, first?_filter]
  unfold ofArguments?
  rw [← read?_filter false hLine' hFirst', hSame, read?_filter false hLine hFirst]

theorem ofArguments?_move_json {before after before' after' rest : List String}
    (hTerminator : "--" ∉ before ++ after) (hJson : "--json" ∉ before ++ after)
    (hFirst : first? (before ++ after) ≠ some "help") (hRest : IsRest rest)
    (hSame : before' ++ after' = before ++ after) :
    ofArguments? (before' ++ "--json" :: (after' ++ rest)) =
      ofArguments? (before ++ "--json" :: (after ++ rest)) := by
  have hBefore : "--" ∉ before := fun h => hTerminator (List.mem_append_left _ h)
  have hBefore' : "--" ∉ before' := fun h => hTerminator (hSame ▸ List.mem_append_left _ h)
  unfold ofArguments?
  rw [read?_insert_json hBefore hJson hFirst hRest,
    read?_insert_json hBefore' (hSame ▸ hJson) (hSame ▸ hFirst) hRest, ← List.append_assoc, hSame,
    List.append_assoc]

theorem ofArguments?_terminator {flags args : List String} {word : Word}
    (hFlags : ∀ flag ∈ flags, isFlag flag = true) (hArgs : arePlain word.arity args = true) :
    ofArguments? (flags ++ word.text :: "--" :: args) =
      ofArguments? (flags ++ word.text :: args) := by
  refine read?_append_congr false hFlags fun json => ?_
  rw [word.bind_operands?_of_arePlain hArgs]
  simp [operands?]

theorem first?_line {flags : List String} (hFlags : ∀ flag ∈ flags, isFlag flag = true)
    (word : Word) (args : List String) : first? (flags ++ word.text :: args) = some word.text := by
  induction flags with
  | nil => exact first?_of_isFlag_eq_false (by cases word <;> decide) args
  | cons flag flags ih =>
    rw [List.cons_append, first?_of_isFlag (hFlags flag List.mem_cons_self)]
    exact ih fun flag hFlag => hFlags flag (List.mem_cons_of_mem _ hFlag)

theorem first?_insert_json (before after : List String) :
    first? (before ++ "--json" :: after) = first? (before ++ after) := by
  have hJson : first? ("--json" :: after) = first? after := first?_of_isFlag (by decide) after
  unfold first? at *
  rw [List.find?_append, hJson, List.find?_append]

theorem terminator_not_mem_line {flags args : List String} (word : Word)
    (hFlags : ∀ flag ∈ flags, isFlag flag = true) (hArgs : "--" ∉ args) :
    "--" ∉ flags ++ word.text :: args := by
  intro hMem
  rcases List.mem_append.mp hMem with hFlag | hMem
  · exact absurd (hFlags _ hFlag) (by decide)
  · rcases List.mem_cons.mp hMem with hWord | hArg
    · cases word <;> exact absurd hWord (by decide)
    · exact hArgs hArg

end Request

/-! ## Outcomes -/

theorem Outcome.ofArguments_congr {args args' : List String}
    (h : Request.ofArguments? args = Request.ofArguments? args') :
    ofArguments args = ofArguments args' := by
  rw [ofArguments, h]
  rfl

/-- On a command line with a word behind flags, with arguments up to the first `--` and with a
rest, verbosity flags before this `--` make no difference to the outcome, a single `--json` may
stand anywhere before it, and `--` may follow the word if no argument behind the word is a flag or
`--`. This includes command lines that ask for help, those that fail and those that are not well
formed. -/
theorem flags_transparent {flags args rest : List String} {word : Request.Word}
    (hFlags : ∀ flag ∈ flags, Request.isFlag flag = true) (hArgs : "--" ∉ args)
    (hRest : Request.IsRest rest) :
    let line := flags ++ word.text :: args
    (∀ line', line'.filter (!Request.isVerbosity ·) = line.filter (!Request.isVerbosity ·) →
      Outcome.ofArguments (line' ++ rest) = Outcome.ofArguments (line ++ rest)) ∧
    (∀ before after before' after', before ++ "--json" :: after = line →
      "--json" ∉ before ++ after → before' ++ after' = before ++ after →
      Outcome.ofArguments (before' ++ "--json" :: after' ++ rest) =
        Outcome.ofArguments (line ++ rest)) ∧
    (Request.arePlain word.arity (args ++ rest) = true →
      Outcome.ofArguments (flags ++ word.text :: "--" :: (args ++ rest)) =
        Outcome.ofArguments (line ++ rest)) := by
  intro line
  have hLine : "--" ∉ line := Request.terminator_not_mem_line word hFlags hArgs
  have hFirst : Request.first? line ≠ some "help" := by
    rw [Request.first?_line hFlags]
    cases word <;> decide
  refine ⟨?_, ?_, ?_⟩
  · intro line' hSame
    exact Outcome.ofArguments_congr (Request.ofArguments?_verbosity hLine hFirst hSame)
  · intro before after before' after' hJsonLine hJson hSame
    rw [← hJsonLine] at hLine hFirst ⊢
    rw [Request.first?_insert_json] at hFirst
    have hTerminator : "--" ∉ before ++ after := by
      intro hMem
      rcases List.mem_append.mp hMem with hBefore | hAfter
      · exact hLine (List.mem_append_left _ hBefore)
      · exact hLine (List.mem_append_right _ (List.mem_cons_of_mem _ hAfter))
    simp only [List.append_assoc, List.cons_append]
    exact Outcome.ofArguments_congr
      (Request.ofArguments?_move_json hTerminator hJson hFirst hRest hSame)
  · intro hPlain
    have hRequest := Request.ofArguments?_terminator hFlags hPlain
    simp only [line, List.append_assoc, List.cons_append]
    exact Outcome.ofArguments_congr hRequest

/-- A subtraction with flags between its operands, and a dash behind `--`. -/
theorem flags_transparent_subtraction :
    Outcome.ofArguments ["-vv", "eval", "int:5", "--verbose", "-", "--json", "--", "-v"] =
        Outcome.ofArguments ["eval", "int:5", "-", "--json", "--", "-v"] ∧
      Outcome.ofArguments ["--json", "eval", "int:5", "-", "--", "-v"] =
        Outcome.ofArguments ["eval", "int:5", "-", "--json", "--", "-v"] ∧
      Outcome.ofArguments ["-v", "unary", "--", "-", "int:5"] =
        Outcome.ofArguments ["-v", "unary", "-", "int:5"] := by
  have hEval := @flags_transparent [] ["int:5", "-", "--json"] ["--", "-v"] .eval (by decide)
    (by decide) (Or.inr ⟨_, rfl⟩)
  have hUnary := @flags_transparent ["-v"] ["-", "int:5"] [] .unary (by decide) (by decide)
    (Or.inl rfl)
  exact ⟨hEval.1 ["-vv", "eval", "int:5", "--verbose", "-", "--json"] (by decide),
    hEval.2.1 ["eval", "int:5", "-"] [] [] ["eval", "int:5", "-"] rfl (by decide) rfl,
    hUnary.2.2 (by decide)⟩

/-- What starts like `-h` is an operand where the word has room for it, and asks for help where it
has none. -/
example : Request.ofArguments? ["inspect", "-hx"] = some (.perform false (.inspect "-hx")) ∧
    Request.ofArguments? ["inspect", "null", "-hx"] = some (.help (.word .inspect)) := by
  decide

/-- There may be one `--json` on each side of the word, but not two on the same side. -/
example : Outcome.ofArguments ["--json", "inspect", "--json", "null"] =
      Outcome.ofArguments ["--json", "inspect", "null"] ∧
    Outcome.ofArguments ["inspect", "--json", "--json", "null"] = .usage := by
  decide +kernel

end ScriptValue
