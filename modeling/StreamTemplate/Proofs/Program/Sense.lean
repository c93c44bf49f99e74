import StreamTemplate.Proofs.Markup.Splice
import StreamTemplate.Proofs.Program.Commented
import StreamTemplate.Proofs.Program.Pieces

/-!
# What a program is apart from its recorded texts

An instruction records the code and the whole tag as they are written, and where on its line the tag
stands. None of this has a part in how the tokens are scanned and how the blocks are nested, except for the
words of a failure: the sense of what comes out is the sense of what goes in (`nest_sense`,
`keeps_scanToken`).
-/

namespace StreamTemplate.Program

open Markup Tag Text

variable {κ : Type}

/-- The place without its column. -/
def Site.sense (site : Site) : Site := ⟨site.line, 0⟩

/-- The instruction without the code as written, the tag and the column. -/
def Instruction.sense : Instruction κ → Instruction κ
  | .literal site text => .literal site.sense text
  | .output site escaped _ code _ => .output site.sense escaped "" code ""
  | .statement site _ _ s => .statement site.sense "" "" s

mutual

/-- The node without the code as written, the tag and the column. -/
def Node.sense : Node κ → Node κ
  | .literal site text => .literal site.sense text
  | .output site escaped _ code _ => .output site.sense escaped "" code ""
  | .simple site _ code _ => .simple site.sense "" code ""
  | .control site isBreak _ => .control site.sense isBreak ""
  | .choice site branches _ => .choice site.sense (senseOfBranches branches) ""
  | .forLoop site isAsync target iter body _ => .forLoop site.sense isAsync target iter (senseOfNodes body) ""
  | .whileLoop site test body _ => .whileLoop site.sense test (senseOfNodes body) ""

/-- Nodes in a row, each in this way. -/
def senseOfNodes : List (Node κ) → List (Node κ)
  | [] => []
  | node :: rest => node.sense :: senseOfNodes rest

/-- A clause with its nodes in this way. -/
def Branch.sense : Branch κ → Branch κ
  | .mk test body _ => .mk test (senseOfNodes body) ""

/-- The clauses of a choice in this way. -/
def senseOfBranches : List (Branch κ) → List (Branch κ)
  | [] => []
  | branch :: rest => branch.sense :: senseOfBranches rest

end

/-- The compiled template without what its program records. -/
def Compiled.sense (c : Compiled κ) : Compiled κ where
  program := c.program.map Instruction.sense
  body := c.body.map Node.sense
  isAsync := c.isAsync

/-! ### Nesting -/

theorem senseOfNodes_eq (nodes : List (Node κ)) : senseOfNodes nodes = nodes.map Node.sense := by
  induction nodes with
  | nil => rw [senseOfNodes, List.map_nil]
  | cons node rest ih => rw [senseOfNodes, ih, List.map_cons]

theorem senseOfBranches_eq (branches : List (Branch κ)) : senseOfBranches branches = branches.map Branch.sense := by
  induction branches with
  | nil => rw [senseOfBranches, List.map_nil]
  | cons branch rest ih => rw [senseOfBranches, ih, List.map_cons]

/-- An open block without what its instructions record. -/
def Frame.sense (f : Frame κ) : Frame κ where
  site := f.site.sense
  tag := ""
  opener := f.opener
  clauses := f.clauses.map Branch.sense
  clauseTag := ""
  clauseTest := f.clauseTest
  hasElse := f.hasElse
  body := f.body.map Node.sense

/-- The blocks still open and the finished nodes without what their instructions record. -/
def Nesting.sense (n : Nesting κ) : Nesting κ where
  frames := n.frames.map Frame.sense
  root := n.root.map Node.sense

theorem Frame.sense_clause (f : Frame κ) : f.sense.clause = f.clause.sense := by
  rw [clause, clause, Branch.sense, senseOfNodes_eq, List.map_reverse]
  rfl

theorem Frame.sense_close (f : Frame κ) : f.sense.close = f.close.sense := by
  have clause := f.sense_clause
  unfold close
  cases opener : f.opener with
  | choice =>
    rw [show f.sense.opener = .choice from opener]
    simp only [Node.sense, senseOfBranches_eq, clause]
    simp [Frame.sense]
  | forLoop isAsync target iter =>
    rw [show f.sense.opener = .forLoop isAsync target iter from opener]
    simp [Node.sense, senseOfNodes_eq, Frame.sense]
  | whileLoop test =>
    rw [show f.sense.opener = .whileLoop test from opener]
    simp [Node.sense, senseOfNodes_eq, Frame.sense]

theorem Frame.sense_nextClause (f : Frame κ) (test : Option κ) (tag : String) :
    (f.nextClause test tag).sense = f.sense.nextClause test "" := by
  simp only [nextClause, sense_clause]
  simp [Frame.sense]

namespace Nesting

theorem sense_add (n : Nesting κ) (node : Node κ) : n.sense.add node.sense = (n.add node).sense := by
  unfold add
  cases frames : n.frames with
  | nil => simp [sense, frames]
  | cons f outer => simp [sense, frames, Frame.sense]

theorem inLoop_sense (n : Nesting κ) : n.sense.inLoop = n.inLoop := by
  rw [inLoop, inLoop, sense, List.any_map]
  rfl

theorem frames_sense {n : Nesting κ} {f : Frame κ} {outer : List (Frame κ)} (frames : n.frames = f :: outer) :
    n.sense.frames = f.sense :: outer.map Frame.sense := by
  rw [sense, frames, List.map_cons]

theorem toOption_divide (n : Nesting κ) (kind : StatementKind) (tag : String) (test : Option κ) :
    (n.sense.divide kind "" test).toOption = (n.divide kind tag test).toOption.map sense := by
  unfold divide
  cases frames : n.frames with
  | nil => simp [sense, frames, Except.toOption]
  | cons f outer =>
    rw [frames_sense frames]
    dsimp only
    rw [show f.sense.opener = f.opener from rfl, show f.sense.hasElse = f.hasElse from rfl]
    cases f.opener with
    | choice =>
      cases f.hasElse with
      | true => rfl
      | false => simp [Except.toOption, sense, Frame.sense_nextClause _ test tag]
    | forLoop | whileLoop => rfl

theorem toOption_leave (n : Nesting κ) (source : String) :
    (n.sense.leave "").toOption = (n.leave source).toOption.map sense := by
  unfold leave
  cases frames : n.frames with
  | nil => simp [sense, frames, Except.toOption]
  | cons f outer =>
    rw [frames_sense frames]
    dsimp only
    rw [Frame.sense_close]
    exact congrArg some (sense_add { n with frames := outer } f.close)

theorem toOption_jump (n : Nesting κ) (site : Site) (isBreak : Bool) (tag : String) :
    (n.sense.jump site.sense isBreak "").toOption = (n.jump site isBreak tag).toOption.map sense := by
  unfold jump
  rw [inLoop_sense]
  split
  · exact congrArg some (n.sense_add (.control site isBreak tag))
  · rfl

/-- What an instruction records has no part in how it is taken in. -/
theorem toOption_step (n : Nesting κ) (i : Instruction κ) :
    (n.sense.step i.sense).toOption = (n.step i).toOption.map sense := by
  cases i with
  | literal site text => exact congrArg some (n.sense_add (.literal site text))
  | output site escaped source code tag => exact congrArg some (n.sense_add (.output site escaped source code tag))
  | statement site source tag s =>
    cases s with
    | simple code => exact congrArg some (n.sense_add (.simple site source code tag))
    | ifDo | forIn | whileDo => rfl
    | elifDo test => exact n.toOption_divide .elifDo tag (some test)
    | elseDo => exact n.toOption_divide .elseDo tag none
    | endBlock => exact n.toOption_leave source
    | breakLoop => exact n.toOption_jump site true tag
    | continueLoop => exact n.toOption_jump site false tag

theorem toOption_run (n : Nesting κ) (program : List (Instruction κ)) :
    (n.sense.run (program.map Instruction.sense)).toOption =
      (n.run program).toOption.map (List.map Node.sense) := by
  induction program generalizing n with
  | nil =>
    rw [List.map_nil, run, run]
    cases frames : n.frames with
    | nil => simp [sense, frames, Except.toOption]
    | cons f outer => simp [sense, frames, Except.toOption]
  | cons i rest ih =>
    have step := n.toOption_step i
    rw [List.map_cons, run, run]
    cases taken : n.step i with
    | ok next =>
      rw [taken] at step
      rw [toOption_eq_some.1 step]
      exact ih next
    | error fault =>
      rw [taken] at step
      cases taken' : n.sense.step i.sense with
      | ok next =>
        rw [taken'] at step
        cases step
      | error fault' => rfl

end Nesting

/-- What the instructions record has no part in how they are nested. -/
theorem nest_sense {program program' : List (Instruction κ)} {body : List (Node κ)}
    (same : program'.map Instruction.sense = program.map Instruction.sense) (h : nest program = .ok body) :
    ∃ body', nest program' = .ok body' ∧ body'.map Node.sense = body.map Node.sense := by
  have run := Nesting.toOption_run {} program
  have run' := Nesting.toOption_run {} program'
  rw [same, run, show Nesting.run {} program = .ok body from h] at run'
  cases nested : nest program' with
  | ok body' =>
    rw [show Nesting.run {} program' = .ok body' from nested] at run'
    exact ⟨body', rfl, (Option.some.inj run').symm⟩
  | error fault =>
    rw [show Nesting.run {} program' = .error fault from nested] at run'
    cases run'

/-! ### Scanning -/

section Scan

variable {language : Tag.Language κ} {o : Options} {source source' : String} {site site' : Site}
  {text text' body body' : String} {s s' r : ScanState κ}

/-- A text is the same statement as another one, if any, wherever the two stand. -/
theorem toOption_statementOf (ends : isEnd text' = isEnd text) (breaks : text' = "break" ↔ text = "break")
    (continues : text' = "continue" ↔ text = "continue") (elses : isElse text' = isElse text)
    (header : isElse text = false → header? language o text' = header? language o text)
    (code : isElse text = false → (language.statements o.enableAsync (endComment text')).toOption =
      (language.statements o.enableAsync (endComment text)).toOption) :
    (statementOf language o source' site' text').toOption = (statementOf language o source site text).toOption := by
  unfold statementOf
  rw [ends, elses]
  simp only [breaks, continues]
  split
  · rfl
  · split
    · rfl
    · split
      · rfl
      · split
        · rfl
        · next other =>
          have other := Bool.eq_false_iff.2 other
          rw [header other]
          split
          · exact toOption_headerStatement _ _
          · rw [map_eq_pure_bind, map_eq_pure_bind, toOption_bind, toOption_bind, toOption_located, toOption_located,
              code other]

/-- The states agree on all that decides how the scan goes on, and their programs on their sense. -/
structure ScanState.Alike (s s' : ScanState κ) : Prop where
  mode : s'.mode = s.mode
  trimming : s'.trimming = s.trimming
  program : s'.program.map Instruction.sense = s.program.map Instruction.sense

theorem ScanState.Alike.emit (alike : s.Alike s') {i i' : Instruction κ} (same : i'.sense = i.sense) :
    (s.emit i).Alike (s'.emit i') where
  mode := alike.mode
  trimming := alike.trimming
  program := by
    show (i' :: s'.program).map _ = (i :: s.program).map _
    rw [List.map_cons, List.map_cons, same, alike.program]

theorem ScanState.Alike.output (alike : s.Alike s') (place : site'.sense = site.sense) (text : String) :
    (s.output site text).Alike (s'.output site' text) := by
  have untrimmed : ({ s with trimming := false } : ScanState κ).Alike { s' with trimming := false } :=
    ⟨alike.mode, rfl, alike.program⟩
  unfold ScanState.output
  dsimp only
  rw [alike.trimming]
  generalize (if s.trimming = true then String.ofList (dropBreak text.toList) else text) = kept
  split
  · exact untrimmed
  · exact untrimmed.emit (congrArg (Instruction.literal · kept) place)

/-- If the first scan succeeds, the second one does too and comes to a like state. -/
def Keeps (x x' : Except CompileFault (ScanState κ)) : Prop :=
  ∀ r, x = .ok r → ∃ r', x' = .ok r' ∧ r.Alike r'

theorem Keeps.pure (alike : s.Alike s') : Keeps (.ok s) (.ok s') := by
  rintro _ ⟨⟩
  exact ⟨s', rfl, alike⟩

theorem keeps_error {fault : CompileFault} {x' : Except CompileFault (ScanState κ)} : Keeps (.error fault) x' := by
  rintro _ ⟨⟩

theorem Keeps.bind {x x' : Except CompileFault (ScanState κ)} {f f' : ScanState κ → Except CompileFault (ScanState κ)}
    (h : Keeps x x') (next : ∀ s s', s.Alike s' → Keeps (f s) (f' s')) : Keeps (x >>= f) (x' >>= f') := by
  intro r done
  cases first : x with
  | error fault =>
    rw [first] at done
    cases done
  | ok s =>
    rw [first] at done
    obtain ⟨s', first', alike⟩ := h s first
    rw [first']
    exact next s s' alike r done

/-- An instruction with the same code is added. -/
theorem keeps_emit {α : Type} {x x' : Except CompileFault α} {i i' : α → Instruction κ} (alike : s.Alike s')
    (same : x'.toOption = x.toOption) (sense : ∀ a, (i' a).sense = (i a).sense) :
    Keeps (do return s.emit (i (← x))) (do return s'.emit (i' (← x'))) := by
  cases read : x with
  | error fault => exact keeps_error
  | ok a =>
    rw [read] at same
    rw [toOption_eq_some.1 same]
    exact .pure (alike.emit (sense a))

theorem keeps_addStatement (alike : s.Alike s') (place : site'.sense = site.sense)
    (some : statementText body' = "" ↔ statementText body = "")
    (same : (statementOf language o source' site' (statementText body')).toOption =
      (statementOf language o source site (statementText body)).toOption) :
    Keeps (addStatement language o source s site body) (addStatement language o source' s' site' body') := by
  unfold addStatement
  dsimp only
  by_cases empty : statementText body = ""
  · rw [if_pos empty, if_pos (some.2 empty)]
    exact .pure alike
  · rw [if_neg empty, if_neg (mt some.1 empty)]
    exact keeps_emit alike same fun st => by rw [Instruction.sense, Instruction.sense, place]

theorem keeps_addExpression (escaped : Bool) (alike : s.Alike s') (place : site'.sense = site.sense)
    (some : trim (stripSemicolon body') = "" ↔ trim (stripSemicolon body) = "")
    (same : (language.expression o.enableAsync (endComment (trim (stripSemicolon body')))).toOption =
      (language.expression o.enableAsync (endComment (trim (stripSemicolon body)))).toOption) :
    Keeps (addExpression language o source s site body escaped)
      (addExpression language o source' s' site' body' escaped) := by
  unfold addExpression
  dsimp only
  by_cases empty : trim (stripSemicolon body) = ""
  · rw [if_pos empty, if_pos (some.2 empty)]
    exact .pure alike
  · rw [if_neg empty, if_neg (mt some.1 empty)]
    refine keeps_emit alike ?_ fun code => by rw [Instruction.sense, Instruction.sense, place]
    rw [toOption_located, toOption_located, same]

theorem alike_place {t t' : Token} (same : t.Alike t') :
    (⟨t'.line, t'.col⟩ : Site).sense = (⟨t.line, t.col⟩ : Site).sense :=
  congrArg (Site.mk · 0) same.line

/-- A token has the same effect wherever on its line it stands. -/
theorem keeps_scanToken {t t' : Token} (same : t.Alike t') (alike : s.Alike s') :
    Keeps (scanToken language o source s t) (scanToken language o source' s' t') := by
  have quoted : ({ s with mode := .literal } : ScanState κ).Alike { s' with mode := .literal } :=
    ⟨rfl, alike.trimming, alike.program⟩
  have literal (text : String) : (Instruction.literal ⟨t'.line, t'.col⟩ text : Instruction κ).sense =
      (Instruction.literal ⟨t.line, t.col⟩ text).sense := congrArg (Instruction.literal · text) (alike_place same)
  unfold scanToken
  dsimp only
  rw [same.kind, same.value, alike.mode]
  split
  · exact .pure ⟨rfl, alike.trimming, alike.program⟩
  · split
    · exact .pure (quoted.emit (literal _))
    · exact .pure (quoted.emit (literal _))
    · split
      · exact .pure (alike.output (alike_place same) _)
      · exact .pure (alike.output (alike_place same) _)
      · exact keeps_addStatement alike (alike_place same) .rfl (toOption_statementOf rfl .rfl .rfl rfl (fun _ => rfl) fun _ => rfl)
      · exact keeps_addExpression true alike (alike_place same) .rfl rfl
      · exact keeps_addExpression false alike (alike_place same) .rfl rfl
      · exact .pure alike
    · split
      · exact keeps_error
      · refine .pure ⟨rfl, rfl, ?_⟩
        dsimp only
        split
        · exact (alike.output (alike_place same) _).program
        · exact alike.program

theorem keeps_foldlM {ts ts' : List Token} (same : List.Forall₂ Token.Alike ts ts') (alike : s.Alike s') :
    Keeps (ts.foldlM (scanToken language o source) s) (ts'.foldlM (scanToken language o source') s') := by
  induction same generalizing s s' with
  | nil => exact .pure alike
  | cons first _ ih =>
    rw [List.foldlM_cons, List.foldlM_cons]
    exact (keeps_scanToken first alike).bind fun s s' alike => ih alike

/-! ### Compiling -/

theorem firstUnclosed?_congr {ts ts' : List Token} (same : ts'.map Token.kind = ts.map Token.kind)
    (closed : firstUnclosed? ts = none) : firstUnclosed? ts' = none := by
  induction ts generalizing ts' with
  | nil => rw [List.map_eq_nil_iff.1 same, firstUnclosed?]
  | cons t ts ih =>
    obtain ⟨t', ts', rfl, kind, rest⟩ := List.map_eq_cons_iff.1 same
    have next : (ts'[1]?.any fun u => u.kind.isClose) = (ts[1]?.any fun u => u.kind.isClose) := by
      have := congrArg (fun kinds => kinds[1]?.any TokenKind.isClose) rest
      simpa [List.getElem?_map, Option.any_map, Function.comp_def] using this
    rw [firstUnclosed?, kind, next]
    rw [firstUnclosed?] at closed
    split at closed
    · cases closed
    · next passes =>
      rw [if_neg passes]
      exact ih rest closed

/-- A template compiles with the same sense as another one, if its tokens are of the same kinds and its scan
leads to a like state. -/
theorem compile_sense {c : Compiled κ} (ok : compile language o source = .ok c)
    (kinds : (tokenize source').map Token.kind = (tokenize source).map Token.kind)
    (keeps : Keeps ((tokenize source).foldlM (scanToken language o source) {})
      ((tokenize source').foldlM (scanToken language o source') {})) :
    ∃ c', compile language o source' = .ok c' ∧ c'.sense = c.sense := by
  obtain ⟨closed, ⟨s, scanned, program⟩, nested⟩ := of_compile ok
  obtain ⟨s', scanned', alike⟩ := keeps s scanned
  have same : s'.program.reverse.map Instruction.sense = c.program.map Instruction.sense := by
    rw [program, List.map_reverse, List.map_reverse, alike.program]
  obtain ⟨body', nested', tree⟩ := nest_sense same nested
  refine ⟨⟨s'.program.reverse, body', o.enableAsync⟩, ?_, ?_⟩
  · unfold compile
    simp only [firstUnclosed?_congr kinds closed, scanned', bind, Except.bind, nested']
    rfl
  · rw [Compiled.sense, Compiled.sense, same, tree, isAsync_of_compile ok]

end Scan

end StreamTemplate.Program
