import StreamTemplate.Program.Compile

/-!
# Code that is refused

A template that does not compile is at fault itself, and a report says so: the code in it is read under
guards. Two things get past them, both in block headers. The target of a loop is read without a guard,
and conditions and iterables are guarded against code with a mistake only, not against what is no code
at all.
-/

namespace StreamTemplate

variable {κ : Type}

/-- The fault of a header that gets past the guards: that of the target of a loop, or that of another
part if it is refused as a value. -/
def Tag.Header.LetsThrough (mayAwait : Bool) (fault : CodeFault) : Header κ → Prop
  | .ifDo test | .whileDo test => test = .error fault ∧ fault.ofValue
  | .forIn isAsync target iter => (isAsync → mayAwait) ∧
    (target = .error fault ∨ (∃ code, target = .ok code) ∧ iter = .error fault ∧ fault.ofValue)

namespace Program

open Markup Tag

/-- The header in a statement tag, if there is one, and whether it is that of an `elif`. -/
def headerIn? (language : Tag.Language κ) (o : Options) (body : String) : Option (Bool × Header κ) :=
  let text := statementText body
  if text = "" ∨ isEnd text ∨ text = "break" ∨ text = "continue" ∨ isElse text then none
  else header? language o text

/-- Compiling a template comes to a header: no tag is left open, and everything in front of the tag of the
header is in order. -/
def ReachesHeader (language : Tag.Language κ) (o : Options) (source : String) (header : Header κ) :
    Prop :=
  firstUnclosed? (tokenize source) = none ∧ ∃ before t after s isElif,
    tokenize source = before ++ t :: after ∧
    before.foldlM (scanToken language o source) {} = .ok s ∧ s.mode = .eval ∧ t.kind = .text ∧
    headerIn? language o t.value = some (isElif, header)

/-! ## Failures in sequences -/

section Sequence

variable {ε α β : Type} {e : ε}

theorem bind_eq_error_iff {x : Except ε α} {f : α → Except ε β} :
    (x >>= f) = .error e ↔ x = .error e ∨ ∃ a, x = .ok a ∧ f a = .error e := by
  cases x <;> simp [bind, Except.bind]

theorem map_eq_error_iff {x : Except ε α} {f : α → β} : (f <$> x) = .error e ↔ x = .error e := by
  cases x <;> simp [Functor.map, Except.map]

/-- A fold fails at an element if it gets through those in front of it. -/
theorem foldlM_eq_error_iff {f : β → α → Except ε β} {as : List α} {b : β} :
    as.foldlM f b = .error e ↔
      ∃ before a after c, as = before ++ a :: after ∧ before.foldlM f b = .ok c ∧ f c a = .error e := by
  induction as generalizing b with
  | nil => simp [pure, Except.pure]
  | cons first rest ih =>
    rw [List.foldlM_cons, bind_eq_error_iff]
    constructor
    · rintro (failed | ⟨c, passed, failed⟩)
      · exact ⟨[], first, rest, b, rfl, rfl, failed⟩
      · obtain ⟨before, a, after, d, rfl, through, failed⟩ := ih.mp failed
        refine ⟨first :: before, a, after, d, rfl, ?_, failed⟩
        rw [List.foldlM_cons, passed]
        exact through
    · rintro ⟨_ | ⟨_, before⟩, a, after, c, same, through, failed⟩
      · cases same
        cases through
        exact .inl failed
      · cases same
        rw [List.foldlM_cons] at through
        cases passed : f b first with
        | error => simp [passed, bind, Except.bind] at through
        | ok d =>
          rw [passed] at through
          exact .inr ⟨d, rfl, ih.mpr ⟨before, a, after, c, rfl, through, failed⟩⟩

end Sequence

section

variable {language : Tag.Language κ} {o : Options} {source : String} {site : Site} {fault : CodeFault}
  {file : String}

/-! ## One tag -/

theorem located_ne_header {α : Type} (x : Except CodeFault α) :
    located o source site x ≠ .error (.header fault file) := by
  cases x <;> rintro ⟨⟩

theorem locatedPart_eq_header_iff {α : Type} {x : Except CodeFault α} :
    locatedPart o source site x = .error (.header fault file) ↔
      (x = .error fault ∧ fault.ofValue) ∧ file = baseName o.title := by
  cases x with
  | ok a => simp [locatedPart]
  | error f =>
    by_cases value : f.ofValue
    · rw [locatedPart, if_pos value]
      constructor
      · rintro ⟨⟩
        exact ⟨⟨rfl, value⟩, rfl⟩
      · rintro ⟨⟨⟨⟩, -⟩, rfl⟩
        rfl
    · rw [locatedPart, if_neg value]
      constructor
      · rintro ⟨⟩
      · rintro ⟨⟨⟨⟩, of⟩, -⟩
        exact absurd of value

theorem headerStatement_eq_header_iff {isElif : Bool} {header : Header κ} :
    headerStatement o source site isElif header = .error (.header fault file) ↔
      header.LetsThrough o.enableAsync fault ∧ file = baseName o.title := by
  cases header with
  | ifDo test =>
    change (locatedPart o source site test >>= _) = _ ↔ _
    rw [bind_eq_error_iff, locatedPart_eq_header_iff]
    exact or_iff_left fun ⟨_, _, not⟩ => nomatch not
  | whileDo test =>
    change (locatedPart o source site test >>= _) = _ ↔ _
    rw [bind_eq_error_iff, locatedPart_eq_header_iff]
    exact or_iff_left fun ⟨_, _, not⟩ => nomatch not
  | forIn isAsync target iter =>
    by_cases allowed : isAsync → o.enableAsync
    · have pass : (isAsync && !o.enableAsync) = false := by simpa using allowed
      simp only [headerStatement, pass]
      cases target with
      | error f =>
        show Except.error (CompileFault.header f (baseName o.title)) = _ ↔ _
        constructor
        · rintro ⟨⟩
          exact ⟨⟨allowed, .inl rfl⟩, rfl⟩
        · rintro ⟨⟨-, ⟨⟨⟩⟩ | ⟨⟨_, ⟨⟩⟩, -⟩⟩, rfl⟩
          rfl
      | ok code =>
        change (locatedPart o source site iter >>= _) = _ ↔ _
        rw [bind_eq_error_iff, locatedPart_eq_header_iff]
        refine (or_iff_left fun ⟨_, _, not⟩ => nomatch not).trans (and_congr_left' ?_)
        exact ⟨fun failed => ⟨allowed, .inr ⟨⟨code, rfl⟩, failed⟩⟩,
          fun ⟨_, failed⟩ => failed.elim nofun (·.2)⟩
    · have stop : (isAsync && !o.enableAsync) = true := by simpa using allowed
      simp only [headerStatement, stop]
      constructor
      · rintro ⟨⟩
      · rintro ⟨⟨may, -⟩, -⟩
        exact absurd may allowed

theorem statementOf_eq_header_iff {body : String} (some : statementText body ≠ "") :
    statementOf language o source site (statementText body) = .error (.header fault file) ↔
      ∃ isElif header, headerIn? language o body = .some (isElif, header) ∧
        header.LetsThrough o.enableAsync fault ∧ file = baseName o.title := by
  unfold statementOf headerIn?
  simp only [some, false_or]
  split
  next h => simp [h]
  split
  next h => simp [h]
  split
  next h => simp [h]
  split
  next h => simp [h]
  next isEnd isBreak isContinue isElse =>
  rw [if_neg (by simp [*])]
  cases header? language o (statementText body) with
  | none => simp [map_eq_error_iff, located_ne_header]
  | some found =>
    obtain ⟨isElif, header⟩ := found
    rw [headerStatement_eq_header_iff]
    constructor
    · exact fun through => ⟨isElif, header, rfl, through⟩
    · rintro ⟨_, _, ⟨⟩, through⟩
      exact through

theorem addStatement_eq_header_iff {s : ScanState κ} {body : String} :
    addStatement language o source s site body = .error (.header fault file) ↔
      ∃ isElif header, headerIn? language o body = some (isElif, header) ∧
        header.LetsThrough o.enableAsync fault ∧ file = baseName o.title := by
  unfold addStatement
  dsimp only
  by_cases empty : statementText body = ""
  · simp [empty, headerIn?, pure, Except.pure]
  · rw [if_neg empty, bind_eq_error_iff]
    exact (or_iff_left fun ⟨_, _, not⟩ => nomatch not).trans (statementOf_eq_header_iff empty)

theorem addExpression_ne_header {s : ScanState κ} {body : String} {escaped : Bool} :
    addExpression language o source s site body escaped ≠ .error (.header fault file) := by
  unfold addExpression
  dsimp only
  split
  · rintro ⟨⟩
  · rw [ne_eq, bind_eq_error_iff]
    rintro (failed | ⟨_, _, ⟨⟩⟩)
    exact located_ne_header _ failed

/-- Only the text of a statement tag can be a header. -/
theorem scanToken_eq_header_iff {s : ScanState κ} {t : Token} :
    scanToken language o source s t = .error (.header fault file) ↔
      s.mode = .eval ∧ t.kind = .text ∧ ∃ isElif header,
        headerIn? language o t.value = some (isElif, header) ∧
        header.LetsThrough o.enableAsync fault ∧ file = baseName o.title := by
  have other (kind : t.kind ≠ .text) : ¬ (s.mode = .eval ∧ t.kind = .text ∧ ∃ isElif header,
      headerIn? language o t.value = some (isElif, header) ∧
      header.LetsThrough o.enableAsync fault ∧ file = baseName o.title) := fun h => kind h.2.1
  unfold scanToken
  dsimp only
  split
  next opens => exact iff_of_false nofun (other fun text => by simp [text, TokenKind.isOpen] at opens)
  split
  next kind => exact iff_of_false nofun (other (by simp [kind]))
  next kind => exact iff_of_false nofun (other (by simp [kind]))
  next kind =>
    simp only [kind, true_and]
    split
    next mode => exact iff_of_false nofun (by simp [mode])
    next mode => exact iff_of_false nofun (by simp [mode])
    next mode => rw [addStatement_eq_header_iff, and_iff_right mode]
    next mode => exact iff_of_false addExpression_ne_header (by simp [mode])
    next mode => exact iff_of_false addExpression_ne_header (by simp [mode])
    next mode => exact iff_of_false nofun (by simp [mode])
  next kind literal closed text =>
    refine iff_of_false ?_ (other text)
    split <;> rintro ⟨⟩

/-! ## The whole template -/

theorem compile_eq_header_iff :
    compile language o source = .error (.header fault file) ↔
      file = baseName o.title ∧ ∃ header, ReachesHeader language o source header ∧
        header.LetsThrough o.enableAsync fault := by
  unfold compile
  dsimp only
  split
  next t opened =>
    refine iff_of_false nofun fun ⟨_, _, ⟨closed, _⟩, _⟩ => ?_
    rw [opened] at closed
    cases closed
  next closed =>
    rw [bind_eq_error_iff, foldlM_eq_error_iff]
    refine (or_iff_left ?_).trans ?_
    · rintro ⟨s, -, failed⟩
      split at failed <;> cases failed
    simp only [scanToken_eq_header_iff]
    constructor
    · rintro ⟨before, t, after, s, split, through, mode, kind, isElif, header, found, slips, same⟩
      exact ⟨same, header, ⟨closed, before, t, after, s, isElif, split, through, mode, kind, found⟩, slips⟩
    · rintro ⟨same, header, ⟨-, before, t, after, s, isElif, split, through, mode, kind, found⟩, slips⟩
      exact ⟨before, t, after, s, split, through, mode, kind, isElif, header, found, slips, same⟩

end

/-- A template compiles, or a report says why it does not, unless compiling comes to a header with a fault
that gets past the guards. In that case, and in no other, the fault itself is what comes of it. -/
theorem compile_guarded (language : Tag.Language κ) (o : Options) (source : String) :
    (∀ fault file, compile language o source = .error (.header fault file) ↔
      file = baseName o.title ∧ ∃ header, ReachesHeader language o source header ∧
        header.LetsThrough o.enableAsync fault) ∧
    ((∀ header fault, ReachesHeader language o source header →
        ¬ header.LetsThrough o.enableAsync fault) →
      (∃ compiled, compile language o source = .ok compiled) ∨
        ∃ report, compile language o source = .error (.template report)) := by
  refine ⟨fun fault file => compile_eq_header_iff, fun guarded => ?_⟩
  cases result : compile language o source with
  | ok compiled => exact .inl ⟨compiled, rfl⟩
  | error failure =>
    cases failure with
    | template report => exact .inr ⟨report, rfl⟩
    | header fault file =>
      obtain ⟨-, header, reached, slips⟩ := compile_eq_header_iff.mp result
      exact absurd slips (guarded header fault reached)

/-- The fault that gets past the guards, if one does. -/
def unguarded? {α : Type} : Except CompileFault α → Option CodeFault
  | .error (.header fault _) => some fault
  | _ => none

theorem unguarded?_eq_some {α : Type} {result : Except CompileFault α} {fault : CodeFault} :
    unguarded? result = some fault ↔ ∃ file, result = .error (.header fault file) := by
  cases result with
  | ok => simp [unguarded?]
  | error failure => cases failure <;> simp [unguarded?]

/-- The target of a loop may not wait in a template whose code may not, and no report says so. -/
theorem exists_compile_unguarded : ∃ header fault,
    ReachesHeader language {} "<% for (await x).y in z: %><% end %>" header ∧
      header.LetsThrough false fault ∧ fault.message = "'await' outside function" := by
  have refused : (unguarded? (compile language {} "<% for (await x).y in z: %><% end %>")).map
      (·.message) = some "'await' outside function" := by
    decide +kernel
  obtain ⟨fault, found, message⟩ := Option.map_eq_some_iff.mp refused
  obtain ⟨file, result⟩ := unguarded?_eq_some.mp found
  obtain ⟨-, header, reached, slips⟩ := ((compile_guarded language {} _).1 fault file).mp result
  exact ⟨header, fault, reached, slips, message⟩

end Program

end StreamTemplate
