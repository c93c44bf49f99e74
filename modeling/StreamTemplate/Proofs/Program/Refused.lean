import StreamTemplate.Proofs.Markup.Position
import StreamTemplate.Proofs.Program.Guarded
import StreamTemplate.Proofs.Text.Returns

/-!
# The line of refused code

Code that the language refuses is reported at the line of its tag, moved on by the line at fault in the
text that was handed over. The line at fault stands further down in the template by the blank lines in
front of that text, which are cut off before it is handed over, and less far down by the carriage
returns in it, which end a line for the language only (`compile_refused`).
-/

namespace StreamTemplate

variable {κ : Type}

/-- The fault of a header that a report is made of: that of its condition or its iterable, if that is
refused as code. -/
def Tag.Header.Blames (mayAwait : Bool) (fault : CodeFault) : Header κ → Prop
  | .ifDo test | .whileDo test => test = .error fault ∧ fault.ofValue = false
  | .forIn isAsync target iter => (isAsync → mayAwait) ∧ (∃ code, target = .ok code) ∧
    iter = .error fault ∧ fault.ofValue = false

namespace Program

open Diagnostic Markup Tag Text

/-- What is read as code of the body of a tag. -/
def Mode.code : Mode → String → String
  | .eval, body => statementText body
  | _, body => trim (stripSemicolon body)

/-- The language refuses the code of a tag. -/
inductive Refuses (language : Tag.Language κ) (o : Options) : Mode → String → CodeFault → Prop
  | expression {mode body fault} (output : mode = .escaped ∨ mode = .raw) (some : mode.code body ≠ "")
      (refused : language.expression o.enableAsync (endComment (mode.code body)) = .error fault) :
      Refuses language o mode body fault
  | statements {body fault} (some : statementText body ≠ "")
      (plain : ¬ (isEnd (statementText body) ∨ statementText body = "break" ∨
        statementText body = "continue" ∨ isElse (statementText body)))
      (free : header? language o (statementText body) = none)
      (refused : language.statements o.enableAsync (endComment (statementText body)) = .error fault) :
      Refuses language o .eval body fault
  | header {body isElif header fault} (found : headerIn? language o body = some (isElif, header))
      (blames : header.Blames o.enableAsync fault) : Refuses language o .eval body fault

/-- Compiling a template comes to a tag: no tag is left open, and everything in front of the tag's body
is in order. -/
def ReachesTag (language : Tag.Language κ) (o : Options) (source : String) (mode : Mode) (t : Token) :
    Prop :=
  firstUnclosed? (tokenize source) = none ∧ ∃ before after s, tokenize source = before ++ t :: after ∧
    before.foldlM (scanToken language o source) {} = .ok s ∧ s.mode = mode ∧ t.kind = .text

/-- The line of the template on which a line of the code of a tag stands, the latter counted from zero
as the language counts lines. -/
def sourceLine (mode : Mode) (t : Token) (n : Nat) : Nat :=
  t.line + feedsAhead t.value.toList + (beforeLine n (mode.code t.value).toList).count '\n'

/-! ### The code of a tag in its body -/

/-- Trimmed, a text without its last semicolon is what is in front of that semicolon, trimmed. -/
theorem trim_stripSemicolon (s : String) :
    ∃ front back, s.toList = front ++ back ∧ trim (stripSemicolon s) = trim (String.ofList front) := by
  have split : s.toList = (s.toList.reverse.dropWhile isBlank).reverse ++
      (s.toList.reverse.takeWhile isBlank).reverse := by
    rw [← List.reverse_append, List.takeWhile_append_dropWhile, List.reverse_reverse]
  have drop : s.toList.reverse.drop (s.toList.reverse.takeWhile isBlank).length =
      s.toList.reverse.dropWhile isBlank := by
    have := List.takeWhile_append_dropWhile (p := isBlank) (l := s.toList.reverse)
    exact (congrArg (List.drop _) this.symm).trans List.drop_left
  unfold stripSemicolon
  dsimp only
  rw [drop]
  split
  case h_1 rest found =>
    rw [found] at split
    refine ⟨rest.reverse, ';' :: (s.toList.reverse.takeWhile isBlank).reverse, by simpa using split, ?_⟩
    rw [trim, trim, String.toList_ofList, String.toList_ofList, trim_append]
    exact fun c hc => List.mem_takeWhile_imp (List.mem_reverse.1 hc)
  case h_2 => exact ⟨s.toList, [], by simp, by rw [String.ofList_toList]⟩

/-- The lines of the code of a tag are as far down in its body as there are line feeds in front of it. -/
theorem within_code {mode : Mode} {body : String} (some : mode.code body ≠ "") :
    Within (feedsAhead body.toList) (mode.code body).toList body.toList := by
  have output (some : trim (stripSemicolon body) ≠ "") :
      Within (feedsAhead body.toList) (trim (stripSemicolon body)).toList body.toList := by
    obtain ⟨front, back, split, same⟩ := trim_stripSemicolon body
    rw [same] at some ⊢
    have solid := exists_solid_of_trim some
    have inner := (within_trim (String.ofList front)).trans (within_append_left _ back)
    rw [String.toList_ofList] at inner solid
    rwa [← split, Nat.zero_add, ← feedsAhead_append solid back, ← split] at inner
  cases mode with
  | eval =>
    have solid := exists_solid_of_trim (s := dedent body) some
    have inner := (within_trim (dedent body)).trans (within_dedent body)
    rwa [Nat.zero_add, feedsAhead_dedent (exists_solid_dedent_iff.1 solid)] at inner
  | _ => exact output some

/-! ### Reports -/

section

variable {language : Tag.Language κ} {o : Options} {source : String} {site : Site} {fault : CodeFault}

theorem locatedPart_eq_report {α : Type} (code : fault.ofValue = false) :
    locatedPart (α := α) o source site (.error fault) =
      .error (report o source site (.code fault o.enableAsync)) := by
  rw [locatedPart, if_neg (by simp [code])]

theorem headerStatement_of_blames {isElif : Bool} {header : Header κ}
    (blames : header.Blames o.enableAsync fault) :
    headerStatement o source site isElif header =
      .error (report o source site (.code fault o.enableAsync)) := by
  cases header with
  | ifDo test =>
    obtain ⟨rfl, code⟩ := blames
    rw [headerStatement, locatedPart_eq_report code]
    rfl
  | whileDo test =>
    obtain ⟨rfl, code⟩ := blames
    rw [headerStatement, locatedPart_eq_report code]
    rfl
  | forIn isAsync target iter =>
    obtain ⟨may, ⟨target, rfl⟩, rfl, code⟩ := blames
    have pass : (isAsync && !o.enableAsync) = false := by simpa using may
    rw [headerStatement, pass, locatedPart_eq_report code]
    rfl

theorem addStatement_eq_report {s : ScanState κ} {body : String} (refuses : Refuses language o .eval body fault) :
    addStatement language o source s site body =
      .error (report o source site (.code fault o.enableAsync)) := by
  have refused (some : statementText body ≠ "") (h : statementOf language o source site (statementText body) =
      .error (report o source site (.code fault o.enableAsync))) : addStatement language o source s site body =
      .error (report o source site (.code fault o.enableAsync)) := by
    unfold addStatement
    dsimp only
    rw [if_neg some, h]
    rfl
  cases refuses with
  | expression output => simp at output
  | statements some plain free refuses =>
    obtain ⟨ends, breaks, continues, elses⟩ := by simpa only [not_or] using plain
    refine refused some ?_
    rw [statementOf, if_neg ends, if_neg breaks, if_neg continues, if_neg elses, free, refuses]
    rfl
  | header found blames =>
    unfold headerIn? at found
    dsimp only at found
    split at found
    case isTrue => cases found
    case isFalse plain =>
      obtain ⟨some, ends, breaks, continues, elses⟩ := by simpa only [not_or] using plain
      refine refused some ?_
      rw [statementOf, if_neg ends, if_neg breaks, if_neg continues, if_neg elses, found]
      exact headerStatement_of_blames blames

theorem addExpression_eq_report {s : ScanState κ} {mode : Mode} {body : String} {escaped : Bool}
    (output : mode = .escaped ∨ mode = .raw) (refuses : Refuses language o mode body fault) :
    addExpression language o source s site body escaped =
      .error (report o source site (.code fault o.enableAsync)) := by
  cases refuses with
  | expression _ some refuses =>
    have code : mode.code body = trim (stripSemicolon body) := by
      rcases output with rfl | rfl <;> rfl
    rw [code] at some refuses
    unfold addExpression
    dsimp only
    rw [if_neg some, refuses]
    rfl
  | statements | header => simp at output

/-- Refused code is reported at its tag. -/
theorem scanToken_of_refuses {s : ScanState κ} {t : Token} (text : t.kind = .text)
    (refuses : Refuses language o s.mode t.value fault) :
    scanToken language o source s t =
      .error (report o source ⟨t.line, t.col⟩ (.code fault o.enableAsync)) := by
  unfold scanToken
  dsimp only
  rw [text, if_neg (by decide)]
  dsimp only
  cases mode : s.mode with
  | outside | literal | comment =>
    rw [mode] at refuses
    cases refuses with
    | expression output => simp at output
  | eval => exact addStatement_eq_report (mode ▸ refuses)
  | escaped => exact addExpression_eq_report (.inl rfl) (mode ▸ refuses)
  | raw => exact addExpression_eq_report (.inr rfl) (mode ▸ refuses)

theorem compile_of_refuses {mode : Mode} {t : Token} (reached : ReachesTag language o source mode t)
    (refuses : Refuses language o mode t.value fault) :
    compile language o source = .error (report o source ⟨t.line, t.col⟩ (.code fault o.enableAsync)) := by
  obtain ⟨closed, before, after, s, split, through, rfl, text⟩ := reached
  unfold compile
  dsimp only
  rw [closed]
  dsimp only
  rw [bind_eq_error_iff, foldlM_eq_error_iff]
  exact .inl ⟨before, t, after, s, split, through, scanToken_of_refuses text refuses⟩

end

/-- If compiling comes to a tag whose code the language refuses, a report is made. The line of the code
that is at fault stands, in one piece, on the line `sourceLine` of the template; the line that is
reported falls short of that by the line feeds in front of the code, and exceeds it by the carriage
returns that end lines of the code on their own. -/
theorem compile_refused (language : Tag.Language κ) (o : Options) (source : String) {mode : Mode}
    {t : Token} {fault : CodeFault} (reached : ReachesTag language o source mode t)
    (refuses : Refuses language o mode t.value fault) :
    ∃ r line, compile language o source = .error (.template r) ∧ r.line = some line ∧
      ∀ n written, n = fault.line.getD 1 - 1 →
        (splitFeeds (unifyBreaks (mode.code t.value).toList))[n]? = some written →
        (∃ whole, (splitFeeds source.toList)[sourceLine mode t n - 1]? = some whole ∧
          written <:+: whole) ∧
        line + feedsAhead t.value.toList =
          sourceLine mode t n + loneReturns (beforeLine n (mode.code t.value).toList) := by
  refine ⟨_, _, compile_of_refuses reached refuses, rfl, ?_⟩
  rintro n written rfl there
  obtain ⟨-, before, after, s, split, -⟩ := reached
  have some : mode.code t.value ≠ "" := by
    cases refuses with
    | expression _ some | statements some => exact some
    | header found =>
      rintro empty
      simp [headerIn?, show statementText t.value = "" from empty] at found
  constructor
  · obtain ⟨whole, hw, part⟩ := exists_infix_unifiedLine there
    obtain ⟨start, ⟨rest, place⟩, line, -⟩ := ((tokenize_positions source).1 before t after split).2
    have inner := ((within_code some).trans (within_append_left _ rest)).trans
      (within_append_right start _)
    rw [← List.append_assoc, place] at inner
    obtain ⟨outer, ho, part'⟩ := inner _ whole hw
    refine ⟨outer, ?_, part.trans part'⟩
    rw [sourceLine, line, lineAfter, ← ho]
    congr 1
    omega
  · have breaks := count_beforeLine (List.getElem?_eq_some_iff.1 there).1
    rw [count_unifyBreaks] at breaks
    simp only [sourceLine, Cause.lineOffset]
    omega

/-- The line at fault in code that is refused. -/
def lineAtFault? {α : Type} : Except CodeFault α → Option Nat
  | .ok _ => none
  | .error fault => fault.line

/-- The code begins on the line below its delimiter, so the report is made for the line above the one
at fault. -/
theorem report_above_code : ∃ r line, compile Tag.language {} "<%\nx = 1\ny = = 2\n%>" = .error (.template r) ∧
    r.line = some line ∧ line + 1 = sourceLine .eval ⟨.text, "\nx = 1\ny = = 2\n", 1, 2⟩ 1 ∧
    sourceLine .eval ⟨.text, "\nx = 1\ny = = 2\n", 1, 2⟩ 1 = 3 := by
  have reached : ReachesTag Tag.language {} "<%\nx = 1\ny = = 2\n%>" .eval
      ⟨.text, "\nx = 1\ny = = 2\n", 1, 2⟩ :=
    ⟨by decide +kernel, [⟨.openEval, "<%", 1, 0⟩], [⟨.close, "%>", 4, 0⟩],
      { mode := .eval, opener := some "<%" }, by decide +kernel, by cbv, rfl, rfl⟩
  have code : endComment (statementText "\nx = 1\ny = = 2\n") = "x = 1\ny = = 2" := by decide +kernel
  have fails : lineAtFault? (Tag.language.statements false "x = 1\ny = = 2") = some 2 := by
    decide +kernel
  cases refused : Tag.language.statements false "x = 1\ny = = 2" with
  | ok code =>
    rw [refused] at fails
    cases fails
  | error fault =>
    rw [refused] at fails
    have second : fault.line = some 2 := fails
    have free : header? Tag.language {} (statementText "\nx = 1\ny = = 2\n") = none :=
      Option.isNone_iff_eq_none.1 (by decide +kernel)
    have refuses : Refuses Tag.language {} .eval "\nx = 1\ny = = 2\n" fault :=
      .statements (by decide +kernel) (by decide +kernel) free (by rw [code]; exact refused)
    obtain ⟨r, line, result, at_line, rest⟩ := compile_refused Tag.language {} _ reached refuses
    obtain ⟨-, shift⟩ := rest 1 "y = = 2".toList (by rw [second]; rfl) (by decide +kernel)
    exact ⟨r, line, result, at_line, shift, by decide +kernel⟩

end Program

end StreamTemplate
