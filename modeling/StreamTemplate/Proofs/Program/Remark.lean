import StreamTemplate.Proofs.Program.Sense

/-!
# Comments in tags

A comment added at the end of the last line of code in a tag is no part of what the tag means: the template
compiles to the same program and the same block tree, apart from the texts and columns that are recorded
(`compile_remark`). This does not hold of every tag (`TakesRemark`): a word that is compared as a whole with
the text of the tag is not found in it any more when a comment follows, a semicolon is cut off at the end of
the text only, and an `else` may have one line with a comment, not two.
-/

namespace StreamTemplate.Program

open Markup Tag Text

/-- A comment can be added at the end of the last line of code in a tag. -/
structure TakesRemark (mode : Mode) (front pad back : List Char) : Prop where
  /-- No text, no bracket and no line is left open at the end of the line, except in an `else`, which is not
  read as code. -/
  whole : (mode = .eval → isElse (mode.code (String.ofList (front ++ (pad ++ back)))) = false) →
    endsInStop (lex (String.ofList (mode.codeAhead front back))).words = true
  /-- No semicolon ends an output tag. -/
  semicolon : mode ≠ .eval → front.getLast? ≠ some ';'
  /-- The tag does not consist of one of the words that are compared as a whole. -/
  word : mode = .eval → ¬ (isEnd (mode.code (String.ofList (front ++ (pad ++ back)))) ∨
    mode.code (String.ofList (front ++ (pad ++ back))) = "break" ∨
    mode.code (String.ofList (front ++ (pad ++ back))) = "continue")
  /-- Behind the line of an `else` there is no comment yet, at least none behind a line feed. -/
  clause : mode = .eval → isElse (mode.code (String.ofList (front ++ (pad ++ back)))) = true →
    '\n' ∉ back ∨ firstSolid? back = none

variable {front pad back cs rest : List Char} {mode : Mode} {κ : Type}

/-! ### The tokens -/

/-- The characters of a delimiter: at least one percent sign, and no white space. -/
theorem percent_mem_delimiter {k : TokenKind} (delimiter : k ≠ .text) :
    '%' ∈ k.delimiter.toList ∧ k.delimiter.toList.any isSpace = false := by
  cases k <;> first | exact absurd rfl delimiter | decide

/-- No delimiter begins in front of white space, if none is in what is there. -/
theorem delimiterAt_space {d : Char} (space : isSpace d = true)
    (none : ∀ k : TokenKind, k ≠ .text → ¬ k.delimiter.toList <+: front) :
    delimiterAt (front ++ d :: rest) = .none := by
  cases found : delimiterAt (front ++ d :: rest) with
  | none => rfl
  | some k =>
    obtain ⟨delimiter, start⟩ := delimiterAt_eq_some found
    refine absurd (List.prefix_of_prefix_length_le start (List.prefix_append _ _) ?_) (none k delimiter)
    by_contra long
    have upTo : front ++ [d] <+: k.delimiter.toList :=
      List.prefix_of_prefix_length_le ⟨rest, by simp⟩ start (by
        rw [List.length_append]
        exact Nat.lt_of_not_le long)
    exact List.any_eq_false.1 (percent_mem_delimiter delimiter).2 d (upTo.subset (by simp)) space

/-- A comment without percent sign brings no delimiter into the text of a tag. -/
theorem quiet_remark (space : ∀ d ∈ pad, isSpace d = true) (plain : '%' ∉ cs)
    (quiet : Quiet (front ++ (pad ++ back)) rest) : Quiet (front ++ (pad ++ remark cs ++ back)) rest := by
  intro l r whole ne
  obtain ⟨ahead, rfl, behind⟩ | ⟨last, rfl, rfl⟩ := List.append_eq_append_iff.1 whole
  · obtain ⟨ahead, rfl, rfl⟩ | ⟨last, inner, rfl⟩ := List.append_eq_append_iff.1 behind
    · exact quiet (front ++ (pad ++ ahead)) r (by simp) ne
    · rcases List.eq_nil_or_concat' last with rfl | ⟨more, d, rfl⟩
      · exact quiet (front ++ pad) back (by simp) ne
      · -- The place is in the comment.
        have comment : pad ++ remark cs = pad ++ ' ' :: '#' :: ' ' :: cs ++ [' '] := by simp [remark]
        rw [comment, ← List.append_assoc] at inner
        obtain ⟨start_eq, same⟩ := List.append_inj' inner rfl
        obtain rfl := List.singleton_injective same
        have percent : '%' ∉ pad ++ ' ' :: '#' :: ' ' :: cs := by
          simp [not_mem_of_isSpace space (c := '%') (by decide), plain]
        rw [List.append_assoc, List.append_assoc]
        refine delimiterAt_space rfl fun k delimiter start => percent ?_
        rw [start_eq]
        exact List.mem_append_right _ (start.subset (percent_mem_delimiter delimiter).1)
  · obtain ⟨d, more, spaced, first⟩ : ∃ d more, isSpace d = true ∧ pad ++ remark cs ++ back = d :: more := by
      cases pad with
      | nil => exact ⟨' ', _, rfl, rfl⟩
      | cons d pad => exact ⟨d, _, space d (.head pad), rfl⟩
    rw [first, List.append_assoc]
    refine delimiterAt_space spaced fun k delimiter start => ?_
    have none := quiet l (last ++ (pad ++ back)) (by simp) ?_
    · rw [List.append_assoc] at none
      exact not_prefix_of_delimiterAt_eq_none none delimiter (start.trans (List.prefix_append _ _))
    · rintro empty
      rw [(List.append_eq_nil_iff.1 empty).1, List.prefix_nil] at start
      exact absurd (percent_mem_delimiter delimiter).1 (by simp [start])

/-! ### The tag -/

section Tag

/-- What follows the line of an `else` has no line feed. -/
theorem TakesRemark.line_of_isElse (takes : TakesRemark .eval front pad back) (line : LastLine front pad back)
    (elses : isElse (statementText (String.ofList (front ++ (pad ++ back)))) = true) :
    '\n' ∉ (statementText (String.ofList (front ++ (pad ++ back)))).toList.drop
      (Mode.eval.codeAhead front back).length := by
  obtain ⟨⟨d, last, solid⟩, space, -, -⟩ := line
  have pad_line : '\n' ∉ pad := not_mem_of_isSpace space (by decide)
  have code : (Mode.eval.code (String.ofList (front ++ (pad ++ back)))).toList =
      Mode.eval.codeAhead front back ++ Mode.eval.cut (pad ++ Mode.eval.codeBehind front back) :=
    Mode.toList_code last solid nofun pad_line
  rw [show statementText _ = Mode.eval.code _ from rfl, code, List.drop_left]
  rcases takes.clause rfl elses with none | blank
  · intro mem
    have mem := (Mode.prefix_cut .eval _).subset mem
    rw [show Mode.eval.codeBehind front back = back from dedentBehind_of_not_mem none] at mem
    exact (List.mem_append.1 mem).elim pad_line none
  · rw [Mode.cut_blank]
    · exact List.not_mem_nil
    · intro c mem
      rcases List.mem_append.1 mem with mem | mem
      · exact isBlank_of_isSpace (space c mem)
      · exact firstSolid?_eq_none ((firstSolid?_codeBehind .eval front back).trans blank) c mem

variable {o : Options} {source source' : String} {site site' : Site} {s s' : ScanState Code}

/-- The text of a tag is not empty in front of a comment, nor with one. -/
theorem ne_nil_of_commented {code a b : List Char} (h : Commented code a b) (ne : code ≠ []) : a ≠ [] ∧ b ≠ [] := by
  cases h
  simp [ne]

/-- The statement of a tag stays the same, if there is one. -/
theorem toOption_statementOf_commented {code a b : List Char} (h : Commented code a b)
    (ends : isElse (String.ofList a) = false → ∃ r, EndsIn code r) (solid : ∀ d, code.getLast? = some d → isBlank d = false)
    (word : ¬ (isEnd (String.ofList a) ∨ String.ofList a = "break" ∨ String.ofList a = "continue"))
    (clause : isElse (String.ofList a) = true → '\n' ∉ a.drop code.length) :
    (statementOf language o source' site' (String.ofList b)).toOption =
      (statementOf language o source site (String.ofList a)).toOption := by
  have sign : '#' ∈ b := by
    obtain ⟨v, v', -, rfl, -, -, -, -, sign⟩ := exists_trails h
    exact List.mem_append_right _ sign
  have other {text : String} (plain : '#' ∉ text.toList) : String.ofList b ≠ text := by
    rintro rfl
    exact plain (by rwa [String.toList_ofList])
  obtain ⟨is_end, is_break, is_continue⟩ := by simpa only [not_or] using word
  refine toOption_statementOf ?_ ?_ ?_ (isElse_commented h solid clause) (fun other => ?_) fun other => ?_
  · rw [Bool.eq_false_iff.2 is_end, isEnd]
    simp [other]
  · exact iff_of_false (other (by decide)) is_break
  · exact iff_of_false (other (by decide)) is_continue
  · obtain ⟨r, ends⟩ := ends other
    exact header?_commented h ends solid
  · obtain ⟨r, ends⟩ := ends other
    exact (h.statements ends solid _).symm

theorem scanToken_text {κ : Type} {language : Tag.Language κ} {s : ScanState κ} {t : Token} (text : t.kind = .text) :
    scanToken language o source s t = match s.mode with
      | .outside | .literal => .ok (s.output ⟨t.line, t.col⟩ t.value)
      | .eval => addStatement language o source s ⟨t.line, t.col⟩ t.value
      | .escaped => addExpression language o source s ⟨t.line, t.col⟩ t.value true
      | .raw => addExpression language o source s ⟨t.line, t.col⟩ t.value false
      | .comment => .ok s := by
  unfold scanToken
  dsimp only
  rw [text]
  rfl

theorem scanToken_open {κ : Type} {language : Tag.Language κ} {s : ScanState κ} {t : Token} (opens : t.kind.isOpen = true) :
    scanToken language o source s t = .ok { s with mode := .ofOpen t.kind, opener := some t.value } := by
  unfold scanToken
  dsimp only
  rw [if_pos opens]

/-- The text of a tag has the same effect with a comment. -/
theorem keeps_remark {t t' : Token} (inside : s.mode.inTag = true) (text : t.kind = .text) (text' : t'.kind = .text) (lines : t'.line = t.line)
    (body : t.value.toList = front ++ (pad ++ back)) (body' : t'.value.toList = front ++ (pad ++ remark cs ++ back))
    (line : LastLine front pad back) (takes : TakesRemark s.mode front pad back)
    (plain : ∀ d ∈ cs, d ≠ '\n' ∧ d ≠ '\r' ∧ d ≠ '\x00') (alike : s.Alike s') :
    Keeps (scanToken language o source s t) (scanToken language o source' s' t') := by
  have place : (⟨t'.line, t'.col⟩ : Site).sense = (⟨t.line, t.col⟩ : Site).sense := congrArg (Site.mk · 0) lines
  have value : t.value = String.ofList (front ++ (pad ++ back)) := by rw [← body, String.ofList_toList]
  have value' : t'.value = String.ofList (front ++ (pad ++ remark cs ++ back)) := by
    rw [← body', String.ofList_toList]
  have commented := line.commented_code takes.semicolon plain
  obtain ⟨d, last, solid⟩ := line.solid
  have code := Mode.getLast?_codeAhead last solid s.mode back
  have some := ne_nil_of_commented commented fun empty => by
    rw [empty] at code
    cases code
  have solid (e : Char) (h : (s.mode.codeAhead front back).getLast? = .some e) : isBlank e = false :=
    Option.some.inj (code.symm.trans h) ▸ solid
  rw [← value, ← value'] at commented some
  have empty : s.mode.code t'.value = "" ↔ s.mode.code t.value = "" :=
    iff_of_false (fun empty => some.2 (by rw [empty]; rfl)) fun empty => some.1 (by rw [empty]; rfl)
  rw [scanToken_text text, scanToken_text text', alike.mode]
  cases mode : s.mode with
  | outside | literal =>
    rw [mode] at inside
    cases inside
  | comment => exact .pure alike
  | eval =>
    rw [mode] at commented empty takes code solid
    refine keeps_addStatement alike place empty ?_
    have body (text : String) : statementText text = String.ofList (Mode.eval.code text).toList :=
      String.ofList_toList.symm
    rw [body t.value, body t'.value]
    refine toOption_statementOf_commented commented (fun other => ?_) solid ?_ ?_
    · rw [String.ofList_toList, value] at other
      exact exists_endsIn (takes.whole fun _ => other) code (solid d code)
    · rw [String.ofList_toList, value]
      exact takes.word rfl
    · rw [String.ofList_toList, value]
      exact takes.line_of_isElse line
  | escaped | raw =>
    rw [mode] at commented empty takes code solid
    obtain ⟨r, ends⟩ := exists_endsIn (takes.whole nofun) code (solid d code)
    have same := (commented.expression ends o.enableAsync).symm
    rw [String.ofList_toList, String.ofList_toList] at same
    exact keeps_addExpression _ alike place empty same

end Tag

/-! ### The template -/

/-- A comment at the end of the last line of code in a tag leaves the program and the block tree as they are. -/
theorem compile_remark {o : Options} {source : String} {compiled : Compiled Code} {before after : List Token}
    {opener t : Token} (ok : compile language o source = .ok compiled)
    (tokens : tokenize source = before ++ opener :: t :: after) (opens : opener.kind.isOpen = true)
    (text : t.kind = .text) (body : t.value.toList = front ++ (pad ++ back)) (line : LastLine front pad back)
    (takes : TakesRemark (.ofOpen opener.kind) front pad back)
    (plain : ∀ d ∈ cs, d ≠ '\n' ∧ d ≠ '\r' ∧ d ≠ '\x00' ∧ d ≠ '%') :
    ∃ start rest, source.toList = start ++ (front ++ (pad ++ back) ++ rest) ∧ t.line = lineAfter start ∧
      t.col = colAfter start ∧ ∃ compiled',
        compile language o (String.ofList (start ++ (front ++ (pad ++ remark cs ++ back) ++ rest))) = .ok compiled' ∧
        compiled'.sense = compiled.sense := by
  obtain ⟨s, pieces, -⟩ := pieces_of_compile ok
  obtain ⟨_, closer, after, shape, closes, -⟩ := pieces.behind_open tokens opens
  obtain ⟨rfl, rfl⟩ := List.cons.inj shape
  obtain ⟨start, rest, whole, row, col, splice⟩ := tokenize_splice tokens opens text closes
  rw [body] at whole splice
  have ne : front ≠ [] := by
    obtain ⟨d, last, -⟩ := line.solid
    exact List.ne_nil_of_mem (List.mem_of_getLast? last)
  have feeds : cs.count '\n' = 0 := List.count_eq_zero.2 fun mem => (plain _ mem).1 rfl
  obtain ⟨after', tokens', alike⟩ := splice (front ++ (pad ++ remark cs ++ back))
    (by rw [List.head?_append_of_ne_nil _ ne, List.head?_append_of_ne_nil _ ne])
    (by simp [remark, feeds]) (quiet_remark line.space fun mem => (plain _ mem).2.2.2 rfl)
  refine ⟨start, rest, whole, row, col, compile_sense ok ?_ ?_⟩
  · rw [tokens, tokens', List.map_append, List.map_append, List.map_cons, List.map_cons, List.map_cons, List.map_cons,
      Token.map_kind_eq alike]
  · have unchanged : List.Forall₂ Token.Alike before before := List.forall₂_same.2 fun u _ => ⟨rfl, rfl, rfl⟩
    rw [tokens, tokens', List.foldlM_append, List.foldlM_append]
    refine (keeps_foldlM unchanged ⟨rfl, rfl, rfl⟩).bind fun s s' same => ?_
    rw [List.foldlM_cons, List.foldlM_cons, scanToken_open opens, scanToken_open opens]
    change Keeps (List.foldlM _ _ (t :: closer :: after)) (List.foldlM _ _ (_ :: after'))
    rw [List.foldlM_cons, List.foldlM_cons]
    have tag : ({ s with mode := .ofOpen opener.kind, opener := some opener.value } : ScanState Code).Alike
        { s' with mode := .ofOpen opener.kind, opener := some opener.value } := ⟨rfl, same.trimming, same.program⟩
    refine .bind ?_ fun s s' same => keeps_foldlM alike same
    exact keeps_remark (Mode.inTag_ofOpen opener.kind) text text rfl body String.toList_ofList line takes
      (fun d mem => ⟨(plain d mem).1, (plain d mem).2.1, (plain d mem).2.2.1⟩) tag

/-- A comment behind the header of a block. -/
theorem remark_behind_header : ∃ compiled : Compiled Code,
    compile language {} "<% if a: %>b<% end %>" = .ok compiled ∧
      tokenize "<% if a: %>b<% end %>" = [] ++ ⟨.openEval, "<%", 1, 0⟩ :: ⟨.text, " if a: ", 1, 2⟩ ::
        [⟨.close, "%>", 1, 9⟩, ⟨.text, "b", 1, 11⟩, ⟨.openEval, "<%", 1, 12⟩, ⟨.text, " end ", 1, 14⟩,
          ⟨.close, "%>", 1, 19⟩] ∧
      LastLine " if a:".toList [' '] [] ∧ TakesRemark .eval " if a:".toList [' '] [] ∧
      ∃ start rest, "<% if a: %>b<% end %>".toList = start ++ (" if a:".toList ++ ([' '] ++ []) ++ rest) ∧
        1 = lineAfter start ∧ 2 = colAfter start ∧ ∃ compiled',
          compile language {} (String.ofList (start ++
            (" if a:".toList ++ ([' '] ++ remark "once".toList ++ []) ++ rest))) = .ok compiled' ∧
          compiled'.sense = compiled.sense := by
  have compiles : (compile language {} "<% if a: %>b<% end %>").toOption.isSome = true := by decide +kernel
  obtain ⟨compiled, ok⟩ := Option.isSome_iff_exists.1 compiles
  have ok := toOption_eq_some.1 ok
  have tokens : tokenize "<% if a: %>b<% end %>" = [] ++ ⟨.openEval, "<%", 1, 0⟩ :: ⟨.text, " if a: ", 1, 2⟩ ::
      [⟨.close, "%>", 1, 9⟩, ⟨.text, "b", 1, 11⟩, ⟨.openEval, "<%", 1, 12⟩, ⟨.text, " end ", 1, 14⟩,
        ⟨.close, "%>", 1, 19⟩] := by decide +kernel
  have line : LastLine " if a:".toList [' '] [] := ⟨⟨':', by decide, by decide⟩, by simp [isSpace], by simp [Breaks], by simp [firstSolid?, trimStart]⟩
  have takes : TakesRemark .eval " if a:".toList [' '] [] :=
    ⟨fun _ => by decide +kernel, absurd rfl, fun _ => by decide +kernel, fun _ _ => .inl List.not_mem_nil⟩
  exact ⟨compiled, ok, tokens, line, takes, compile_remark ok tokens rfl rfl (by decide) line takes (by simp)⟩

end StreamTemplate.Program
