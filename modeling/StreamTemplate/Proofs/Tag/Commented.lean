import StreamTemplate.Proofs.Tag.Whole
import StreamTemplate.Proofs.Text.Margin
import StreamTemplate.Program.Compile

/-!
# Code with a comment

Two texts begin with the same whole code, and from the end of its line on they are alike, apart from
white space and a comment in one of them (`Commented`). The language reads the same of both: an
expression, statements or a header.
-/

namespace StreamTemplate

theorem toOption_bind {ε α β : Type} (x : Except ε α) (f : α → Except ε β) :
    (x >>= f).toOption = x.toOption.bind fun a => (f a).toOption := by
  cases x <;> rfl

theorem toOption_eq_some {ε α : Type} {x : Except ε α} {a : α} : x.toOption = some a ↔ x = .ok a := by
  cases x <;> simp [Except.toOption]

namespace Tag

open Text

/-- Two texts begin with the code. Behind it the second one has a comment, up to the end of the line; what
follows is the same in both, and begins with a comment itself, if it is not empty. -/
inductive Commented (code : List Char) : List Char → List Char → Prop
  | intro {pad pad' com rest : List Char} (space : ∀ c ∈ pad, isSpace c = true)
      (space' : ∀ c ∈ pad', isSpace c = true) (plain : ∀ c ∈ com, c ≠ '\n' ∧ c ≠ '\r' ∧ c ≠ '\x00')
      (breaks : Breaks rest) (free : ∀ c, firstSolid? rest = some c → c = '#')
      (solid : ∀ c, rest.getLast? = some c → isBlank c = false) (bare : rest = [] → pad = []) :
      Commented code (code ++ (pad ++ rest)) (code ++ (pad' ++ '#' :: com ++ rest))

/-! ### Reading depends on the words only -/

/-- The words of the texts are the same, and a null character is in both or in neither. -/
def SameWords (a b : List Char) : Prop :=
  (lex (String.ofList a)).words = (lex (String.ofList b)).words ∧ ('\x00' ∈ a ↔ '\x00' ∈ b)

/-- A reading that succeeds is a run of the reader on the words. -/
theorem readAll_eq_ok_iff {α : Type} {reader : Reader α} {text : String} {x : α} :
    readAll reader text = .ok x ↔ '\x00' ∉ text.toList ∧
      ((reader ⟨(lex text).words.toArray, false⟩).run
        { expressions := Array.replicate ((lex text).words.length + 1) [] }).1 = .ok x := by
  unfold readAll
  dsimp only
  by_cases null : '\x00' ∈ text.toList
  · simp [null]
  · rw [if_neg (by simpa using null), and_iff_right null]
    split
    · next result trail found => simp [found]
    · next e trail found =>
      rw [found]
      refine iff_of_false ?_ nofun
      cases e <;> nofun

theorem SameWords.toOption_readAll {α : Type} {a b : String} (same : SameWords a.toList b.toList)
    (reader : Reader α) : (readAll reader a).toOption = (readAll reader b).toOption := by
  obtain ⟨words, null⟩ := same
  rw [String.ofList_toList, String.ofList_toList] at words
  ext x
  rw [toOption_eq_some, toOption_eq_some, readAll_eq_ok_iff, readAll_eq_ok_iff, words, null]

theorem SameWords.toOption_compileStatements {a b : String}
    (same : SameWords (endLine a).toList (endLine b).toList) (mayAwait : Bool) :
    (compileStatements mayAwait a).toOption = (compileStatements mayAwait b).toOption := by
  have read : (readStatements a).toOption = (readStatements b).toOption := same.toOption_readAll _
  unfold compileStatements
  rw [toOption_bind, toOption_bind, read]

theorem SameWords.readHeader {a b : String}
    (same : SameWords (endLine (a ++ "\n    pass")).toList (endLine (b ++ "\n    pass")).toList)
    (mayAwait : Bool) (keyword : String) : readHeader mayAwait keyword a = Tag.readHeader mayAwait keyword b := by
  have read : (readStatements (a ++ "\n    pass")).toOption = (readStatements (b ++ "\n    pass")).toOption :=
    same.toOption_readAll _
  unfold Tag.readHeader
  cases found : readStatements (a ++ "\n    pass") with
  | ok body =>
    rw [found] at read
    rw [toOption_eq_some.1 read.symm]
  | error e =>
    rw [found] at read
    cases found' : readStatements (b ++ "\n    pass") with
    | ok body =>
      rw [found'] at read
      cases read
    | error e' => rfl

/-! ### The last line -/

theorem endComment_ofList (cs : List Char) :
    Program.endComment (String.ofList cs) =
      String.ofList (if '#' ∈ finalLine cs then cs ++ ['\n'] else cs) := by
  unfold Program.endComment
  rw [String.toList_ofList, show (splitFeeds cs).getLast?.getD [] = finalLine cs from rfl]
  by_cases sign : '#' ∈ finalLine cs
  · rw [if_pos sign, if_pos (by simpa using sign), String.ofList_append]
  · rw [if_neg sign, if_neg (by simpa using sign)]

/-- Whether the last line has a comment sign is up to what follows the end of a line of code. -/
theorem mem_finalLine_append {rest : List Char} (front : List Char) (ne : rest ≠ [])
    (free : ∀ c, firstSolid? rest = some c → c = '#')
    (solid : ∀ c, rest.getLast? = some c → isBlank c = false) :
    '#' ∈ finalLine (front ++ rest) ↔ '#' ∈ finalLine rest := by
  rw [finalLine_append]
  split
  · rfl
  · next one =>
    have last := List.getLast?_eq_some_getLast ne
    have some : firstSolid? rest ≠ none := by
      rw [firstSolid?, ne_eq, List.head?_eq_none_iff, trimStart, List.dropWhile_eq_nil_iff]
      intro all
      exact absurd ((solid _ last).symm.trans (all _ (List.mem_of_getLast? last))) Bool.false_ne_true
    obtain ⟨d, first⟩ := Option.ne_none_iff_exists'.1 some
    have sign : '#' ∈ rest := free d first ▸ List.dropWhile_subset _ (List.mem_of_head? first)
    have whole : finalLine rest = rest := by
      rw [finalLine, splitFeeds_of_not_mem one]
      rfl
    rw [whole]
    exact iff_of_true (List.mem_append_right _ sign) sign

/-! ### The words of both texts -/

section

variable {pad com : List Char}

theorem idle_of_isSpace (space : ∀ c ∈ pad, isSpace c = true) : Idle pad := by
  refine ⟨fun mem => absurd (space _ mem) (by decide), fun c first => ?_⟩
  rw [List.dropWhile_eq_nil_iff.2 space] at first
  cases first

theorem idle_comment (space : ∀ c ∈ pad, isSpace c = true) (plain : '\n' ∉ com) : Idle (pad ++ '#' :: com) := by
  have pad_plain : '\n' ∉ pad := fun mem => absurd (space _ mem) (by decide)
  refine ⟨by simp [pad_plain, plain], fun c first => ?_⟩
  rw [List.dropWhile_append_of_pos space] at first
  exact (Option.some.inj first).symm

theorem isBlank_of_isSpace {c : Char} (space : isSpace c = true) : isBlank c = true := by
  simp only [isSpace, Bool.or_eq_true, decide_eq_true_eq] at space
  obtain (rfl | rfl) | rfl := space <;> rfl

theorem isSeparator_of_isSpace {c : Char} (space : isSpace c = true) : isSeparator c = true := by
  simp only [isSpace, Bool.or_eq_true, decide_eq_true_eq] at space
  obtain (rfl | rfl) | rfl := space <;> rfl

theorem not_mem_of_isSpace (space : ∀ c ∈ pad, isSpace c = true) {c : Char} (other : isSpace c = false) :
    c ∉ pad := fun mem => absurd ((space c mem).symm.trans other) (Bool.false_ne_true ∘ Eq.symm)

theorem not_mem_comment (space : ∀ c ∈ pad, isSpace c = true) {c : Char} (other : isSpace c = false)
    (ne : c ≠ '#') (plain : c ∉ com) : c ∉ pad ++ '#' :: com := by
  simp [not_mem_of_isSpace space other, ne, plain]

end

namespace Commented

variable {code a b : List Char} {s : LexState} (h : Commented code a b) (ends : EndsIn code s)

include h

theorem null (more : List Char) : '\x00' ∈ a ++ more ↔ '\x00' ∈ b ++ more := by
  cases h with
  | @intro pad pad' com rest space space' plain =>
    have in_pad : '\x00' ∉ pad := not_mem_of_isSpace space (by decide)
    have in_pad' : '\x00' ∉ pad' := not_mem_of_isSpace space' (by decide)
    have in_com : '\x00' ∉ com := fun mem => (plain _ mem).2.2 rfl
    simp [in_pad, in_pad', in_com]

include ends

theorem sameWords_line (more : List Char) : SameWords (a ++ '\n' :: more) (b ++ '\n' :: more) := by
  refine ⟨?_, h.null _⟩
  cases h with
  | @intro pad pad' com rest space space' plain breaks =>
    have breaks' : Breaks (rest ++ '\n' :: more) := by
      cases rest with
      | nil => exact fun c first => .inl (Option.some.inj first).symm
      | cons d rest => exact fun c first => breaks c first
    have same := ends.words_congr (idle_of_isSpace space) (not_mem_of_isSpace space (by decide))
      (idle_comment space' fun mem => (plain _ mem).1 rfl)
      (not_mem_comment space' (by decide) (by decide) fun mem => (plain _ mem).2.1 rfl) breaks'
    simpa using same

/-- A comment that ends the text is ended with a line feed, and makes no difference. -/
theorem sameWords : SameWords (Program.endComment (String.ofList a)).toList
    (Program.endComment (String.ofList b)).toList := by
  have null := h.null
  rw [endComment_ofList, endComment_ofList, String.toList_ofList, String.toList_ofList]
  cases h with
  | @intro pad pad' com rest space space' plain breaks free solid bare =>
    have feed_free : '\n' ∉ pad' ++ '#' :: com :=
      not_mem_comment space' (by decide) (by decide) fun mem => (plain _ mem).1 rfl
    have return_free : '\r' ∉ pad' ++ '#' :: com :=
      not_mem_comment space' (by decide) (by decide) fun mem => (plain _ mem).2.1 rfl
    have idle : Idle (pad' ++ '#' :: com) := idle_comment space' fun mem => (plain _ mem).1 rfl
    cases rest with
    | nil =>
      obtain rfl := bare rfl
      have sign : '#' ∈ finalLine (code ++ (pad' ++ '#' :: com ++ [])) := by
        rw [List.append_nil, finalLine_append, if_neg feed_free]
        simp
      rw [if_pos sign]
      have line := ends.words_line (g := []) (idle_of_isSpace nofun) List.not_mem_nil
      have line' := ends.words_line idle return_free
      split
      · exact ⟨by simpa using line.trans line'.symm, null _⟩
      · exact ⟨by simpa using line'.symm, by simpa using null ['\n']⟩
    | cons d rest =>
      have same (more : List Char) := ends.words_congr (r := d :: rest ++ more) (idle_of_isSpace space)
        (not_mem_of_isSpace space (by decide)) idle return_free fun c first => breaks c first
      have decide := (mem_finalLine_append (code ++ pad) (List.cons_ne_nil d rest) free solid).trans
        (mem_finalLine_append (code ++ (pad' ++ '#' :: com)) (List.cons_ne_nil d rest) free solid).symm
      simp only [List.append_assoc] at decide same ⊢
      split
      · next sign =>
        rw [if_pos (decide.1 sign)]
        exact ⟨by simpa using same ['\n'], by simpa using null ['\n']⟩
      · next sign =>
        rw [if_neg (mt decide.2 sign)]
        exact ⟨by simpa using same [], by simpa using null []⟩

/-! ### What is read -/

/-- The expression is the same, if there is one. -/
theorem expression (mayAwait : Bool) :
    (language.expression mayAwait (Program.endComment (String.ofList a))).toOption =
      (language.expression mayAwait (Program.endComment (String.ofList b))).toOption := by
  have read : (readExpression (Program.endComment (String.ofList a))).toOption =
      (readExpression (Program.endComment (String.ofList b))).toOption :=
    (h.sameWords ends).toOption_readAll _
  show (compileExpression _ _).toOption = (compileExpression _ _).toOption
  unfold compileExpression
  rw [toOption_bind, toOption_bind, read]

/-- A header stays the same header, and what is none stays none. -/
theorem header (mayAwait : Bool) (keyword : String) :
    language.header mayAwait keyword (String.ofList a) = language.header mayAwait keyword (String.ofList b) := by
  have closed (cs : List Char) : (endLine (String.ofList cs ++ "\n    pass")).toList =
      cs ++ '\n' :: "    pass\n".toList := by
    have last : (cs ++ "\n    pass".toList).getLast? ≠ some '\n' := by
      rw [List.getLast?_append, show "\n    pass".toList.getLast? = some 's' by decide]
      simp
    rw [endLine, String.toList_append, String.toList_ofList, if_neg last]
    simp
  refine SameWords.readHeader ?_ mayAwait keyword
  rw [closed, closed]
  exact h.sameWords_line ends _

omit ends in
theorem getLast?_ne (solid : ∀ c, code.getLast? = some c → isBlank c = false) :
    a.getLast? ≠ some '\n' ∧ b.getLast? ≠ some '\n' := by
  cases h with
  | @intro pad pad' com rest space space' plain breaks free behind bare =>
    cases rest with
    | nil =>
      obtain rfl := bare rfl
      refine ⟨fun last => absurd (solid _ (by simpa using last)) (by decide), fun last => ?_⟩
      rw [List.append_nil, ← List.append_assoc, List.getLast?_append_of_ne_nil _ (List.cons_ne_nil _ _)] at last
      rcases List.mem_cons.1 (List.mem_of_getLast? last) with sign | mem
      · exact absurd sign (by decide)
      · exact (plain _ mem).1 rfl
    | cons d rest =>
      have solid_last {front : List Char} (last : (front ++ d :: rest).getLast? = some '\n') : False := by
        rw [List.getLast?_append_of_ne_nil _ (List.cons_ne_nil _ _)] at last
        exact absurd (behind _ last) (by decide)
      rw [← List.append_assoc, ← List.append_assoc]
      exact ⟨solid_last, solid_last⟩

/-- The statements are the same, if there are any. -/
theorem statements (solid : ∀ c, code.getLast? = some c → isBlank c = false) (mayAwait : Bool) :
    (language.statements mayAwait (Program.endComment (String.ofList a))).toOption =
      (language.statements mayAwait (Program.endComment (String.ofList b))).toOption := by
  have closed {cs : List Char} (last : cs.getLast? ≠ some '\n') :
      (endLine (Program.endComment (String.ofList cs))).toList = cs ++ ['\n'] := by
    rw [endComment_ofList]
    split
    · simp [endLine]
    · simp [endLine, last]
  refine SameWords.toOption_compileStatements ?_ mayAwait
  rw [closed (h.getLast?_ne solid).1, closed (h.getLast?_ne solid).2]
  exact h.sameWords_line ends []

end Commented

end Tag

end StreamTemplate
