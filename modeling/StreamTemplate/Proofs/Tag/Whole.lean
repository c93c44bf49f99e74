import StreamTemplate.Proofs.Tag.Steps
import StreamTemplate.Proofs.Text.Returns

/-!
# Comments behind whole code

Code is whole if nothing in it is left open: no bracket, no quoted text and no line that is to go on. The
words of a text that begins with whole code do not depend on what white space and which comment stand
between that code and the end of its line (`words_of_whole`).
-/

namespace StreamTemplate.Tag

variable {s s' : LexState} {cs rest tail : List Char}

namespace LexState

/-! ### Code that is read to its end -/

/-- The characters can be read from a state on, and reading them ends in another state, not at the start of
a line. -/
inductive Reaches : LexState → List Char → LexState → Prop
  | here {s : LexState} (inside : s.atStart = false) : Reaches s [] s
  | step {s s' s₁ : LexState} {cs rest : List Char} (next : s.step cs = .next s' rest) (more : Reaches s' rest s₁) :
      Reaches s cs s₁

theorem step_nil_ne : s.step [] ≠ .next s' rest := by
  intro h
  by_cases start : s.atStart = true
  · have start : (s.fresh && s.brackets.isEmpty) = true := start
    unfold step at h
    rw [if_pos start] at h
    cases h
  · rw [step_nil (Bool.eq_false_iff.2 start)] at h
    cases h

theorem Reaches.inside {s₁ : LexState} (h : Reaches s cs s₁) : s₁.atStart = false := by
  induction h with
  | here inside => exact inside
  | step _ _ ih => exact ih

theorem Reaches.eq_of_nil {s₁ : LexState} (h : Reaches s [] s₁) : s₁ = s := by
  cases h with
  | here => rfl
  | step next => exact absurd next step_nil_ne

end LexState

/-- White space within a line. -/
def isSpace (c : Char) : Bool :=
  c = ' ' || c = '\t' || c = '\x0c'

/-- White space within a line, with a comment behind it or nothing. -/
def Idle (cs : List Char) : Prop :=
  '\n' ∉ cs ∧ ∀ c, (cs.dropWhile isSpace).head? = some c → c = '#'

/-- Nothing, or the end of a line. -/
def EndsLine (cs : List Char) : Prop :=
  ∀ c, cs.head? = some c → c = '\n'

section Idle

variable {g r : List Char}

theorem Idle.apart (idle : Idle g) (ends : EndsLine r) : Apart (g ++ r) := by
  intro c first
  cases g with
  | nil =>
    rw [ends c first]
    rfl
  | cons d g =>
    obtain rfl : d = c := Option.some.inj first
    by_cases space : isSpace d = true
    · simp only [isSpace, Bool.or_eq_true, decide_eq_true_eq] at space
      obtain (rfl | rfl) | rfl := space <;> rfl
    · have := idle.2 d (by rw [List.dropWhile_cons_of_neg space]; rfl)
      rw [this]
      rfl

theorem dropWhile_feed (free : '\n' ∉ g) (ends : EndsLine r) :
    (g ++ r).dropWhile (· ≠ '\n') = r := by
  rw [List.dropWhile_append_of_pos fun c mem => by simpa using ne_of_mem_of_not_mem mem free]
  cases r with
  | nil => rfl
  | cons c r =>
    rw [ends c rfl]
    rfl

namespace LexState

theorem wordsFrom_idle (inside : s.atStart = false) (idle : Idle g) (ends : EndsLine r) :
    s.wordsFrom (g ++ r) = s.wordsFrom r := by
  induction g with
  | nil => rfl
  | cons c g ih =>
    obtain ⟨free, behind⟩ := idle
    rw [List.mem_cons, not_or] at free
    by_cases space : isSpace c = true
    · rw [List.dropWhile_cons_of_pos space] at behind
      have blank : (c = ' ' || c = '\t' || c = '\x0c') = true := space
      have next : s.step (c :: (g ++ r)) = .next s (g ++ r) := by
        rw [step_cons inside (Ne.symm free.1), if_pos blank]
        · rintro rfl
          exact absurd space (by decide)
        · rintro rfl
          exact absurd space (by decide)
      rw [List.cons_append, wordsFrom_next next]
      exact ih ⟨free.2, behind⟩
    · rw [List.dropWhile_cons_of_neg space] at behind
      rw [behind c rfl, List.cons_append, wordsFrom_next (step_comment inside _), dropWhile_feed free.2 ends]

/-- Behind code that is read to its end, white space and a comment make no difference. -/
theorem Reaches.wordsFrom {s₁ : LexState} (h : Reaches s cs s₁) (idle : Idle g) (ends : EndsLine r) :
    s.wordsFrom (cs ++ (g ++ r)) = s₁.wordsFrom r := by
  induction h with
  | here inside => exact wordsFrom_idle inside idle ends
  | step next more ih =>
    rcases step_append (idle.apart ends) next with next' | ⟨rfl, rfl, next'⟩
    · rw [wordsFrom_next next', ih]
    · rw [wordsFrom_next next', dropWhile_feed idle.1 ends, more.eq_of_nil]

end LexState

end Idle

/-! ### Whole code -/

/-- The word that ends the code. -/
def Lexeme.isStop : Lexeme → Bool
  | stop => true
  | _ => false

/-- The words end with the end of the code: no text and no bracket is left open, and no line goes on. -/
def endsInStop (words : List Word) : Bool :=
  words.getLast?.any (·.lexeme.isStop)

namespace LexState

theorem not_whole_breakOff (s : LexState) (message : String) (line : Nat) (outranks : Bool) :
    endsInStop (s.breakOff message line outranks) = false := by
  simp [endsInStop, breakOff, Lexeme.isStop]

theorem brackets_of_finish (whole : endsInStop s.finish = true) : s.brackets = [] := by
  unfold finish at whole
  split at whole
  · simp [endsInStop, Lexeme.isStop] at whole
  · assumption

theorem not_whole_readWord {c : Char} {words : List Word} (h : s.readWord c cs = .done words) :
    endsInStop words = false := by
  unfold readWord at h
  dsimp only at h
  split at h
  · split at h
    · cases h
      exact not_whole_breakOff _ _ _ _
    · cases h
  · split at h
    · split at h
      · cases h
        exact not_whole_breakOff _ _ _ _
      · cases h
    · split at h
      · split at h
        · cases h
          exact not_whole_breakOff _ _ _ _
        · cases h
      · split at h
        · split at h
          · cases h
            exact not_whole_breakOff _ _ _ _
          · cases h
        · cases h

/-- Nothing but white space is part of an indentation, apart from the signs that join lines. -/
theorem isBlank_of_measure {m : Indentation} (h : (measure m cs).2 = []) {c : Char}
    (last : cs.getLast? = some c) : Text.isBlank c = true := by
  have cons {d : Char} {more : List Char} (blank : Text.isBlank d = true)
      (ih : more.getLast? = some c → Text.isBlank c = true) (last : (d :: more).getLast? = some c) :
      Text.isBlank c = true := by
    cases more with
    | nil =>
      cases last
      exact blank
    | cons => exact ih (by rwa [List.getLast?_cons_of_ne_nil (List.cons_ne_nil _ _)] at last)
  fun_induction measure m cs with
  | case1 m more ih =>
    rw [List.getLast?_cons_of_ne_nil (List.cons_ne_nil _ _)] at last
    exact cons (by decide) (ih h) last
  | case2 | case3 | case4 =>
    rename_i ih
    exact cons (by decide) (ih h) last
  | case5 => cases h
  | case6 => cases last

theorem getLast?_of_suffix {l : List Char} (h : rest <:+ l) (ne : rest ≠ []) :
    l.getLast? = rest.getLast? := by
  obtain ⟨front, rfl⟩ := h
  rw [List.getLast?_append, List.getLast?_eq_some_getLast ne]
  rfl

/-- A step that ends whole code, of which the last character is no white space, has nothing more to take. -/
theorem step_done {words : List Word} (h : s.step cs = .done words) (whole : endsInStop words = true)
    (solid : ∀ c, cs.getLast? = some c → Text.isBlank c = false) (held : cs = [] → s.atStart = false) :
    cs = [] ∧ s.brackets = [] := by
  have broken {s : LexState} {message : String} {line : Nat} {outranks : Bool}
      (same : s.breakOff message line outranks = words) : False := by
    rw [← same, not_whole_breakOff] at whole
    exact Bool.false_ne_true whole
  have not_blank {c : Char} (last : cs.getLast? = some c) (blank : Text.isBlank c = true) : False :=
    absurd ((solid c last).symm.trans blank) Bool.false_ne_true
  by_cases start : (s.fresh && s.brackets.isEmpty) = true
  · have ne : cs ≠ [] := fun empty => absurd ((held empty).symm.trans start) Bool.false_ne_true
    unfold step at h
    rw [if_pos start] at h
    unfold startLine at h
    dsimp only at h
    split at h
    · next empty =>
      exact (not_blank (List.getLast?_eq_some_getLast ne)
        (isBlank_of_measure empty (List.getLast?_eq_some_getLast ne))).elim
    · cases h
      exact (broken rfl).elim
    · cases h
    · cases h
    · split at h <;> cases h
      exact (broken rfl).elim
  · have inside : s.atStart = false := Bool.eq_false_iff.2 start
    cases cs with
    | nil =>
      rw [step_nil inside] at h
      cases h
      exact ⟨rfl, brackets_of_finish whole⟩
    | cons c more =>
      by_cases feed : c = '\n'
      · rw [feed, step_feed inside] at h
        cases h
      by_cases comment : c = '#'
      · rw [comment, step_comment inside] at h
        cases h
      by_cases joins : c = '\\'
      · unfold step at h
        rw [if_neg start] at h
        split at h
        · next same => cases same
        · cases h
        · cases h
        · next same => exact (not_blank (by rw [same]; rfl) (by decide)).elim
        · cases h
        · cases h
          exact (broken rfl).elim
        · next other same => exact (other ((List.cons.inj same).1.symm.trans joins)).elim
      rw [step_cons inside feed comment joins] at h
      split at h
      · cases h
      · rw [not_whole_readWord h] at whole
        exact absurd whole Bool.false_ne_true

theorem exists_reaches (whole : endsInStop (s.wordsFrom cs) = true)
    (solid : ∀ c, cs.getLast? = some c → Text.isBlank c = false) (inside : cs = [] → s.atStart = false) :
    ∃ s₁, Reaches s cs s₁ ∧ s₁.brackets = [] := by
  induction hn : s.size cs using Nat.strongRecOn generalizing s cs with
  | _ n ih =>
    cases step : s.step cs with
    | done words =>
      rw [wordsFrom_done step] at whole
      obtain ⟨rfl, closed⟩ := step_done step whole solid inside
      exact ⟨s, .here (inside rfl), closed⟩
    | next s' rest =>
      rw [wordsFrom_next step] at whole
      have left : rest <:+ cs := by
        rcases step_next step with ⟨-, -, left⟩ | ⟨c, taken, -⟩
        · exact left
        · exact (List.suffix_cons c rest).trans taken
      have solid' (c : Char) (last : rest.getLast? = some c) : Text.isBlank c = false := by
        refine solid c ?_
        rwa [getLast?_of_suffix left]
        rintro rfl
        cases last
      have inside' (empty : rest = []) : s'.atStart = false := by
        rcases step_next step with ⟨-, inside, -⟩ | ⟨c, taken, feed⟩
        · exact inside
        · refine Bool.eq_false_iff.2 fun start => ?_
          have last : cs.getLast? = some '\n' := by
            rw [getLast?_of_suffix taken (List.cons_ne_nil _ _), empty, feed start]
            rfl
          exact absurd (solid '\n' last) (by decide)
      obtain ⟨s₁, more, closed⟩ := ih _ (hn ▸ size_next step) whole solid' inside' rfl
      exact ⟨s₁, .step step more, closed⟩

/-! ### The last line -/

theorem Reaches.line_le {s₁ : LexState} (h : Reaches s cs s₁) : s.line ≤ s₁.line := by
  induction h with
  | here => exact le_rfl
  | step next _ ih => exact (line_step next).trans ih

theorem finish_of_closed (closed : s.brackets = []) :
    s.finish =
      ((s.indents.foldl (fun s _ => s.push .dedent) (if s.betweenLines then s else s.push .newline)).push
        .stop).words.reverse := by
  unfold finish
  split
  · next open_ => exact absurd (closed.symm.trans open_) (List.cons_ne_nil _ _).symm
  · dsimp only
    congr 4
    split <;> rfl

/-- The words that end the code do not depend on whether a line has just begun. -/
theorem finish_fresh (closed : s.brackets = []) (fresh : Bool) : ({ s with fresh } : LexState).finish = s.finish := by
  rw [finish_of_closed (s := s) closed, finish_of_closed (s := { s with fresh }) closed]
  have same : ({ s with fresh } : LexState).betweenLines = s.betweenLines := rfl
  rw [same]
  cases s.betweenLines with
  | false => rfl
  | true =>
    obtain ⟨words, line, brackets, indents, _⟩ := s
    cases indents <;> rfl

/-- Where a line is not ended yet, the words that end the code begin with the end of the line. -/
theorem finish_push_newline (closed : s.brackets = []) (inside : s.betweenLines = false) :
    (s.push .newline).finish = s.finish := by
  have ended : (s.push .newline).betweenLines = true := rfl
  rw [finish_of_closed closed, finish_of_closed (s := s.push .newline) closed, ended, inside]
  rfl

theorem wordsFrom_nil_of_atStart (start : s.atStart = true) (line : 1 < s.line) :
    s.wordsFrom [] = ({ s with line := s.line - 1 } : LexState).finish := by
  refine wordsFrom_done ?_
  have start : (s.fresh && s.brackets.isEmpty) = true := start
  unfold step
  rw [if_pos start]
  show LexStep.done (finish { s with line := if s.line + 0 > 1 then s.line + 0 - 1 else 1 }) = _
  rw [Nat.add_zero, if_pos line]

/-- A last line that is ended does not differ from one that is not. -/
theorem wordsFrom_feed (inside : s.atStart = false) (closed : s.brackets = []) (line : 1 ≤ s.line) :
    s.wordsFrom ['\n'] = s.wordsFrom [] := by
  rw [wordsFrom_next (step_feed inside []), wordsFrom_done (step_nil inside)]
  cases between : s.betweenLines with
  | true =>
    rw [Bool.not_true, Bool.and_false, if_neg Bool.false_ne_true,
      wordsFrom_nil_of_atStart (by simp [atStart, closed]) (Nat.lt_succ_of_le line)]
    exact finish_fresh closed _
  | false =>
    rw [closed, Bool.not_false, List.isEmpty_nil, Bool.and_true, if_pos rfl,
      wordsFrom_nil_of_atStart (by simp [atStart, push, closed]) (Nat.lt_succ_of_le line),
      ← finish_push_newline closed between]
    exact finish_fresh (s := s.push .newline) closed true

theorem Reaches.words {s₁ : LexState} (h : Reaches s cs s₁) (words : List Word) :
    ∃ words', Reaches { s with words } cs { s₁ with words := words' } := by
  induction h generalizing words with
  | here inside => exact ⟨words, .here inside⟩
  | step next more ih =>
    obtain ⟨words', next'⟩ := step_words next words
    obtain ⟨words₁, more'⟩ := ih words'
    exact ⟨words₁, .step next' more'⟩

end LexState

/-! ### Texts -/

/-- Nothing, or something that begins with a line break. -/
def Breaks (cs : List Char) : Prop :=
  ∀ c, cs.head? = some c → c = '\n' ∨ c = '\r'

theorem Breaks.unify (breaks : Breaks cs) : EndsLine (Text.unifyBreaks cs) := by
  intro c first
  fun_cases Text.unifyBreaks cs with
  | case1 => cases first
  | case2 => exact (Option.some.inj first).symm
  | case3 d more other =>
    rw [Text.unifyBreaks] at first
    · rcases breaks d rfl with rfl | rfl
      · exact (Option.some.inj first).symm
      · exact (Option.some.inj first).symm
    · exact other

/-- The code is read to its end, where no bracket is open, and leaves the state. -/
structure EndsIn (code : List Char) (s : LexState) : Prop where
  reached : LexState.Reaches {} (Text.unifyBreaks code) s
  inside : s.atStart = false
  closed : s.brackets = []
  last : code.getLast? ≠ some '\r'

/-- Whole code, of which the last character is no white space, is read to its end. -/
theorem exists_endsIn {code : List Char} (whole : endsInStop (lex (String.ofList code)).words = true)
    {c : Char} (last : code.getLast? = some c) (solid : Text.isBlank c = false) :
    ∃ s, EndsIn code s := by
  obtain ⟨front, rfl⟩ := List.getLast?_eq_some_iff.1 last
  have ne {d : Char} (blank : Text.isBlank d = true) : c ≠ d := Text.ne_of_solid solid blank
  have one : Text.unifyBreaks [c] = [c] :=
    Text.unifyBreaks_of_not_mem (by simpa using (ne (d := '\r') (by decide)).symm)
  have split : Text.unifyBreaks (front ++ [c]) = Text.unifyBreaks front ++ [c] := by
    rw [Text.unifyBreaks_append (.inr (by simpa using ne (by decide))), one]
  rw [words_lex, String.toList_ofList, split] at whole
  obtain ⟨s, reached, closed⟩ := LexState.exists_reaches whole (by simpa using solid) (by simp)
  exact ⟨s, split ▸ reached, reached.inside, closed, by simpa using ne (by decide)⟩

namespace EndsIn

variable {code g r : List Char} (ends : EndsIn code s)

include ends

theorem words_append (idle : Idle g) (plain : '\r' ∉ g) (breaks : Breaks r) :
    (lex (String.ofList (code ++ (g ++ r)))).words = s.wordsFrom (Text.unifyBreaks r) := by
  have last : g.getLast? ≠ some '\r' := fun last => plain (List.mem_of_getLast? last)
  rw [words_lex, String.toList_ofList, Text.unifyBreaks_append (.inl ends.last),
    Text.unifyBreaks_append (.inl last), Text.unifyBreaks_of_not_mem plain]
  exact ends.reached.wordsFrom idle breaks.unify

/-- White space and a comment behind whole code, up to the end of the line, make no difference. -/
theorem words_congr {g' : List Char} (idle : Idle g) (plain : '\r' ∉ g) (idle' : Idle g') (plain' : '\r' ∉ g')
    (breaks : Breaks r) :
    (lex (String.ofList (code ++ (g ++ r)))).words = (lex (String.ofList (code ++ (g' ++ r)))).words := by
  rw [ends.words_append idle plain breaks, ends.words_append idle' plain' breaks]

theorem words_line (idle : Idle g) (plain : '\r' ∉ g) :
    (lex (String.ofList (code ++ (g ++ ['\n'])))).words = (lex (String.ofList code)).words := by
  have none := ends.words_append (g := []) (r := []) ⟨List.not_mem_nil, fun _ h => nomatch h⟩ List.not_mem_nil
    fun _ h => nomatch h
  rw [List.append_nil, List.append_nil] at none
  have feed : Breaks ['\n'] := fun c first => .inl (Option.some.inj first).symm
  rw [ends.words_append idle plain feed, none]
  exact LexState.wordsFrom_feed ends.inside ends.closed ends.reached.line_le

end EndsIn

/-! ### The word in front -/

namespace LexState

/-- The code begins with a word that is not indented. -/
theorem step_start {c : Char} (solid : isSeparator c = false) (joins : c ≠ '\\') (cs : List Char) :
    ({} : LexState).step (c :: cs) = .next { fresh := false } (c :: cs) := by
  have differ {d : Char} (sep : isSeparator d = true) : c ≠ d := fun same => by
    rw [same, sep] at solid
    exact Bool.false_ne_true solid.symm
  have kept : measure {} (c :: cs) = ({}, c :: cs) := by
    rw [measure_cons _ joins, if_neg (differ rfl), if_neg (differ rfl), if_neg (differ rfl)]
  show startLine {} (c :: cs) = _
  unfold startLine
  rw [kept]
  dsimp only
  split
  · next same => cases same
  · next same => exact absurd (List.cons.inj same).1 joins
  · next same => exact absurd (List.cons.inj same).1 (differ rfl)
  · next same => exact absurd (List.cons.inj same).1 (differ rfl)
  · rfl

theorem quoteAfter?_of_long {letters : List Char} (long : 2 < letters.length) (after : List Char) :
    quoteAfter? letters after = none := by
  cases after with
  | nil => rfl
  | cons q after =>
    rw [quoteAfter?, decide_eq_false (Nat.not_le.2 long), Bool.and_false, Bool.false_and,
      if_neg Bool.false_ne_true]

/-- A name that is too long for the letters in front of a text. -/
theorem readWord_of_long {c : Char} {cs letters : List Char} (s : LexState)
    (start : (c.isDigit || c = '.') = false) (found : (c :: cs).takeWhile isNameChar = letters)
    (long : 2 < letters.length) :
    s.readWord c cs = match nameWord s.line letters with
      | .error e => .done (s.breakAt e)
      | .ok word => .next (s.push word) ((c :: cs).drop letters.length) := by
  obtain ⟨digit, point⟩ := Bool.or_eq_false_iff.1 start
  unfold readWord
  dsimp only
  rw [digit, point, Bool.false_and, Bool.or_false, if_neg Bool.false_ne_true, found,
    quoteAfter?_of_long long]
  dsimp only
  have some_letters : (!letters.isEmpty) = true := by
    simpa using List.ne_nil_of_length_pos (Nat.zero_lt_of_lt long)
  refine (if_pos some_letters).trans ?_
  cases nameWord s.line letters <;> rfl

theorem takeWhile_name {cs rest : List Char} (letters : cs.all isNameChar = true)
    (behind : rest.head?.any isNameChar = false) : (cs ++ rest).takeWhile isNameChar = cs := by
  rw [Text.takeWhile_append_of_head behind]
  exact List.takeWhile_eq_self_iff.2 (List.all_eq_true.1 letters)

/-- A word that no letter follows is read as it stands. -/
theorem readWord_name {c : Char} {cs rest : List Char} {word : Lexeme} (s : LexState)
    (start : (c.isDigit || c = '.') = false) (letters : (c :: cs).all isNameChar = true)
    (behind : rest.head?.any isNameChar = false) (plain : quoteAfter? (c :: cs) rest = none)
    (named : nameWord s.line (c :: cs) = .ok word) :
    s.readWord c (cs ++ rest) = .next (s.push word) rest := by
  obtain ⟨digit, point⟩ := Bool.or_eq_false_iff.1 start
  unfold readWord
  dsimp only
  rw [digit, point, Bool.false_and, Bool.or_false, if_neg Bool.false_ne_true, ← List.cons_append,
    takeWhile_name letters behind, List.drop_left, plain]
  dsimp only
  rw [if_pos (by simp), named]

/-- A name goes on only with characters that may belong to one. -/
theorem nameWord_ne_ok {line : Nat} {front back : List Char} {c : Char} {word : Lexeme} (ne : front ≠ [])
    (bad : Text.isIdentifierRest c = false) : nameWord line (front ++ c :: back) ≠ .ok word := by
  intro named
  unfold nameWord at named
  dsimp only at named
  split at named
  · split at named <;> cases named
  · next found =>
    rw [List.find?_eq_none] at found
    have mem : (c, front.length) ∈ (front ++ c :: back).zipIdx := by
      rw [List.mem_zipIdx_iff_getElem?]
      simp
    have := found _ mem
    simp [bad, ne] at this

end LexState

theorem any_head_unifyBreaks {p : Char → Bool} (feed : p '\n' = false) (h : cs.head?.any p = false) :
    (Text.unifyBreaks cs).head?.any p = false := by
  fun_cases Text.unifyBreaks cs with
  | case1 => rfl
  | case2 => exact feed
  | case3 c more other =>
    by_cases ret : c = '\r'
    · rw [if_pos ret]
      exact feed
    · rw [if_neg ret]
      exact h

/-- Whole code that begins with one word is whole if it begins with another one instead. -/
theorem EndsIn.of_elif {rest : List Char} (ends : EndsIn ("elif".toList ++ rest) s)
    (word : rest.head?.any Text.isIdentifierRest = false) : ∃ s', EndsIn ("if".toList ++ rest) s' := by
  have split {l : List Char} (plain : '\r' ∉ l) :
      Text.unifyBreaks (l ++ rest) = l ++ Text.unifyBreaks rest := by
    rw [Text.unifyBreaks_append (.inl fun last => plain (List.mem_of_getLast? last)),
      Text.unifyBreaks_of_not_mem plain]
  have last' : ("if".toList ++ rest).getLast? ≠ some '\r' := by
    have last := ends.last
    rw [List.getLast?_append] at last ⊢
    cases back : rest.getLast? with
    | none => decide
    | some c =>
      rw [back] at last
      exact last
  obtain ⟨reached, inside, closed, -⟩ := ends
  suffices h : ∃ words, LexState.Reaches {} ("if".toList ++ Text.unifyBreaks rest) { s with words } by
    obtain ⟨words, reached⟩ := h
    exact ⟨{ s with words }, split (l := "if".toList) (by decide) ▸ reached, inside, closed, last'⟩
  have word' := any_head_unifyBreaks (by decide) word
  rw [split (by decide)] at reached
  generalize Text.unifyBreaks rest = more at reached word'
  cases reached with
  | step next reached =>
    cases next.symm.trans (LexState.step_start (c := 'e') (by decide) (by decide) ('l' :: 'i' :: 'f' :: more))
    cases reached with
    | step next reached =>
      have word_step : _ = _ := (LexState.step_cons (c := 'e') rfl (by decide) (by decide) (by decide)
        ('l' :: 'i' :: 'f' :: more)).symm.trans next
      rw [if_neg (by decide)] at word_step
      have letters : ['e', 'l', 'i', 'f'].all isNameChar = true := by decide
      cases behind : more.head?.any isNameChar with
      | true =>
        cases more with
        | nil => cases behind
        | cons d more =>
          have letter : isNameChar d = true := behind
          have found : ('e' :: 'l' :: 'i' :: 'f' :: d :: more).takeWhile isNameChar =
              ['e', 'l', 'i', 'f'] ++ d :: more.takeWhile isNameChar := by
            rw [← List.takeWhile_cons_of_pos letter]
            exact List.takeWhile_append_of_pos (List.all_eq_true.1 letters)
          rw [LexState.readWord_of_long _ (by decide) found (by simp)] at word_step
          split at word_step
          · cases word_step
          · next named => exact absurd named (LexState.nameWord_ne_ok (List.cons_ne_nil _ _) word')
      | false =>
        have found : ('e' :: 'l' :: 'i' :: 'f' :: more).takeWhile isNameChar = ['e', 'l', 'i', 'f'] :=
          LexState.takeWhile_name letters behind
        rw [LexState.readWord_of_long _ (by decide) found (by decide)] at word_step
        have named : nameWord 1 ['e', 'l', 'i', 'f'] = .ok (.keyword "elif") := by rfl
        rw [named] at word_step
        cases word_step
        obtain ⟨words, reached'⟩ := reached.words [⟨.keyword "if", 1, 0⟩]
        have word_step' : ({ fresh := false } : LexState).step ('i' :: 'f' :: more) =
            .next (({ fresh := false } : LexState).push (.keyword "if")) more := by
          have letters : ['i', 'f'].all isNameChar = true := by decide
          have plain : quoteAfter? ['i', 'f'] more = none := by
            cases more with
            | nil => rfl
            | cons d more => exact if_neg fun mark => absurd (Bool.and_eq_true_iff.1 mark).2 (by decide)
          rw [LexState.step_cons rfl (by decide) (by decide) (by decide), if_neg (by decide)]
          exact LexState.readWord_name _ (by decide) letters behind plain rfl
        exact ⟨words, .step (LexState.step_start (by decide) (by decide) _) (.step word_step' reached')⟩

end StreamTemplate.Tag
