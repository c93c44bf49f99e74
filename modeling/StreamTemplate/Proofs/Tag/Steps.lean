import StreamTemplate.Proofs.Tag.Words
import StreamTemplate.Text.Blank
import Mathlib.Data.List.Find

/-!
# Splitting code step by step

A step through the code takes characters from the front (`step_next`), so that the words read from a state
on are those of the step and of the steps after it (`wordsFrom_next`). What it takes depends neither on
characters that stand apart behind the code (`step_append`) nor on the words in front (`step_words`).
-/

namespace StreamTemplate.Tag

variable {s s' : LexState} {cs rest tail : List Char}

namespace LexState

/-- The state stands at the start of a line outside brackets. -/
def atStart (s : LexState) : Bool :=
  s.fresh && s.brackets.isEmpty

@[simp]
theorem atStart_push (s : LexState) (word : Lexeme) : (s.push word).atStart = false := rfl

/-! ### What a step takes -/

theorem suffix_measure (m : Indentation) (cs : List Char) : (measure m cs).2 <:+ cs := by
  fun_induction measure m cs with
  | case1 m rest ih => exact ih.trans ((List.suffix_cons _ rest).trans (List.suffix_cons _ _))
  | case2 | case3 | case4 =>
    rename_i ih
    exact ih.trans (List.suffix_cons _ _)
  | case5 => exact List.suffix_rfl
  | case6 => exact List.suffix_rfl

theorem exists_cons_suffix {d : Char} (h : rest <:+ cs) : ∃ c, c :: rest <:+ d :: cs := by
  obtain ⟨front, rfl⟩ := h
  induction front generalizing d with
  | nil => exact ⟨d, List.suffix_rfl⟩
  | cons e front ih =>
    obtain ⟨c, more⟩ := ih (d := e)
    exact ⟨c, more.trans (List.suffix_cons d _)⟩

theorem atStart_pushSymbol {symbol : String} (h : s.pushSymbol symbol = .ok s') : s'.atStart = false := by
  unfold pushSymbol at h
  split at h
  · split_ifs at h
    · cases h
    · cases h; rfl
    · split at h
      · cases h
      · split_ifs at h <;> cases h
        rfl
    · cases h; rfl
  · cases h; rfl

theorem drop_suffix_of_pos {c : Char} {n : Nat} (pos : 0 < n) : (c :: cs).drop n <:+ cs := by
  cases n with
  | zero => exact absurd pos (Nat.lt_irrefl 0)
  | succ n => exact List.drop_suffix n cs

/-- Reading a word takes a character, and leaves the start of a line. -/
theorem readWord_next {c : Char} (h : s.readWord c cs = .next s' rest) :
    rest <:+ cs ∧ s'.atStart = false := by
  unfold readWord at h
  dsimp only at h
  split at h
  case isTrue start =>
    split at h
    · cases h
    · next found =>
      cases h
      exact ⟨suffix_scanNumber start found, rfl⟩
  case isFalse =>
    split at h
    · split at h
      · cases h
      · next found =>
        cases h
        refine ⟨(suffix_scanText found).trans ?_, rfl⟩
        rw [List.drop_drop]
        exact drop_suffix_of_pos (Nat.succ_pos _)
    · split at h
      · next letters =>
        split at h
        · cases h
        · cases h
          exact ⟨drop_suffix_of_pos (List.length_pos_iff.2 (by simpa using letters)), rfl⟩
      · split at h
        · next symbol found =>
          split at h
          · cases h
          · next pushed =>
            cases h
            have some_char : ∀ symbol ∈ symbols, 0 < symbol.length := by decide
            exact ⟨drop_suffix_of_pos (some_char symbol (List.mem_of_find?_eq_some found)),
              atStart_pushSymbol pushed⟩
        · cases h
          exact ⟨List.suffix_rfl, rfl⟩

/-- A step that does not end the code only leaves the start of a line, or takes a character; only a line
feed leads to the start of a line. -/
theorem step_next (h : s.step cs = .next s' rest) :
    (s.atStart = true ∧ s'.atStart = false ∧ rest <:+ cs) ∨
      ∃ c, c :: rest <:+ cs ∧ (s'.atStart = true → c = '\n') := by
  unfold step at h
  split at h
  case isTrue start =>
    unfold startLine at h
    have left := suffix_measure {} cs
    generalize measure {} cs = found at h left
    obtain ⟨m, more⟩ := found
    dsimp only at h left
    split at h
    · split at h <;> cases h
    · cases h
    · cases h
      exact .inl ⟨start, rfl, left⟩
    · cases h
      exact .inr ⟨'\n', left, fun _ => rfl⟩
    · split at h
      · cases h
      · cases h
        exact .inl ⟨start, rfl, left⟩
  case isFalse inside =>
    have inside : s.atStart = false := Bool.eq_false_iff.2 inside
    right
    split at h
    · cases h
    · cases h
      exact ⟨'\n', List.suffix_rfl, fun _ => rfl⟩
    · cases h
      obtain ⟨c, taken⟩ := exists_cons_suffix (d := '#') (List.dropWhile_suffix (· ≠ '\n'))
      exact ⟨c, taken, fun start => absurd (inside.symm.trans start) Bool.false_ne_true⟩
    · cases h
    · cases h
      exact ⟨'\n', List.suffix_cons _ _, fun start => absurd (inside.symm.trans start) Bool.false_ne_true⟩
    · cases h
    · split at h
      · cases h
        exact ⟨_, List.suffix_rfl, fun start => absurd (inside.symm.trans start) Bool.false_ne_true⟩
      · obtain ⟨taken, inside⟩ := readWord_next h
        obtain ⟨c, taken⟩ := exists_cons_suffix taken
        exact ⟨c, taken, fun start => absurd (inside.symm.trans start) Bool.false_ne_true⟩

section Inside

variable (inside : s.atStart = false)

include inside

theorem step_nil : s.step [] = .done s.finish := by
  rw [step, if_neg (by simpa [atStart] using inside)]

theorem step_feed (cs : List Char) :
    s.step ('\n' :: cs) = .next
      { (if s.brackets.isEmpty && !s.betweenLines then s.push .newline else s) with
        line := s.line + 1
        fresh := s.brackets.isEmpty } cs := by
  rw [step, if_neg (by simpa [atStart] using inside)]
  dsimp only
  split <;> rfl

theorem step_comment (cs : List Char) :
    s.step ('#' :: cs) = .next s (cs.dropWhile (· ≠ '\n')) := by
  rw [step, if_neg (by simpa [atStart] using inside)]

theorem step_join (ne : cs ≠ []) :
    s.step ('\\' :: '\n' :: cs) = .next { s with line := s.line + 1 } cs := by
  rw [step, if_neg (by simpa [atStart] using inside)]
  exact ne

theorem exists_of_step_join (h : s.step ('\\' :: cs) = .next s' rest) :
    ∃ more, cs = '\n' :: more ∧ more ≠ [] := by
  unfold step at h
  rw [if_neg (by simpa [atStart] using inside)] at h
  split at h
  · next same => cases same
  · next same => cases same
  · next same => cases same
  · cases h
  · next more ne same => exact ⟨more, (List.cons.inj same).2, ne⟩
  · cases h
  · next other same => exact (other (List.cons.inj same).1.symm).elim

theorem step_cons {c : Char} (feed : c ≠ '\n') (comment : c ≠ '#') (joins : c ≠ '\\') (cs : List Char) :
    s.step (c :: cs) =
      if c = ' ' || c = '\t' || c = '\x0c' then .next s cs else s.readWord c cs := by
  rw [step, if_neg (by simpa [atStart] using inside)]
  · exact feed
  · exact comment
  · exact fun same => absurd same joins
  · exact fun _ same => absurd same joins
  · exact joins

end Inside

/-- Bounds the number of steps that are left. -/
def size (s : LexState) (cs : List Char) : Nat :=
  2 * cs.length + if s.atStart then 1 else 0

theorem size_next (h : s.step cs = .next s' rest) : s'.size rest < s.size cs := by
  rw [size, size]
  rcases step_next h with ⟨start, inside, left⟩ | ⟨c, taken, -⟩
  · have := left.length_le
    rw [start, inside, if_pos rfl, if_neg Bool.false_ne_true]
    omega
  · have := taken.length_le
    rw [List.length_cons] at this
    split <;> split <;> omega

/-- The words that are read of the characters from a state on. -/
def wordsFrom (s : LexState) (cs : List Char) : List Word :=
  (lexLoop (s.size cs + 1) s cs).words

theorem words_lexLoop_succ (fuel : Nat) (s : LexState) (cs : List Char) :
    (lexLoop (fuel + 1) s cs).words =
      match s.step cs with
      | .done words => words
      | .next s' rest => (lexLoop fuel s' rest).words := by
  rw [lexLoop]
  cases s.step cs with
  | done => rfl
  | next s' rest =>
    dsimp only
    split <;> rfl

theorem words_lexLoop {fuel : Nat} (enough : s.size cs < fuel) :
    (lexLoop fuel s cs).words = s.wordsFrom cs := by
  induction hn : s.size cs using Nat.strongRecOn generalizing fuel s cs with
  | _ n ih =>
    obtain ⟨fuel, rfl⟩ := Nat.exists_eq_add_one_of_ne_zero (Nat.ne_zero_of_lt enough)
    rw [wordsFrom, words_lexLoop_succ, words_lexLoop_succ]
    cases step : s.step cs with
    | done => rfl
    | next s' rest =>
      have less := size_next step
      dsimp only
      rw [ih _ (hn ▸ less) (Nat.lt_of_lt_of_le less (Nat.le_of_lt_succ enough)) rfl,
        ih _ (hn ▸ less) less rfl]

theorem wordsFrom_done {words : List Word} (h : s.step cs = .done words) : s.wordsFrom cs = words := by
  rw [wordsFrom, words_lexLoop_succ, h]

theorem wordsFrom_next (h : s.step cs = .next s' rest) : s.wordsFrom cs = s'.wordsFrom rest := by
  rw [wordsFrom, words_lexLoop_succ, h]
  exact words_lexLoop (size_next h)

end LexState

theorem words_lex (code : String) :
    (lex code).words = ({} : LexState).wordsFrom (Text.unifyBreaks code.toList) :=
  LexState.words_lexLoop (Nat.lt_succ_self _)

/-! ### Characters behind -/

theorem quoteAfter?_append (apart : Apart tail) (letters after : List Char) :
    quoteAfter? letters (after ++ tail) = quoteAfter? letters after := by
  cases after with
  | cons => rfl
  | nil =>
    cases tail with
    | nil => rfl
    | cons t tail =>
      have mark : (decide (t = '\x27') || decide (t = '\x22')) = false :=
        forall_separator (p := fun t => decide (t = '\x27') || decide (t = '\x22')) (by decide) t (apart t rfl)
      show quoteAfter? letters (t :: tail) = none
      rw [quoteAfter?, mark]
      rfl

theorem quoteAfter?_eq_some {letters after : List Char} {quote : Char}
    (h : quoteAfter? letters after = some quote) :
    ∃ more, after = quote :: more ∧ isSeparator quote = false := by
  cases after with
  | nil => cases h
  | cons q more =>
    rw [quoteAfter?] at h
    split at h
    · next mark =>
      cases h
      have mark : quote = '\x27' ∨ quote = '\x22' := by simpa using (by simpa using mark : (_ ∧ _) ∧ _).1.1
      refine ⟨more, rfl, ?_⟩
      rcases mark with rfl | rfl <;> decide
    · cases h

namespace LexState

theorem measure_cons (m : Indentation) {c : Char} (ne : c ≠ '\\') (cs : List Char) :
    measure m (c :: cs) =
      if c = ' ' then measure { m with wide := m.wide + 1, narrow := m.narrow + 1 } cs
      else if c = '\t' then measure { m with wide := (m.wide / 8 + 1) * 8, narrow := m.narrow + 1 } cs
      else if c = '\x0c' then measure { m with wide := 0, narrow := 0 } cs
      else (m, c :: cs) := by
  rw [measure]
  exact fun _ same => absurd same ne

/-- The indentation ends at the first character that is no part of it, whatever follows. -/
theorem measure_append {m m' : Indentation} {c : Char} (h : measure m cs = (m', c :: rest))
    (go : c ≠ '\\') : measure m (cs ++ tail) = (m', c :: rest ++ tail) := by
  fun_induction measure m cs with
  | case1 m more ih =>
    rw [List.cons_append, List.cons_append, measure]
    exact ih h
  | case2 | case3 | case4 =>
    rename_i ih
    rw [List.cons_append, measure_cons _ (by decide)]
    exact ih h
  | case5 m d more other space tab feed =>
    cases h
    rw [List.cons_append, measure_cons _ go, if_neg space, if_neg tab, if_neg feed]
  | case6 => cases h

theorem readWord_append (apart : Apart tail) {c : Char} (h : s.readWord c cs = .next s' rest) :
    s.readWord c (cs ++ tail) = .next s' (rest ++ tail) := by
  unfold readWord at h ⊢
  dsimp only at h ⊢
  rw [apart.head_append isDigit_separator]
  split at h
  case isTrue start =>
    rw [if_pos start, ← List.cons_append, scanNumber_append apart]
    cases found : scanNumber s.line (c :: cs) with
    | error => rw [found] at h; cases h
    | ok word =>
      rw [found] at h
      cases h
      rfl
  case isFalse start =>
    rw [if_neg start, ← List.cons_append, apart.takeWhile_append isNameChar_separator,
      List.drop_append_of_le_length (List.takeWhile_prefix isNameChar).length_le,
      quoteAfter?_append apart]
    generalize (c :: cs).takeWhile isNameChar = letters at h ⊢
    split at h
    · next quote opened =>
      obtain ⟨more, after, plain⟩ := quoteAfter?_eq_some opened
      rw [after] at h ⊢
      cases found : scanText letters s.line quote more with
      | error =>
        rw [List.drop_one, List.tail_cons, found] at h
        cases h
      | ok word =>
        rw [List.drop_one, List.tail_cons, found] at h
        rw [List.cons_append, List.drop_one, List.tail_cons, scanText_append plain apart found]
        cases h
        rfl
    · next closed =>
      split at h
      · next some_letters =>
        rw [if_pos some_letters]
        split at h
        · cases h
        · next found =>
          cases h
          rfl
      · next no_letters =>
        rw [if_neg no_letters]
        have plain : ∀ symbol ∈ symbols, symbol.toList.any isSeparator = false := by decide
        have same : symbols.find? (fun symbol => symbol.toList.isPrefixOf (c :: cs ++ tail)) =
            symbols.find? (fun symbol => symbol.toList.isPrefixOf (c :: cs)) :=
          List.find?_congr fun symbol mem => apart.isPrefixOf_append (plain symbol mem) (c :: cs)
        rw [same]
        cases found : symbols.find? (fun symbol => symbol.toList.isPrefixOf (c :: cs)) with
        | none =>
          rw [found] at h
          cases h
          rfl
        | some symbol =>
          rw [found] at h
          have start : symbol.toList.isPrefixOf (c :: cs) = true :=
            List.find?_some (p := fun symbol : String => symbol.toList.isPrefixOf (c :: cs)) found
          have short : symbol.length ≤ (c :: cs).length := (List.isPrefixOf_iff_prefix.1 start).length_le
          dsimp only at h ⊢
          rw [List.drop_append_of_le_length short]
          cases pushed : s.pushSymbol symbol with
          | error => rw [pushed] at h; cases h
          | ok =>
            rw [pushed] at h
            cases h
            rfl

theorem startLine_append (h : s.startLine cs = .next s' rest) :
    s.startLine (cs ++ tail) = .next s' (rest ++ tail) := by
  unfold startLine at h ⊢
  cases found : measure {} cs with
  | mk m more =>
    rw [found] at h
    dsimp only at h
    split at h
    · split at h <;> cases h
    · cases h
    · rw [measure_append found (by decide)]
      cases h
      rfl
    · rw [measure_append found (by decide)]
      cases h
      rfl
    · next ends joins comment feed =>
      cases more with
      | nil => exact absurd rfl ends
      | cons c more =>
        have go : c ≠ '\\' := fun same => joins more (by rw [same])
        rw [measure_append found go, List.cons_append]
        dsimp only
        split
        · next same => exact absurd same (List.cons_ne_nil c _)
        · next same => exact absurd (List.cons.inj same).1 go
        · next same => exact absurd (by rw [(List.cons.inj same).1]) (comment more)
        · next same => exact absurd (by rw [(List.cons.inj same).1]) (feed more)
        · split at h
          · cases h
          · next indented =>
            cases h
            rfl

/-- A step that does not end the code is the same with something behind the code that stands apart,
unless it takes a comment, which goes on to the end of the line. -/
theorem step_append (apart : Apart tail) (h : s.step cs = .next s' rest) :
    s.step (cs ++ tail) = .next s' (rest ++ tail) ∨
      rest = [] ∧ s' = s ∧ s.step (cs ++ tail) = .next s (tail.dropWhile (· ≠ '\n')) := by
  by_cases start : s.atStart = true
  · have start : (s.fresh && s.brackets.isEmpty) = true := start
    unfold step at h ⊢
    rw [if_pos start] at h ⊢
    exact .inl (startLine_append h)
  have inside : s.atStart = false := Bool.eq_false_iff.2 start
  cases cs with
  | nil =>
    rw [step_nil inside] at h
    cases h
  | cons c more =>
    by_cases feed : c = '\n'
    · rw [feed, step_feed inside] at h
      cases h
      rw [feed, List.cons_append, step_feed inside]
      exact .inl rfl
    by_cases comment : c = '#'
    · rw [comment, step_comment inside] at h
      cases h
      rw [comment, List.cons_append, step_comment inside, List.dropWhile_append]
      split
      · next swallowed => exact .inr ⟨List.isEmpty_iff.1 swallowed, rfl, rfl⟩
      · exact .inl rfl
    by_cases joins : c = '\\'
    · subst joins
      obtain ⟨more, rfl, ne⟩ := exists_of_step_join inside h
      rw [step_join inside ne] at h
      cases h
      rw [List.cons_append, List.cons_append, step_join inside (List.append_ne_nil_of_left_ne_nil ne _)]
      exact .inl rfl
    rw [List.cons_append, step_cons inside feed comment joins]
    rw [step_cons inside feed comment joins] at h
    left
    split at h
    · next blank =>
      cases h
      rw [if_pos blank]
    · next solid =>
      rw [if_neg solid]
      exact readWord_append apart h

/-! ### Lines -/

theorem line_closeIndents {wide narrow fuel : Nat} (h : s.closeIndents wide narrow fuel = .ok s') :
    s'.line = s.line := by
  induction fuel generalizing s with
  | zero => cases h; rfl
  | succ fuel ih =>
    rw [closeIndents] at h
    split at h
    · split at h
      · have line := ih h
        exact line
      · split_ifs at h
        cases h
        rfl
    · split_ifs at h
      cases h
      rfl

theorem line_indentTo {wide narrow : Nat} (h : s.indentTo wide narrow = .ok s') : s'.line = s.line := by
  unfold indentTo at h
  dsimp only at h
  split at h
  · split at h <;> cases h
    rfl
  split at h
  · split at h
    · cases h
    · split at h <;> cases h
      rfl
  · exact line_closeIndents h

theorem line_pushSymbol {symbol : String} (h : s.pushSymbol symbol = .ok s') : s'.line = s.line := by
  unfold pushSymbol at h
  split at h
  · split_ifs at h
    · cases h
    · cases h; rfl
    · split at h
      · cases h
      · split_ifs at h <;> cases h
        rfl
    · cases h; rfl
  · cases h; rfl

theorem line_readWord {c : Char} (h : s.readWord c cs = .next s' rest) : s.line ≤ s'.line := by
  unfold readWord at h
  dsimp only at h
  split at h
  · split at h <;> cases h
    exact le_rfl
  · split at h
    · split at h <;> cases h
      exact Nat.le_add_right _ _
    · split at h
      · split at h <;> cases h
        exact le_rfl
      · split at h
        · split at h
          · cases h
          · next pushed =>
            cases h
            exact (line_pushSymbol pushed).ge
        · cases h
          exact le_rfl

/-- No step goes back to an earlier line. -/
theorem line_step (h : s.step cs = .next s' rest) : s.line ≤ s'.line := by
  unfold step at h
  split at h
  · unfold startLine at h
    dsimp only at h
    split at h
    · split at h <;> cases h
    · cases h
    · cases h
      exact Nat.le_add_right _ _
    · cases h
      exact (Nat.le_add_right _ _).trans (Nat.le_succ _)
    · split at h
      · cases h
      · next indented =>
        cases h
        split at indented
        · exact (Nat.le_add_right _ _).trans (line_indentTo indented).ge
        · exact (Nat.le_add_right _ _).trans (line_indentTo indented).ge
  · split at h
    · cases h
    · cases h
      split <;> exact Nat.le_succ _
    · cases h
      exact le_rfl
    · cases h
    · cases h
      exact Nat.le_succ _
    · cases h
    · split at h
      · cases h
        exact le_rfl
      · exact line_readWord h

/-! ### Words in front -/

theorem closeIndents_words {wide narrow fuel : Nat} (h : s.closeIndents wide narrow fuel = .ok s')
    (words : List Word) :
    ∃ words', ({ s with words } : LexState).closeIndents wide narrow fuel = .ok { s' with words := words' } := by
  induction fuel generalizing s words with
  | zero =>
    cases h
    exact ⟨words, rfl⟩
  | succ fuel ih =>
    rw [closeIndents] at h ⊢
    split at h
    · next top alt outer indents =>
      rw [indents]
      dsimp only
      split at h
      · next less =>
        rw [if_pos less]
        exact ih h _
      · next more =>
        rw [if_neg more]
        split_ifs at h with same alike
        cases h
        rw [if_pos same, if_pos alike]
        exact ⟨words, by rw [← indents]⟩
    · next indents =>
      rw [indents]
      dsimp only
      split_ifs at h with zero
      cases h
      rw [if_pos zero]
      exact ⟨words, by rw [← indents]⟩

theorem indentTo_words {wide narrow : Nat} (h : s.indentTo wide narrow = .ok s') (words : List Word) :
    ∃ words', ({ s with words } : LexState).indentTo wide narrow = .ok { s' with words := words' } := by
  unfold indentTo at h ⊢
  dsimp only at h ⊢
  split at h
  · next same =>
    rw [if_pos same]
    split at h
    · next alike =>
      cases h
      rw [if_pos alike]
      exact ⟨words, rfl⟩
    · cases h
  next other =>
  rw [if_neg other]
  split at h
  · next wider =>
    rw [if_pos wider]
    split at h
    · cases h
    · next few =>
      rw [if_neg few]
      split at h
      · next alike =>
        cases h
        rw [if_pos alike]
        exact ⟨_, rfl⟩
      · cases h
  · next narrower =>
    rw [if_neg narrower]
    exact closeIndents_words h words

theorem pushSymbol_words {symbol : String} (h : s.pushSymbol symbol = .ok s') (words : List Word) :
    ∃ words', ({ s with words } : LexState).pushSymbol symbol = .ok { s' with words := words' } := by
  unfold pushSymbol at h ⊢
  split at h
  · next c one =>
    dsimp only
    split at h
    · next opens =>
      rw [if_pos opens]
      split at h
      · cases h
      · next few =>
        cases h
        rw [if_neg few]
        exact ⟨_, rfl⟩
    next other =>
    rw [if_neg other]
    split at h
    · next closes =>
      rw [if_pos closes]
      split at h
      · cases h
      · next opener line outer open_ =>
        rw [open_]
        split at h
        · next fits =>
          cases h
          rw [if_pos fits]
          exact ⟨_, rfl⟩
        · cases h
    · next plain =>
      cases h
      rw [if_neg plain]
      exact ⟨_, rfl⟩
  · cases h
    exact ⟨_, rfl⟩

theorem readWord_words {c : Char} (h : s.readWord c cs = .next s' rest) (words : List Word) :
    ∃ words', ({ s with words } : LexState).readWord c cs = .next { s' with words := words' } rest := by
  unfold readWord at h ⊢
  dsimp only at h ⊢
  split at h
  · next number =>
    rw [if_pos number]
    split at h
    · cases h
    · cases h
      exact ⟨_, rfl⟩
  next other =>
  rw [if_neg other]
  split at h
  · split at h
    · cases h
    · cases h
      exact ⟨_, rfl⟩
  split at h
  · next letters =>
    rw [if_pos letters]
    split at h
    · cases h
    · cases h
      exact ⟨_, rfl⟩
  next no_letters =>
  rw [if_neg no_letters]
  split at h
  · split at h
    · cases h
    · next pushed =>
      cases h
      obtain ⟨words', pushed'⟩ := pushSymbol_words pushed words
      rw [pushed']
      exact ⟨words', rfl⟩
  · cases h
    exact ⟨_, rfl⟩

theorem startLine_words (h : s.startLine cs = .next s' rest) (words : List Word) :
    ∃ words', ({ s with words } : LexState).startLine cs = .next { s' with words := words' } rest := by
  unfold startLine at h ⊢
  dsimp only at h ⊢
  split at h
  · split at h <;> cases h
  · cases h
  · cases h
    exact ⟨words, rfl⟩
  · cases h
    exact ⟨words, rfl⟩
  · split at h
    · cases h
    · next indented =>
      cases h
      split at indented
      · next fixed =>
        rw [if_pos fixed]
        obtain ⟨words', indented'⟩ := indentTo_words indented words
        rw [indented']
        exact ⟨words', rfl⟩
      · next fixed =>
        rw [if_neg fixed]
        obtain ⟨words', indented'⟩ := indentTo_words indented words
        rw [indented']
        exact ⟨words', rfl⟩

/-- What a step takes does not depend on the words in front. -/
theorem step_words (h : s.step cs = .next s' rest) (words : List Word) :
    ∃ words', ({ s with words } : LexState).step cs = .next { s' with words := words' } rest := by
  unfold step at h ⊢
  split at h
  · next start =>
    rw [if_pos start]
    exact startLine_words h words
  next inside =>
  rw [if_neg inside]
  split at h
  · cases h
  · cases h
    let t : LexState := { s with words }
    refine ⟨(if t.brackets.isEmpty && !t.betweenLines then t.push .newline else t).words, ?_⟩
    dsimp only
    split <;> split <;> rfl
  · cases h
    exact ⟨words, rfl⟩
  · cases h
  · cases h
    exact ⟨words, rfl⟩
  · cases h
  · split at h
    · next blank =>
      cases h
      rw [if_pos blank]
      exact ⟨words, rfl⟩
    · next solid =>
      rw [if_neg solid]
      exact readWord_words h words

end LexState

end StreamTemplate.Tag
