import StreamTemplate.Proofs.Text.Lines
import StreamTemplate.Tag.Lexer
import Mathlib.Data.List.TakeWhile

/-!
# Words and what stands behind them

A word of code ends where it ends whatever separator comes next: white space within a line, the sign of
a comment, or a line break. So each scanner of words reads the same of some characters as of the
characters with a separator behind them (`Apart`), if it reads something of them.
-/

namespace StreamTemplate.Tag

/-- The characters that cannot belong to the word in front of them. -/
def separators : List Char :=
  [' ', '\t', '\x0c', '#', '\n', '\r']

/-- Whether a character cannot belong to the word in front of it. -/
def isSeparator (c : Char) : Bool :=
  separators.contains c

/-- Nothing, or something that begins with a separator. -/
def Apart (tail : List Char) : Prop :=
  ∀ c, tail.head? = some c → isSeparator c = true

variable {tail : List Char}

/-! ### Separators -/

/-- What is false of the listed separators is false of each. -/
theorem forall_separator {p : Char → Bool} (h : separators.any p = false) (c : Char)
    (sep : isSeparator c = true) : p c = false :=
  Bool.eq_false_iff.2 (List.any_eq_false.1 h c (List.contains_iff_mem.1 sep))

/-- What is false of the separators is false of what is at the front of a tail. -/
theorem Apart.any_head (apart : Apart tail) {p : Char → Bool}
    (h : ∀ c, isSeparator c = true → p c = false) : tail.head?.any p = false := by
  cases tail with
  | nil => rfl
  | cons t tail => exact h t (apart t rfl)

theorem Apart.head_append (apart : Apart tail) {p : Char → Bool}
    (h : ∀ c, isSeparator c = true → p c = false) (cs : List Char) :
    (cs ++ tail).head?.any p = cs.head?.any p :=
  Text.any_head_append (apart.any_head h) cs

theorem Apart.head_ne (apart : Apart tail) {c : Char} (other : isSeparator c = false) {cs : List Char}
    (ne : cs.head? ≠ some c) : (cs ++ tail).head? ≠ some c := by
  cases cs with
  | cons d cs => exact ne
  | nil =>
    intro first
    rw [apart c first] at other
    exact absurd other.symm Bool.false_ne_true

theorem Apart.head_eq_iff (apart : Apart tail) {c : Char} (other : isSeparator c = false) (cs : List Char) :
    (cs ++ tail).head? = some c ↔ cs.head? = some c := by
  refine ⟨fun first => by_contra fun ne => apart.head_ne other ne first, fun first => ?_⟩
  obtain ⟨cs, rfl⟩ := List.head?_eq_some_iff.1 first
  rfl

theorem Apart.takeWhile_append (apart : Apart tail) {p : Char → Bool}
    (h : ∀ c, isSeparator c = true → p c = false) (cs : List Char) :
    (cs ++ tail).takeWhile p = cs.takeWhile p :=
  Text.takeWhile_append_of_head (apart.any_head h) cs

/-- A word without separators stands at the front of the characters or not, whatever the tail. -/
theorem Apart.isPrefixOf_append (apart : Apart tail) {word : List Char}
    (plain : word.any isSeparator = false) (cs : List Char) :
    word.isPrefixOf (cs ++ tail) = word.isPrefixOf cs := by
  induction word generalizing cs with
  | nil => rfl
  | cons w word ih =>
    rw [List.any_cons, Bool.or_eq_false_iff] at plain
    obtain ⟨first, others⟩ := plain
    cases cs with
    | cons c cs => rw [List.cons_append, List.isPrefixOf_cons_cons, List.isPrefixOf_cons_cons, ih others]
    | nil =>
      cases tail with
      | nil => rfl
      | cons t tail =>
        have differ : (w == t) = false := beq_eq_false_iff_ne.2 fun same => by
          rw [same, apart t rfl] at first
          exact absurd first.symm Bool.false_ne_true
        rw [List.nil_append, List.isPrefixOf_cons_cons, differ, Bool.false_and]
        rfl

theorem isNameChar_separator : ∀ c, isSeparator c = true → isNameChar c = false :=
  forall_separator (by decide)

theorem isDigit_separator : ∀ c, isSeparator c = true → c.isDigit = false :=
  forall_separator (by decide)

theorem digitValue_separator {base : Nat} (h : base ≤ 16) :
    ∀ c, isSeparator c = true → decide (digitValue c < base) = false := fun c sep => by
  have : (digitValue c == 16) = true := by
    have := forall_separator (p := fun c => !(digitValue c == 16)) (by decide) c sep
    simpa using this
  rw [beq_iff_eq.1 this]
  simpa using h

/-! ### Numbers -/

section Digits

variable {p : Char → Bool} (stops : ∀ c, isSeparator c = true → p c = false) (low : p '_' = false)

theorem moreDigits_cons {c : Char} (ne : c ≠ '_') (cs : List Char) :
    moreDigits p (c :: cs) =
      if p c then (c :: (moreDigits p cs).1, (moreDigits p cs).2) else ([], c :: cs) := by
  rw [moreDigits]
  exact fun _ _ same => absurd same ne

theorem moreDigits_underscore (d : Char) (cs : List Char) :
    moreDigits p ('_' :: d :: cs) =
      if p d then (d :: (moreDigits p cs).1, (moreDigits p cs).2) else ([], '_' :: d :: cs) := by
  rw [moreDigits]

include stops low

theorem moreDigits_append (apart : Apart tail) (cs : List Char) :
    moreDigits p (cs ++ tail) = ((moreDigits p cs).1, (moreDigits p cs).2 ++ tail) := by
  fun_induction moreDigits p cs with
  | case1 =>
    cases tail with
    | nil => rfl
    | cons t tail =>
      have other : t ≠ '_' := fun same => by
        have := apart t rfl
        rw [same] at this
        exact absurd this (by decide)
      rw [List.nil_append, moreDigits_cons other, stops t (apart t rfl)]
      rfl
  | case2 d rest digit more rest' found ih =>
    rw [List.cons_append, List.cons_append, moreDigits_underscore, if_pos digit, ih, found]
  | case3 d rest digit =>
    rw [List.cons_append, List.cons_append, moreDigits_underscore, if_neg digit]
  | case4 c rest other digit more rest' found ih =>
    have ne : c ≠ '_' := fun same => by
      rw [same, low] at digit
      exact absurd digit Bool.false_ne_true
    rw [List.cons_append, moreDigits_cons ne, if_pos digit, ih, found]
  | case5 c rest other digit =>
    by_cases ne : c = '_'
    · subst ne
      cases rest with
      | cons d rest => exact absurd rfl (other d rest rfl)
      | nil =>
        cases tail with
        | nil => simp [moreDigits, low]
        | cons t tail =>
          rw [List.singleton_append, moreDigits_underscore, stops t (apart t rfl)]
          rfl
    · rw [List.cons_append, moreDigits_cons ne, if_neg digit]

theorem takeDigits_append (apart : Apart tail) (cs : List Char) :
    takeDigits p (cs ++ tail) = ((takeDigits p cs).1, (takeDigits p cs).2 ++ tail) := by
  rw [takeDigits, apart.head_append stops, takeDigits]
  split
  · exact moreDigits_append stops low apart cs
  · rfl

end Digits

theorem decimalDigits_append (apart : Apart tail) (cs : List Char) :
    takeDigits Char.isDigit (cs ++ tail) =
      ((takeDigits Char.isDigit cs).1, (takeDigits Char.isDigit cs).2 ++ tail) :=
  takeDigits_append isDigit_separator (by decide) apart cs

/-- The words that can follow a number are found whatever the tail. -/
theorem endsNumber_append (apart : Apart tail) (cs : List Char) :
    endsNumber (cs ++ tail) = endsNumber cs := by
  have opens {w : String} (plain : w.toList.any isSeparator = false) :
      w.toList.isPrefixOf (cs ++ tail) = w.toList.isPrefixOf cs :=
    apart.isPrefixOf_append plain cs
  have whole {w : String} (plain : w.toList.any isSeparator = false) :
      (w.toList.isPrefixOf (cs ++ tail) &&
          !((cs ++ tail).drop w.length).head?.any isNameChar) =
        (w.toList.isPrefixOf cs && !(cs.drop w.length).head?.any isNameChar) := by
    rw [opens plain]
    by_cases found : w.toList.isPrefixOf cs = true
    · have short : w.length ≤ cs.length := (List.isPrefixOf_iff_prefix.1 found).length_le
      rw [List.drop_append_of_le_length short, apart.head_append isNameChar_separator]
    · rw [Bool.eq_false_iff.2 found, Bool.false_and, Bool.false_and]
  simp only [endsNumber, List.any_cons, List.any_nil]
  rw [opens (w := "if") (by decide), opens (w := "in") (by decide),
    opens (w := "is") (by decide), whole (w := "and") (by decide),
    whole (w := "else") (by decide), whole (w := "for") (by decide),
    whole (w := "or") (by decide), whole (w := "not") (by decide),
    apart.head_append isNameChar_separator]

/-- What a scanner of words gives, with a tail behind the characters that it leaves. -/
def behind {α : Type} (tail : List Char) (found : α × List Char) : α × List Char :=
  (found.1, found.2 ++ tail)

theorem scanFraction_of_head_ne {cs : List Char} (ne : cs.head? ≠ some '.') :
    scanFraction cs = ([], cs, false) := by
  unfold scanFraction
  split
  · exact absurd rfl ne
  · rfl

theorem scanFraction_append (apart : Apart tail) (cs : List Char) :
    scanFraction (cs ++ tail) =
      ((scanFraction cs).1, (scanFraction cs).2.1 ++ tail, (scanFraction cs).2.2) := by
  by_cases point : cs.head? = some '.'
  · obtain ⟨cs, rfl⟩ := List.head?_eq_some_iff.1 point
    rw [List.cons_append, scanFraction, decimalDigits_append apart]
    rfl
  · rw [scanFraction_of_head_ne (apart.head_ne (by decide) point), scanFraction_of_head_ne point]

theorem scanSign_of_head_ne {cs : List Char} (minus : cs.head? ≠ some '-') (plus : cs.head? ≠ some '+') :
    scanSign cs = (1, cs) := by
  unfold scanSign
  split
  · exact absurd rfl minus
  · exact absurd rfl plus
  · rfl

theorem scanSign_append (apart : Apart tail) (cs : List Char) :
    scanSign (cs ++ tail) = ((scanSign cs).1, (scanSign cs).2 ++ tail) := by
  by_cases minus : cs.head? = some '-'
  · obtain ⟨cs, rfl⟩ := List.head?_eq_some_iff.1 minus
    rfl
  by_cases plus : cs.head? = some '+'
  · obtain ⟨cs, rfl⟩ := List.head?_eq_some_iff.1 plus
    rfl
  rw [scanSign_of_head_ne (apart.head_ne (by decide) minus) (apart.head_ne (by decide) plus),
    scanSign_of_head_ne minus plus]

theorem scanPower_append (apart : Apart tail) (cs : List Char) :
    scanPower (cs ++ tail) =
      ((scanPower cs).1, (scanPower cs).2.1 ++ tail, (scanPower cs).2.2) := by
  cases cs with
  | cons e more =>
    rw [List.cons_append, scanPower, scanPower, scanSign_append apart]
    dsimp only
    rw [decimalDigits_append apart]
    split <;> rfl
  | nil =>
    cases tail with
    | nil => rfl
    | cons t tail =>
      have mark : (t == 'e' || t == 'E') = false :=
        forall_separator (p := fun t => t == 'e' || t == 'E') (by decide) t (apart t rfl)
      show scanPower (t :: tail) = (0, t :: tail, false)
      rw [scanPower, mark]
      simp

theorem scanDecimal_append (apart : Apart tail) (line : Nat) (cs : List Char) :
    scanDecimal line (cs ++ tail) = (scanDecimal line cs).map (behind tail) := by
  unfold scanDecimal
  rw [decimalDigits_append apart]
  dsimp only
  rw [scanFraction_append apart]
  dsimp only
  rw [scanPower_append apart]
  dsimp only
  generalize (scanPower (scanFraction (takeDigits Char.isDigit cs).2).2.1).2.1 = rest
  simp only [apart.head_eq_iff (c := 'j') (by decide), apart.head_eq_iff (c := 'J') (by decide),
    endsNumber_append apart]
  split
  case isTrue imaginary =>
    cases rest with
    | nil => simp at imaginary
    | cons j rest =>
      simp only [List.cons_append, List.drop_one, List.tail_cons, endsNumber_append apart]
      split_ifs <;> rfl
  case isFalse =>
    split_ifs <;> rfl

theorem dropUnderscore_of_head_ne {cs : List Char} (ne : cs.head? ≠ some '_') : dropUnderscore cs = cs := by
  unfold dropUnderscore
  split
  · exact absurd rfl ne
  · rfl

theorem dropUnderscore_append (apart : Apart tail) (cs : List Char) :
    dropUnderscore (cs ++ tail) = dropUnderscore cs ++ tail := by
  by_cases low : cs.head? = some '_'
  · obtain ⟨cs, rfl⟩ := List.head?_eq_some_iff.1 low
    rfl
  · rw [dropUnderscore_of_head_ne (apart.head_ne (by decide) low), dropUnderscore_of_head_ne low]

theorem scanBased_append (apart : Apart tail) {b : Nat} (small : b ≤ 16) (kind : String) (line : Nat)
    (cs : List Char) :
    scanBased b kind line (cs ++ tail) = (scanBased b kind line cs).map (behind tail) := by
  have low : decide (digitValue '_' < b) = false := by
    rw [show digitValue '_' = 16 by decide]
    simpa using small
  unfold scanBased
  rw [dropUnderscore_append apart, takeDigits_append (digitValue_separator small) low apart]
  dsimp only
  generalize (takeDigits (fun c => decide (digitValue c < b)) (dropUnderscore cs)).2 = rest
  have wrong : (rest ++ tail).head?.filter Char.isDigit = rest.head?.filter Char.isDigit := by
    cases rest with
    | cons => rfl
    | nil =>
      cases tail with
      | nil => rfl
      | cons t tail =>
        show (some t).filter Char.isDigit = none
        rw [Option.filter_some, isDigit_separator t (apart t rfl)]
        rfl
  rw [wrong]
  split
  · rfl
  · rw [endsNumber_append apart]
    split_ifs <;> rfl

theorem scanNumber_of_head_ne {cs : List Char} (ne : cs.head? ≠ some '0') (line : Nat) :
    scanNumber line cs = scanDecimal line cs := by
  unfold scanNumber
  split
  · exact absurd rfl ne
  · rfl

theorem scanNumber_append (apart : Apart tail) (line : Nat) (cs : List Char) :
    scanNumber line (cs ++ tail) = (scanNumber line cs).map (behind tail) := by
  by_cases zero : cs.head? = some '0'
  · obtain ⟨cs, rfl⟩ := List.head?_eq_some_iff.1 zero
    cases cs with
    | cons b cs =>
      simp only [List.cons_append, scanNumber, scanBased_append apart (b := 16) (by decide),
        scanBased_append apart (b := 8) (by decide), scanBased_append apart (b := 2) (by decide),
        apply_ite (Except.map (behind tail)), ← scanDecimal_append apart]
    | nil =>
      cases tail with
      | nil => exact scanDecimal_append apart line ['0']
      | cons t tail =>
        have mark {p : Char → Bool} (h : separators.any p = false) : p t = false :=
          forall_separator h t (apart t rfl)
        rw [List.singleton_append, scanNumber, mark (p := fun t => t == 'x' || t == 'X') (by decide),
          mark (p := fun t => t == 'o' || t == 'O') (by decide),
          mark (p := fun t => t == 'b' || t == 'B') (by decide)]
        exact scanDecimal_append apart line ['0']
  · rw [scanNumber_of_head_ne (apart.head_ne (by decide) zero), scanNumber_of_head_ne zero]
    exact scanDecimal_append apart line cs

/-! ### Texts -/

/-- What is put in front of a quoted text that has been read. -/
theorem map_scanQuoted_append {found found' : Option (List Char × List Char × Nat)} (front : List Char)
    {more : Nat} {raw rest : List Char} {feeds : Nat}
    (step : ∀ raw rest feeds, found = some (raw, rest, feeds) →
      found' = some (raw, rest ++ tail, feeds))
    (h : (found.map fun (body, after, feeds) => (front ++ body, after, feeds + more)) =
      some (raw, rest, feeds)) :
    (found'.map fun (body, after, feeds) => (front ++ body, after, feeds + more)) =
      some (raw, rest ++ tail, feeds) := by
  obtain ⟨⟨body, after, n⟩, rfl, same⟩ := Option.map_eq_some_iff.1 h
  obtain ⟨rfl, rfl, rfl⟩ : front ++ body = raw ∧ after = rest ∧ n + more = feeds := by
    simpa using same
  rw [step body after n rfl]
  rfl

/-- A quoted text that is closed is closed there whatever follows. -/
theorem scanQuoted_append {quote : Char} {triple : Bool} (plain : isSeparator quote = false)
    (apart : Apart tail) {fuel fuel' : Nat} (le : fuel ≤ fuel') {cs raw rest : List Char} {feeds : Nat}
    (h : scanQuoted quote triple fuel cs = some (raw, rest, feeds)) :
    scanQuoted quote triple fuel' (cs ++ tail) = some (raw, rest ++ tail, feeds) := by
  induction fuel generalizing fuel' cs raw rest feeds with
  | zero => cases cs <;> cases h
  | succ fuel ih =>
    obtain ⟨fuel', rfl⟩ := Nat.exists_eq_add_one_of_ne_zero (Nat.ne_zero_of_lt le)
    have le : fuel ≤ fuel' := Nat.le_of_succ_le_succ le
    cases cs with
    | nil => cases h
    | cons c cs =>
      rw [List.cons_append]
      unfold scanQuoted at h ⊢
      dsimp only at h ⊢
      by_cases escape : c = '\\'
      · rw [if_pos escape] at h ⊢
        cases cs with
        | nil => cases h
        | cons d cs => exact map_scanQuoted_append [c, d] (fun _ _ _ => ih le) h
      rw [if_neg escape] at h ⊢
      have marks : [quote, quote].any isSeparator = false := by simp [plain]
      rw [apart.isPrefixOf_append marks]
      split at h
      case isTrue closed =>
        rw [if_pos closed]
        obtain ⟨rfl, rfl, rfl⟩ : [] = raw ∧ (if triple then cs.drop 2 else cs) = rest ∧ 0 = feeds := by
          simpa using h
        cases triple with
        | false => rfl
        | true =>
          have long : 2 ≤ cs.length := by
            have start : [quote, quote].isPrefixOf cs = true := by
              simpa using (Bool.and_eq_true_iff.1 closed).2
            exact (List.isPrefixOf_iff_prefix.1 start).length_le
          simp [List.drop_append_of_le_length long]
      case isFalse closed =>
        rw [if_neg closed]
        split at h
        · cases h
        · next feed =>
          rw [if_neg feed]
          exact map_scanQuoted_append [c] (fun _ _ _ => ih le) h

theorem scanText_append {quote : Char} (plain : isSeparator quote = false) (apart : Apart tail)
    {letters cs rest : List Char} {line feeds : Nat} {word : Lexeme}
    (h : scanText letters line quote cs = .ok (word, rest, feeds)) :
    scanText letters line quote (cs ++ tail) = .ok (word, rest ++ tail, feeds) := by
  have marks : [quote, quote].any isSeparator = false := by simp [plain]
  have body : (if [quote, quote].isPrefixOf cs then (cs ++ tail).drop 2 else cs ++ tail) =
      (if [quote, quote].isPrefixOf cs then cs.drop 2 else cs) ++ tail := by
    split
    · next start =>
      exact List.drop_append_of_le_length (List.isPrefixOf_iff_prefix.1 start).length_le
    · rfl
  unfold scanText at h ⊢
  dsimp only at h ⊢
  rw [apart.isPrefixOf_append marks, body]
  cases closed : scanQuoted quote ([quote, quote].isPrefixOf cs)
      ((if [quote, quote].isPrefixOf cs then cs.drop 2 else cs).length + 1)
      (if [quote, quote].isPrefixOf cs then cs.drop 2 else cs) with
  | none =>
    rw [closed] at h
    dsimp only at h
    split at h <;> cases h
  | some found =>
    obtain ⟨raw, after, n⟩ := found
    rw [scanQuoted_append plain apart (by simp) closed]
    rw [closed] at h
    obtain ⟨rfl, rfl, rfl⟩ : quotedWord letters raw = word ∧ after = rest ∧ n = feeds := by
      simpa using h
    rfl

/-! ### What is left -/

section Left

variable {p : Char → Bool} {cs rest : List Char} {line : Nat} {word : Lexeme}

theorem suffix_moreDigits (p : Char → Bool) (cs : List Char) : (moreDigits p cs).2 <:+ cs := by
  fun_induction moreDigits p cs with
  | case1 => exact List.suffix_rfl
  | case2 d rest _ _ _ found ih =>
    rw [found] at ih
    exact ih.trans ((List.suffix_cons d rest).trans (List.suffix_cons _ _))
  | case3 => exact List.suffix_rfl
  | case4 c rest _ _ _ _ found ih =>
    rw [found] at ih
    exact ih.trans (List.suffix_cons c rest)
  | case5 => exact List.suffix_rfl

theorem suffix_takeDigits (p : Char → Bool) (cs : List Char) : (takeDigits p cs).2 <:+ cs := by
  rw [takeDigits]
  split
  · exact suffix_moreDigits p cs
  · exact List.suffix_rfl

theorem suffix_takeDigits_cons (low : p '_' = false) {c : Char} (digit : p c = true) (cs : List Char) :
    (takeDigits p (c :: cs)).2 <:+ cs := by
  have ne : c ≠ '_' := fun same => by
    rw [same, low] at digit
    exact absurd digit Bool.false_ne_true
  rw [takeDigits, if_pos (by simpa using digit), moreDigits_cons ne, if_pos digit]
  exact suffix_moreDigits p cs

theorem suffix_scanFraction (cs : List Char) : (scanFraction cs).2.1 <:+ cs := by
  unfold scanFraction
  split
  · exact (suffix_takeDigits _ _).trans (List.suffix_cons _ _)
  · exact List.suffix_rfl

theorem suffix_scanSign (cs : List Char) : (scanSign cs).2 <:+ cs := by
  unfold scanSign
  split
  · exact List.suffix_cons _ _
  · exact List.suffix_cons _ _
  · exact List.suffix_rfl

theorem suffix_scanPower (cs : List Char) : (scanPower cs).2.1 <:+ cs := by
  cases cs with
  | nil => exact List.suffix_rfl
  | cons e more =>
    rw [scanPower]
    dsimp only
    split
    · exact ((suffix_takeDigits _ _).trans (suffix_scanSign more)).trans (List.suffix_cons e more)
    · exact List.suffix_rfl

theorem suffix_scanDecimal {c : Char} (start : (c.isDigit || (c = '.' && cs.head?.any Char.isDigit)) = true)
    (h : scanDecimal line (c :: cs) = .ok (word, rest)) : rest <:+ cs := by
  have left : (scanPower (scanFraction (takeDigits Char.isDigit (c :: cs)).2).2.1).2.1 <:+ cs := by
    refine (suffix_scanPower _).trans ?_
    by_cases digit : c.isDigit = true
    · exact (suffix_scanFraction _).trans (suffix_takeDigits_cons (by decide) digit cs)
    · obtain ⟨rfl, -⟩ : c = '.' ∧ cs.head?.any Char.isDigit = true := by simpa [digit] using start
      exact suffix_takeDigits _ cs
  unfold scanDecimal at h
  dsimp only at h
  split_ifs at h <;> cases h
  · exact (List.drop_suffix 1 _).trans left
  all_goals exact left

theorem suffix_dropUnderscore (cs : List Char) : dropUnderscore cs <:+ cs := by
  unfold dropUnderscore
  split
  · exact List.suffix_cons _ _
  · exact List.suffix_rfl

theorem suffix_scanBased {base : Nat} {kind : String}
    (h : scanBased base kind line cs = .ok (word, rest)) : rest <:+ cs := by
  unfold scanBased at h
  dsimp only at h
  split at h
  · cases h
  · split_ifs at h <;> cases h
    exact (suffix_takeDigits _ _).trans (suffix_dropUnderscore cs)

theorem suffix_scanNumber {c : Char} (start : (c.isDigit || (c = '.' && cs.head?.any Char.isDigit)) = true)
    (h : scanNumber line (c :: cs) = .ok (word, rest)) : rest <:+ cs := by
  unfold scanNumber at h
  split at h
  · next b more same =>
    obtain ⟨rfl, rfl⟩ := List.cons.inj same
    split_ifs at h
    · exact (suffix_scanBased h).trans (List.suffix_cons b more)
    · exact (suffix_scanBased h).trans (List.suffix_cons b more)
    · exact (suffix_scanBased h).trans (List.suffix_cons b more)
    · exact suffix_scanDecimal start h
  · exact suffix_scanDecimal start h

theorem suffix_scanQuoted {quote : Char} {triple : Bool} {fuel feeds : Nat} {raw : List Char}
    (h : scanQuoted quote triple fuel cs = some (raw, rest, feeds)) : rest <:+ cs := by
  induction fuel generalizing cs raw rest feeds with
  | zero => cases cs <;> cases h
  | succ fuel ih =>
    cases cs with
    | nil => cases h
    | cons c cs =>
      unfold scanQuoted at h
      dsimp only at h
      split at h
      · cases cs with
        | nil => cases h
        | cons d cs =>
          obtain ⟨⟨body, after, n⟩, found, same⟩ := Option.map_eq_some_iff.1 h
          cases same
          exact (ih found).trans ((List.suffix_cons d cs).trans (List.suffix_cons c _))
      split at h
      · cases h
        split
        · exact (List.drop_suffix 2 cs).trans (List.suffix_cons c cs)
        · exact List.suffix_cons c cs
      split at h
      · cases h
      · obtain ⟨⟨body, after, n⟩, found, same⟩ := Option.map_eq_some_iff.1 h
        cases same
        exact (ih found).trans (List.suffix_cons c cs)

theorem suffix_scanText {quote : Char} {letters : List Char} {feeds : Nat}
    (h : scanText letters line quote cs = .ok (word, rest, feeds)) : rest <:+ cs := by
  unfold scanText at h
  dsimp only at h
  split at h
  · next found =>
    cases h
    refine (suffix_scanQuoted found).trans ?_
    split
    · exact List.drop_suffix 2 cs
    · exact List.suffix_rfl
  · split at h <;> cases h

end Left

end StreamTemplate.Tag
