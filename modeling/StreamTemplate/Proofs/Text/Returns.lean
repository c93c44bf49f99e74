import StreamTemplate.Proofs.Text.Indent

/-!
# Lines that carriage returns end

With its breaks unified a text has a line for each carriage return that no line feed follows, in
addition to those that line feeds end. What stands in front of such a line (`beforeLine`) holds as
many line feeds as the line of the text that it is a part of is far on (`exists_infix_unifiedLine`), and the
other breaks in it are lone carriage returns (`count_beforeLine`).
-/

namespace StreamTemplate.Text

/-- What stands in front of a line, counted from zero, when line feeds, carriage returns, and the two
together end lines. -/
def beforeLine : Nat → List Char → List Char
  | 0, _ => []
  | _, [] => []
  | n + 1, '\r' :: '\n' :: rest => '\r' :: '\n' :: beforeLine n rest
  | n + 1, c :: rest => c :: beforeLine (if c = '\r' ∨ c = '\n' then n else n + 1) rest

/-- How many carriage returns have no line feed behind them. -/
def loneReturns : List Char → Nat
  | [] => 0
  | '\r' :: '\n' :: rest => loneReturns rest
  | c :: rest => loneReturns rest + if c = '\r' then 1 else 0

variable {n : Nat} {c : Char} {cs rest : List Char}

theorem count_unifyBreaks (cs : List Char) :
    (unifyBreaks cs).count '\n' = cs.count '\n' + loneReturns cs := by
  fun_induction unifyBreaks cs with
  | case1 => rfl
  | case2 rest ih =>
    rw [loneReturns, List.count_cons_self, ih, List.count_cons_of_ne (by decide),
      List.count_cons_self, Nat.add_right_comm]
  | case3 c rest other ih =>
    rw [loneReturns, List.count_cons, List.count_cons, ih]
    · by_cases feed : c = '\r' <;> simp [feed] <;> omega
    · exact other

/-- Two parts of a text are unified apart, unless a carriage return and a line feed meet there. -/
theorem unifyBreaks_append (h : cs.getLast? ≠ some '\r' ∨ rest.head? ≠ some '\n') :
    unifyBreaks (cs ++ rest) = unifyBreaks cs ++ unifyBreaks rest := by
  fun_induction unifyBreaks cs with
  | case1 => rfl
  | case2 more ih =>
    rw [List.cons_append, List.cons_append, unifyBreaks, ih]
    · rfl
    · refine h.imp_left fun ne last => ne ?_
      cases more with
      | nil => cases last
      | cons => rwa [List.getLast?_cons_cons, List.getLast?_cons_cons]
  | case3 c more other ih =>
    rw [List.cons_append, unifyBreaks, ih]
    · rfl
    · refine h.imp_left fun ne last => ne ?_
      cases more with
      | nil => cases last
      | cons => rwa [List.getLast?_cons_cons]
    · intro more' ret feed
      cases more with
      | nil =>
        subst ret
        rw [List.nil_append] at feed
        rw [feed] at h
        simp at h
      | cons d more =>
        obtain ⟨rfl, -⟩ := List.cons.inj feed
        exact other more ret rfl

theorem unifyBreaks_of_not_mem (h : '\r' ∉ cs) : unifyBreaks cs = cs := by
  induction cs with
  | nil => rfl
  | cons c cs ih =>
    obtain ⟨here, there⟩ := not_or.mp (List.mem_cons.not.mp h)
    rw [unifyBreaks, if_neg (Ne.symm here), ih there]
    exact fun _ same => absurd same.symm here

theorem prefix_beforeLine (n : Nat) (cs : List Char) : beforeLine n cs <+: cs := by
  fun_induction beforeLine n cs with
  | case1 => exact List.nil_prefix
  | case2 => exact List.prefix_rfl
  | case3 n rest ih => exact (List.prefix_cons_inj _).2 ((List.prefix_cons_inj _).2 ih)
  | case4 n c rest other ih => exact (List.prefix_cons_inj c).2 ih

/-- A break ends a line; any other character stands in the first line. -/
theorem splitFeeds_unify_cons (other : ∀ rest', c = '\r' → rest = '\n' :: rest' → False) :
    splitFeeds (unifyBreaks (c :: rest)) =
      if c = '\r' ∨ c = '\n' then [] :: splitFeeds (unifyBreaks rest)
      else consLine c (splitFeeds (unifyBreaks rest)) := by
  rw [unifyBreaks]
  · by_cases ret : c = '\r'
    · rw [if_pos ret, if_pos (.inl ret), splitFeeds, if_pos rfl]
    · rw [if_neg ret, splitFeeds]
      simp [ret]
  · exact other

/-- In front of a line there are as many breaks as its number says. -/
theorem count_beforeLine (h : n < (splitFeeds (unifyBreaks cs)).length) :
    (unifyBreaks (beforeLine n cs)).count '\n' = n := by
  fun_induction beforeLine n cs with
  | case1 => rfl
  | case2 n =>
    rw [unifyBreaks, splitFeeds, List.length_singleton, Nat.lt_one_iff] at h
    exact h.symm
  | case3 n rest ih =>
    rw [unifyBreaks, splitFeeds, if_pos rfl, List.length_cons, Nat.succ_lt_succ_iff] at h
    rw [unifyBreaks, List.count_cons_self, ih h]
  | case4 n c rest other ih =>
    have other' (rest' : List Char) (ret : c = '\r') (feed : beforeLine
        (if c = '\r' ∨ c = '\n' then n else n + 1) rest = '\n' :: rest') : False := by
      obtain ⟨tail, split⟩ := prefix_beforeLine (if c = '\r' ∨ c = '\n' then n else n + 1) rest
      rw [feed, List.cons_append] at split
      exact other _ ret split.symm
    rw [splitFeeds_unify_cons other] at h
    rw [unifyBreaks, List.count_cons]
    · by_cases ends : c = '\r' ∨ c = '\n'
      · rw [if_pos ends, List.length_cons, Nat.succ_lt_succ_iff] at h
        rw [if_pos ends] at ih ⊢
        rw [ih h]
        rcases ends with rfl | rfl <;> rfl
      · rw [if_neg ends] at h
        rw [if_neg ends] at ih ⊢
        obtain ⟨ret, feed⟩ := not_or.1 ends
        obtain ⟨first, lines, split⟩ :=
          List.exists_cons_of_ne_nil (splitFeeds_ne_nil (unifyBreaks rest))
        rw [split] at h ih
        rw [ih h]
        simp [ret, feed]
    · exact other'

/-- The first line ends no later than where the first line feed is. -/
theorem exists_prefix_unifiedFirst {first : List Char} {lines : List (List Char)}
    (h : splitFeeds (unifyBreaks cs) = first :: lines) :
    ∃ whole more, splitFeeds cs = whole :: more ∧ first <+: whole := by
  fun_induction unifyBreaks cs generalizing first lines with
  | case1 => exact ⟨[], [], rfl, (List.cons.inj h).1 ▸ List.prefix_rfl⟩
  | case2 rest ih =>
    rw [splitFeeds, if_pos rfl] at h
    exact ⟨['\r'], splitFeeds rest, by simp [splitFeeds, consLine], (List.cons.inj h).1 ▸ List.nil_prefix⟩
  | case3 c rest other ih =>
    obtain ⟨whole, more, split⟩ := List.exists_cons_of_ne_nil (splitFeeds_ne_nil (c :: rest))
    refine ⟨whole, more, split, ?_⟩
    by_cases ends : (if c = '\r' then '\n' else c) = '\n'
    · rw [splitFeeds, if_pos ends] at h
      exact (List.cons.inj h).1 ▸ List.nil_prefix
    · have ret : c ≠ '\r' := fun ret => ends (if_pos ret)
      rw [if_neg ret] at ends h
      obtain ⟨first', lines', split'⟩ :=
        List.exists_cons_of_ne_nil (splitFeeds_ne_nil (unifyBreaks rest))
      obtain ⟨whole', more', hw, start⟩ := ih split'
      rw [splitFeeds_cons ends, split'] at h
      rw [splitFeeds_cons ends, hw] at split
      obtain rfl : c :: first' = first := (List.cons.inj h).1
      obtain rfl : c :: whole' = whole := (List.cons.inj split).1
      exact (List.prefix_cons_inj c).2 start

/-- A line stands in the line of the text that has as many line feeds in front of it. -/
theorem exists_infix_unifiedLine {line : List Char} (h : (splitFeeds (unifyBreaks cs))[n]? = some line) :
    ∃ whole, (splitFeeds cs)[(beforeLine n cs).count '\n']? = some whole ∧ line <:+: whole := by
  fun_induction beforeLine n cs generalizing line with
  | case1 cs =>
    obtain ⟨first, lines, split⟩ := List.exists_cons_of_ne_nil (splitFeeds_ne_nil (unifyBreaks cs))
    obtain ⟨whole, more, hw, start⟩ := exists_prefix_unifiedFirst split
    rw [split] at h
    obtain rfl : first = line := Option.some.inj h
    exact ⟨whole, by rw [hw]; rfl, start.isInfix⟩
  | case2 n =>
    cases n with
    | zero => exact ⟨line, h, List.infix_rfl⟩
    | succ n => cases h
  | case3 n rest ih =>
    rw [unifyBreaks, splitFeeds, if_pos rfl] at h
    obtain ⟨whole, hw, part⟩ := ih h
    refine ⟨whole, ?_, part⟩
    rw [List.count_cons_of_ne (by decide), List.count_cons_self, splitFeeds_cons (by decide),
      splitFeeds, if_pos rfl]
    exact hw
  | case4 n c rest other ih =>
    rw [splitFeeds_unify_cons other] at h
    by_cases ends : c = '\r' ∨ c = '\n'
    · rw [if_pos ends] at h ih ⊢
      obtain ⟨whole, hw, part⟩ := ih h
      by_cases feed : c = '\n'
      · refine ⟨whole, ?_, part⟩
        rw [feed, List.count_cons_self, splitFeeds, if_pos rfl]
        exact hw
      · obtain ⟨whole', hw', suffix⟩ := getElem?_consLine c hw
        refine ⟨whole', ?_, part.trans suffix.isInfix⟩
        rwa [List.count_cons_of_ne feed, splitFeeds_cons feed]
    · rw [if_neg ends] at h ih ⊢
      have feed : c ≠ '\n' := fun feed => ends (.inr feed)
      obtain ⟨first, lines, split⟩ :=
        List.exists_cons_of_ne_nil (splitFeeds_ne_nil (unifyBreaks rest))
      rw [split] at h ih
      obtain ⟨whole, hw, part⟩ := ih h
      obtain ⟨whole', hw', suffix⟩ := getElem?_consLine c hw
      refine ⟨whole', ?_, part.trans suffix.isInfix⟩
      rwa [List.count_cons_of_ne feed, splitFeeds_cons feed]

end StreamTemplate.Text
