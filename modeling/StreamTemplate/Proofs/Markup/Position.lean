import StreamTemplate.Proofs.Markup.Cover
import StreamTemplate.Markup.Position
import Mathlib.Data.List.TakeWhile

/-!
# The tables of places

`positionAt` finds a character of the trimmed text in two tables computed from the template as
written. The table of kept offsets holds what the condition on a character's two sides says
(`keptOffsets_eq`), although it is computed from two searches, each of which goes on behind its last
find: a find takes all the white space it can, so none is left over for the next one. The table of
line starts gives the line and the column of every offset (`bisectRight_lineStarts`). Together they
give every token the place that the scan has carried along.
-/

namespace StreamTemplate.Markup

/-- The offsets, from `pos` on, of the characters that fulfil `p` with what stands in front of them,
the nearest first, and behind them. -/
def offsetsWhere (p : List Char → Char → List Char → Bool) (pos : Nat) (left : List Char) :
    List Char → List Nat
  | [] => []
  | a :: right =>
    if p left a right then pos :: offsetsWhere p (pos + 1) (a :: left) right
    else offsetsWhere p (pos + 1) (a :: left) right

/-- White space in front of `<%_`. -/
def opensTrimmed (_left : List Char) (a : Char) (right : List Char) : Bool :=
  isGap id a && startsTrimOpen id (right.dropWhile (isGap id))

/-- White space behind `_%>`. -/
def closesTrimmed (left : List Char) (a : Char) (_right : List Char) : Bool :=
  isGap id a && endsTrimClose id (left.dropWhile (isGap id))

/-- A character that trimming keeps. -/
def isKept (left : List Char) (a : Char) (right : List Char) : Bool :=
  !isTrimmed id left a right

/-! ### Offsets -/

section Offsets

variable {p : List Char → Char → List Char → Bool} {pos : Nat} {left : List Char}

theorem offsetsWhere_cons (a : Char) (right : List Char) :
    offsetsWhere p pos left (a :: right) =
      if p left a right then pos :: offsetsWhere p (pos + 1) (a :: left) right
      else offsetsWhere p (pos + 1) (a :: left) right := rfl

theorem le_of_mem_offsetsWhere {cs : List Char} {i : Nat} (h : i ∈ offsetsWhere p pos left cs) :
    pos ≤ i := by
  induction cs generalizing pos left with
  | nil => cases h
  | cons a right ih =>
    rw [offsetsWhere_cons] at h
    split at h
    · rcases List.mem_cons.1 h with rfl | h
      · exact le_rfl
      · exact (Nat.le_succ pos).trans (ih h)
    · exact (Nat.le_succ pos).trans (ih h)

theorem self_mem_offsetsWhere {a : Char} {right : List Char} :
    pos ∈ offsetsWhere p pos left (a :: right) ↔ p left a right = true := by
  have hnot : pos ∉ offsetsWhere p (pos + 1) (a :: left) right := fun h => by
    have := le_of_mem_offsetsWhere h
    omega
  rw [offsetsWhere_cons]
  split
  case isTrue h => exact iff_of_true (.head _) h
  case isFalse h => exact iff_of_false hnot h

theorem mem_offsetsWhere_cons_of_lt {a : Char} {right : List Char} {i : Nat} (h : pos < i) :
    i ∈ offsetsWhere p pos left (a :: right) ↔ i ∈ offsetsWhere p (pos + 1) (a :: left) right := by
  rw [offsetsWhere_cons]
  split
  case isTrue => rw [List.mem_cons, or_iff_right h.ne']
  case isFalse => rfl

theorem offsetsWhere_append_of_all (pos : Nat) (left xs ys : List Char)
    (h : ∀ l a r, xs = l ++ a :: r → p (l.reverse ++ left) a (r ++ ys) = true) :
    offsetsWhere p pos left (xs ++ ys) =
      List.range' pos xs.length ++ offsetsWhere p (pos + xs.length) (xs.reverse ++ left) ys := by
  induction xs generalizing pos left with
  | nil => rfl
  | cons a xs ih =>
    have ha : p left a (xs ++ ys) = true := h [] a xs rfl
    rw [List.cons_append, offsetsWhere_cons, ha, if_pos rfl,
      ih (pos + 1) (a :: left) fun l b r he => by simpa using h (a :: l) b r (by rw [he]; rfl)]
    simp [List.range'_succ, Nat.add_assoc, Nat.add_comm 1]

/-- The kept offsets are those in neither of the two lists of removed ones. -/
theorem filter_range'_eq (pos : Nat) (left cs : List Char) :
    (List.range' pos cs.length).filter
        (· ∉ offsetsWhere opensTrimmed pos left cs ++ offsetsWhere closesTrimmed pos left cs) =
      offsetsWhere isKept pos left cs := by
  induction cs generalizing pos left with
  | nil => rfl
  | cons a right ih =>
    have hpos : pos ∉ offsetsWhere opensTrimmed pos left (a :: right) ++
        offsetsWhere closesTrimmed pos left (a :: right) ↔ isKept left a right = true := by
      have hkept : isKept left a right =
          !(opensTrimmed left a right || closesTrimmed left a right) := by
        rw [isKept, isTrimmed, Bool.and_or_distrib_left]
        rfl
      rw [List.mem_append, self_mem_offsetsWhere, self_mem_offsetsWhere, hkept]
      simp
    have htail : (List.range' (pos + 1) right.length).filter
        (· ∉ offsetsWhere opensTrimmed pos left (a :: right) ++
          offsetsWhere closesTrimmed pos left (a :: right)) =
        offsetsWhere isKept (pos + 1) (a :: left) right := by
      rw [← ih]
      refine List.filter_congr fun i hi => ?_
      have hlt : pos < i := (List.mem_range'_1.1 hi).1
      refine decide_eq_decide.2 (not_congr ?_)
      rw [List.mem_append, List.mem_append, mem_offsetsWhere_cons_of_lt hlt,
        mem_offsetsWhere_cons_of_lt hlt]
    rw [List.length_cons, List.range'_succ, List.filter_cons, htail,
      offsetsWhere_cons (p := isKept)]
    simp only [decide_eq_true_eq, hpos]

end Offsets

/-! ### Searches -/

section Searches

variable {matchAt : List Char → Option Nat} (pos : Nat)

theorem findAll_skip (xs ys : List Char) :
    findAll matchAt pos xs.length (xs ++ ys) = findAll matchAt (pos + xs.length) 0 ys := by
  induction xs generalizing pos with
  | nil => rfl
  | cons x xs ih =>
    exact (ih (pos + 1)).trans (by rw [List.length_cons, Nat.add_right_comm, Nat.add_assoc pos])

theorem findAll_of_match {found rest : List Char} (hne : found ≠ [])
    (h : matchAt (found ++ rest) = some found.length) :
    findAll matchAt pos 0 (found ++ rest) =
      (pos, pos + found.length) :: findAll matchAt (pos + found.length) 0 rest := by
  obtain ⟨x, xs, rfl⟩ := List.exists_cons_of_ne_nil hne
  rw [List.cons_append] at h ⊢
  rw [findAll, h]
  dsimp only
  rw [List.length_cons, Nat.add_sub_cancel, findAll_skip, Nat.add_right_comm, Nat.add_assoc pos]

theorem findAll_of_not_match {c : Char} {rest : List Char} (h : matchAt (c :: rest) = none) :
    findAll matchAt pos 0 (c :: rest) = findAll matchAt (pos + 1) 0 rest := by
  rw [findAll, h]

end Searches

theorem dropWhile_run {run tail : List Char} (h : ∀ x ∈ run, isGap id x = true) :
    (run ++ tail).dropWhile (isGap id) = tail.dropWhile (isGap id) :=
  List.dropWhile_append_of_pos h

theorem not_opensTrimmed {left right : List Char} {a : Char}
    (h : startsTrimOpen id ((a :: right).dropWhile (isGap id)) = false) :
    opensTrimmed left a right = false := by
  cases hg : isGap id a with
  | false => rw [opensTrimmed, hg, Bool.false_and]
  | true =>
    rw [List.dropWhile_cons_of_pos hg] at h
    rw [opensTrimmed, h, Bool.and_false]

theorem offsetsWhere_opensTrimmed_run (pos : Nat) (left : List Char) {run rest : List Char}
    {a b c : Char} (hrun : ∀ x ∈ run, isGap id x = true)
    (h : startsTrimOpen id (a :: b :: c :: rest) = true) :
    offsetsWhere opensTrimmed pos left (run ++ a :: b :: c :: rest) =
      List.range' pos run.length ++
        offsetsWhere opensTrimmed (pos + run.length + 3) (c :: b :: a :: (run.reverse ++ left))
          rest := by
  have hchars := h
  simp only [startsTrimOpen, id, Bool.and_eq_true, beq_iff_eq] at hchars
  obtain ⟨⟨rfl, rfl⟩, rfl⟩ := hchars
  rw [offsetsWhere_append_of_all]
  · rfl
  · rintro l x r rfl
    have hr : ∀ y ∈ r, isGap id y = true := fun y hy => hrun y (by simp [hy])
    rw [opensTrimmed, hrun x (by simp), dropWhile_run hr]
    exact h

theorem flatMap_findAll_blanksAndOpen (pos : Nat) (left cs : List Char) :
    ((findAll blanksAndOpen pos 0 cs).flatMap fun found =>
        List.range' found.1 (found.2 - 3 - found.1)) = offsetsWhere opensTrimmed pos left cs := by
  induction hn : cs.length using Nat.strongRecOn generalizing pos left cs with
  | _ n ih =>
    cases ho : startsTrimOpen id (cs.dropWhile (isGap id)) with
    | false =>
      cases cs with
      | nil => rfl
      | cons c rest =>
        have hnone : blanksAndOpen (c :: rest) = none :=
          if_neg fun h => Bool.false_ne_true (ho.symm.trans h)
        rw [findAll_of_not_match pos hnone, offsetsWhere_cons, not_opensTrimmed ho,
          if_neg Bool.false_ne_true]
        exact ih rest.length (by simp [← hn]) (pos + 1) (c :: left) rest rfl
    | true =>
      obtain ⟨a, b, c, rest, hdrop⟩ := exists_cons_of_startsTrimOpen ho
      obtain ⟨run, hrun⟩ : ∃ run, cs.takeWhile (isGap id) = run := ⟨_, rfl⟩
      have hcs : cs = run ++ a :: b :: c :: rest := by
        rw [← hrun, ← hdrop, List.takeWhile_append_dropWhile]
      have hgap : ∀ x ∈ run, isGap id x = true := fun x hx =>
        List.mem_takeWhile_imp (hrun ▸ hx)
      have hfound : blanksAndOpen cs = some (run.length + 3) := hrun ▸ if_pos ho
      have happend : run ++ a :: b :: c :: rest = (run ++ [a, b, c]) ++ rest := by simp
      have hlen : (run ++ [a, b, c]).length = run.length + 3 := by simp
      rw [hdrop] at ho
      rw [hcs, offsetsWhere_opensTrimmed_run pos left hgap ho,
        ← ih rest.length (by rw [← hn, hcs]; simp; omega) _ _ rest rfl, happend,
        findAll_of_match pos (by simp) (by rw [← happend, ← hcs, hfound, hlen]), List.flatMap_cons,
        hlen, Nat.add_assoc, show pos + (run.length + 3) - 3 - pos = run.length by omega]

/-- Between two finds: what the last find has not taken is no white space of its delimiter. -/
structure Between (left right : List Char) : Prop where
  clear : Clear id left right
  taken : endsTrimClose id (left.dropWhile (isGap id)) = true →
    ∀ a rest, right = a :: rest → isGap id a = false

theorem Between.nil (cs : List Char) : Between [] cs :=
  ⟨Clear.nil cs, fun h => absurd h Bool.false_ne_true⟩

theorem Between.not_closesTrimmed {left right : List Char} {a : Char}
    (h : Between left (a :: right)) : closesTrimmed left a right = false := by
  rw [closesTrimmed, Bool.and_eq_false_iff]
  refine or_iff_not_imp_right.2 fun he => ?_
  exact h.taken (by simpa using he) a right rfl

theorem Between.step {left right : List Char} {a : Char} (h : Between left (a :: right))
    (hc : startsTrimClose id (a :: right) = false) : Between (a :: left) right where
  clear := h.clear.step hc
  taken he := by
    cases hg : isGap id a with
    | true =>
      rw [List.dropWhile_cons_of_pos hg] at he
      exact absurd (hg.symm.trans (h.taken he a right rfl)) Bool.false_ne_true.symm
    | false =>
      rw [List.dropWhile_cons_of_neg (by simp [hg]), h.clear.not_endsTrimClose] at he
      exact absurd he Bool.false_ne_true

theorem Clear.run {left run right : List Char} (hrun : ∀ x ∈ run, isGap id x = true)
    (h : Clear id left (run ++ right)) : Clear id (run.reverse ++ left) right := by
  induction run generalizing left with
  | nil => exact h
  | cons x run ih =>
    have hx := h.step (not_startsTrimClose_of_isGap (hrun x (.head _)))
    simpa using ih (fun y hy => hrun y (.tail x hy)) hx

theorem Between.close {left run right : List Char} {a b c : Char}
    (h : startsTrimClose id (a :: b :: c :: (run ++ right)) = true)
    (hrun : ∀ x ∈ run, isGap id x = true)
    (hright : ∀ x rest, right = x :: rest → isGap id x = false) :
    Between (run.reverse ++ c :: b :: a :: left) right :=
  ⟨(Clear.close h).run hrun, fun _ => hright⟩

theorem offsetsWhere_closesTrimmed_run (pos : Nat) (left : List Char) {run rest : List Char}
    {a b c : Char} (hrun : ∀ x ∈ run, isGap id x = true)
    (h : startsTrimClose id (a :: b :: c :: (run ++ rest)) = true) :
    offsetsWhere closesTrimmed pos left (a :: b :: c :: (run ++ rest)) =
      List.range' (pos + 3) run.length ++
        offsetsWhere closesTrimmed (pos + 3 + run.length) (run.reverse ++ c :: b :: a :: left)
          rest := by
  simp only [startsTrimClose, id, Bool.and_eq_true, beq_iff_eq] at h
  obtain ⟨⟨rfl, rfl⟩, rfl⟩ := h
  refine Eq.trans rfl (offsetsWhere_append_of_all _ _ _ _ ?_)
  rintro l x r rfl
  have hl : ∀ y ∈ l.reverse, isGap id y = true := fun y hy =>
    hrun y (List.mem_append_left _ (List.mem_reverse.1 hy))
  rw [closesTrimmed, hrun x (by simp), dropWhile_run hl]
  rfl

theorem flatMap_findAll_closeAndBlanks (pos : Nat) {left cs : List Char} (h : Between left cs) :
    ((findAll closeAndBlanks pos 0 cs).flatMap fun found =>
        List.range' (found.1 + 3) (found.2 - (found.1 + 3))) =
      offsetsWhere closesTrimmed pos left cs := by
  induction hn : cs.length using Nat.strongRecOn generalizing pos left cs with
  | _ n ih =>
    cases hc : startsTrimClose id cs with
    | false =>
      cases cs with
      | nil => rfl
      | cons c rest =>
        have hnone : closeAndBlanks (c :: rest) = none :=
          if_neg fun h => Bool.false_ne_true (hc.symm.trans h)
        rw [findAll_of_not_match pos hnone, offsetsWhere_cons, h.not_closesTrimmed,
          if_neg Bool.false_ne_true]
        exact ih rest.length (by simp [← hn]) (pos + 1) (h.step hc) rfl
    | true =>
      obtain ⟨a, b, c, behind, rfl⟩ := exists_cons_of_startsTrimClose hc
      obtain ⟨run, hrun⟩ : ∃ run, behind.takeWhile (isGap id) = run := ⟨_, rfl⟩
      obtain ⟨rest, hrest⟩ : ∃ rest, behind.dropWhile (isGap id) = rest := ⟨_, rfl⟩
      have hgap : ∀ x ∈ run, isGap id x = true := fun x hx =>
        List.mem_takeWhile_imp (hrun ▸ hx)
      have hstop : ∀ x more, rest = x :: more → isGap id x = false := by
        intro x more he
        have := List.head?_dropWhile_not (isGap id) behind
        rw [hrest, he] at this
        simpa using this
      have hfound : closeAndBlanks (a :: b :: c :: behind) = some (3 + run.length) :=
        hrun ▸ if_pos hc
      obtain rfl : run ++ rest = behind := by
        rw [← hrun, ← hrest, List.takeWhile_append_dropWhile]
      have happend : a :: b :: c :: (run ++ rest) = (a :: b :: c :: run) ++ rest := rfl
      have hlen : (a :: b :: c :: run).length = 3 + run.length := by
        simp [Nat.add_comm 3]
      rw [offsetsWhere_closesTrimmed_run pos left hgap hc,
        ← ih rest.length (by rw [← hn]; simp; omega) _ (Between.close hc hgap hstop) rfl, happend,
        findAll_of_match pos (List.cons_ne_nil _ _) (by rw [← happend, hfound, hlen]),
        List.flatMap_cons, hlen, Nat.add_assoc,
        show pos + (3 + run.length) - (pos + 3) = run.length by omega]

/-- Trimming keeps the offsets that the table lists. -/
theorem keptOffsets_eq (cs : List Char) : keptOffsets cs = offsetsWhere isKept 0 [] cs := by
  rw [← filter_range'_eq, keptOffsets, removedOffsets, flatMap_findAll_blanksAndOpen 0 [],
    flatMap_findAll_closeAndBlanks 0 (Between.nil cs), List.range_eq_range']

/-! ### Lines -/

/-- The offsets behind the line feeds of some characters, the first of them at `pos`. -/
def breaksFrom (pos : Nat) (cs : List Char) : List Nat :=
  ((cs.zipIdx pos).filter (·.1 = '\n')).map (·.2 + 1)

theorem breaksFrom_append (pos : Nat) (xs ys : List Char) :
    breaksFrom pos (xs ++ ys) = breaksFrom pos xs ++ breaksFrom (pos + xs.length) ys := by
  rw [breaksFrom, List.zipIdx_append, List.filter_append, List.map_append]
  rfl

theorem breaksFrom_singleton (pos : Nat) (c : Char) :
    breaksFrom pos [c] = if c = '\n' then [pos + 1] else [] := by
  rw [breaksFrom, List.zipIdx_singleton, List.filter_singleton]
  split <;> simp_all

theorem lineStarts_eq (before after : List Char) :
    lineStarts (before ++ after) =
      (0 :: breaksFrom 0 before) ++ breaksFrom before.length after := by
  rw [lineStarts, ← breaksFrom, breaksFrom_append, Nat.zero_add, List.cons_append]

theorem mem_breaksFrom {pos i : Nat} {cs : List Char} (h : i ∈ breaksFrom pos cs) :
    pos < i ∧ i ≤ pos + cs.length := by
  obtain ⟨⟨c, j⟩, hj, rfl⟩ := List.mem_map.1 h
  have := List.mem_zipIdx (List.mem_filter.1 hj).1
  exact ⟨Nat.lt_succ_of_le this.1, this.2.1⟩

theorem length_breaksFrom (pos : Nat) (cs : List Char) :
    (breaksFrom pos cs).length = cs.count '\n' := by
  induction cs generalizing pos with
  | nil => rfl
  | cons c cs ih =>
    have hc : breaksFrom pos (c :: cs) = breaksFrom pos [c] ++ breaksFrom (pos + 1) cs :=
      breaksFrom_append pos [c] cs
    rw [hc, List.length_append, ih, List.count_cons, breaksFrom_singleton, Nat.add_comm]
    split <;> simp_all

/-- The line that the table gives is the one the character stands in. -/
theorem bisectRight_lineStarts (before after : List Char) :
    bisectRight (lineStarts (before ++ after)) before.length = lineAfter before := by
  rw [lineStarts_eq, bisectRight, List.takeWhile_append_of_pos, lineAfter]
  · have hnone : (breaksFrom before.length after).takeWhile (· ≤ before.length) = [] := by
      cases hb : breaksFrom before.length after with
      | nil => rfl
      | cons i more =>
        have := (mem_breaksFrom (hb ▸ List.mem_cons_self : i ∈ _)).1
        rw [List.takeWhile_cons_of_neg (by simpa using this)]
    rw [hnone, List.append_nil, List.length_cons, length_breaksFrom]
  · intro i hi
    rcases List.mem_cons.1 hi with rfl | hi
    · simp
    · simpa using (mem_breaksFrom hi).2

theorem colAfter_le (before : List Char) : colAfter before ≤ before.length := by
  rw [colAfter]
  exact (List.takeWhile_prefix _).length_le.trans_eq List.length_reverse

theorem getLast_breaksFrom (before : List Char) :
    (0 :: breaksFrom 0 before)[before.count '\n']? = some (before.length - colAfter before) := by
  induction before using List.reverseRecOn with
  | nil => rfl
  | append_singleton before c ih =>
    have hle := colAfter_le before
    rw [breaksFrom_append, breaksFrom_singleton, colAfter_snoc, List.count_append,
      List.count_singleton, List.length_append, List.length_singleton, Nat.zero_add]
    split
    case isTrue hc =>
      subst hc
      rw [← List.cons_append, List.getElem?_append_right (by simp [length_breaksFrom])]
      simp [length_breaksFrom]
    case isFalse hc =>
      have hc' : (c == '\n') = false := beq_eq_false_iff_ne.2 hc
      rw [hc', List.append_nil, Nat.add_sub_add_right, ← ih]
      rfl

/-- The start that the table gives for the line is as far in front of the character as its column
says. -/
theorem getElem?_lineStarts (before after : List Char) :
    (lineStarts (before ++ after))[lineAfter before - 1]? =
      some (before.length - colAfter before) := by
  rw [lineStarts_eq, lineAfter, Nat.add_sub_cancel,
    List.getElem?_append_left (by simp [length_breaksFrom]), getLast_breaksFrom]

/-- The tables give the place of a kept character. -/
theorem positionAt_eq {source : String} {n : Nat} {before after : List Char}
    (hs : source.toList = before ++ after)
    (hn : (keptOffsets source.toList)[n]? = some before.length) :
    positionAt source n = some (lineAfter before, colAfter before) := by
  have hle := colAfter_le before
  rw [positionAt, hn]
  simp only [Option.bind_eq_bind, Option.bind_some, hs, bisectRight_lineStarts,
    getElem?_lineStarts]
  rw [Option.pure_def, Nat.sub_sub_self hle]

/-! ### Every token -/

/-- The token stands in the template behind `before`, at the place that it carries. -/
structure Token.At (t : Token) (source before : List Char) : Prop where
  value : before ++ t.value.toList <+: source
  line : t.line = lineAfter before
  col : t.col = colAfter before

/-- Every token stands at its place, and the tables find its first character. -/
theorem Covers.split {before rest : List Char} {ts us : List Token} {t : Token}
    (h : Covers before (ts ++ t :: us) rest) :
    ∃ m more, rest = m ++ (t.value.toList ++ more) ∧ t.At (before ++ rest) (before ++ m) ∧
      ∃ kept later, offsetsWhere isKept before.length before.reverse rest =
        kept ++ (before ++ m).length :: later ∧ kept.length = (textOf ts).length := by
  generalize hall : ts ++ t :: us = all at h
  induction h generalizing ts with
  | done => simp at hall
  | @gap before all a rest trimmed more ih =>
    obtain ⟨m, tail, rfl, hat, kept, later, hoff, hlen⟩ := ih hall
    refine ⟨a :: m, tail, rfl, by simpa using hat, kept, later, ?_, hlen⟩
    have ha : isKept before.reverse a (m ++ (t.value.toList ++ tail)) = false := by
      rw [isKept, trimmed]
      rfl
    rw [offsetsWhere_cons, ha, if_neg Bool.false_ne_true]
    simpa using hoff
  | @token before t₀ all rest ne line col kept more ih =>
    have hoff := offsetsWhere_append_of_all (p := isKept) before.length before.reverse
      t₀.value.toList rest fun l a r he => by rw [isKept, kept l a r he]; rfl
    rcases ts with _ | ⟨t₁, ts⟩
    · obtain ⟨rfl, rfl⟩ := List.cons.inj hall
      obtain ⟨c, value, hvalue⟩ := List.exists_cons_of_ne_nil ne
      have hfirst : List.range' before.length t.value.toList.length =
          before.length :: List.range' (before.length + 1) value.length := by
        rw [hvalue, List.length_cons, List.range'_succ]
      rw [hfirst, List.cons_append] at hoff
      rw [← List.append_nil before] at line col
      exact ⟨[], rest, rfl, ⟨⟨rest, by simp⟩, line, col⟩, [], _,
        hoff.trans (by rw [List.append_nil]; rfl), rfl⟩
    · obtain ⟨rfl, hall'⟩ := List.cons.inj hall
      obtain ⟨m, tail, rfl, hat, kept', later, hoff', hlen⟩ := ih hall'
      refine ⟨t₁.value.toList ++ m, tail, by simp, by simpa using hat,
        List.range' before.length t₁.value.toList.length ++ kept', later, ?_, by simp [hlen]⟩
      rw [hoff]
      simpa using hoff'

/-- Places grow along the template. -/
theorem place_lt (before : List Char) {m : List Char} (hm : m ≠ []) :
    lineAfter before < lineAfter (before ++ m) ∨
      lineAfter before = lineAfter (before ++ m) ∧ colAfter before < colAfter (before ++ m) := by
  induction m generalizing before with
  | nil => exact absurd rfl hm
  | cons c m ih =>
    have hstep : lineAfter before < lineAfter (before ++ [c]) ∨
        lineAfter before = lineAfter (before ++ [c]) ∧
          colAfter before < colAfter (before ++ [c]) := by
      rw [lineAfter_snoc, colAfter_snoc]
      split <;> omega
    rw [List.append_cons]
    by_cases hnil : m = []
    · rwa [hnil, List.append_nil]
    · have := ih (before ++ [c]) hnil
      omega

/-- One place is in front of another: on an earlier line, or in an earlier column of its line. -/
def Token.Precedes (t u : Token) : Prop :=
  t.line < u.line ∨ t.line = u.line ∧ t.col < u.col

theorem Covers.pairwise {before rest : List Char} {ts : List Token} (h : Covers before ts rest) :
    ts.Pairwise Token.Precedes := by
  induction h with
  | done => exact .nil
  | gap _ _ ih => exact ih
  | @token before t ts rest ne line col kept more ih =>
    refine List.pairwise_cons.2 ⟨fun u hu => ?_, ih⟩
    obtain ⟨vs, us, rfl⟩ := List.append_of_mem hu
    obtain ⟨m, -, -, hat, -⟩ := more.split
    rw [Token.Precedes, line, col, hat.line, hat.col, List.append_assoc]
    exact place_lt before (by simp [ne])

/-- A character that no token covers is trimmed white space. -/
theorem Covers.uncovered {before rest left right : List Char} {ts : List Token} {c : Char}
    (h : Covers before ts rest) (he : rest = left ++ c :: right) :
    (∃ t ∈ ts, ∃ start, t.At (before ++ rest) start ∧ start.length ≤ (before ++ left).length ∧
        (before ++ left).length < start.length + t.value.toList.length) ∨
      isTrimmed id (before ++ left).reverse c right = true := by
  induction h generalizing left with
  | done => simp at he
  | @gap before ts a rest trimmed more ih =>
    rcases left with _ | ⟨a', left⟩
    · obtain ⟨rfl, rfl⟩ := List.cons.inj he
      exact .inr (by simpa using trimmed)
    · obtain ⟨rfl, he'⟩ := List.cons.inj he
      simpa using ih he'
  | @token before t ts rest ne line col kept more ih =>
    by_cases hlt : left.length < t.value.toList.length
    · refine .inl ⟨t, .head _, before, ⟨⟨rest, by simp⟩, line, col⟩, by simp, ?_⟩
      rw [List.length_append]
      omega
    · obtain ⟨left, rfl⟩ : t.value.toList <+: left :=
        List.prefix_of_prefix_length_le ⟨rest, rfl⟩ ⟨c :: right, he.symm⟩ (Nat.le_of_not_lt hlt)
      rw [List.append_assoc, List.append_cancel_left_eq] at he
      rcases ih he with ⟨u, hu, start, hat, hle, hlt'⟩ | htrim
      · exact .inl ⟨u, .tail t hu, start, by simpa using hat, by simpa using hle, by simpa using hlt'⟩
      · exact .inr (by simpa using htrim)

/-- Every token of a template stands in it as written, in one piece, at the line and the column
that it carries, which are also what the tables give for its first character; the places of the
tokens grow; and what no token covers is white space of a trimming tag. -/
theorem tokenize_positions (source : String) :
    (∀ before t after, tokenize source = before ++ t :: after →
      positionAt source (textOf before).length = some (t.line, t.col) ∧
        ∃ start, t.At source.toList start) ∧
      (tokenize source).Pairwise Token.Precedes ∧
      ∀ left c right, source.toList = left ++ c :: right →
        (∃ t ∈ tokenize source, ∃ start, t.At source.toList start ∧
            start.length ≤ left.length ∧ left.length < start.length + t.value.toList.length) ∨
          isTrimmed id left.reverse c right = true := by
  have hcovers := covers_tokenize source
  refine ⟨fun before t after he => ?_, hcovers.pairwise, fun left c right he => ?_⟩
  · rw [he] at hcovers
    obtain ⟨m, more, hrest, hat, kept, later, hoff, hlen⟩ := hcovers.split
    refine ⟨?_, m, hat⟩
    have hplace := positionAt_eq (n := (textOf before).length) hrest
      (by rw [keptOffsets_eq, ← hlen]; exact (congrArg (·[kept.length]?) hoff).trans (by simp))
    rw [hplace, hat.line, hat.col]
    rfl
  · exact hcovers.uncovered he

-- The white space in front of the one delimiter and behind the other, which share a character.
example : (tokenize "a <%_%> b").map (fun t => (t.value, t.line, t.col)) =
    [("a", 1, 0), ("<%_", 1, 2), ("%>", 1, 5), ("b", 1, 8)] := by decide

end StreamTemplate.Markup
