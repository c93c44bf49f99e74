import StreamTemplate.Proofs.Markup.Position

/-!
# Runs of white space

What trimming removes, said of the text as a whole: its spaces and tabs lie in runs, and a run goes
entirely if `<%_` follows it or `_%>` is in front of it, and stays entirely otherwise
(`isTrimmed_iff`). The offsets that are kept, in their order, spell the trimmed text
(`map_untrimmed_eq`).
-/

namespace StreamTemplate.Markup

open Text

/-- The spaces and tabs `run` stand between `before` and `after`, and the run goes no further on
either side. -/
structure IsRun (before run after : List Char) : Prop where
  blank : ∀ c ∈ run, isHorizontal c = true
  starts : ∀ c, before.getLast? = some c → isHorizontal c = false
  stops : ∀ c, after.head? = some c → isHorizontal c = false

/-- The character at an offset is a space or a tab of a run that `<%_` follows or `_%>` precedes. -/
def InTrimmedRun (cs : List Char) (i : Nat) : Prop :=
  ∃ before run after, cs = before ++ run ++ after ∧ IsRun before run after ∧
    before.length ≤ i ∧ i < before.length + run.length ∧
    (['<', '%', '_'] <+: after ∨ ['_', '%', '>'] <:+ before)

/-! ### The run around a character -/

/-- The characters around a space or a tab, divided into its run and the rest. -/
theorem isRun_around (left right : List Char) {a : Char} (ha : isHorizontal a = true) :
    IsRun (left.dropWhile isHorizontal).reverse
      ((left.takeWhile isHorizontal).reverse ++ a :: right.takeWhile isHorizontal)
      (right.dropWhile isHorizontal) where
  blank c hc := by
    rcases List.mem_append.1 hc with hc | hc
    · exact List.mem_takeWhile_imp (List.mem_reverse.1 hc)
    · rcases List.mem_cons.1 hc with rfl | hc
      · exact ha
      · exact List.mem_takeWhile_imp hc
  starts c hc := by
    have stop := List.head?_dropWhile_not isHorizontal left
    rw [← List.head?_reverse, List.reverse_reverse] at hc
    simpa [hc] using stop
  stops c hc := by
    have stop := List.head?_dropWhile_not isHorizontal right
    simpa [hc] using stop

/-- The run that a character belongs to is determined by what stands on its two sides. -/
theorem IsRun.around {before run after left right : List Char} {a : Char}
    (h : IsRun before run after) (same : before ++ run ++ after = left.reverse ++ a :: right)
    (from_start : before.length ≤ left.length) (to_stop : left.length < before.length + run.length) :
    isHorizontal a = true ∧ left.dropWhile isHorizontal = before.reverse ∧
      right.dropWhile isHorizontal = after := by
  obtain ⟨front, here, split⟩ : ∃ front back, run = front ++ back ∧ left.reverse = before ++ front := by
    have reach : before <+: left.reverse :=
      List.prefix_of_prefix_length_le ⟨run ++ after, by rw [← same, List.append_assoc]⟩
        ⟨a :: right, rfl⟩ (by simpa using from_start)
    obtain ⟨front, hf⟩ := reach
    rw [← hf, List.append_assoc, List.append_assoc, List.append_cancel_left_eq] at same
    have len : before.length + front.length = left.length := by
      rw [← List.length_append, hf, List.length_reverse]
    obtain ⟨back, hb⟩ : front <+: run :=
      List.prefix_of_prefix_length_le ⟨a :: right, same.symm⟩ ⟨after, rfl⟩ (by omega)
    exact ⟨front, back, hb.symm, hf.symm⟩
  obtain ⟨rfl, hleft⟩ := split
  rw [hleft, List.append_assoc, List.append_assoc, List.append_assoc, List.append_cancel_left_eq,
    List.append_cancel_left_eq] at same
  have len : left.length = before.length + front.length := by
    rw [← List.length_reverse, hleft, List.length_append]
  cases here with
  | nil =>
    rw [List.append_nil] at to_stop
    omega
  | cons b here =>
    obtain ⟨rfl, rfl⟩ := List.cons.inj same
    have stop (c : Char) (cs : List Char) (hc : isHorizontal c = false) :
        (c :: cs).dropWhile isHorizontal = c :: cs := List.dropWhile_cons_of_neg (by simp [hc])
    refine ⟨h.blank b (by simp), ?_, ?_⟩
    · have hleft : left = front.reverse ++ before.reverse := by
        rw [← List.reverse_reverse left, hleft, List.reverse_append]
      rw [hleft, List.dropWhile_append_of_pos fun c hc => h.blank c (by simp_all)]
      cases hb : before.reverse with
      | nil => rfl
      | cons c cs => exact stop c cs (h.starts c (by rw [← List.head?_reverse, hb]; rfl))
    · change (here ++ after).dropWhile isHorizontal = after
      rw [List.dropWhile_append_of_pos fun c hc => h.blank c (by simp [hc])]
      cases after with
      | nil => rfl
      | cons c cs => exact stop c cs (h.stops c rfl)

theorem endsTrimClose_reverse_iff {before : List Char} :
    endsTrimClose id before.reverse = true ↔ ['_', '%', '>'] <:+ before := by
  rw [endsTrimClose_iff, List.map_id, ← List.reverse_prefix]
  rfl

/-- A character is trimmed with its whole run. -/
theorem isTrimmed_iff (left : List Char) (a : Char) (right : List Char) :
    isTrimmed id left a right = true ↔ InTrimmedRun (left.reverse ++ a :: right) left.length := by
  constructor
  · intro h
    obtain ⟨ha, ho⟩ := Bool.and_eq_true_iff.1 h
    refine ⟨_, _, _, ?_, isRun_around left right ha, ?_, ?_, ?_⟩
    · have split : left.reverse =
          (left.dropWhile isHorizontal).reverse ++ (left.takeWhile isHorizontal).reverse := by
        rw [← List.reverse_append, List.takeWhile_append_dropWhile]
      rw [split]
      simp
    · simpa using (List.dropWhile_sublist _).length_le
    · have := congrArg List.length (List.takeWhile_append_dropWhile (p := isHorizontal) (l := left))
      simp only [List.length_append] at this
      simp only [List.length_reverse, List.length_append, List.length_cons]
      omega
    · refine (Bool.or_eq_true_iff.1 ho).imp (fun open_ => ?_) fun close => ?_
      · have delimiter := startsTrimOpen_iff.1 open_
        rw [List.map_id] at delimiter
        exact delimiter
      · rw [← endsTrimClose_reverse_iff, List.reverse_reverse]
        exact close
  · rintro ⟨before, run, after, same, h, from_start, to_stop, ends⟩
    obtain ⟨ha, hl, hr⟩ := h.around same.symm from_start to_stop
    have hl : left.dropWhile (isGap id) = before.reverse := hl
    have hr : right.dropWhile (isGap id) = after := hr
    have gap : isGap id a = true := ha
    rw [isTrimmed, gap, hl, hr, Bool.true_and, Bool.or_eq_true, startsTrimOpen_iff,
      endsTrimClose_reverse_iff, List.map_id]
    exact ends

/-! ### What is kept -/

theorem mem_offsetsWhere_iff {p : List Char → Char → List Char → Bool} {pos : Nat}
    {left cs : List Char} {i : Nat} :
    i ∈ offsetsWhere p pos left cs ↔
      ∃ l a r, cs = l ++ a :: r ∧ i = pos + l.length ∧ p (l.reverse ++ left) a r = true := by
  induction cs generalizing pos left with
  | nil => exact ⟨fun h => absurd h List.not_mem_nil, fun ⟨l, a, r, h, _⟩ => by simp at h⟩
  | cons c cs ih =>
    have split : i ∈ offsetsWhere p pos left (c :: cs) ↔
        i = pos ∧ p left c cs = true ∨ i ∈ offsetsWhere p (pos + 1) (c :: left) cs := by
      rw [offsetsWhere_cons]
      split
      case isTrue h => rw [List.mem_cons, and_iff_left h]
      case isFalse h => rw [or_iff_right fun both => h both.2]
    rw [split, ih]
    constructor
    · rintro (⟨rfl, h⟩ | ⟨l, a, r, rfl, rfl, h⟩)
      · exact ⟨[], c, cs, rfl, rfl, h⟩
      · exact ⟨c :: l, a, r, rfl, by simp [Nat.add_assoc, Nat.add_comm 1], by simpa using h⟩
    · rintro ⟨_ | ⟨b, l⟩, a, r, same, rfl, h⟩
      · obtain ⟨rfl, rfl⟩ := List.cons.inj same
        exact .inl ⟨rfl, h⟩
      · obtain ⟨rfl, rfl⟩ := List.cons.inj same
        exact .inr ⟨l, a, r, rfl, by simp [Nat.add_assoc, Nat.add_comm 1], by simpa using h⟩

theorem pairwise_offsetsWhere (p : List Char → Char → List Char → Bool) (pos : Nat)
    (left cs : List Char) : (offsetsWhere p pos left cs).Pairwise (· < ·) := by
  induction cs generalizing pos left with
  | nil => exact .nil
  | cons c cs ih =>
    rw [offsetsWhere_cons]
    split
    · exact .cons (fun i hi => le_of_mem_offsetsWhere hi) (ih _ _)
    · exact ih _ _

/-- The kept offsets spell what trimming leaves. -/
theorem map_untrimmed_eq (left cs : List Char) :
    (untrimmed id left cs).map some =
      (offsetsWhere isKept left.length left cs).map ((left.reverse ++ cs)[·]?) := by
  induction cs generalizing left with
  | nil => rfl
  | cons c cs ih =>
    have more := ih (c :: left)
    rw [List.reverse_cons, List.append_assoc, List.singleton_append, List.length_cons] at more
    rw [untrimmed_cons, offsetsWhere_cons, isKept]
    cases isTrimmed id left c cs with
    | true => exact more
    | false => simpa using more

/-- Preprocessing removes exactly the spaces and tabs of the runs that `<%_` follows or `_%>`
precedes in the template as written and keeps the other characters in their order; doing it twice
is the same as doing it once. -/
theorem preprocess_keeps (source : String) :
    (∃ kept : List Nat, kept.Pairwise (· < ·) ∧
      (∀ i, i ∈ kept ↔ i < source.toList.length ∧ ¬ InTrimmedRun source.toList i) ∧
      (preprocess source).toList.map some = kept.map (source.toList[·]?)) ∧
      preprocess (preprocess source) = preprocess source := by
  refine ⟨⟨offsetsWhere isKept 0 [] source.toList, pairwise_offsetsWhere _ _ _ _, fun i => ?_, ?_⟩,
    preprocess_preprocess source⟩
  · rw [mem_offsetsWhere_iff]
    have judged (l : List Char) (a : Char) (r : List Char) :
        isKept (l.reverse ++ []) a r = true ↔ ¬ InTrimmedRun (l ++ a :: r) l.length := by
      have := isTrimmed_iff l.reverse a r
      rw [List.reverse_reverse, List.length_reverse] at this
      rw [← this, isKept, List.append_nil, Bool.not_eq_true', Bool.not_eq_true]
    constructor
    · rintro ⟨l, a, r, same, rfl, h⟩
      rw [Nat.zero_add, same]
      exact ⟨by simp, (judged l a r).1 h⟩
    · rintro ⟨lt, h⟩
      have same : source.toList.take i ++ source.toList[i] :: source.toList.drop (i + 1) =
          source.toList := by rw [List.cons_getElem_drop_succ, List.take_append_drop]
      have len : (source.toList.take i).length = i := List.length_take_of_le lt.le
      refine ⟨_, _, _, same.symm, by rw [len, Nat.zero_add], (judged _ _ _).2 ?_⟩
      rwa [same, len]
  · rw [preprocess, String.toList_ofList, trimTags_eq_untrimmed]
    exact map_untrimmed_eq [] source.toList

-- One run belongs to both delimiters, the other to none.
example : preprocess "a _%> \t<%_ b <% c" = "a _%><%_ b <% c" := by decide

end StreamTemplate.Markup
