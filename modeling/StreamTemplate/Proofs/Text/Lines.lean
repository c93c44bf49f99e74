import StreamTemplate.Text.Lines
import Mathlib.Data.List.Basic

/-!
# Two ways to count lines

A text is cut at line feeds, and each of the pieces is cut again at the other line boundaries that
are in it (`splitLines_append_feed`). So the two numberings of lines agree up to the first piece that
has such a boundary inside (`take_splitLines`); a carriage return in front of a line feed, or at the
very end, is none.

A run of characters of some class at the front of a text is the same with another text behind it, if
that one does not begin with a character of the class (`takeWhile_append_of_head`).
-/

namespace StreamTemplate.Text

/-- A line without one carriage return at its end. -/
def dropReturn (l : List Char) : List Char :=
  if l.getLast? = some '\r' then l.dropLast else l

/-- A line that holds no boundary, except perhaps a carriage return at its end. -/
def Unbroken (l : List Char) : Prop :=
  ∀ c ∈ dropReturn l, isLineBreak c = false

instance (l : List Char) : Decidable (Unbroken l) :=
  List.decidableBAll _ (dropReturn l)

/-- The lines of a text that are separated by line feeds, each without a carriage return at its end;
what is behind the last line feed is a line if it is not empty. -/
def feedLines (cs : List Char) : List (List Char) :=
  let lines := splitFeeds cs
  (if lines.getLast? = some [] then lines.dropLast else lines).map dropReturn

variable {l before after cs : List Char}

/-! ### What stands behind a text -/

section Behind

variable {p : Char → Bool} {rest : List Char}

theorem any_head_append (h : rest.head?.any p = false) (cs : List Char) :
    (cs ++ rest).head?.any p = cs.head?.any p := by
  cases cs with
  | nil => exact h
  | cons => rfl

theorem takeWhile_append_of_head (h : rest.head?.any p = false) (cs : List Char) :
    (cs ++ rest).takeWhile p = cs.takeWhile p := by
  induction cs with
  | nil =>
    cases rest with
    | nil => rfl
    | cons c rest => exact List.takeWhile_cons_of_neg (Bool.eq_false_iff.1 h)
  | cons c cs ih => rw [List.cons_append, List.takeWhile_cons, List.takeWhile_cons, ih]

end Behind

/-! ### Line feeds -/

theorem splitFeeds_ne_nil (cs : List Char) : splitFeeds cs ≠ [] := by
  cases cs with
  | nil => simp [splitFeeds]
  | cons c rest =>
    rw [splitFeeds]
    split
    · simp
    · cases splitFeeds rest <;> simp [consLine]

theorem consLine_append (c : Char) {lines : List (List Char)} (ne : lines ≠ [])
    (more : List (List Char)) : consLine c (lines ++ more) = consLine c lines ++ more := by
  cases lines with
  | nil => exact absurd rfl ne
  | cons => rfl

/-- What holds of a character and of those in some lines holds of those in the lines with the character
put in front. -/
theorem forall_mem_consLine {P : Char → Prop} {c : Char} {lines : List (List Char)} (here : P c)
    (others : ∀ l ∈ lines, ∀ d ∈ l, P d) : ∀ l ∈ consLine c lines, ∀ d ∈ l, P d := by
  fun_cases consLine c lines with
  | case1 => exact List.forall_mem_singleton.2 (List.forall_mem_singleton.2 here)
  | case2 first rest =>
    obtain ⟨head, tail⟩ := List.forall_mem_cons.1 others
    exact List.forall_mem_cons.2 ⟨List.forall_mem_cons.2 ⟨here, head⟩, tail⟩

/-- A line feed separates the lines in front of it from those behind it. -/
theorem splitFeeds_append_feed (cs rest : List Char) :
    splitFeeds (cs ++ '\n' :: rest) = splitFeeds cs ++ splitFeeds rest := by
  induction cs with
  | nil => rfl
  | cons c cs ih =>
    rw [List.cons_append, splitFeeds, splitFeeds, ih]
    split
    · rfl
    · exact consLine_append c (splitFeeds_ne_nil cs) _

/-- The lines of texts that are joined by line feeds. -/
theorem splitFeeds_intercalate {texts : List String} (ne : texts ≠ []) :
    splitFeeds ("\n".intercalate texts).toList = texts.flatMap fun text => splitFeeds text.toList := by
  rw [String.toList_intercalate, show "\n".toList = ['\n'] from rfl]
  induction texts with
  | nil => exact absurd rfl ne
  | cons text rest ih =>
    cases rest with
    | nil => simp
    | cons next rest =>
      have others := ih (List.cons_ne_nil _ _)
      rw [List.map_cons] at others
      rw [List.flatMap_cons, List.map_cons, List.map_cons, List.intercalate_cons_cons,
        List.append_assoc, List.singleton_append, splitFeeds_append_feed, others]

theorem length_splitFeeds (cs : List Char) : (splitFeeds cs).length = cs.count '\n' + 1 := by
  induction cs with
  | nil => rfl
  | cons c cs ih =>
    obtain ⟨first, rest, split⟩ := List.exists_cons_of_ne_nil (splitFeeds_ne_nil cs)
    rw [splitFeeds]
    split
    · next feed => rw [feed, List.count_cons_self, List.length_cons, ih]
    · next other =>
      rw [List.count_cons_of_ne other, ← ih, split]
      rfl

theorem splitFeeds_of_not_mem (h : '\n' ∉ l) : splitFeeds l = [l] := by
  induction l with
  | nil => rfl
  | cons c l ih =>
    obtain ⟨here, there⟩ := not_or.mp (List.mem_cons.not.mp h)
    rw [splitFeeds, if_neg (Ne.symm here), ih there]
    rfl

/-- A text without line feeds is a line of its own. -/
theorem flatMap_splitFeeds {texts : List String} (h : ∀ text ∈ texts, '\n' ∉ text.toList) :
    texts.flatMap (fun text => splitFeeds text.toList) = texts.map String.toList := by
  induction texts with
  | nil => rfl
  | cons text rest ih =>
    obtain ⟨first, others⟩ := List.forall_mem_cons.1 h
    rw [List.flatMap_cons, splitFeeds_of_not_mem first, ih others]
    rfl

theorem splitFeeds_append (h : '\n' ∉ l) (rest : List Char) :
    splitFeeds (l ++ '\n' :: rest) = l :: splitFeeds rest := by
  induction l with
  | nil => rfl
  | cons c l ih =>
    obtain ⟨here, there⟩ := not_or.mp (List.mem_cons.not.mp h)
    rw [List.cons_append, splitFeeds, if_neg (Ne.symm here), ih there]
    rfl

theorem feedLines_append (h : '\n' ∉ l) (rest : List Char) :
    feedLines (l ++ '\n' :: rest) = dropReturn l :: feedLines rest := by
  have some_line := splitFeeds_ne_nil rest
  unfold feedLines
  simp only [splitFeeds_append h, List.getLast?_cons_of_ne_nil some_line,
    List.dropLast_cons_of_ne_nil some_line]
  split <;> rfl

theorem feedLines_of_not_mem (h : '\n' ∉ l) (ne : l ≠ []) : feedLines l = [dropReturn l] := by
  simp [feedLines, splitFeeds_of_not_mem h, ne]

/-- The line on which a character stands is one of the lines. -/
theorem count_lt_length_feedLines (before : List Char) (c : Char) (after : List Char) :
    before.count '\n' < (feedLines (before ++ c :: after)).length := by
  -- Along the line feeds in front of the character.
  induction hn : before.count '\n' generalizing before with
  | zero =>
    by_cases feed : '\n' ∈ before ++ c :: after
    · obtain ⟨l, rest, split, first⟩ := List.eq_append_cons_of_mem feed
      rw [split, feedLines_append first]
      exact Nat.succ_pos _
    · rw [feedLines_of_not_mem feed (by simp)]
      exact Nat.one_pos
  | succ n ih =>
    have feed : '\n' ∈ before := List.count_pos_iff.mp (hn ▸ Nat.succ_pos n)
    obtain ⟨l, rest, rfl, first⟩ := List.eq_append_cons_of_mem feed
    have fewer : rest.count '\n' = n := by
      rw [List.count_append, List.count_eq_zero.mpr first, List.count_cons_self] at hn
      omega
    rw [List.append_assoc, List.cons_append, feedLines_append first]
    exact Nat.succ_lt_succ (ih rest fewer)

/-! ### All boundaries -/

theorem splitLines_feed (rest : List Char) : splitLines ('\n' :: rest) = [] :: splitLines rest := by
  rw [splitLines, if_pos (by decide)]
  rintro - h
  cases h

theorem splitLines_cons {c : Char} {rest : List Char}
    (h : ∀ more, c = '\r' → rest = '\n' :: more → False) :
    splitLines (c :: rest) =
      if isLineBreak c then [] :: splitLines rest else consLine c (splitLines rest) := by
  rw [splitLines]
  exact h

theorem splitLines_ne_nil (ne : cs ≠ []) : splitLines cs ≠ [] := by
  fun_cases splitLines cs with
  | case1 => exact absurd rfl ne
  | case2 => simp
  | case3 => simp
  | case4 c rest => cases splitLines rest <;> simp [consLine]

/-- A line has no line break. -/
theorem isLineBreak_of_mem_splitLines (cs : List Char) :
    ∀ l ∈ splitLines cs, ∀ c ∈ l, isLineBreak c = false := by
  fun_induction splitLines cs with
  | case1 => exact List.forall_mem_nil _
  | case2 rest ih => exact List.forall_mem_cons.2 ⟨List.forall_mem_nil _, ih⟩
  | case3 d rest _ _ ih => exact List.forall_mem_cons.2 ⟨List.forall_mem_nil _, ih⟩
  | case4 d rest _ plain ih => exact forall_mem_consLine (by simpa using plain) ih

/-- A line feed is a boundary whatever stands around it. -/
theorem splitLines_append_feed (l rest : List Char) :
    splitLines (l ++ '\n' :: rest) = splitLines (l ++ ['\n']) ++ splitLines rest := by
  induction hn : l.length using Nat.strongRecOn generalizing l with
  | _ n ih =>
    rcases l with _ | ⟨c, l⟩
    · rw [List.nil_append, List.nil_append, splitLines_feed, splitLines_feed]
      rfl
    -- A carriage return in front of the line feed, or of one within the line, goes with it.
    by_cases pair : ∃ more, c = '\r' ∧ l ++ ['\n'] = '\n' :: more
    · obtain ⟨more, rfl, split⟩ := pair
      rcases l with _ | ⟨d, l⟩
      · simp [splitLines]
      · obtain ⟨rfl, -⟩ := List.cons.inj split
        have shorter := ih l.length (by simp at hn; omega) l rfl
        simpa [splitLines] using shorter
    · have apart (tail : List Char) : splitLines (c :: l ++ '\n' :: tail) =
          if isLineBreak c then [] :: splitLines (l ++ '\n' :: tail)
          else consLine c (splitLines (l ++ '\n' :: tail)) := by
        refine splitLines_cons fun more here split => pair ?_
        rcases l with _ | ⟨d, l⟩
        · exact ⟨[], here, rfl⟩
        · exact ⟨l ++ ['\n'], here, by rw [(List.cons.inj split).1]; rfl⟩
      have shorter := ih l.length (by simp at hn; omega) l rfl
      rw [apart, apart, shorter]
      split
      · rfl
      · exact consLine_append c (splitLines_ne_nil (by simp)) _

theorem splitLines_append (h : ∀ c ∈ l, isLineBreak c = false) (rest : List Char) :
    splitLines (l ++ rest) = l.foldr consLine (splitLines rest) := by
  induction l with
  | nil => rfl
  | cons c l ih =>
    have plain : isLineBreak c = false := h c (.head _)
    rw [List.cons_append, splitLines_cons, plain, if_neg Bool.false_ne_true,
      ih fun c mem => h c (.tail _ mem)]
    · rfl
    · rintro - rfl -
      exact absurd plain (by decide)

theorem foldr_consLine (l line : List Char) (lines : List (List Char)) :
    l.foldr consLine (line :: lines) = (l ++ line) :: lines := by
  induction l with
  | nil => rfl
  | cons c l ih => rw [List.foldr_cons, ih]; rfl

theorem foldr_consLine_nil (ne : l ≠ []) : l.foldr consLine [] = [l] := by
  obtain ⟨init, c, rfl⟩ := List.eq_nil_or_concat l |>.resolve_left ne
  rw [List.concat_eq_append, List.foldr_append]
  exact foldr_consLine init [c] []

theorem eq_or_eq_append_return (l : List Char) :
    dropReturn l = l ∨ l = dropReturn l ++ ['\r'] := by
  unfold dropReturn
  split
  · next last => exact .inr (List.dropLast_append_getLast? '\r' last).symm
  · exact .inl rfl

theorem splitLines_of_unbroken (h : Unbroken l) (ne : l ≠ []) : splitLines l = [dropReturn l] := by
  rcases eq_or_eq_append_return l with whole | cut
  · rw [Unbroken, whole] at h
    rw [whole]
    simpa [foldr_consLine_nil ne, splitLines] using splitLines_append h []
  · calc splitLines l = splitLines (dropReturn l ++ ['\r']) := by rw [← cut]
      _ = (dropReturn l).foldr consLine [[]] := splitLines_append h _
      _ = [dropReturn l] := by rw [foldr_consLine, List.append_nil]

theorem splitLines_feed_of_unbroken (h : Unbroken l) : splitLines (l ++ ['\n']) = [dropReturn l] := by
  rcases eq_or_eq_append_return l with whole | cut
  · rw [Unbroken, whole] at h
    calc splitLines (l ++ ['\n']) = l.foldr consLine [[]] := splitLines_append h _
      _ = [dropReturn l] := by rw [foldr_consLine, List.append_nil, whole]
  · calc splitLines (l ++ ['\n']) = splitLines (dropReturn l ++ ['\r', '\n']) := by
          conv => lhs; rw [cut, List.append_assoc]
          rfl
      _ = (dropReturn l).foldr consLine [[]] := splitLines_append h _
      _ = [dropReturn l] := by rw [foldr_consLine, List.append_nil]

/-- As far as no boundary stands within a line, both ways count the same lines. -/
theorem take_splitLines {n : Nat} (h : ∀ l ∈ (splitFeeds cs).take n, Unbroken l) :
    (splitLines cs).take n = (feedLines cs).take n := by
  induction n generalizing cs with
  | zero => rfl
  | succ n ih =>
    by_cases feed : '\n' ∈ cs
    · obtain ⟨l, rest, rfl, first⟩ := List.eq_append_cons_of_mem feed
      rw [splitFeeds_append first, List.take_succ_cons] at h
      have here : Unbroken l := h l (.head _)
      rw [splitLines_append_feed, splitLines_feed_of_unbroken here, feedLines_append first,
        List.singleton_append, List.take_succ_cons, List.take_succ_cons,
        ih fun l mem => h l (.tail _ mem)]
    · by_cases ne : cs = []
      · subst ne
        rfl
      · rw [splitFeeds_of_not_mem feed] at h
        rw [splitLines_of_unbroken (h cs (.head _)) ne, feedLines_of_not_mem feed ne]

end StreamTemplate.Text
