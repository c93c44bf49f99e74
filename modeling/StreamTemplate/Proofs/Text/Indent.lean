import StreamTemplate.Proofs.Text.Lines
import StreamTemplate.Text.Indent
import Mathlib.Data.List.TakeWhile

/-!
# Lines of a part of a text

A text that is trimmed or dedented keeps its lines in their order: each line of what is left is a part
of a line of the text, and all of them are equally far on (`Within`). They are as far on as there are
line feeds in front of the first character that is kept (`within_trim`, `within_dedent`), which
dedenting does not change (`feedsAhead_dedent`).
-/

namespace StreamTemplate.Text

/-- The lines of `inner`, in their order, are parts of those of `outer`, each of the line that is
`skip` further on. -/
def Within (skip : Nat) (inner outer : List Char) : Prop :=
  ∀ (i : Nat) line, (splitFeeds inner)[i]? = some line →
    ∃ whole, (splitFeeds outer)[skip + i]? = some whole ∧ line <:+: whole

/-- How many line feeds stand in the white space in front of the characters. -/
def feedsAhead (cs : List Char) : Nat :=
  (cs.takeWhile isBlank).count '\n'

variable {c : Char} {cs front back l : List Char} {lines : List (List Char)}

/-! ### Lines as a list -/

theorem splitFeeds_cons (ne : c ≠ '\n') (cs : List Char) :
    splitFeeds (c :: cs) = consLine c (splitFeeds cs) := by
  rw [splitFeeds, if_neg ne]

/-- A character in front of the first line. -/
theorem getElem?_consLine (c : Char) {i : Nat} (h : lines[i]? = some l) :
    ∃ l', (consLine c lines)[i]? = some l' ∧ l <:+ l' := by
  cases lines with
  | nil => cases h
  | cons first rest =>
    cases i with
    | zero =>
      obtain rfl : first = l := Option.some.inj h
      exact ⟨c :: first, rfl, List.suffix_cons c first⟩
    | succ i => exact ⟨l, h, List.suffix_rfl⟩

theorem ne_feed_of_mem_splitFeeds (cs : List Char) : ∀ l ∈ splitFeeds cs, ∀ c ∈ l, c ≠ '\n' := by
  induction cs with
  | nil => exact List.forall_mem_singleton.2 (List.forall_mem_nil _)
  | cons c cs ih =>
    by_cases feed : c = '\n'
    · rw [feed, splitFeeds, if_pos rfl]
      exact List.forall_mem_cons.2 ⟨List.forall_mem_nil _, ih⟩
    · rw [splitFeeds_cons feed]
      exact forall_mem_consLine feed ih

theorem not_mem_of_mem_splitFeeds (h : l ∈ splitFeeds cs) : '\n' ∉ l :=
  fun feed => ne_feed_of_mem_splitFeeds cs l h '\n' feed rfl

/-- The characters of a text are those of its lines and line feeds. -/
theorem exists_mem_splitFeeds_iff (ne : c ≠ '\n') : (∃ l ∈ splitFeeds cs, c ∈ l) ↔ c ∈ cs := by
  induction cs with
  | nil => simp [splitFeeds]
  | cons d cs ih =>
    rw [List.mem_cons, ← ih]
    by_cases feed : d = '\n'
    · simp [feed, ne, splitFeeds]
    · obtain ⟨first, rest, split⟩ := List.exists_cons_of_ne_nil (splitFeeds_ne_nil cs)
      rw [splitFeeds_cons feed, split, consLine]
      simp [or_assoc]

theorem splitFeeds_joinFeeds (ne : lines ≠ []) (h : ∀ l ∈ lines, '\n' ∉ l) :
    splitFeeds (joinFeeds lines) = lines := by
  induction lines with
  | nil => exact absurd rfl ne
  | cons l rest ih =>
    obtain ⟨first, others⟩ := List.forall_mem_cons.1 h
    cases rest with
    | nil => exact splitFeeds_of_not_mem first
    | cons next rest =>
      rw [joinFeeds, splitFeeds_append first, ih (List.cons_ne_nil _ _) others]
      simp

/-! ### Parts of a text -/

theorem Within.trans {inner middle outer : List Char} {m n : Nat} (h : Within m inner middle)
    (h' : Within n middle outer) : Within (n + m) inner outer := fun i line hl => by
  obtain ⟨line', hl', part⟩ := h i line hl
  obtain ⟨whole, hw, part'⟩ := h' (m + i) line' hl'
  exact ⟨whole, by rw [Nat.add_assoc, hw], part.trans part'⟩

/-- What stands behind some characters. -/
theorem within_append_right (front cs : List Char) : Within (front.count '\n') cs (front ++ cs) := by
  induction front with
  | nil => exact fun i line h => ⟨line, by simpa using h, List.infix_rfl⟩
  | cons c front ih =>
    intro i line h
    obtain ⟨whole, hw, part⟩ := ih i line h
    by_cases feed : c = '\n'
    · refine ⟨whole, ?_, part⟩
      rw [feed, List.count_cons_self, List.cons_append, splitFeeds, if_pos rfl, Nat.add_right_comm]
      exact hw
    · obtain ⟨whole', hw', suffix⟩ := getElem?_consLine c hw
      refine ⟨whole', ?_, part.trans suffix.isInfix⟩
      rwa [List.count_cons_of_ne feed, List.cons_append, splitFeeds_cons feed]

/-- Characters at the end make the last line longer, and may add lines. -/
theorem getElem?_splitFeeds_append {i : Nat} (h : (splitFeeds cs)[i]? = some l) (back : List Char) :
    ∃ whole, (splitFeeds (cs ++ back))[i]? = some whole ∧ l <+: whole := by
  induction cs generalizing i l with
  | nil =>
    obtain ⟨first, rest, split⟩ := List.exists_cons_of_ne_nil (splitFeeds_ne_nil back)
    cases i with
    | zero =>
      obtain rfl : [] = l := Option.some.inj h
      exact ⟨first, by rw [List.nil_append, split]; rfl, List.nil_prefix⟩
    | succ i => cases h
  | cons c cs ih =>
    by_cases feed : c = '\n'
    · rw [feed, splitFeeds, if_pos rfl] at h
      rw [feed, List.cons_append, splitFeeds, if_pos rfl]
      cases i with
      | zero => exact ⟨[], rfl, Option.some.inj h ▸ List.prefix_rfl⟩
      | succ i => exact ih h
    · rw [splitFeeds_cons feed] at h
      rw [List.cons_append, splitFeeds_cons feed]
      obtain ⟨first, rest, split⟩ := List.exists_cons_of_ne_nil (splitFeeds_ne_nil cs)
      obtain ⟨first', rest', split'⟩ := List.exists_cons_of_ne_nil (splitFeeds_ne_nil (cs ++ back))
      rw [split] at h ih
      rw [split'] at ih ⊢
      cases i with
      | zero =>
        obtain rfl : c :: first = l := Option.some.inj h
        obtain ⟨whole, hw, start⟩ := ih (i := 0) rfl
        obtain rfl : first' = whole := Option.some.inj hw
        exact ⟨c :: first', rfl, (List.prefix_cons_inj c).2 start⟩
      | succ i => exact ih (i := i + 1) h

/-- What stands in front of some characters. -/
theorem within_append_left (cs back : List Char) : Within 0 cs (cs ++ back) := fun i line h => by
  obtain ⟨whole, hw, start⟩ := getElem?_splitFeeds_append h back
  exact ⟨whole, by rwa [Nat.zero_add], start.isInfix⟩

/-! ### Trimming -/

theorem exists_trimEnd (cs : List Char) :
    ∃ back, cs = trimEnd cs ++ back ∧ ∀ c ∈ back, isBlank c = true := by
  refine ⟨(cs.reverse.takeWhile isBlank).reverse, ?_, fun c hc =>
    List.mem_takeWhile_imp (List.mem_reverse.1 hc)⟩
  rw [trimEnd, ← List.reverse_append, List.takeWhile_append_dropWhile, List.reverse_reverse]

theorem trimEnd_append (h : ∀ c ∈ back, isBlank c = true) (front : List Char) :
    trimEnd (front ++ back) = trimEnd front := by
  rw [trimEnd, List.reverse_append, List.dropWhile_append_of_pos fun c hc => h c (List.mem_reverse.1 hc),
    trimEnd]

theorem trimStart_append (h : ∃ c ∈ front, isBlank c = false) (back : List Char) :
    trimStart (front ++ back) = trimStart front ++ back := by
  obtain ⟨c, hc, solid⟩ := h
  rw [trimStart, List.dropWhile_append, trimStart, if_neg]
  rw [List.isEmpty_iff, List.dropWhile_eq_nil_iff]
  intro all
  have blank := all c hc
  rw [solid] at blank
  exact absurd blank Bool.false_ne_true

theorem trimStart_eq_nil (h : ∀ c ∈ cs, isBlank c = true) : trimStart cs = [] :=
  List.dropWhile_eq_nil_iff.2 h

/-- White space at the end does not matter for what is left of a text. -/
theorem trim_append (h : ∀ c ∈ back, isBlank c = true) (front : List Char) :
    trimEnd (trimStart (front ++ back)) = trimEnd (trimStart front) := by
  by_cases solid : ∃ c ∈ front, isBlank c = false
  · rw [trimStart_append solid, trimEnd_append h]
  · have blank : ∀ c ∈ front, isBlank c = true := by simpa using solid
    rw [trimStart_eq_nil blank, trimStart_eq_nil fun c hc => (List.mem_append.1 hc).elim (blank c) (h c)]

/-- A text of which trimming leaves something has a character that is no white space. -/
theorem exists_solid_of_trim {s : String} (h : trim s ≠ "") : ∃ c ∈ s.toList, isBlank c = false := by
  by_contra blank
  have blank : ∀ c ∈ s.toList, isBlank c = true := by simpa using blank
  rw [trim, trimStart_eq_nil blank] at h
  exact h rfl

/-- A trimmed text starts as many lines further on as there are line feeds in front of it. -/
theorem within_trim (s : String) : Within (feedsAhead s.toList) (trim s).toList s.toList := by
  obtain ⟨back, split, -⟩ := exists_trimEnd (trimStart s.toList)
  have start := within_append_right (s.toList.takeWhile isBlank) (s.toList.dropWhile isBlank)
  rw [List.takeWhile_append_dropWhile] at start
  rw [trim, String.toList_ofList]
  have stop := within_append_left (trimEnd (trimStart s.toList)) back
  rw [← split] at stop
  exact stop.trans start

/-! ### Line feeds in front -/

theorem feedsAhead_append (h : ∃ c ∈ front, isBlank c = false) (back : List Char) :
    feedsAhead (front ++ back) = feedsAhead front := by
  obtain ⟨c, hc, solid⟩ := h
  rw [feedsAhead, List.takeWhile_append, if_neg, feedsAhead]
  intro all
  have := List.mem_takeWhile_imp ((List.takeWhile_prefix isBlank).eq_of_length all ▸ hc)
  rw [solid] at this
  exact absurd this Bool.false_ne_true

theorem ne_of_solid {c d : Char} (solid : isBlank c = false) (blank : isBlank d = true) : c ≠ d := by
  rintro rfl
  exact Bool.false_ne_true (solid.symm.trans blank)

theorem isBlank_of_isHorizontal (h : isHorizontal c = true) : isBlank c = true := by
  rcases (Bool.or_eq_true _ _).mp h with h | h <;> rw [beq_iff_eq.1 h] <;> rfl

theorem not_isHorizontal_of_solid (solid : isBlank c = false) : ¬ isHorizontal c = true :=
  fun h => Bool.false_ne_true (solid.symm.trans (isBlank_of_isHorizontal h))

/-- The line feeds in front of the first character that is no white space are those of the lines of
white space in front of its line. -/
theorem feedsAhead_eq (h : ∃ c ∈ cs, isBlank c = false) :
    feedsAhead cs = ((splitFeeds cs).takeWhile (·.all isBlank)).length := by
  induction cs with
  | nil => simp at h
  | cons c cs ih =>
    by_cases blank : isBlank c = true
    · have rest : ∃ c ∈ cs, isBlank c = false := by
        obtain ⟨d, hd, solid⟩ := h
        exact ⟨d, (List.mem_cons.1 hd).resolve_left (ne_of_solid solid blank), solid⟩
      have more := ih rest
      rw [feedsAhead] at more ⊢
      rw [List.takeWhile_cons_of_pos blank]
      by_cases feed : c = '\n'
      · rw [feed, List.count_cons_self, splitFeeds, if_pos rfl, List.takeWhile_cons_of_pos rfl,
          List.length_cons, more]
      · obtain ⟨first, lines, split⟩ := List.exists_cons_of_ne_nil (splitFeeds_ne_nil cs)
        rw [List.count_cons_of_ne feed, more, splitFeeds_cons feed, split, consLine,
          List.takeWhile_cons, List.takeWhile_cons, List.all_cons, blank, Bool.true_and]
        split <;> rfl
    · have feed : c ≠ '\n' := fun feed => blank (feed ▸ rfl)
      obtain ⟨first, lines, split⟩ := List.exists_cons_of_ne_nil (splitFeeds_ne_nil cs)
      rw [feedsAhead, List.takeWhile_cons_of_neg blank, splitFeeds_cons feed, split, consLine,
        List.takeWhile_cons_of_neg (by simp [blank])]
      rfl

/-! ### Dedenting -/

theorem prefix_commonStart (as bs : List Char) :
    commonStart as bs <+: as ∧ commonStart as bs <+: bs := by
  induction as generalizing bs with
  | nil => exact ⟨List.nil_prefix, List.nil_prefix⟩
  | cons a as ih =>
    cases bs with
    | nil => exact ⟨List.nil_prefix, List.nil_prefix⟩
    | cons b bs =>
      rw [commonStart]
      split
      case isTrue same =>
        subst same
        exact ⟨(List.prefix_cons_inj a).2 (ih bs).1, (List.prefix_cons_inj a).2 (ih bs).2⟩
      case isFalse => exact ⟨List.nil_prefix, List.nil_prefix⟩

/-- The shared indentation is at the front of each line that counts. -/
theorem prefix_sharedIndent {shared : List Char} (h : sharedIndent lines = some shared) (mem : l ∈ lines)
    (ne : l ≠ []) : shared <+: l.takeWhile isHorizontal := by
  -- Along the lines that count: what is shared is at the front of all lines met and of what was
  -- shared before.
  have along (shared₀ : Option (List Char)) (counted : List (List Char))
      (h : counted.foldl (fun shared line =>
        let indent := line.takeWhile isHorizontal
        some (shared.elim indent (commonStart · indent))) shared₀ = some shared) :
      (∀ s, shared₀ = some s → shared <+: s) ∧
        ∀ line ∈ counted, shared <+: line.takeWhile isHorizontal := by
    induction counted generalizing shared₀ with
    | nil =>
      refine ⟨fun s hs => ?_, by simp⟩
      obtain rfl : s = shared := Option.some.inj (hs.symm.trans h)
      exact List.prefix_rfl
    | cons line counted ih =>
      obtain ⟨here, others⟩ := ih _ h
      have front := here _ rfl
      cases shared₀ with
      | none => exact ⟨by simp, List.forall_mem_cons.2 ⟨front, others⟩⟩
      | some s =>
        refine ⟨fun s' hs => ?_, List.forall_mem_cons.2 ⟨?_, others⟩⟩
        · obtain rfl : s = s' := Option.some.inj hs
          exact front.trans (prefix_commonStart _ _).1
        · exact front.trans (prefix_commonStart _ _).2
  exact (along none _ h).2 l (List.mem_filter.2 ⟨mem, by simpa using ne⟩)

/-- What dedenting makes of a line of a text. -/
def dedentLine (cs line : List Char) : List Char :=
  (emptyIfBlank line).drop ((sharedIndent ((splitFeeds cs).map emptyIfBlank)).getD []).length

theorem infix_emptyIfBlank (l : List Char) : emptyIfBlank l <:+: l := by
  rw [emptyIfBlank]
  split
  · exact List.nil_infix
  · exact List.infix_rfl

theorem infix_dedentLine (cs line : List Char) : dedentLine cs line <:+: line :=
  (List.drop_suffix _ _).isInfix.trans (infix_emptyIfBlank line)

theorem splitFeeds_dedent (s : String) :
    splitFeeds (dedent s).toList = (splitFeeds s.toList).map (dedentLine s.toList) := by
  rw [dedent, String.toList_ofList, List.map_map]
  refine splitFeeds_joinFeeds (by simpa using splitFeeds_ne_nil s.toList) fun l hl => ?_
  obtain ⟨line, mem, rfl⟩ := List.mem_map.1 hl
  exact fun feed => not_mem_of_mem_splitFeeds mem ((infix_dedentLine s.toList line).subset feed)

theorem within_dedent (s : String) : Within 0 (dedent s).toList s.toList := fun i line h => by
  rw [splitFeeds_dedent, List.getElem?_map, Option.map_eq_some_iff] at h
  obtain ⟨whole, hw, rfl⟩ := h
  exact ⟨whole, by rwa [Nat.zero_add], infix_dedentLine s.toList whole⟩

/-- Dedenting makes no line blank, and none visible. -/
theorem all_isBlank_dedentLine (mem : l ∈ splitFeeds cs) :
    (dedentLine cs l).all isBlank = l.all isBlank := by
  rw [Bool.eq_iff_iff, List.all_eq_true, List.all_eq_true]
  refine ⟨fun h c hc => ?_, fun h c hc => h c ((infix_dedentLine cs l).subset hc)⟩
  by_cases horizontal : l.all isHorizontal = true
  · exact isBlank_of_isHorizontal (List.all_eq_true.1 horizontal c hc)
  have kept : emptyIfBlank l = l := if_neg horizontal
  rw [dedentLine, kept] at h
  cases shared : sharedIndent ((splitFeeds cs).map emptyIfBlank) with
  | none =>
    rw [shared] at h
    exact h c hc
  | some indent =>
    rw [shared] at h
    have ne : l ≠ [] := fun empty => horizontal (empty ▸ rfl)
    have front : indent <+: l.takeWhile isHorizontal :=
      prefix_sharedIndent shared (List.mem_map.2 ⟨l, mem, kept⟩) ne
    obtain ⟨rest, rfl⟩ := front.trans (List.takeWhile_prefix _)
    rcases List.mem_append.1 hc with hc | hc
    · exact isBlank_of_isHorizontal (List.mem_takeWhile_imp (front.subset hc))
    · exact h c (by simpa using hc)

theorem exists_solid_iff :
    (∃ c ∈ cs, isBlank c = false) ↔ ∃ l ∈ splitFeeds cs, l.all isBlank = false := by
  constructor
  · rintro ⟨c, hc, solid⟩
    obtain ⟨l, mem, hl⟩ := (exists_mem_splitFeeds_iff (ne_of_solid solid rfl)).2 hc
    exact ⟨l, mem, List.all_eq_false.2 ⟨c, hl, by simp [solid]⟩⟩
  · rintro ⟨l, mem, solid⟩
    obtain ⟨c, hc, solid⟩ := List.all_eq_false.1 solid
    have solid : isBlank c = false := by simpa using solid
    exact ⟨c, (exists_mem_splitFeeds_iff (ne_of_solid solid rfl)).1 ⟨l, mem, hc⟩, solid⟩

theorem exists_solid_dedent_iff {s : String} :
    (∃ c ∈ (dedent s).toList, isBlank c = false) ↔ ∃ c ∈ s.toList, isBlank c = false := by
  rw [exists_solid_iff, exists_solid_iff, splitFeeds_dedent]
  constructor
  · rintro ⟨_, hl, solid⟩
    obtain ⟨l, mem, rfl⟩ := List.mem_map.1 hl
    exact ⟨l, mem, (all_isBlank_dedentLine mem).symm.trans solid⟩
  · rintro ⟨l, mem, solid⟩
    exact ⟨_, List.mem_map_of_mem mem, (all_isBlank_dedentLine mem).trans solid⟩

/-- As many line feeds stand in front of a dedented text as in front of the text. -/
theorem feedsAhead_dedent {s : String} (h : ∃ c ∈ s.toList, isBlank c = false) :
    feedsAhead (dedent s).toList = feedsAhead s.toList := by
  have same (lines : List (List Char)) (sub : ∀ l ∈ lines, l ∈ splitFeeds s.toList) :
      ((lines.map (dedentLine s.toList)).takeWhile (·.all isBlank)).length =
        (lines.takeWhile (·.all isBlank)).length := by
    induction lines with
    | nil => rfl
    | cons l lines ih =>
      obtain ⟨mem, sub⟩ := List.forall_mem_cons.1 sub
      rw [List.map_cons, List.takeWhile_cons, List.takeWhile_cons, all_isBlank_dedentLine mem]
      split
      · rw [List.length_cons, List.length_cons, ih sub]
      · rfl
  rw [feedsAhead_eq h, feedsAhead_eq (exists_solid_dedent_iff.2 h), splitFeeds_dedent]
  exact same _ fun l mem => mem

end StreamTemplate.Text
