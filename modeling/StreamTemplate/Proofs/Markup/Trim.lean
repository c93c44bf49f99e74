import StreamTemplate.Markup.Trim

/-!
# What trimming removes

The two passes of `trimTags` work one after the other, the second on what the first has left. Read
on the text as written they come to one condition on a character and its two sides (`isTrimmed`):
it is a space or a tab, and the run of spaces and tabs it stands in is followed by `<%_` or preceded
by `_%>`. The reason is that neither pass can make a delimiter of the other: what it removes stands
next to a `<` or a `>`, and no delimiter continues in front of the one or behind the other.

For the same reason a second trimming finds nothing (`trimTags_trimTags`).
-/

namespace StreamTemplate.Markup

variable {α β : Type} {char : α → Char}

/-- A space or a tab, on a sequence whose elements carry a character. -/
def isGap (char : α → Char) (a : α) : Bool :=
  Text.isHorizontal (char a)

/-- Whether the characters, the nearest first, end with the delimiter that trims behind itself. -/
def endsTrimClose (char : α → Char) : List α → Bool
  | c :: b :: a :: _ => char a == '_' && char b == '%' && char c == '>'
  | _ => false

/-- Whether a character is white space of a trimming tag; `left` stands in front of it, the nearest
first, and `right` behind it. -/
def isTrimmed (char : α → Char) (left : List α) (a : α) (right : List α) : Bool :=
  isGap char a &&
    (startsTrimOpen char (right.dropWhile (isGap char)) ||
      endsTrimClose char (left.dropWhile (isGap char)))

/-- The sequence without the white space of trimming tags, each character judged by its two sides
in the sequence as written. -/
def untrimmed (char : α → Char) (left : List α) : List α → List α
  | [] => []
  | a :: right =>
    if isTrimmed char left a right then untrimmed char (a :: left) right
    else a :: untrimmed char (a :: left) right

/-! ### Delimiters and white space -/

theorem startsTrimOpen_iff {cs : List α} :
    startsTrimOpen char cs = true ↔ ['<', '%', '_'] <+: cs.map char := by
  rcases cs with _ | ⟨a, _ | ⟨b, _ | ⟨c, rest⟩⟩⟩ <;>
    simp [startsTrimOpen, List.cons_prefix_cons, and_assoc, @eq_comm _ (char _)]

theorem startsTrimClose_iff {cs : List α} :
    startsTrimClose char cs = true ↔ ['_', '%', '>'] <+: cs.map char := by
  rcases cs with _ | ⟨a, _ | ⟨b, _ | ⟨c, rest⟩⟩⟩ <;>
    simp [startsTrimClose, List.cons_prefix_cons, and_assoc, @eq_comm _ (char _)]

theorem endsTrimClose_iff {left : List α} :
    endsTrimClose char left = true ↔ ['>', '%', '_'] <+: left.map char := by
  rcases left with _ | ⟨c, _ | ⟨b, _ | ⟨a, rest⟩⟩⟩ <;>
    simp [endsTrimClose, List.cons_prefix_cons, and_comm, @eq_comm _ (char _)]

theorem exists_cons_of_startsTrimOpen {cs : List α} (h : startsTrimOpen char cs = true) :
    ∃ a b c rest, cs = a :: b :: c :: rest := by
  rcases cs with _ | ⟨a, _ | ⟨b, _ | ⟨c, rest⟩⟩⟩ <;> first | exact ⟨_, _, _, _, rfl⟩ | cases h

theorem exists_cons_of_startsTrimClose {cs : List α} (h : startsTrimClose char cs = true) :
    ∃ a b c rest, cs = a :: b :: c :: rest := by
  rcases cs with _ | ⟨a, _ | ⟨b, _ | ⟨c, rest⟩⟩⟩ <;> first | exact ⟨_, _, _, _, rfl⟩ | cases h

theorem isGap_of_startsTrimClose {a : α} {rest : List α}
    (h : startsTrimClose char (a :: rest) = true) : isGap char a = false := by
  rw [startsTrimClose_iff, List.map_cons, List.cons_prefix_cons] at h
  rw [isGap, ← h.1]
  rfl

theorem not_startsTrimClose_of_isGap {a : α} {rest : List α} (h : isGap char a = true) :
    startsTrimClose char (a :: rest) = false := by
  rw [Bool.eq_false_iff]
  intro hc
  rw [isGap_of_startsTrimClose hc] at h
  exact Bool.false_ne_true h

theorem not_isGap_of_eq {a : α} {c : Char} (h : char a = c) (hc : Text.isHorizontal c = false) :
    isGap char a = false := by
  rw [isGap, h, hc]

/-! ### The first pass -/

theorem trimBefore_cons (a : α) (rest : List α) :
    trimBefore char (a :: rest) =
      if isGap char a && startsTrimOpen char (rest.dropWhile (isGap char)) then
        trimBefore char rest
      else a :: trimBefore char rest := rfl

theorem trimBefore_cons_of_not_isGap {a : α} {rest : List α} (h : isGap char a = false) :
    trimBefore char (a :: rest) = a :: trimBefore char rest := by
  simp [trimBefore_cons, h]

theorem trimBefore_close {a b c : α} {rest : List α}
    (h : startsTrimClose char (a :: b :: c :: rest) = true) :
    trimBefore char (a :: b :: c :: rest) = a :: b :: c :: trimBefore char rest := by
  simp only [startsTrimClose, Bool.and_eq_true, beq_iff_eq] at h
  rw [trimBefore_cons_of_not_isGap (not_isGap_of_eq h.1.1 rfl),
    trimBefore_cons_of_not_isGap (not_isGap_of_eq h.1.2 rfl),
    trimBefore_cons_of_not_isGap (not_isGap_of_eq h.2 rfl)]

theorem trimBefore_sublist (char : α → Char) (cs : List α) : (trimBefore char cs).Sublist cs := by
  induction cs with
  | nil => exact .slnil
  | cons a rest ih =>
    rw [trimBefore_cons]
    split
    · exact ih.cons a
    · exact ih.cons_cons a

/-- What the first pass leaves of a run of white space and what follows it begins with the `<` of
the delimiter, if it removed anything at all. -/
theorem head_trimBefore {cs : List α}
    (h : startsTrimOpen char (cs.dropWhile (isGap char)) = true) :
    ['<'] <+: (trimBefore char cs).map char := by
  induction cs with
  | nil => simp [startsTrimOpen] at h
  | cons a rest ih =>
    cases ha : isGap char a with
    | true =>
      rw [List.dropWhile_cons_of_pos ha] at h
      simpa [trimBefore_cons, ha, h] using ih h
    | false =>
      rw [List.dropWhile_cons_of_neg (by simp [ha]), startsTrimOpen_iff, List.map_cons,
        List.cons_prefix_cons] at h
      rw [trimBefore_cons_of_not_isGap ha, List.map_cons, List.cons_prefix_cons]
      exact ⟨h.1, List.nil_prefix⟩

/-- The first pass keeps a character, or it is white space and a `<` comes next. -/
theorem trimBefore_cons_cases (char : α → Char) (a : α) (rest : List α) :
    trimBefore char (a :: rest) = a :: trimBefore char rest ∨
      isGap char a = true ∧ ['<'] <+: (trimBefore char (a :: rest)).map char := by
  rw [trimBefore_cons]
  split
  case isTrue h =>
    obtain ⟨ha, ho⟩ := Bool.and_eq_true_iff.1 h
    exact .inr ⟨ha, head_trimBefore ho⟩
  case isFalse => exact .inl rfl

/-- The first pass neither makes nor breaks a word without white space and without `<`. -/
theorem prefix_trimBefore {word : List Char}
    (hw : ∀ c ∈ word, c ≠ '<' ∧ Text.isHorizontal c = false) (cs : List α) :
    word <+: (trimBefore char cs).map char ↔ word <+: cs.map char := by
  induction word generalizing cs with
  | nil => simp
  | cons x word ih =>
    obtain ⟨⟨hx, hg⟩, hw⟩ := List.forall_mem_cons.1 hw
    cases cs with
    | nil => rfl
    | cons a rest =>
      rcases trimBefore_cons_cases char a rest with hk | ⟨ha, more, hm⟩
      · rw [hk, List.map_cons, List.map_cons, List.cons_prefix_cons, List.cons_prefix_cons, ih hw]
      · have hne : x ≠ char a := by
          rintro rfl
          exact Bool.false_ne_true (hg.symm.trans ha)
        simp [← hm, List.cons_prefix_cons, hx, hne]

theorem startsTrimOpen_cons_trimBefore (a : α) (rest : List α) :
    startsTrimOpen char (a :: trimBefore char rest) = startsTrimOpen char (a :: rest) := by
  rw [Bool.eq_iff_iff, startsTrimOpen_iff, startsTrimOpen_iff, List.map_cons, List.map_cons,
    List.cons_prefix_cons, List.cons_prefix_cons, prefix_trimBefore (by simp [Text.isHorizontal])]

theorem startsTrimClose_cons_trimBefore (a : α) (rest : List α) :
    startsTrimClose char (a :: trimBefore char rest) = startsTrimClose char (a :: rest) := by
  rw [Bool.eq_iff_iff, startsTrimClose_iff, startsTrimClose_iff, List.map_cons, List.map_cons,
    List.cons_prefix_cons, List.cons_prefix_cons, prefix_trimBefore (by simp [Text.isHorizontal])]

theorem startsTrimOpen_dropWhile_trimBefore (cs : List α) :
    startsTrimOpen char ((trimBefore char cs).dropWhile (isGap char)) =
      startsTrimOpen char (cs.dropWhile (isGap char)) := by
  induction cs with
  | nil => rfl
  | cons a rest ih =>
    cases ha : isGap char a with
    | true =>
      rw [List.dropWhile_cons_of_pos ha, ← ih, trimBefore_cons]
      split
      · rfl
      · rw [List.dropWhile_cons_of_pos ha]
    | false =>
      rw [trimBefore_cons_of_not_isGap ha, List.dropWhile_cons_of_neg (by simp [ha]),
        List.dropWhile_cons_of_neg (by simp [ha]), startsTrimOpen_cons_trimBefore]

theorem trimBefore_trimBefore (cs : List α) :
    trimBefore char (trimBefore char cs) = trimBefore char cs := by
  induction cs with
  | nil => rfl
  | cons a rest ih =>
    rw [trimBefore_cons]
    split
    case isTrue => exact ih
    case isFalse h => rw [trimBefore_cons, startsTrimOpen_dropWhile_trimBefore, if_neg h, ih]

/-! ### The second pass -/

theorem trimAfter_close {a b c : α} {rest : List α} (trimming : Bool)
    (h : startsTrimClose char (a :: b :: c :: rest) = true) :
    trimAfter char 0 trimming (a :: b :: c :: rest) = a :: b :: c :: trimAfter char 0 true rest := by
  have ha : Text.isHorizontal (char a) = false := isGap_of_startsTrimClose h
  simp [trimAfter, h, ha]

theorem trimAfter_step {a : α} {rest : List α} (trimming : Bool)
    (h : startsTrimClose char (a :: rest) = false) :
    trimAfter char 0 trimming (a :: rest) =
      if trimming && isGap char a then trimAfter char 0 true rest
      else a :: trimAfter char 0 false rest := by
  simp [trimAfter, h, isGap]

/-- Going through a sequence as the second pass does: a closing delimiter at once, anything else
character by character. -/
theorem closeInduction (char : α → Char) {motive : List α → Prop} (nil : motive [])
    (close : ∀ a b c rest, startsTrimClose char (a :: b :: c :: rest) = true → motive rest →
      motive (a :: b :: c :: rest))
    (step : ∀ a rest, startsTrimClose char (a :: rest) = false → motive rest →
      motive (a :: rest)) (cs : List α) : motive cs := by
  induction h : cs.length using Nat.strongRecOn generalizing cs with
  | _ n ih =>
    cases cs with
    | nil => exact nil
    | cons a rest =>
      simp only [List.length_cons] at h
      cases hc : startsTrimClose char (a :: rest) with
      | false => exact step a rest hc (ih rest.length (by omega) rest rfl)
      | true =>
        obtain ⟨_, b, c, rest, he⟩ := exists_cons_of_startsTrimClose hc
        obtain ⟨rfl, rfl⟩ := List.cons.inj he
        simp only [List.length_cons] at h
        exact close a b c rest hc (ih rest.length (by omega) rest rfl)

/-- The second pass neither makes nor breaks a word in which `_` is at most the last character. -/
theorem prefix_trimAfter {word : List Char} (hw : '_' ∉ word.dropLast) (cs : List α) :
    word <+: (trimAfter char 0 false cs).map char ↔ word <+: cs.map char := by
  induction word generalizing cs with
  | nil => simp
  | cons x word ih =>
    cases cs with
    | nil => rfl
    | cons a rest =>
      cases hc : startsTrimClose char (a :: rest) with
      | false =>
        rw [trimAfter_step false hc, Bool.false_and, if_neg Bool.false_ne_true, List.map_cons,
          List.map_cons, List.cons_prefix_cons, List.cons_prefix_cons]
        refine and_congr_right fun _ => ?_
        cases word with
        | nil => simp
        | cons y word => exact ih (fun h => hw (by simp [h])) rest
      | true =>
        -- A closing delimiter passes as it is, and a longer word would have `_` inside.
        obtain ⟨_, b, c, rest, he⟩ := exists_cons_of_startsTrimClose hc
        obtain ⟨rfl, rfl⟩ := List.cons.inj he
        rw [trimAfter_close false hc]
        rw [startsTrimClose_iff, List.map_cons, List.cons_prefix_cons] at hc
        cases word with
        | nil => simp [List.cons_prefix_cons]
        | cons y word =>
          have hx : x ≠ char a := by
            rintro rfl
            exact hw (by simp [← hc.1])
          simp [List.cons_prefix_cons, hx]

theorem startsTrimOpen_trimAfter (cs : List α) :
    startsTrimOpen char (trimAfter char 0 false cs) = startsTrimOpen char cs := by
  rw [Bool.eq_iff_iff, startsTrimOpen_iff, startsTrimOpen_iff, prefix_trimAfter (by decide)]

theorem startsTrimClose_cons_trimAfter (a : α) (rest : List α) :
    startsTrimClose char (a :: trimAfter char 0 false rest) = startsTrimClose char (a :: rest) := by
  rw [Bool.eq_iff_iff, startsTrimClose_iff, startsTrimClose_iff, List.map_cons, List.map_cons,
    List.cons_prefix_cons, List.cons_prefix_cons, prefix_trimAfter (by decide)]

theorem dropWhile_trimAfter (cs : List α) :
    (trimAfter char 0 false cs).dropWhile (isGap char) =
      trimAfter char 0 false (cs.dropWhile (isGap char)) := by
  induction cs with
  | nil => rfl
  | cons a rest ih =>
    cases ha : isGap char a with
    | true =>
      rw [trimAfter_step false (not_startsTrimClose_of_isGap ha), Bool.false_and,
        if_neg Bool.false_ne_true, List.dropWhile_cons_of_pos ha, List.dropWhile_cons_of_pos ha, ih]
    | false =>
      obtain ⟨more, hm⟩ : ∃ more, trimAfter char 0 false (a :: rest) = a :: more := by
        simp only [trimAfter, Bool.false_and, Bool.false_eq_true, if_false]
        split <;> exact ⟨_, rfl⟩
      rw [List.dropWhile_cons_of_neg (by simp [ha]), hm, List.dropWhile_cons_of_neg (by simp [ha])]

/-! ### Trimming twice -/

theorem trimBefore_cons_eq_self {a : α} {rest : List α}
    (h : trimBefore char (a :: rest) = a :: rest) :
    (isGap char a && startsTrimOpen char (rest.dropWhile (isGap char))) = false ∧
      trimBefore char rest = rest := by
  rw [trimBefore_cons] at h
  split at h
  case isTrue =>
    have := (trimBefore_sublist char rest).length_le
    rw [h, List.length_cons] at this
    omega
  case isFalse hk => exact ⟨by simpa using hk, (List.cons.inj h).2⟩

/-- Where the first pass has nothing to remove, it has nothing to remove after the second either:
a run of white space that the second pass keeps, it keeps whole, with what follows it. -/
theorem trimBefore_trimAfter (trimming : Bool) (cs : List α) (h : trimBefore char cs = cs) :
    trimBefore char (trimAfter char 0 trimming cs) = trimAfter char 0 trimming cs := by
  induction cs using closeInduction char generalizing trimming with
  | nil => rfl
  | close a b c rest hc ih =>
    have hc' : startsTrimClose char (a :: b :: c :: trimAfter char 0 true rest) = true := hc
    rw [trimBefore_close hc] at h
    have hr : trimBefore char rest = rest := by simpa using h
    rw [trimAfter_close trimming hc, trimBefore_close hc', ih true hr]
  | step a rest hc ih =>
    obtain ⟨hk, hr⟩ := trimBefore_cons_eq_self h
    rw [trimAfter_step trimming hc]
    split
    · exact ih true hr
    · rw [trimBefore_cons, dropWhile_trimAfter, startsTrimOpen_trimAfter, hk,
        if_neg Bool.false_ne_true, ih false hr]

theorem trimAfter_trimAfter (trimming : Bool) (cs : List α) :
    trimAfter char 0 trimming (trimAfter char 0 trimming cs) = trimAfter char 0 trimming cs := by
  induction cs using closeInduction char generalizing trimming with
  | nil => rfl
  | close a b c rest hc ih =>
    have hc' : startsTrimClose char (a :: b :: c :: trimAfter char 0 true rest) = true := hc
    rw [trimAfter_close trimming hc, trimAfter_close trimming hc', ih true]
  | step a rest hc ih =>
    rw [trimAfter_step trimming hc]
    split
    case isTrue h =>
      obtain ⟨rfl, -⟩ := Bool.and_eq_true_iff.1 h
      exact ih true
    case isFalse h =>
      rw [trimAfter_step trimming (by rw [startsTrimClose_cons_trimAfter, hc]), if_neg h, ih false]

/-- Trimming a trimmed sequence changes nothing. -/
theorem trimTags_trimTags (cs : List α) : trimTags char (trimTags char cs) = trimTags char cs := by
  rw [trimTags, trimTags, trimBefore_trimAfter false _ (trimBefore_trimBefore cs),
    trimAfter_trimAfter]

theorem preprocess_preprocess (source : String) :
    preprocess (preprocess source) = preprocess source := by
  simp [preprocess, trimTags_trimTags]

/-! ### One condition for both passes -/

theorem untrimmed_cons (left : List α) (a : α) (right : List α) :
    untrimmed char left (a :: right) =
      if isTrimmed char left a right then untrimmed char (a :: left) right
      else a :: untrimmed char (a :: left) right := rfl

theorem not_isTrimmed_of_not_isGap {left : List α} {a : α} {right : List α}
    (h : isGap char a = false) : isTrimmed char left a right = false := by
  simp [isTrimmed, h]

theorem isTrimmed_of_startsTrimOpen {left : List α} {a : α} {right : List α}
    (h : (isGap char a && startsTrimOpen char (right.dropWhile (isGap char))) = true) :
    isTrimmed char left a right = true := by
  obtain ⟨ha, ho⟩ := Bool.and_eq_true_iff.1 h
  simp [isTrimmed, ha, ho]

/-- No closing delimiter reaches from `left` into `right`. -/
structure Clear (char : α → Char) (left right : List α) : Prop where
  one : ∀ a rest, left = a :: rest → startsTrimClose char (a :: right) = false
  two : ∀ b a rest, left = b :: a :: rest → startsTrimClose char (a :: b :: right) = false

theorem Clear.nil (right : List α) : Clear char [] right :=
  ⟨fun _ _ h => absurd h.symm (List.cons_ne_nil _ _),
    fun _ _ _ h => absurd h.symm (List.cons_ne_nil _ _)⟩

theorem Clear.step {left right : List α} {a : α} (h : Clear char left (a :: right))
    (hc : startsTrimClose char (a :: right) = false) : Clear char (a :: left) right where
  one b rest e := by
    obtain ⟨rfl, -⟩ := List.cons.inj e
    exact hc
  two b c rest e := by
    obtain ⟨rfl, e'⟩ := List.cons.inj e
    exact h.one c rest e'

theorem Clear.close {left right : List α} {a b c : α}
    (h : startsTrimClose char (a :: b :: c :: right) = true) :
    Clear char (c :: b :: a :: left) right := by
  simp only [startsTrimClose, Bool.and_eq_true, beq_iff_eq] at h
  refine ⟨fun d rest e => ?_, fun d d' rest e => ?_⟩
  · obtain ⟨rfl, -⟩ := List.cons.inj e
    cases right with
    | nil => rfl
    | cons x right => cases right <;> simp [startsTrimClose, h.2]
  · obtain ⟨rfl, e'⟩ := List.cons.inj e
    obtain ⟨rfl, -⟩ := List.cons.inj e'
    cases right <;> simp [startsTrimClose, h.1.2]

/-- A character that is no white space ends no delimiter that did not start to its left. -/
theorem Clear.not_endsTrimClose {left right : List α} {a : α} (h : Clear char left (a :: right)) :
    endsTrimClose char (a :: left) = false := by
  rcases left with _ | ⟨b, _ | ⟨c, left⟩⟩
  · rfl
  · rfl
  · simpa [endsTrimClose, startsTrimClose] using h.two b c left rfl

theorem trimAfter_trimBefore_eq_untrimmed (left cs : List α) (h : Clear char left cs) :
    trimAfter char 0 (endsTrimClose char (left.dropWhile (isGap char))) (trimBefore char cs) =
      untrimmed char left cs := by
  induction cs using closeInduction char generalizing left with
  | nil => rfl
  | close a b c rest hc ih =>
    have hc' : startsTrimClose char (a :: b :: c :: trimBefore char rest) = true := hc
    have hends : endsTrimClose char ((c :: b :: a :: left).dropWhile (isGap char)) = true := by
      simp only [startsTrimClose, Bool.and_eq_true, beq_iff_eq] at hc
      rw [List.dropWhile_cons_of_neg (by simp [not_isGap_of_eq hc.2 rfl])]
      simp [endsTrimClose, hc]
    rw [trimBefore_close hc, trimAfter_close _ hc', ← hends, ih _ (Clear.close hc)]
    simp only [startsTrimClose, Bool.and_eq_true, beq_iff_eq] at hc
    rw [untrimmed_cons, untrimmed_cons, untrimmed_cons,
      not_isTrimmed_of_not_isGap (not_isGap_of_eq hc.1.1 rfl),
      not_isTrimmed_of_not_isGap (not_isGap_of_eq hc.1.2 rfl),
      not_isTrimmed_of_not_isGap (not_isGap_of_eq hc.2 rfl)]
    rfl
  | step a rest hc ih =>
    have ih := ih (a :: left) (h.step hc)
    rw [untrimmed_cons, trimBefore_cons]
    cases ha : isGap char a with
    | false =>
      rw [List.dropWhile_cons_of_neg (by simp [ha]), h.not_endsTrimClose] at ih
      rw [not_isTrimmed_of_not_isGap ha, Bool.false_and, if_neg Bool.false_ne_true,
        trimAfter_step _ (by rw [startsTrimClose_cons_trimBefore, hc]), ha, Bool.and_false,
        if_neg Bool.false_ne_true, if_neg Bool.false_ne_true, ih]
    | true =>
      rw [List.dropWhile_cons_of_pos ha] at ih
      rw [isTrimmed, ha, Bool.true_and, Bool.true_and]
      cases ho : startsTrimOpen char (rest.dropWhile (isGap char)) with
      | true => simpa using ih
      | false =>
        rw [Bool.false_or, if_neg Bool.false_ne_true,
          trimAfter_step _ (by rw [startsTrimClose_cons_trimBefore, hc]), ha, Bool.and_true]
        cases he : endsTrimClose char (left.dropWhile (isGap char)) with
        | true => simpa [he] using ih
        | false => simpa [he] using ih

/-- Trimming removes exactly the white space that, in the sequence as written, stands in front of
`<%_` or behind `_%>`. -/
theorem trimTags_eq_untrimmed (cs : List α) : trimTags char cs = untrimmed char [] cs :=
  trimAfter_trimBefore_eq_untrimmed [] cs (Clear.nil cs)

/-! ### Sequences that carry the same characters -/

theorem startsTrimOpen_map (f : α → β) (char : β → Char) (cs : List α) :
    startsTrimOpen char (cs.map f) = startsTrimOpen (char ∘ f) cs := by
  rw [Bool.eq_iff_iff, startsTrimOpen_iff, startsTrimOpen_iff, List.map_map]

theorem endsTrimClose_map (f : α → β) (char : β → Char) (left : List α) :
    endsTrimClose char (left.map f) = endsTrimClose (char ∘ f) left := by
  rw [Bool.eq_iff_iff, endsTrimClose_iff, endsTrimClose_iff, List.map_map]

theorem isTrimmed_map (f : α → β) (char : β → Char) (left : List α) (a : α) (right : List α) :
    isTrimmed char (left.map f) (f a) (right.map f) = isTrimmed (char ∘ f) left a right := by
  rw [isTrimmed, List.dropWhile_map, List.dropWhile_map, startsTrimOpen_map, endsTrimClose_map]
  rfl

theorem map_untrimmed (f : α → β) (char : β → Char) (left cs : List α) :
    (untrimmed (char ∘ f) left cs).map f = untrimmed char (left.map f) (cs.map f) := by
  induction cs generalizing left with
  | nil => rfl
  | cons a right ih =>
    rw [untrimmed_cons, List.map_cons, untrimmed_cons, isTrimmed_map]
    split
    · exact ih (a :: left)
    · rw [List.map_cons, ih (a :: left), List.map_cons]

/-- Trimming looks at the characters only. -/
theorem map_trimTags (f : α → β) (char : β → Char) (cs : List α) :
    (trimTags (char ∘ f) cs).map f = trimTags char (cs.map f) := by
  rw [trimTags_eq_untrimmed, trimTags_eq_untrimmed, map_untrimmed, List.map_nil]

end StreamTemplate.Markup
