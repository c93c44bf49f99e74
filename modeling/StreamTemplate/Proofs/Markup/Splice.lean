import StreamTemplate.Proofs.Markup.Position

/-!
# Another text in a tag

The text of a tag can be replaced by one in which no delimiter begins either, with the same first character
and as many line feeds: the tokens around it stay the same and on their lines (`tokenize_splice`). The new
tokens are laid over the new template (`Covers`) and shown to be its reading (`Reads`), of which there is
only one.
-/

namespace StreamTemplate.Markup

/-- The tokens are the same and stand on the same line. -/
structure Token.Alike (t t' : Token) : Prop where
  kind : t'.kind = t.kind
  value : t'.value = t.value
  line : t'.line = t.line

variable {before cs left right : List Char} {a : Char} {t : Token} {ts us : List Token}

theorem Token.map_kind_eq (same : List.Forall₂ Token.Alike ts us) : us.map Token.kind = ts.map Token.kind := by
  induction same with
  | nil => rfl
  | cons first _ ih => rw [List.map_cons, List.map_cons, first.kind, ih]

/-! ### Covers and readings -/

theorem Covers.textOf_eq (h : Covers before ts cs) : textOf ts = untrimmed id before.reverse cs := by
  induction h with
  | done => rfl
  | gap trimmed _ ih =>
    rw [untrimmed_cons, trimmed, if_pos rfl, ih, List.reverse_append]
    rfl
  | token ne line col kept _ ih =>
    rw [kept.untrimmed, textOf_cons, ih, List.reverse_append]

theorem Covers.reads {source : String} (h : Covers [] ts source.toList) {b : Bool} (reads : Reads b (textOf ts) ts) :
    ts.map Token.shape = (tokenize source).map Token.shape := by
  have same : textOf ts = (preprocess source).toList := by
    rw [h.textOf_eq, preprocess, String.toList_ofList, trimTags_eq_untrimmed]
    rfl
  rw [same] at reads
  exact reads.unique (reads_tokenize source)

theorem Covers.of_trimmed (trimmed : isTrimmed id before.reverse a cs = true) (h : Covers before ts (a :: cs)) :
    Covers (before ++ [a]) ts cs := by
  generalize whole : a :: cs = all at h
  cases h with
  | done => cases whole
  | gap _ more =>
    obtain ⟨rfl, rfl⟩ := List.cons.inj whole
    exact more
  | @token _ t ts rest ne line col kept more =>
    obtain ⟨c, value, chars⟩ := List.exists_cons_of_ne_nil ne
    rw [chars, List.cons_append] at whole
    obtain ⟨rfl, rfl⟩ := List.cons.inj whole
    exact absurd ((kept [] a value chars).symm.trans trimmed) Bool.false_ne_true

theorem Covers.of_kept (kept : isTrimmed id before.reverse a cs = false) (h : Covers before ts (a :: cs)) :
    ∃ t us rest, ts = t :: us ∧ a :: cs = t.value.toList ++ rest ∧ t.line = lineAfter before ∧
      t.col = colAfter before ∧ Covers (before ++ t.value.toList) us rest := by
  generalize whole : a :: cs = all at h
  cases h with
  | done => cases whole
  | gap trimmed _ =>
    obtain ⟨rfl, rfl⟩ := List.cons.inj whole
    exact absurd (kept.symm.trans trimmed) Bool.false_ne_true
  | @token _ t us rest ne line col _ more => exact ⟨t, us, rest, rfl, rfl, line, col, more⟩

/-- What tokens lie over a template is settled by what they are. -/
theorem Covers.unique (h : Covers before ts cs) (h' : Covers before us cs)
    (same : ts.map Token.shape = us.map Token.shape) : ts = us := by
  induction h generalizing us with
  | done =>
    cases us with
    | nil => rfl
    | cons => cases same
  | gap trimmed _ ih => exact ih (h'.of_trimmed trimmed) same
  | @token before t ts rest ne line col kept more ih =>
    obtain ⟨c, value, chars⟩ := List.exists_cons_of_ne_nil ne
    have first : isTrimmed id before.reverse c (value ++ rest) = false := kept [] c value chars
    rw [chars, List.cons_append] at h'
    obtain ⟨u, us, rest', rfl, whole, line', col', more'⟩ := h'.of_kept first
    rw [List.map_cons, List.map_cons] at same
    obtain ⟨shape, same⟩ := List.cons.inj same
    obtain ⟨kind, text⟩ := Prod.mk.inj shape
    rw [← List.cons_append, ← chars, text, List.append_cancel_left_eq] at whole
    subst whole
    rw [text] at ih
    rw [ih more' same]
    congr 1
    obtain ⟨k, v, l, c⟩ := t
    obtain ⟨k', v', l', c'⟩ := u
    simp_all

/-! ### What is trimmed far from the tag -/

theorem take_append_congr {α : Type} {n : Nat} {cs cs' : List α} (same : cs.take n = cs'.take n) (xs : List α) :
    (xs ++ cs).take n = (xs ++ cs').take n := by
  have inner := congrArg (List.take (n - xs.length)) same
  rw [List.take_take, List.take_take, Nat.min_eq_left (Nat.sub_le n _)] at inner
  rw [List.take_append, List.take_append, inner]

/-- The characters begin with the same three, of which the first is no white space. -/
def SameStart (cs cs' : List Char) : Prop :=
  ∃ word : List Char, word.length = 3 ∧ (∀ c, word.head? = some c → isGap id c = false) ∧ word <+: cs ∧ word <+: cs'

theorem startsTrimOpen_congr {cs cs' : List Char} (same : cs.take 3 = cs'.take 3) :
    startsTrimOpen id cs = startsTrimOpen id cs' := by
  have three (cs : List Char) : ['<', '%', '_'] <+: cs ↔ ['<', '%', '_'] <+: cs.take 3 := by
    simp [List.prefix_take_iff]
  rw [Bool.eq_iff_iff, startsTrimOpen_iff, startsTrimOpen_iff, List.map_id, List.map_id, three, same, ← three]

/-- A test of what is behind some white space gives the same for two texts with the same front, if it gives the
same without the front, and behind each part of the front. -/
theorem dropWhile_append_congr {test : List Char → Bool} {rest rest' : List Char}
    (behind : test (rest.dropWhile (isGap id)) = test (rest'.dropWhile (isGap id)))
    (within : ∀ c front, test (c :: (front ++ rest)) = test (c :: (front ++ rest'))) (front : List Char) :
    test ((front ++ rest).dropWhile (isGap id)) = test ((front ++ rest').dropWhile (isGap id)) := by
  induction front with
  | nil => exact behind
  | cons c front ih =>
    rw [List.cons_append, List.cons_append]
    cases gap : isGap id c with
    | true => rw [List.dropWhile_cons_of_pos gap, List.dropWhile_cons_of_pos gap, ih]
    | false =>
      rw [List.dropWhile_cons_of_neg (by simp [gap]), List.dropWhile_cons_of_neg (by simp [gap])]
      exact within c front

theorem SameStart.isTrimmed_eq {rest rest' : List Char} (same : SameStart rest rest') (left right : List Char)
    (a : Char) : isTrimmed id left a (right ++ rest) = isTrimmed id left a (right ++ rest') := by
  obtain ⟨word, three, solid, ⟨more, rfl⟩, ⟨more', rfl⟩⟩ := same
  have start (cs : List Char) : (word ++ cs).take 3 = word := by
    rw [← three, List.take_left]
  have begins : (word ++ more).take 3 = (word ++ more').take 3 := (start more).trans (start more').symm
  have behind : startsTrimOpen id ((word ++ more).dropWhile (isGap id)) =
      startsTrimOpen id ((word ++ more').dropWhile (isGap id)) := by
    obtain ⟨c, word, rfl⟩ := List.exists_cons_of_length_eq_add_one three
    have solid := solid c rfl
    rw [List.cons_append, List.cons_append, List.dropWhile_cons_of_neg (by simp [solid]),
      List.dropWhile_cons_of_neg (by simp [solid])]
    exact startsTrimOpen_congr begins
  have along := dropWhile_append_congr behind
    (fun c front => startsTrimOpen_congr (take_append_congr begins (c :: front))) right
  rw [isTrimmed, isTrimmed, along]

/-- The characters, the nearest first, end with the same `>` of a delimiter. -/
def SameEnd (left left' : List Char) : Prop :=
  ∃ more more', left = '>' :: more ∧ left' = '>' :: more' ∧ endsTrimClose id left = endsTrimClose id left'

theorem SameEnd.isTrimmed_eq {left left' : List Char} (same : SameEnd left left') (front right : List Char)
    (a : Char) : isTrimmed id (front ++ left) a right = isTrimmed id (front ++ left') a right := by
  obtain ⟨more, more', rfl, rfl, ends⟩ := same
  have within (c : Char) (front : List Char) : endsTrimClose id (c :: (front ++ '>' :: more)) =
      endsTrimClose id (c :: (front ++ '>' :: more')) := by
    -- A `>` is the last character of its delimiter only.
    rcases front with _ | ⟨d, _ | ⟨e, front⟩⟩
    · cases more <;> cases more' <;> simp [endsTrimClose]
    · rfl
    · rfl
  rw [isTrimmed, isTrimmed, dropWhile_append_congr ends within front]

/-- Other tokens than before can follow some tokens, if the template goes on with the same characters there. -/
theorem Covers.replace (h : Covers before (us ++ t :: ts) cs) :
    ∃ start rest, cs = start ++ (t.value.toList ++ rest) ∧
      Covers (before ++ start ++ t.value.toList) ts rest ∧
      (t.line = lineAfter (before ++ start) ∧ t.col = colAfter (before ++ start)) ∧
      ∀ new rest', SameStart (t.value.toList ++ rest) rest' → Covers (before ++ start) new rest' →
        Covers before (us ++ new) (start ++ rest') := by
  generalize all : us ++ t :: ts = whole at h
  induction h generalizing us with
  | done => simp at all
  | @gap before whole a cs trimmed more ih =>
    obtain ⟨start, rest, rfl, covers, place, again⟩ := ih all
    refine ⟨a :: start, rest, rfl, by simpa using covers, by simpa using place, fun new rest' same cover => ?_⟩
    exact .gap ((same.isTrimmed_eq _ _ _).symm.trans trimmed) (again new rest' same (by simpa using cover))
  | @token before u whole cs ne line col kept more ih =>
    rcases us with _ | ⟨v, us⟩
    · obtain ⟨rfl, rfl⟩ := List.cons.inj all
      exact ⟨[], cs, rfl, by simpa using more, by simpa using ⟨line, col⟩, fun new rest' _ cover => by simpa using cover⟩
    · obtain ⟨rfl, tail⟩ := List.cons.inj all
      obtain ⟨start, rest, rfl, covers, place, again⟩ := ih tail
      refine ⟨v.value.toList ++ start, rest, by simp, by simpa using covers, by simpa using place,
        fun new rest' same cover => ?_⟩
      rw [List.append_assoc]
      refine .token ne line col (fun l a r text => ?_) (again new rest' same (by simpa using cover))
      rw [← List.append_assoc, ← same.isTrimmed_eq, List.append_assoc]
      exact kept l a r text

/-- Behind a delimiter that closes, the tokens do not depend on what is in front of it, but for their columns. -/
theorem Covers.behind {m m' x : List Char} (h : Covers (m ++ x) ts cs) (same : SameEnd m.reverse m'.reverse)
    (lines : lineAfter m = lineAfter m') : ∃ ts', Covers (m' ++ x) ts' cs ∧ List.Forall₂ Token.Alike ts ts' := by
  have line (x : List Char) : lineAfter (m ++ x) = lineAfter (m' ++ x) := by
    simp only [lineAfter, List.count_append] at lines ⊢
    omega
  have trim (x : List Char) (a : Char) (right : List Char) :
      isTrimmed id (m ++ x).reverse a right = isTrimmed id (m' ++ x).reverse a right := by
    rw [List.reverse_append, List.reverse_append, same.isTrimmed_eq]
  generalize front : m ++ x = before at h
  induction h generalizing x with
  | done => exact ⟨[], .done, .nil⟩
  | @gap before ts a cs trimmed _ ih =>
    subst front
    obtain ⟨ts', covers, alike⟩ := ih (x := x ++ [a]) (by simp)
    rw [trim] at trimmed
    exact ⟨ts', .gap trimmed (by simpa using covers), alike⟩
  | @token before t ts cs ne place col kept _ ih =>
    subst front
    obtain ⟨ts', covers, alike⟩ := ih (x := x ++ t.value.toList) (by simp)
    refine ⟨{ t with col := colAfter (m' ++ x) } :: ts', ?_, .cons ⟨rfl, rfl, rfl⟩ alike⟩
    refine .token ne (place.trans (line x)) rfl (fun l a r text => ?_) (by simpa using covers)
    have behind (m : List Char) : (m ++ x ++ l).reverse = l.reverse ++ (m ++ x).reverse := List.reverse_append
    have there := trim (x ++ l) a (r ++ cs)
    rw [← List.append_assoc, ← List.append_assoc, behind, behind] at there
    exact there.symm.trans (kept l a r text)

/-! ### What is trimmed in the tag -/

section Tag

variable {k : TokenKind} {l r text rest more : List Char}

theorem Quiet.startsTrimOpen_eq_false (closes : k.isClose = true)
    (quiet : Quiet (l ++ r) (k.delimiter.toList ++ more)) :
    startsTrimOpen id ((r ++ (k.delimiter.toList ++ more)).dropWhile (isGap id)) = false := by
  induction r generalizing l with
  | nil => cases more <;> cases k <;> first | rfl | cases closes
  | cons c r ih =>
    cases gap : isGap id c with
    | true =>
      rw [List.cons_append, List.dropWhile_cons_of_pos gap]
      exact ih (l := l ++ [c]) (by simpa using quiet)
    | false =>
      rw [List.cons_append, List.dropWhile_cons_of_neg (by simp [gap]), ← List.cons_append]
      refine Bool.eq_false_iff.2 fun starts => ?_
      rw [startsTrimOpen_iff, List.map_id] at starts
      exact not_prefix_of_delimiterAt_eq_none (k := .openEvalTrim) (quiet l (c :: r) rfl (List.cons_ne_nil c r))
        (by decide) starts

theorem Quiet.endsTrimClose_eq_false (opens : k.isOpen = true) (quiet : Quiet (l ++ r) rest) :
    endsTrimClose id ((l.reverse ++ (k.delimiter.toList.reverse ++ left)).dropWhile (isGap id)) = false := by
  induction l using List.reverseRecOn generalizing r with
  | nil =>
    cases left <;> cases k <;>
      simp_all [endsTrimClose, TokenKind.delimiter, TokenKind.isOpen, isGap, Text.isHorizontal]
  | append_singleton l c ih =>
    rw [List.reverse_append, List.reverse_singleton, List.singleton_append]
    cases gap : isGap id c with
    | true =>
      rw [List.cons_append, List.dropWhile_cons_of_pos gap]
      exact ih (r := c :: r) (by simpa using quiet)
    | false =>
      rw [List.cons_append, List.dropWhile_cons_of_neg (by simp [gap])]
      refine Bool.eq_false_iff.2 fun ends => ?_
      rw [endsTrimClose_iff, List.map_id, List.cons_prefix_cons] at ends
      obtain ⟨rfl, ends⟩ := ends
      rcases List.eq_nil_or_concat' l with rfl | ⟨l, d, rfl⟩
      · cases k <;> simp_all [TokenKind.delimiter, TokenKind.isOpen, List.cons_prefix_cons]
      · rw [List.reverse_append, List.reverse_singleton, List.singleton_append, List.cons_append,
          List.cons_prefix_cons] at ends
        obtain ⟨rfl, -⟩ := ends
        have none := quiet l ('%' :: '>' :: r) (by simp) (List.cons_ne_nil _ _)
        exact not_prefix_of_delimiterAt_eq_none (k := .close) none (by decide) ⟨r ++ rest, rfl⟩

/-- No white space of a tag's text is trimmed. -/
theorem Quiet.kept {k' : TokenKind} (opens : k.isOpen = true) (closes : k'.isClose = true)
    (quiet : Quiet text (k'.delimiter.toList ++ more)) :
    Kept id (k.delimiter.toList.reverse ++ left) text (k'.delimiter.toList ++ more) := by
  rintro l a r rfl
  have starts := Quiet.startsTrimOpen_eq_false (l := l ++ [a]) closes (by simpa using quiet)
  rw [isTrimmed, starts, quiet.endsTrimClose_eq_false opens, Bool.or_false, Bool.and_false]

theorem kept_delimiter (k : TokenKind) : Kept id left k.delimiter.toList right := by
  intro l a r whole
  have solid : k.delimiter.toList.any (isGap id) = false := by
    cases k <;> decide
  exact not_isTrimmed_of_not_isGap (Bool.eq_false_iff.2 (List.any_eq_false.1 solid a (by simp [whole])))

end Tag

/-- No white space is trimmed in front of a token, unless one of the two delimiters is there. -/
theorem Covers.untrimmed_token {b : Bool} (h : Covers before (t :: ts) cs)
    (reads : Reads b (textOf (t :: ts)) (t :: ts)) (kind : t.kind ≠ .openEvalTrim)
    (ends : endsTrimClose id (before.reverse.dropWhile (isGap id)) = false) :
    ∃ rest, cs = t.value.toList ++ rest ∧ (t.line = lineAfter before ∧ t.col = colAfter before) ∧
      Covers (before ++ t.value.toList) ts rest := by
  cases cs with
  | nil =>
    have empty := h.textOf_eq
    rw [textOf_cons] at empty
    exact absurd (List.append_eq_nil_iff.1 empty).1 reads.value_ne_nil
  | cons a cs =>
    cases trimmed : isTrimmed id before.reverse a cs with
    | false =>
      obtain ⟨u, us, rest, whole, chars, line, col, more⟩ := h.of_kept trimmed
      obtain ⟨rfl, rfl⟩ := List.cons.inj whole
      exact ⟨rest, chars, ⟨line, col⟩, more⟩
    | true =>
      rw [isTrimmed, ends, Bool.or_false, Bool.and_eq_true] at trimmed
      obtain ⟨gap, starts⟩ := trimmed
      rw [← List.dropWhile_cons_of_pos (l := cs) gap] at starts
      have begins := startsTrimOpen_iff.1 (startsTrimOpen_untrimmed before.reverse starts)
      rw [← h.textOf_eq, List.map_id] at begins
      obtain ⟨k, found, long⟩ := delimiterAt_of_prefix (k := .openEvalTrim) (by decide) begins
      have delimiter : t.kind ≠ .text := fun text => by
        rw [reads.text_iff.1 text] at found
        cases found
      obtain rfl : t.kind = k := Option.some.inj ((reads.of_delimiter delimiter).2.symm.trans found)
      have front : TokenKind.openEvalTrim.delimiter.toList <+: t.kind.delimiter.toList :=
        List.prefix_of_prefix_length_le begins (delimiterAt_eq_some found).2
          (by rwa [String.length_toList, String.length_toList])
      exact absurd (delimiter_injective (front.eq_of_length_le (delimiter_length_le t.kind))).symm kind

/-! ### Reading on -/

theorem delimiterAt_append_congr {r cs cs' : List Char} (ne : r ≠ []) (same : cs.take 2 = cs'.take 2) :
    delimiterAt (r ++ cs) = delimiterAt (r ++ cs') := by
  obtain ⟨c, r, rfl⟩ := List.exists_cons_of_ne_nil ne
  have three : (c :: r ++ cs).take 3 = (c :: r ++ cs').take 3 :=
    congrArg (c :: ·) (take_append_congr same r)
  rw [← delimiterAt_take, three, delimiterAt_take]

theorem Quiet.congr {text rest rest' : List Char} (quiet : Quiet text rest) (same : rest.take 2 = rest'.take 2) :
    Quiet text rest' := fun l r whole ne => by
  rw [← delimiterAt_append_congr ne same]
  exact quiet l r whole ne

/-- Other tokens than before can follow some tokens, if they begin with the same two characters. -/
theorem Reads.replace {b : Bool} (h : Reads b cs (ts ++ us)) {new : List Token}
    (same : (textOf us).take 2 = (textOf new).take 2) (more : ∀ b, Reads b (textOf new) new) :
    Reads b (textOf (ts ++ new)) (ts ++ new) := by
  generalize all : ts ++ us = whole at h
  induction h generalizing ts with
  | done =>
    obtain ⟨rfl, rfl⟩ := List.append_eq_nil_iff.1 all
    exact more _
  | @text t rest whole kind ne quiet behind ih =>
    cases ts with
    | nil => exact more _
    | cons u ts =>
      obtain ⟨rfl, tail⟩ := List.cons.inj all
      have tail : ts ++ us = whole := tail
      rw [List.cons_append, textOf_cons]
      refine .text kind ne (quiet.congr ?_) (ih tail)
      rw [← behind.textOf_eq, ← tail, textOf_append, textOf_append]
      exact take_append_congr same _
  | @delimiter _ t rest whole value found behind ih =>
    cases ts with
    | nil => exact more _
    | cons u ts =>
      obtain ⟨rfl, tail⟩ := List.cons.inj all
      have tail : ts ++ us = whole := tail
      have ne : u.value.toList ≠ [] := (Reads.delimiter value found behind : Reads false _ _).value_ne_nil
      rw [List.cons_append, textOf_cons]
      refine .delimiter value ?_ (ih tail)
      rw [← found, ← behind.textOf_eq, ← tail, textOf_append, textOf_append]
      exact (delimiterAt_append_congr ne (take_append_congr same _)).symm

/-- Reading goes by what the tokens are. -/
theorem Reads.alike {b : Bool} (h : Reads b cs ts) (same : List.Forall₂ Token.Alike ts us) : Reads b cs us := by
  induction h generalizing us with
  | done =>
    cases same
    exact .done
  | text kind ne quiet _ ih =>
    cases same with
    | cons first rest =>
      rw [← first.value] at ne quiet ⊢
      exact .text (first.kind.trans kind) ne quiet (ih rest)
  | delimiter value found _ ih =>
    cases same with
    | cons first rest =>
      rw [← first.kind, ← first.value] at value
      rw [← first.kind, ← first.value] at found
      rw [← first.value]
      exact .delimiter value found (ih rest)

/-! ### The new template -/

theorem take_three (k : TokenKind) (opens : k.isOpen = true) (c : Char) (cs : List Char) :
    (k.delimiter.toList ++ c :: cs).take 3 = (k.delimiter.toList ++ [c]).take 3 := by
  cases k <;> first | rfl | cases opens

/-- What `>` ends in front of what follows a tag does not depend on the text of the tag. -/
theorem endsTrimClose_closer {k : TokenKind} (closes : k.isClose = true) {text more : List Char} (ne : text ≠ [])
    (quiet : Quiet text (k.delimiter.toList ++ more)) (left : List Char) :
    endsTrimClose id (k.delimiter.toList.reverse ++ (text.reverse ++ left)) = decide (k = .closeTrimBlanks) := by
  obtain ⟨front, c, rfl⟩ := (List.eq_nil_or_concat' text).resolve_left ne
  rw [List.reverse_append, List.reverse_singleton]
  cases k with
  | close =>
    show (c == '_' && _ && _) = false
    have none := quiet front [c] rfl (List.cons_ne_nil _ _)
    have other : c ≠ '_' := by
      rintro rfl
      cases none
    rw [beq_eq_false_iff_ne.2 other, Bool.false_and, Bool.false_and]
  | closeTrimBreak | closeTrimBlanks => rfl
  | _ => cases closes

theorem ne_text_of_isOpen {k : TokenKind} (opens : k.isOpen = true) : k ≠ .text := by
  rintro rfl
  cases opens

theorem ne_text_of_isClose {k : TokenKind} (closes : k.isClose = true) : k ≠ .text := by
  rintro rfl
  cases closes

/-- A tag in a template: a delimiter that opens, its text and a delimiter that closes, side by side behind
`start` and in front of `rest`. -/
structure TagAt (start rest : List Char) (opener t closer : Token) (after : List Token) : Prop where
  opens : opener.kind.isOpen = true
  closes : closer.kind.isClose = true
  text : t.kind = .text
  opener_value : opener.value = opener.kind.delimiter
  closer_value : closer.value = closer.kind.delimiter
  ne : t.value.toList ≠ []
  quiet : Quiet t.value.toList (closer.kind.delimiter.toList ++ textOf after)
  found : delimiterAt (textOf (opener :: t :: closer :: after)) = some opener.kind
  reads : Reads true (textOf (closer :: after)) (closer :: after)
  opener_place : opener.line = lineAfter start ∧ opener.col = colAfter start
  place : t.line = lineAfter (start ++ opener.value.toList) ∧ t.col = colAfter (start ++ opener.value.toList)
  closer_line : closer.line = lineAfter (start ++ opener.value.toList ++ t.value.toList)
  covers : Covers (start ++ opener.value.toList ++ t.value.toList ++ closer.value.toList) after rest

section Tag

variable {source : String} {opener closer : Token} {after : List Token}

/-- The tokens of a tag are found in one place. -/
theorem exists_tagAt (tokens : tokenize source = ts ++ opener :: t :: closer :: after)
    (opens : opener.kind.isOpen = true) (text : t.kind = .text) (closes : closer.kind.isClose = true) :
    ∃ start rest, source.toList =
        start ++ (opener.value.toList ++ (t.value.toList ++ (closer.value.toList ++ rest))) ∧
      TagAt start rest opener t closer after ∧
      ∀ new rest', SameStart (opener.value.toList ++ (t.value.toList ++ (closer.value.toList ++ rest))) rest' →
        Covers start new rest' → Covers [] (ts ++ new) (start ++ rest') := by
  have covers := covers_tokenize source
  have reads := reads_tokenize source
  rw [tokens] at covers reads
  obtain ⟨b, reads⟩ := reads.tail
  obtain ⟨b', reads'⟩ : ∃ b, Reads b (textOf (t :: closer :: after)) (t :: closer :: after) :=
    @Reads.tail _ _ _ [opener] reads
  obtain ⟨opener_value, found⟩ := reads.of_delimiter (ne_text_of_isOpen opens)
  obtain ⟨ne, quiet, closer_reads⟩ := reads'.of_text text
  have closer_value := (closer_reads.of_delimiter (ne_text_of_isClose closes)).1
  rw [textOf_cons, closer_value] at quiet
  obtain ⟨start, rest₀, split, covers, opener_place, again⟩ := covers.replace
  rw [List.nil_append] at covers opener_place again
  obtain ⟨rest₁, rfl, place, covers⟩ := covers.untrimmed_token reads' (by rw [text]; decide) (by
    rw [List.reverse_append, opener_value]
    exact Quiet.endsTrimClose_eq_false (l := []) opens quiet)
  obtain ⟨rest, rfl, closer_place, covers⟩ := covers.untrimmed_token closer_reads (by
    intro kind
    rw [kind] at closes
    cases closes) (by
    rw [List.reverse_append, List.reverse_append, opener_value]
    exact Quiet.endsTrimClose_eq_false (r := []) opens (by simpa using quiet))
  exact ⟨start, rest, split, ⟨opens, closes, text, opener_value, closer_value, ne, quiet, found, closer_reads,
    opener_place, place, closer_place.1, covers⟩, again⟩

theorem quiet_append_iff {k : TokenKind} (closes : k.isClose = true) {text : List Char} (more : List Char) :
    Quiet text (k.delimiter.toList ++ more) ↔ Quiet text k.delimiter.toList := by
  have same : (k.delimiter.toList ++ more).take 2 = k.delimiter.toList.take 2 := by
    cases k <;> first | rfl | cases closes
  exact ⟨fun quiet => quiet.congr same, fun quiet => quiet.congr same.symm⟩

theorem sameEnd_closer {k : TokenKind} (closes : k.isClose = true) {text text' : List Char} (ne : text ≠ [])
    (ne' : text' ≠ []) (quiet : Quiet text k.delimiter.toList) (quiet' : Quiet text' k.delimiter.toList)
    (left : List Char) :
    SameEnd (k.delimiter.toList.reverse ++ (text.reverse ++ left))
      (k.delimiter.toList.reverse ++ (text'.reverse ++ left)) := by
  obtain ⟨tail, shape⟩ : ∃ tail, k.delimiter.toList.reverse = '>' :: tail := by
    cases k <;> first | exact ⟨_, rfl⟩ | cases closes
  refine ⟨tail ++ (text.reverse ++ left), tail ++ (text'.reverse ++ left), by rw [shape]; rfl, by rw [shape]; rfl, ?_⟩
  rw [endsTrimClose_closer closes ne ((quiet_append_iff closes []).2 quiet),
    endsTrimClose_closer closes ne' ((quiet_append_iff closes []).2 quiet')]

theorem Covers.placed {chars rest : List Char} (value : t.value.toList = chars) (ne : chars ≠ [])
    (line : t.line = lineAfter before) (col : t.col = colAfter before) (kept : Kept id before.reverse chars rest)
    (more : Covers (before ++ chars) ts rest) : Covers before (t :: ts) (chars ++ rest) := by
  subst value
  exact .token ne line col kept more

namespace TagAt

variable {start rest body : List Char} (tag : TagAt start rest opener t closer after) (ne : body ≠ [])
  (quiet : Quiet body closer.kind.delimiter.toList)

include tag ne quiet

/-- With another text, the tokens of the tag and those behind it lie over the template that has that text in the
tag. -/
theorem exists_covers (lines : body.count '\n' = t.value.toList.count '\n') :
    ∃ after', Covers start (opener :: { t with value := String.ofList body } :: after')
        (opener.value.toList ++ (body ++ (closer.value.toList ++ rest))) ∧
      List.Forall₂ Token.Alike (closer :: after) after' := by
  have line (last : List Char) : lineAfter (start ++ opener.value.toList ++ t.value.toList ++ last) =
      lineAfter (start ++ opener.value.toList ++ body ++ last) := by
    simp only [lineAfter, List.count_append, lines]
  have ends : SameEnd (start ++ opener.value.toList ++ t.value.toList ++ closer.value.toList).reverse
      (start ++ opener.value.toList ++ body ++ closer.value.toList).reverse := by
    have := sameEnd_closer tag.closes tag.ne ne ((quiet_append_iff tag.closes _).1 tag.quiet) quiet
      (start ++ opener.value.toList).reverse
    simpa [tag.closer_value] using this
  obtain ⟨after', covers, alike⟩ := Covers.behind (x := []) (by simpa using tag.covers) ends (line _)
  rw [List.append_nil] at covers
  have closing : Covers (start ++ opener.value.toList ++ body)
      ({ closer with col := colAfter (start ++ opener.value.toList ++ body) } :: after')
      (closer.value.toList ++ rest) := by
    refine .token ?_ (tag.closer_line.trans (by simpa using line [])) rfl ?_ covers
    · have := tag.closes
      rw [tag.closer_value]
      cases kind : closer.kind <;> simp_all [TokenKind.delimiter, TokenKind.isClose]
    · show Kept id _ closer.value.toList rest
      rw [tag.closer_value]
      exact kept_delimiter _
  refine ⟨_, .token ?_ tag.opener_place.1 tag.opener_place.2 ?_ (.placed (String.toList_ofList) ne tag.place.1
    tag.place.2 ?_ closing), .cons ⟨rfl, rfl, rfl⟩ alike⟩
  · have := tag.opens
    rw [tag.opener_value]
    cases kind : opener.kind <;> simp_all [TokenKind.delimiter, TokenKind.isOpen]
  · rw [tag.opener_value]
    exact kept_delimiter _
  · rw [List.reverse_append, tag.opener_value, tag.closer_value]
    exact ((quiet_append_iff tag.closes rest).2 quiet).kept tag.opens tag.closes

omit quiet in
/-- The delimiter that opens the tag is seen in the first three characters, also with another text that begins
with the same character. -/
theorem take_opener (first : body.head? = t.value.toList.head?) (more more' : List Char) :
    (opener.value.toList ++ (t.value.toList ++ more)).take 3 = (opener.value.toList ++ (body ++ more')).take 3 := by
  obtain ⟨c, body, rfl⟩ := List.exists_cons_of_ne_nil ne
  obtain ⟨text, chars⟩ := List.head?_eq_some_iff.1 first.symm
  rw [tag.opener_value, chars, List.cons_append, List.cons_append, take_three _ tag.opens c (text ++ more),
    take_three _ tag.opens c (body ++ more')]

omit quiet in
theorem sameStart (first : body.head? = t.value.toList.head?) (more more' : List Char) :
    SameStart (opener.value.toList ++ (t.value.toList ++ more)) (opener.value.toList ++ (body ++ more')) := by
  have three := tag.take_opener ne first more more'
  refine ⟨_, ?_, fun c start => ?_, List.take_prefix 3 _, three ▸ List.take_prefix 3 _⟩
  · obtain ⟨c, text, chars⟩ := List.exists_cons_of_ne_nil tag.ne
    have := tag.opens
    rw [tag.opener_value, chars, List.cons_append, take_three _ tag.opens]
    cases kind : opener.kind <;> simp_all [TokenKind.delimiter, TokenKind.isOpen]
  · obtain ⟨tail, shape⟩ : ∃ tail, opener.kind.delimiter.toList = '<' :: tail := by
      have := tag.opens
      cases kind : opener.kind <;> first | exact ⟨_, rfl⟩ | simp_all [TokenKind.isOpen]
    rw [tag.opener_value, shape] at start
    exact Option.some.inj start ▸ rfl

/-- With another text that begins with the same character, the tokens of the tag are read. -/
theorem reads_text (first : body.head? = t.value.toList.head?) {after' : List Token}
    (alike : List.Forall₂ Token.Alike (closer :: after) after') (b : Bool) :
    Reads b (textOf (opener :: { t with value := String.ofList body } :: after'))
      (opener :: { t with value := String.ofList body } :: after') := by
  have behind := tag.reads.alike alike
  have chars : textOf after' = closer.kind.delimiter.toList ++ textOf after := by
    rw [behind.textOf_eq, textOf_cons, tag.closer_value]
  rw [← behind.textOf_eq] at behind
  rw [textOf_cons, textOf_cons]
  refine .delimiter tag.opener_value ?_ (.text tag.text (by simpa using ne) ?_ behind)
  · have found := tag.found
    rw [textOf_cons, textOf_cons] at found
    rw [← found, ← delimiterAt_take, String.toList_ofList, ← tag.take_opener ne first, delimiterAt_take]
  · rw [chars, String.toList_ofList]
    exact (quiet_append_iff tag.closes _).2 quiet

end TagAt

end Tag

/-- In the text of a tag, another one can stand that begins with the same character, has as many line feeds and no
delimiter: the tokens around it stay the same, apart from columns. -/
theorem tokenize_splice {source : String} {after : List Token} {opener closer : Token}
    (tokens : tokenize source = ts ++ opener :: t :: closer :: after) (opens : opener.kind.isOpen = true)
    (text : t.kind = .text) (closes : closer.kind.isClose = true) :
    ∃ start rest, source.toList = start ++ (t.value.toList ++ rest) ∧ t.line = lineAfter start ∧
      t.col = colAfter start ∧ ∀ body, body.head? = t.value.toList.head? →
        body.count '\n' = t.value.toList.count '\n' →
        (Quiet t.value.toList closer.kind.delimiter.toList → Quiet body closer.kind.delimiter.toList) →
        ∃ after', tokenize (String.ofList (start ++ (body ++ rest))) =
            ts ++ opener :: { t with value := String.ofList body } :: after' ∧
          List.Forall₂ Token.Alike (closer :: after) after' := by
  obtain ⟨ahead, behind, split, tag, again⟩ := exists_tagAt tokens opens text closes
  refine ⟨ahead ++ opener.value.toList, closer.value.toList ++ behind, by rw [split, List.append_assoc],
    tag.place.1, tag.place.2, fun body first lines quiet => ?_⟩
  have ne : body ≠ [] := fun empty => by
    rw [empty, List.head?_nil, eq_comm, List.head?_eq_none_iff] at first
    exact tag.ne first
  have quiet := quiet ((quiet_append_iff closes _).1 tag.quiet)
  obtain ⟨after', covers, alike⟩ := tag.exists_covers ne quiet lines
  refine ⟨after', ?_, alike⟩
  have cover := again _ _ (tag.sameStart ne first _ _) covers
  have chars : ahead ++ (opener.value.toList ++ (body ++ (closer.value.toList ++ behind))) =
      (String.ofList (ahead ++ opener.value.toList ++ (body ++ (closer.value.toList ++ behind)))).toList := by
    simp
  rw [chars] at cover
  have read : Reads false (textOf (ts ++ opener :: { t with value := String.ofList body } :: after'))
      (ts ++ opener :: { t with value := String.ofList body } :: after') := by
    have reads := reads_tokenize source
    rw [tokens] at reads
    refine reads.replace ?_ (tag.reads_text ne quiet first alike)
    have three := tag.take_opener ne first (textOf (closer :: after)) (textOf after')
    have two := congrArg (List.take 2) three
    rw [List.take_take, List.take_take] at two
    simpa using two
  exact (covers_tokenize _).unique cover (cover.reads read).symm

end StreamTemplate.Markup
