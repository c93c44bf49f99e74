import StreamTemplate.Proofs.Markup.Trim
import StreamTemplate.Markup.Lexer
import Mathlib.Data.List.Chain
import Mathlib.Data.List.Infix

/-!
# One reading of every text

The delimiters overlap in both directions, so a text can be cut into delimiters and text between
them in many ways. `Reads` singles one out: text holds no place at which a delimiter begins, and a
delimiter is the longest that begins where it stands, both judged with the rest of the template in
place. Every text has at most one such reading (`Reads.unique`), and the scan finds it
(`reads_scan`); the properties of token lists (`Canonical`) are read off the relation.
-/

namespace StreamTemplate.Markup

/-- The characters of tokens, in order. -/
def textOf (ts : List Token) : List Char :=
  ts.flatMap (·.value.toList)

/-- What a token is, wherever it stands. -/
def Token.shape (t : Token) : TokenKind × String :=
  (t.kind, t.value)

/-- No delimiter begins inside `text` when `rest` follows it. -/
def Quiet (text rest : List Char) : Prop :=
  ∀ l r, text = l ++ r → r ≠ [] → delimiterAt (r ++ rest) = none

/-- `kind` is the longest delimiter that begins `start` characters into the text, and none begins
further left. -/
structure LeftmostLongest (kind : TokenKind) (start : Nat) (text : List Char) : Prop where
  begins : kind.delimiter.toList <+: text.drop start
  longest : ∀ k : TokenKind, k ≠ .text → k.delimiter.toList <+: text.drop start →
    k.delimiter.length ≤ kind.delimiter.length
  leftmost : ∀ i < start, ∀ k : TokenKind, k ≠ .text → ¬ k.delimiter.toList <+: text.drop i

/-- The tokens cut the text at its delimiters, each found from the left and taken as long as
possible. -/
structure Canonical (text : List Char) (ts : List Token) : Prop where
  /-- Nothing is lost, added or moved. -/
  joined : textOf ts = text
  /-- Text is there only where there are characters. -/
  text_ne_empty : ∀ t ∈ ts, t.kind = .text → t.value ≠ ""
  /-- Text holds no delimiter. -/
  text_plain : ∀ t ∈ ts, t.kind = .text →
    ∀ k : TokenKind, k ≠ .text → ¬ k.delimiter.toList <:+: t.value.toList
  /-- Text is cut by delimiters only. -/
  text_apart : ts.IsChain fun t u => ¬(t.kind = .text ∧ u.kind = .text)
  /-- A delimiter is the first one behind the tokens before it, or behind the one before the text
  in front of it, and the longest at that place. -/
  delimiter : ∀ before gap t after, ts = before ++ (gap ++ t :: after) →
    (∀ g ∈ gap, g.kind = .text) → t.kind ≠ .text →
      t.value = t.kind.delimiter ∧
        LeftmostLongest t.kind (textOf gap).length (textOf (gap ++ t :: after))

/-- `ts` is the reading of a text. After a text token (`afterText`) only a delimiter can come. -/
inductive Reads : (afterText : Bool) → List Char → List Token → Prop
  | done {afterText} : Reads afterText [] []
  | text {t rest ts} (kind : t.kind = .text) (ne : t.value.toList ≠ [])
      (quiet : Quiet t.value.toList rest) (more : Reads true rest ts) :
      Reads false (t.value.toList ++ rest) (t :: ts)
  | delimiter {afterText t rest ts} (value : t.value = t.kind.delimiter)
      (found : delimiterAt (t.value.toList ++ rest) = some t.kind) (more : Reads false rest ts) :
      Reads afterText (t.value.toList ++ rest) (t :: ts)

/-! ### Delimiters -/

theorem delimiterAt_eq_some {cs : List Char} {k : TokenKind} (h : delimiterAt cs = some k) :
    k ≠ .text ∧ k.delimiter.toList <+: cs := by
  unfold delimiterAt at h
  split at h
  case h_11 => exact absurd h (Option.some_ne_none k).symm
  all_goals
    obtain rfl := Option.some.inj h
    exact ⟨by decide, _, rfl⟩

/-- Where a delimiter begins, one is found, and none is longer. -/
theorem delimiterAt_of_prefix {cs : List Char} {k : TokenKind} (hk : k ≠ .text)
    (h : k.delimiter.toList <+: cs) :
    ∃ k', delimiterAt cs = some k' ∧ k.delimiter.length ≤ k'.delimiter.length := by
  obtain ⟨rest, rfl⟩ := h
  cases k with
  | text => exact absurd rfl hk
  | openEval =>
    change ∃ k', delimiterAt ('<' :: '%' :: rest) = some k' ∧ 2 ≤ k'.delimiter.length
    unfold delimiterAt
    split
    any_goals exact ⟨_, rfl, by decide⟩
    all_goals simp_all
  | close => exact ⟨.close, rfl, le_rfl⟩
  | openEvalTrim => exact ⟨.openEvalTrim, rfl, le_rfl⟩
  | openEscaped => exact ⟨.openEscaped, rfl, le_rfl⟩
  | openRaw => exact ⟨.openRaw, rfl, le_rfl⟩
  | openComment => exact ⟨.openComment, rfl, le_rfl⟩
  | openLiteral => exact ⟨.openLiteral, rfl, le_rfl⟩
  | closeTrimBreak => exact ⟨.closeTrimBreak, rfl, le_rfl⟩
  | closeTrimBlanks => exact ⟨.closeTrimBlanks, rfl, le_rfl⟩
  | closeLiteral => exact ⟨.closeLiteral, rfl, le_rfl⟩

theorem delimiter_injective {k k' : TokenKind}
    (h : k.delimiter.toList = k'.delimiter.toList) : k = k' := by
  cases k <;> cases k' <;> first | rfl | exact absurd h (by decide)

theorem delimiter_length_le (k : TokenKind) : k.delimiter.toList.length ≤ 3 := by
  cases k <;> decide

/-- The delimiter found depends only on which delimiters the text begins with. -/
theorem delimiterAt_congr {cs cs' : List Char}
    (h : ∀ k : TokenKind, k.delimiter.toList <+: cs ↔ k.delimiter.toList <+: cs') :
    delimiterAt cs = delimiterAt cs' := by
  cases hk : delimiterAt cs with
  | some k =>
    obtain ⟨ht, hp⟩ := delimiterAt_eq_some hk
    obtain ⟨k', hk', hle⟩ := delimiterAt_of_prefix ht ((h k).1 hp)
    obtain ⟨ht', hp'⟩ := delimiterAt_eq_some hk'
    obtain ⟨k'', hk'', hle'⟩ := delimiterAt_of_prefix ht' ((h k').2 hp')
    obtain rfl : k = k'' := Option.some.inj (hk.symm.trans hk'')
    -- Both begin the text and none is longer than the other.
    have hpre : k.delimiter.toList <+: k'.delimiter.toList :=
      List.prefix_of_prefix_length_le ((h k).1 hp) hp' (by rwa [String.length_toList, String.length_toList])
    rw [hk', delimiter_injective (hpre.eq_of_length_le (by rwa [String.length_toList, String.length_toList]))]
  | none =>
    cases hk' : delimiterAt cs' with
    | none => rfl
    | some k' =>
      obtain ⟨ht', hp'⟩ := delimiterAt_eq_some hk'
      obtain ⟨k, hk'', -⟩ := delimiterAt_of_prefix ht' ((h k').2 hp')
      exact absurd (hk.symm.trans hk'') (Option.some_ne_none k).symm

theorem delimiterAt_take (cs : List Char) : delimiterAt (cs.take 3) = delimiterAt cs :=
  delimiterAt_congr fun k => by simp only [List.prefix_take_iff, delimiter_length_le, and_true]

/-! ### The scan reads -/

theorem textToken_of_ne_nil {held : List Placed} (h : held ≠ []) :
    textToken held =
      [⟨.text, String.ofList (held.reverse.map (·.char)), (held.getLast h).line,
        (held.getLast h).col⟩] := by
  rw [textToken, List.getLast?_eq_getLast_of_ne_nil h]

theorem scan_skip (xs ys held : List Placed) : scan xs.length held (xs ++ ys) = scan 0 held ys := by
  induction xs with
  | nil => rfl
  | cons x xs ih => exact ih

theorem scan_cons (held : List Placed) (p : Placed) (rest : List Placed) :
    scan 0 held (p :: rest) =
      match delimiterAt ((p :: rest).map (·.char)) with
      | some kind =>
        textToken held ++
          ⟨kind, kind.delimiter, p.line, p.col⟩ :: scan (kind.delimiter.length - 1) [] rest
      | none => scan 0 (p :: held) rest := by
  rw [← delimiterAt_take, ← List.map_take]
  rfl

/-- A delimiter ends the text in front of it; the scan goes on behind it. -/
theorem scan_delimiter (held : List Placed) {p : Placed} {rest : List Placed} {kind : TokenKind}
    (h : delimiterAt ((p :: rest).map (·.char)) = some kind) :
    ∃ xs ys, rest = xs ++ ys ∧ (p :: xs).map (·.char) = kind.delimiter.toList ∧
      scan 0 held (p :: rest) =
        textToken held ++ ⟨kind, kind.delimiter, p.line, p.col⟩ :: scan 0 [] ys := by
  obtain ⟨ht, hp⟩ := delimiterAt_eq_some h
  obtain ⟨xs, hxs, hx⟩ := List.prefix_map_iff.1 hp
  obtain ⟨ys, hys⟩ := hxs
  cases xs with
  | nil => cases kind <;> simp_all [TokenKind.delimiter]
  | cons x xs =>
    obtain ⟨rfl, hr⟩ := List.cons.inj hys
    have hr : xs ++ ys = rest := hr
    subst hr
    refine ⟨xs, ys, rfl, hx.symm, ?_⟩
    have hlen : kind.delimiter.length - 1 = xs.length := by
      rw [← String.length_toList, hx, List.length_map, List.length_cons, Nat.add_sub_cancel]
    rw [scan_cons, h]
    dsimp only
    rw [hlen, scan_skip]

theorem Quiet.snoc {text rest : List Char} {c : Char} (h : Quiet text (c :: rest))
    (hc : delimiterAt (c :: rest) = none) : Quiet (text ++ [c]) rest := by
  intro l r he hr
  rcases List.eq_nil_or_concat r with rfl | ⟨r, d, rfl⟩
  · exact absurd rfl hr
  · rw [List.concat_eq_append, ← List.append_assoc] at he
    obtain ⟨rfl, hd⟩ := List.append_inj' he rfl
    obtain rfl := List.singleton_injective hd
    rw [List.concat_eq_append, List.append_assoc, List.singleton_append]
    cases r with
    | nil => exact hc
    | cons x r => exact h l (x :: r) rfl (List.cons_ne_nil x r)

/-- The text in front of a delimiter, or of the end, makes one token, or none if it is empty. -/
theorem Reads.textToken {held : List Placed} {rest : List Char} {ts : List Token}
    (hq : Quiet (held.reverse.map (·.char)) rest) (h : ∀ b, Reads b rest ts) :
    Reads false (held.reverse.map (·.char) ++ rest) (textToken held ++ ts) := by
  cases held with
  | nil => exact h false
  | cons p held =>
    rw [textToken_of_ne_nil (List.cons_ne_nil p held)]
    have hread := Reads.text
      (t := ⟨.text, String.ofList ((p :: held).reverse.map (·.char)),
        ((p :: held).getLast (List.cons_ne_nil p held)).line,
        ((p :: held).getLast (List.cons_ne_nil p held)).col⟩)
      rfl (by simp) (by simpa using hq) (h true)
    simpa using hread

theorem reads_scan (held ps : List Placed)
    (hq : Quiet (held.reverse.map (·.char)) (ps.map (·.char))) :
    Reads false (held.reverse.map (·.char) ++ ps.map (·.char)) (scan 0 held ps) := by
  induction hn : ps.length using Nat.strongRecOn generalizing held ps with
  | _ n ih =>
    cases ps with
    | nil => simpa [scan] using Reads.textToken hq fun _ => .done
    | cons p rest =>
      cases hd : delimiterAt ((p :: rest).map (·.char)) with
      | none =>
        rw [scan_cons, hd]
        have := ih rest.length (by simp [← hn]) (p :: held) rest
          (by simpa using hq.snoc hd) rfl
        simpa using this
      | some kind =>
        obtain ⟨xs, ys, rfl, hx, hscan⟩ := scan_delimiter held hd
        rw [hscan]
        refine Reads.textToken hq fun b => ?_
        have hlt : ys.length < n := by
          rw [← hn, List.length_cons, List.length_append]
          omega
        have hmore := ih ys.length hlt [] ys
          (fun l r he hr => absurd (List.append_eq_nil_iff.1 he.symm).2 hr) rfl
        have hcs : (p :: (xs ++ ys)).map (·.char) =
            kind.delimiter.toList ++ ys.map (·.char) := by
          rw [← List.cons_append, List.map_append, hx]
        rw [hcs] at hd ⊢
        exact Reads.delimiter (t := ⟨kind, kind.delimiter, p.line, p.col⟩) rfl hd hmore

/-! ### What a reading is like -/

@[simp]
theorem textOf_nil : textOf [] = [] := rfl

@[simp]
theorem textOf_cons (t : Token) (ts : List Token) :
    textOf (t :: ts) = t.value.toList ++ textOf ts := rfl

@[simp]
theorem textOf_append (ts us : List Token) : textOf (ts ++ us) = textOf ts ++ textOf us :=
  List.flatMap_append

theorem Quiet.drop {text rest : List Char} (h : Quiet text rest) {i : Nat} (hi : i < text.length) :
    delimiterAt ((text ++ rest).drop i) = none := by
  rw [List.drop_append_of_le_length hi.le]
  refine h (text.take i) (text.drop i) (List.take_append_drop i text).symm fun he => ?_
  have := List.drop_eq_nil_iff.1 he
  omega

theorem not_prefix_of_delimiterAt_eq_none {cs : List Char} (h : delimiterAt cs = none)
    {k : TokenKind} (hk : k ≠ .text) : ¬ k.delimiter.toList <+: cs := fun hp =>
  let ⟨_, hk', _⟩ := delimiterAt_of_prefix hk hp
  absurd (h.symm.trans hk') (Option.some_ne_none _).symm

theorem Quiet.not_contains {text rest : List Char} (h : Quiet text rest) {k : TokenKind}
    (hk : k ≠ .text) : ¬ k.delimiter.toList <:+: text := by
  rintro ⟨l, r, he⟩
  have hne : k.delimiter.toList ++ r ≠ [] := by
    cases k <;> simp_all [TokenKind.delimiter]
  have hnone := h l _ (by rw [← he, List.append_assoc]) hne
  exact not_prefix_of_delimiterAt_eq_none hnone hk ⟨r ++ rest, by simp⟩

namespace Reads

variable {afterText : Bool} {cs : List Char} {t : Token} {ts : List Token}

theorem textOf_eq (h : Reads afterText cs ts) : textOf ts = cs := by
  induction h with
  | done => rfl
  | text _ _ _ _ ih => rw [textOf_cons, ih]
  | delimiter _ _ _ ih => rw [textOf_cons, ih]

/-- What follows text begins with a delimiter, if anything follows. -/
theorem isSome_delimiterAt (h : Reads true cs ts) (hne : cs ≠ []) :
    (delimiterAt cs).isSome = true := by
  cases h with
  | done => exact absurd rfl hne
  | delimiter _ found _ => rw [found]; rfl

/-- The tokens behind any of the tokens read the characters behind it. -/
theorem tail {before : List Token} (h : Reads afterText cs (before ++ ts)) :
    ∃ b, Reads b (textOf ts) ts := by
  induction before generalizing afterText cs with
  | nil => exact ⟨afterText, h.textOf_eq ▸ h⟩
  | cons u before ih =>
    cases h with
    | text _ _ _ more => exact ih more
    | delimiter _ _ more => exact ih more

theorem of_text (h : Reads afterText cs (t :: ts)) (ht : t.kind = .text) :
    t.value.toList ≠ [] ∧ Quiet t.value.toList (textOf ts) ∧ Reads true (textOf ts) ts := by
  cases h with
  | text _ ne quiet more => exact more.textOf_eq ▸ ⟨ne, quiet, more⟩
  | delimiter _ found _ => exact absurd ht (delimiterAt_eq_some found).1

theorem of_delimiter (h : Reads afterText cs (t :: ts)) (ht : t.kind ≠ .text) :
    t.value = t.kind.delimiter ∧ delimiterAt (textOf (t :: ts)) = some t.kind := by
  cases h with
  | text kind _ _ _ => exact absurd kind ht
  | delimiter value found more => exact ⟨value, by rw [textOf_cons, more.textOf_eq]; exact found⟩

theorem value_ne_nil (h : Reads afterText cs (t :: ts)) : t.value.toList ≠ [] := by
  by_cases ht : t.kind = .text
  · exact (h.of_text ht).1
  · rw [(h.of_delimiter ht).1]
    intro he
    cases hk : t.kind <;> simp_all [TokenKind.delimiter]

/-- Where text stands, no delimiter begins. -/
theorem text_iff (h : Reads afterText cs (t :: ts)) :
    t.kind = .text ↔ delimiterAt cs = none := by
  rw [← h.textOf_eq]
  refine ⟨fun ht => ?_, fun hnone => by_contra fun ht => ?_⟩
  · obtain ⟨hne, hquiet, -⟩ := h.of_text ht
    exact hquiet [] _ rfl hne
  · exact absurd (hnone.symm.trans (h.of_delimiter ht).2) (Option.some_ne_none _).symm

theorem not_text_of_afterText (h : Reads true cs (t :: ts)) : t.kind ≠ .text := by
  cases h with
  | delimiter _ found _ => exact (delimiterAt_eq_some found).1

theorem isChain (h : Reads afterText cs ts) :
    ts.IsChain fun t u => ¬(t.kind = .text ∧ u.kind = .text) := by
  induction h with
  | done => exact .nil
  | @text t rest ts kind ne quiet more ih =>
    refine List.isChain_cons.2 ⟨fun u hu ht => ?_, ih⟩
    cases ts with
    | nil => cases hu
    | cons v ts =>
      obtain rfl := Option.some.inj hu
      exact more.not_text_of_afterText ht.2
  | delimiter value found more ih =>
    exact List.isChain_cons.2 ⟨fun u _ ht => (delimiterAt_eq_some found).1 ht.1, ih⟩

/-- Text directly before a delimiter is one token or none. -/
theorem gap_cases {gap after : List Token} (h : Reads afterText cs (gap ++ t :: after))
    (hgap : ∀ g ∈ gap, g.kind = .text) :
    gap = [] ∨ ∃ g, gap = [g] ∧ g.kind = .text := by
  rcases gap with _ | ⟨g, _ | ⟨g', gap⟩⟩
  · exact .inl rfl
  · exact .inr ⟨g, rfl, hgap g (by simp)⟩
  · have hmore := (h.of_text (hgap g (by simp))).2.2
    exact absurd (hgap g' (by simp)) hmore.not_text_of_afterText

theorem leftmostLongest {gap after : List Token} (h : Reads afterText cs (gap ++ t :: after))
    (hgap : ∀ g ∈ gap, g.kind = .text) (ht : t.kind ≠ .text) :
    t.value = t.kind.delimiter ∧
      LeftmostLongest t.kind (textOf gap).length (textOf (gap ++ t :: after)) := by
  obtain ⟨b, hread⟩ := h.tail
  obtain ⟨hvalue, hfound⟩ := hread.of_delimiter ht
  have hdrop : (textOf (gap ++ t :: after)).drop (textOf gap).length = textOf (t :: after) := by
    rw [textOf_append, List.drop_left]
  refine ⟨hvalue, ?_, fun k hk hp => ?_, fun i hi k hk => ?_⟩
  · rw [hdrop]
    exact (delimiterAt_eq_some hfound).2
  · rw [hdrop] at hp
    obtain ⟨k', hk', hle⟩ := delimiterAt_of_prefix hk hp
    rwa [Option.some.inj (hfound.symm.trans hk')]
  · rcases h.gap_cases hgap with rfl | ⟨g, rfl, hg⟩
    · exact absurd hi (Nat.not_lt_zero i)
    · have hquiet := (h.of_text hg).2.1
      rw [textOf_append]
      simp only [textOf_cons, textOf_nil, List.append_nil] at hi ⊢
      exact not_prefix_of_delimiterAt_eq_none (hquiet.drop hi) hk

theorem canonical (h : Reads afterText cs ts) : Canonical cs ts where
  joined := h.textOf_eq
  text_ne_empty t ht hk he := by
    obtain ⟨before, after, rfl⟩ := List.append_of_mem ht
    obtain ⟨b, hread⟩ := h.tail
    exact (hread.of_text hk).1 (by rw [he]; rfl)
  text_plain t ht hk k hne := by
    obtain ⟨before, after, rfl⟩ := List.append_of_mem ht
    obtain ⟨b, hread⟩ := h.tail
    exact (hread.of_text hk).2.1.not_contains hne
  text_apart := h.isChain
  delimiter before gap t after he hgap ht := by
    subst he
    obtain ⟨b, hread⟩ := h.tail
    exact hread.leftmostLongest hgap ht

/-- Of two texts that both run up to a delimiter or to the end, neither reaches further. -/
theorem text_unique {u v rest rest' : List Char} (he : u ++ rest = v ++ rest')
    (hu : Quiet u rest) (hmore : Reads true rest' ts) (hle : v.length ≤ u.length) : u = v := by
  obtain ⟨m, rfl⟩ : v <+: u :=
    List.prefix_of_prefix_length_le ⟨rest', he.symm⟩ ⟨rest, rfl⟩ hle
  rw [List.append_assoc, List.append_cancel_left_eq] at he
  by_cases hm : m = []
  · rw [hm, List.append_nil]
  · have hnone := hu v m rfl hm
    rw [he] at hnone
    have hsome := hmore.isSome_delimiterAt (by rw [← he]; simp [hm])
    rw [hnone] at hsome
    exact absurd hsome Bool.false_ne_true

/-- A text has only one reading. -/
theorem unique {b b' : Bool} {us : List Token} (h : Reads b cs ts) (h' : Reads b' cs us) :
    ts.map Token.shape = us.map Token.shape := by
  induction h generalizing b' us with
  | done =>
    cases us with
    | nil => rfl
    | cons u us => exact absurd (List.append_eq_nil_iff.1 h'.textOf_eq).1 h'.value_ne_nil
  | @text t rest ts kind ne quiet more ih =>
    cases us with
    | nil => exact absurd (List.append_eq_nil_iff.1 h'.textOf_eq.symm).1 ne
    | cons u us =>
      have kind' : u.kind = .text := h'.text_iff.2 (quiet [] _ rfl ne)
      obtain ⟨-, quiet', more'⟩ := h'.of_text kind'
      have he := h'.textOf_eq
      rw [textOf_cons] at he
      have hvalue : u.value.toList = t.value.toList := by
        rcases Nat.le_total t.value.toList.length u.value.toList.length with hle | hle
        · exact text_unique he quiet' more hle
        · exact (text_unique he.symm quiet more' hle).symm
      rw [hvalue, List.append_cancel_left_eq] at he
      rw [List.map_cons, List.map_cons, ih (he ▸ more'), Token.shape, Token.shape, kind, kind',
        String.toList_injective hvalue]
  | @delimiter _ t rest ts value found more ih =>
    cases us with
    | nil =>
      have hnone := congrArg delimiterAt h'.textOf_eq
      exact absurd (found.symm.trans hnone.symm) (Option.some_ne_none _)
    | cons u us =>
      have kind' : u.kind ≠ .text := fun ht =>
        absurd (found.symm.trans (h'.text_iff.1 ht)) (Option.some_ne_none _)
      obtain ⟨value', found'⟩ := h'.of_delimiter kind'
      have he := h'.textOf_eq
      rw [he] at found'
      have hkind : t.kind = u.kind := Option.some.inj (found.symm.trans found')
      have hvalue : u.value = t.value := by rw [value, value', hkind]
      rw [textOf_cons, hvalue, List.append_cancel_left_eq] at he
      obtain ⟨_, more'⟩ : ∃ b, Reads b (textOf us) us := tail (show Reads b' _ ([u] ++ us) from h')
      rw [List.map_cons, List.map_cons, ih (he ▸ more'), Token.shape, Token.shape, hkind, hvalue]

end Reads

/-! ### Templates -/

/-- The text that tokens spell. -/
def spelled (ts : List Token) : String :=
  String.join (ts.map (·.value))

theorem toList_spelled (ts : List Token) : (spelled ts).toList = textOf ts := by
  rw [spelled, String.toList_join, List.flatMap_map]
  rfl

theorem map_char_place (line col : Nat) (cs : List Char) :
    (place line col cs).map (·.char) = cs := by
  induction cs generalizing line col with
  | nil => rfl
  | cons c cs ih =>
    rw [place, List.map_cons]
    split <;> rw [ih]

theorem map_char_trimTags_place (line col : Nat) (cs : List Char) :
    (trimTags (·.char) (place line col cs)).map (·.char) = trimTags id cs := by
  rw [← map_char_place line col cs, ← map_trimTags, map_char_place]
  rfl

theorem reads_tokenize (source : String) :
    Reads false (preprocess source).toList (tokenize source) := by
  have h := reads_scan [] (trimTags (·.char) (place 1 0 source.toList))
    fun l r he hr => absurd (List.append_eq_nil_iff.1 he.symm).2 hr
  rw [map_char_trimTags_place] at h
  simpa [preprocess, tokenize] using h

theorem spelled_tokenize (source : String) : spelled (tokenize source) = preprocess source :=
  String.toList_injective (by rw [toList_spelled, (reads_tokenize source).textOf_eq])

/-- The tokens of a template spell it without its trimmed white space, cut at the delimiters found
from the left and taken as long as possible; the tokens of what they spell are the same. -/
theorem tokenize_canonical (source : String) :
    spelled (tokenize source) = preprocess source ∧
      Canonical (preprocess source).toList (tokenize source) ∧
      (tokenize (spelled (tokenize source))).map Token.shape =
        (tokenize source).map Token.shape := by
  refine ⟨spelled_tokenize source, (reads_tokenize source).canonical, ?_⟩
  have h := reads_tokenize (spelled (tokenize source))
  rw [spelled_tokenize, preprocess_preprocess] at h
  rw [spelled_tokenize]
  exact h.unique (reads_tokenize source)

end StreamTemplate.Markup
