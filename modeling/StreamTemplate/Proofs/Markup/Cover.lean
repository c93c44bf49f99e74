import StreamTemplate.Proofs.Markup.Reading

/-!
# Tokens in the template as written

The scan reads what trimming has left, so characters that are next to each other there may be apart
in the template as written. Inside a token they never are: white space is removed in front of `<%_`
and behind `_%>` only, and there the scan starts a new token, since text holds no delimiter and no
delimiter goes on with `<` or beyond `>`. `Covers` lays the tokens over the template as written,
each at its own place and with trimmed white space between them; `covers_tokenize` is proved along
the template, with the text that the scan holds back as part of the induction.
-/

namespace StreamTemplate.Markup

/-- The line of the character behind `before`, counted from one. -/
def lineAfter (before : List Char) : Nat :=
  before.count '\n' + 1

/-- The column of the character behind `before`, counted from zero. -/
def colAfter (before : List Char) : Nat :=
  (before.reverse.takeWhile (· ≠ '\n')).length

/-- None of the characters of `text` is trimmed when it stands between `left`, the nearest first,
and `right`. -/
def Kept {α : Type} (char : α → Char) (left text right : List α) : Prop :=
  ∀ l a r, text = l ++ a :: r → isTrimmed char (l.reverse ++ left) a (r ++ right) = false

/-- The tokens lie over `rest`, which stands behind `before`: each at its place, whole, and nothing
but trimmed white space between them. -/
inductive Covers : (before : List Char) → List Token → (rest : List Char) → Prop
  | done {before} : Covers before [] []
  | gap {before ts a rest} (trimmed : isTrimmed id before.reverse a rest = true)
      (more : Covers (before ++ [a]) ts rest) : Covers before ts (a :: rest)
  | token {before t ts rest} (ne : t.value.toList ≠ []) (line : t.line = lineAfter before)
      (col : t.col = colAfter before) (kept : Kept id before.reverse t.value.toList rest)
      (more : Covers (before ++ t.value.toList) ts rest) :
      Covers before (t :: ts) (t.value.toList ++ rest)

/-! ### Places -/

theorem lineAfter_snoc (before : List Char) (c : Char) :
    lineAfter (before ++ [c]) = if c = '\n' then lineAfter before + 1 else lineAfter before := by
  rw [lineAfter, lineAfter, List.count_append, List.count_singleton]
  split <;> simp_all

theorem colAfter_snoc (before : List Char) (c : Char) :
    colAfter (before ++ [c]) = if c = '\n' then 0 else colAfter before + 1 := by
  rw [colAfter, colAfter, List.reverse_append, List.reverse_singleton, List.singleton_append,
    List.takeWhile_cons]
  split <;> split <;> simp_all

/-- The characters `ps` carry the places that follow those of `left`, the nearest first. -/
def InPlace (left ps : List Placed) : Prop :=
  let before := (left.map (·.char)).reverse
  ps = place (lineAfter before) (colAfter before) (ps.map (·.char))

theorem inPlace_place (cs : List Char) : InPlace [] (place 1 0 cs) := by
  show place 1 0 cs = place 1 0 ((place 1 0 cs).map (·.char))
  rw [map_char_place]

theorem InPlace.cons {left rest : List Placed} {p : Placed} (h : InPlace left (p :: rest)) :
    p.line = lineAfter (left.map (·.char)).reverse ∧
      p.col = colAfter (left.map (·.char)).reverse ∧ InPlace (p :: left) rest := by
  rw [InPlace, List.map_cons, place] at h
  obtain ⟨hp, hrest⟩ := List.cons.inj h
  refine ⟨congrArg Placed.line hp, congrArg Placed.col hp, ?_⟩
  rw [InPlace, List.map_cons, List.reverse_cons, lineAfter_snoc, colAfter_snoc]
  split at hrest
  case isTrue hc => rwa [if_pos hc, if_pos hc]
  case isFalse hc => rwa [if_neg hc, if_neg hc]

theorem InPlace.append {left xs ys : List Placed} (h : InPlace left (xs ++ ys)) :
    InPlace (xs.reverse ++ left) ys := by
  induction xs generalizing left with
  | nil => exact h
  | cons x xs ih =>
    have hx : InPlace left (x :: (xs ++ ys)) := h
    simpa using ih hx.cons.2.2

/-! ### What trimming keeps -/

section Kept

variable {α β : Type} {char : α → Char} {left text right : List α}

theorem Kept.nil : Kept char left [] right := fun l a r h => by
  simp at h

theorem Kept.cons {a : α} (ha : isTrimmed char left a (text ++ right) = false)
    (h : Kept char (a :: left) text right) : Kept char left (a :: text) right := by
  rintro (_ | ⟨b, l⟩) c r he
  · obtain ⟨rfl, rfl⟩ := List.cons.inj he
    exact ha
  · obtain ⟨rfl, he'⟩ := List.cons.inj he
    simpa using h l c r he'

theorem Kept.tail {a : α} (h : Kept char left (a :: text) right) :
    Kept char (a :: left) text right := fun l b r he => by
  simpa using h (a :: l) b r (by rw [he]; rfl)

theorem Kept.snoc {a : α} (h : Kept char left text (a :: right))
    (ha : isTrimmed char (text.reverse ++ left) a right = false) :
    Kept char left (text ++ [a]) right := by
  intro l b r he
  rcases List.eq_nil_or_concat r with rfl | ⟨r, d, rfl⟩
  · obtain ⟨rfl, hb⟩ := List.append_inj' he rfl
    obtain rfl := List.singleton_injective hb
    exact ha
  · have he' : text ++ [a] = (l ++ b :: r) ++ [d] := by simpa using he
    obtain ⟨rfl, hd⟩ := List.append_inj' he' rfl
    obtain rfl := List.singleton_injective hd
    simpa using h l b r rfl

theorem Kept.map (f : β → α) {left text right : List β} (h : Kept (char ∘ f) left text right) :
    Kept char (left.map f) (text.map f) (right.map f) := by
  intro l a r he
  obtain ⟨l, m, rfl, rfl, hm⟩ := List.map_eq_append_iff.1 he
  obtain ⟨a, r, rfl, rfl, rfl⟩ := List.map_eq_cons_iff.1 hm
  rw [← List.map_reverse, ← List.map_append, ← List.map_append, isTrimmed_map]
  exact h l a r rfl

theorem Kept.untrimmed (h : Kept char left text right) :
    untrimmed char left (text ++ right) =
      text ++ Markup.untrimmed char (text.reverse ++ left) right := by
  induction text generalizing left with
  | nil => rfl
  | cons a text ih =>
    have ha : isTrimmed char left a (text ++ right) = false := h [] a text rfl
    rw [List.cons_append, untrimmed_cons, ha, if_neg Bool.false_ne_true, ih h.tail]
    simp

/-- All white space in front of `<%_` is removed. -/
theorem startsTrimOpen_untrimmed (left : List α) {cs : List α}
    (h : startsTrimOpen char (cs.dropWhile (isGap char)) = true) :
    startsTrimOpen char (untrimmed char left cs) = true := by
  induction cs generalizing left with
  | nil => simp [startsTrimOpen] at h
  | cons a rest ih =>
    cases ha : isGap char a with
    | true =>
      rw [List.dropWhile_cons_of_pos ha] at h
      rw [untrimmed_cons, isTrimmed_of_startsTrimOpen (by rw [ha, h]; rfl), if_pos rfl]
      exact ih (a :: left) h
    | false =>
      rw [List.dropWhile_cons_of_neg (by simp [ha])] at h
      obtain ⟨_, b, c, rest, he⟩ := exists_cons_of_startsTrimOpen h
      obtain ⟨rfl, rfl⟩ := List.cons.inj he
      simp only [startsTrimOpen, Bool.and_eq_true, beq_iff_eq] at h
      simp [untrimmed_cons, not_isTrimmed_of_not_isGap ha,
        not_isTrimmed_of_not_isGap (not_isGap_of_eq h.1.2 rfl),
        not_isTrimmed_of_not_isGap (not_isGap_of_eq h.2 rfl), startsTrimOpen, h]

/-- Characters that trimming keeps one after the other are next to each other as written, if none of
them is white space, none but the first is `<` and none but the last is `>`. -/
theorem contiguous {x : α} {xs ys cs : List α} (hgap : ∀ a ∈ x :: xs, isGap char a = false)
    (hopen : ∀ a ∈ xs, char a ≠ '<') (hclose : ∀ a ∈ (x :: xs).dropLast, char a ≠ '>')
    (h : untrimmed char (x :: left) cs = xs ++ ys) :
    ∃ rest, cs = xs ++ rest ∧ Kept char (x :: left) xs rest ∧
      ys = untrimmed char (xs.reverse ++ x :: left) rest := by
  induction xs generalizing x left cs with
  | nil => exact ⟨cs, rfl, .nil, h.symm⟩
  | cons y xs ih =>
    cases cs with
    | nil => exact absurd h (List.cons_ne_nil y (xs ++ ys)).symm
    | cons c cs =>
      rw [untrimmed_cons] at h
      cases hc : isTrimmed char (x :: left) c cs with
      | false =>
        rw [hc, if_neg Bool.false_ne_true] at h
        obtain ⟨rfl, h'⟩ := List.cons.inj h
        obtain ⟨rest, rfl, hkept, hys⟩ := ih (fun a ha => hgap a (.tail x ha))
          (fun a ha => hopen a (.tail c ha)) (fun a ha => hclose a (.tail x ha)) h'
        exact ⟨rest, rfl, .cons hc hkept, by simpa using hys⟩
      | true =>
        rw [hc, if_pos rfl] at h
        rw [isTrimmed, List.dropWhile_cons_of_neg (by simp [hgap x (.head _)]),
          Bool.and_eq_true, Bool.or_eq_true] at hc
        obtain ⟨-, ho | he⟩ := hc
        · -- A `<` would come next.
          have hstart := startsTrimOpen_untrimmed (c :: x :: left) ho
          rw [h, startsTrimOpen_iff, List.cons_append, List.map_cons, List.cons_prefix_cons]
            at hstart
          exact absurd hstart.1.symm (hopen y (.head _))
        · -- A `>` would stand in front.
          rw [endsTrimClose_iff, List.map_cons, List.cons_prefix_cons] at he
          exact absurd he.1.symm (hclose x (.head _))

end Kept

/-- What the scan takes as one delimiter stands in one piece in the template as written. -/
theorem contiguous_delimiter {kind : TokenKind} {left xs ys cs : List Placed} {p : Placed}
    (hx : (p :: xs).map (·.char) = kind.delimiter.toList) (hk : kind ≠ .text)
    (h : untrimmed (·.char) (p :: left) cs = xs ++ ys) :
    ∃ rest, cs = xs ++ rest ∧ Kept (·.char) (p :: left) xs rest ∧
      ys = untrimmed (·.char) (xs.reverse ++ p :: left) rest := by
  have hgap : ∀ c ∈ kind.delimiter.toList, Text.isHorizontal c = false := by
    cases kind <;> simp [TokenKind.delimiter, Text.isHorizontal]
  have hopen : ∀ c ∈ kind.delimiter.toList.tail, c ≠ '<' := by
    cases kind <;> simp [TokenKind.delimiter]
  have hclose : ∀ c ∈ kind.delimiter.toList.dropLast, c ≠ '>' := by
    cases kind <;> simp [TokenKind.delimiter]
  rw [← hx] at hgap hopen hclose
  refine contiguous (fun a ha => hgap a.char (List.mem_map_of_mem ha))
    (fun a ha => hopen a.char (List.mem_map_of_mem ha)) (fun a ha => hclose a.char ?_) h
  rw [← List.map_dropLast]
  exact List.mem_map_of_mem ha

/-! ### Along the template -/

/-- Where the scan is: behind `left`, the nearest character first, it holds back `held`, the last
character first, with `ps` still to come. -/
structure Pending (left held ps : List Placed) : Prop where
  inPlace : InPlace left (held.reverse ++ ps)
  kept : Kept (·.char) left held.reverse ps
  /-- Directly behind `_%>` nothing is held back. -/
  close : endsTrimClose (·.char) ((held ++ left).dropWhile (isGap (·.char))) = true → held = []
  /-- No delimiter begins at the last character held back. -/
  quiet : ∀ p more, held = p :: more →
    delimiterAt ((p :: untrimmed (·.char) (held ++ left) ps).map (·.char)) = none
  /-- No delimiter ends like the beginning of `_%>`. -/
  fresh : held = [] → ¬['%', '_'] <+: left.map (·.char)

theorem Pending.nil (cs : List Char) : Pending [] [] (place 1 0 cs) where
  inPlace := inPlace_place cs
  kept := .nil
  close _ := rfl
  quiet _ _ h := absurd h.symm (List.cons_ne_nil _ _)
  fresh _ h := by simp at h

/-- The text held back becomes a token at its own place. -/
theorem Pending.covers_held {left held ps : List Placed} {ts : List Token} (h : Pending left held ps)
    (more : Covers ((held ++ left).map (·.char)).reverse ts (ps.map (·.char))) :
    Covers (left.map (·.char)).reverse (textToken held ++ ts)
      ((held.reverse ++ ps).map (·.char)) := by
  by_cases hne : held = []
  · subst hne
    exact more
  · obtain ⟨first, text, hrev⟩ : ∃ first text, held.reverse = first :: text :=
      List.exists_cons_of_ne_nil (by simpa using hne)
    have hlast : held.getLast hne = first := by
      rw [← List.head_reverse (by simpa using hne)]
      simp [hrev]
    have hplace := h.inPlace
    rw [hrev, List.cons_append] at hplace
    obtain ⟨hline, hcol, -⟩ := hplace.cons
    have hkept := Kept.map Placed.char (show Kept (id ∘ Placed.char) left held.reverse ps from h.kept)
    rw [textToken_of_ne_nil hne, hlast, List.map_append]
    have hcover := Covers.token
      (t := ⟨.text, String.ofList (held.reverse.map (·.char)), first.line, first.col⟩)
      (by simpa using hne) hline hcol (by simpa using hkept) (by simpa using more)
    simpa using hcover

theorem scan_of_delimiterAt (held : List Placed) {ps : List Placed} {kind : TokenKind}
    (h : delimiterAt (ps.map (·.char)) = some kind) :
    scan 0 held ps = textToken held ++ scan 0 [] ps := by
  cases ps with
  | nil => exact absurd h (Option.some_ne_none kind).symm
  | cons p rest =>
    rw [scan_cons, scan_cons, h]
    rfl

/-- Behind white space that is trimmed the scan has no text held back: either it had none, or
`<%_` comes and ends it. -/
theorem Pending.flush {left held rest : List Placed} {p : Placed} (h : Pending left held (p :: rest))
    (hp : isTrimmed (·.char) (held ++ left) p rest = true) :
    scan 0 held (untrimmed (·.char) (p :: (held ++ left)) rest) =
      textToken held ++ scan 0 [] (untrimmed (·.char) (p :: (held ++ left)) rest) := by
  rw [isTrimmed, Bool.and_eq_true, Bool.or_eq_true] at hp
  rcases hp.2 with ho | he
  · have hpre := startsTrimOpen_iff.1 (startsTrimOpen_untrimmed (p :: (held ++ left)) ho)
    obtain ⟨kind, hkind, -⟩ := delimiterAt_of_prefix (k := .openEvalTrim) (by decide) hpre
    exact scan_of_delimiterAt held hkind
  · rw [h.close he]
    rfl

theorem Pending.gap {left held rest : List Placed} {p : Placed} (h : Pending left held (p :: rest))
    (hp : isTrimmed (·.char) (held ++ left) p rest = true) : Pending (p :: (held ++ left)) [] rest where
  inPlace := by
    have := h.inPlace.append
    rw [List.reverse_reverse] at this
    exact this.cons.2.2
  kept := .nil
  close _ := rfl
  quiet _ _ h := absurd h.symm (List.cons_ne_nil _ _)
  fresh _ hpre := by
    rw [List.map_cons, List.cons_prefix_cons] at hpre
    rw [isTrimmed, isGap, ← hpre.1] at hp
    exact absurd hp (by simp [Text.isHorizontal])

theorem Pending.hold {left held rest : List Placed} {p : Placed} (h : Pending left held (p :: rest))
    (hp : isTrimmed (·.char) (held ++ left) p rest = false)
    (hd : delimiterAt ((p :: untrimmed (·.char) (p :: (held ++ left)) rest).map (·.char)) = none) :
    Pending left (p :: held) rest where
  inPlace := by simpa using h.inPlace
  kept := by
    rw [List.reverse_cons]
    exact h.kept.snoc (by simpa using hp)
  close he := by
    cases hg : isGap (·.char) p with
    | true =>
      rw [List.cons_append, List.dropWhile_cons_of_pos hg] at he
      rw [isTrimmed, hg, he, Bool.or_true] at hp
      exact absurd hp.symm Bool.false_ne_true
    | false =>
      rw [List.cons_append, List.dropWhile_cons_of_neg (by simp [hg]), endsTrimClose_iff,
        List.map_cons, List.cons_prefix_cons] at he
      obtain ⟨hgt, hpre⟩ := he
      cases held with
      | nil => exact absurd hpre (h.fresh rfl)
      | cons q held =>
        -- The `%` held back and `p` would be a delimiter.
        rw [List.cons_append, List.map_cons, List.cons_prefix_cons] at hpre
        have hq := h.quiet q held rfl
        rw [untrimmed_cons, hp, if_neg Bool.false_ne_true, List.map_cons, List.map_cons, ← hpre.1,
          ← hgt] at hq
        exact absurd ⟨_, rfl⟩ (not_prefix_of_delimiterAt_eq_none (k := .close) hq (by decide))
  quiet q more e := by
    obtain ⟨rfl, -⟩ := List.cons.inj e
    exact hd
  fresh e := absurd e (List.cons_ne_nil p held)

theorem Pending.delimiter {left held xs rest : List Placed} {p : Placed} {kind : TokenKind}
    (h : Pending left held (p :: (xs ++ rest)))
    (hx : (p :: xs).map (·.char) = kind.delimiter.toList) (hk : kind ≠ .text) :
    Pending (xs.reverse ++ p :: (held ++ left)) [] rest where
  inPlace := by
    have := h.inPlace.append
    rw [List.reverse_reverse] at this
    exact this.cons.2.2.append
  kept := .nil
  close _ := rfl
  quiet _ _ h := absurd h.symm (List.cons_ne_nil _ _)
  fresh _ hpre := by
    have he : (xs.reverse ++ p :: (held ++ left)).map (·.char) =
        kind.delimiter.toList.reverse ++ (held ++ left).map (·.char) := by
      simp [← hx]
    rw [he] at hpre
    cases kind <;> simp [TokenKind.delimiter, List.cons_prefix_cons] at hpre hk

theorem covers_scan {left held ps : List Placed} (h : Pending left held ps) :
    Covers (left.map (·.char)).reverse (scan 0 held (untrimmed (·.char) (held ++ left) ps))
      ((held.reverse ++ ps).map (·.char)) := by
  induction hn : ps.length using Nat.strongRecOn generalizing left held ps with
  | _ n ih =>
    cases ps with
    | nil =>
      have := h.covers_held .done
      rwa [List.append_nil] at this
    | cons p rest =>
      have hlt : rest.length < n := by simp [← hn]
      rw [untrimmed_cons]
      cases hp : isTrimmed (·.char) (held ++ left) p rest with
      | true =>
        rw [if_pos rfl, h.flush hp]
        refine h.covers_held (.gap ?_ ?_)
        · rw [List.reverse_reverse]
          exact (isTrimmed_map Placed.char id (held ++ left) p rest).trans hp
        · simpa using ih rest.length hlt (h.gap hp) rfl
      | false =>
        rw [if_neg Bool.false_ne_true]
        cases hd : delimiterAt
            ((p :: untrimmed (·.char) (p :: (held ++ left)) rest).map (·.char)) with
        | none =>
          rw [scan_cons, hd]
          have := ih rest.length hlt (h.hold hp hd) rfl
          simpa using this
        | some kind =>
          obtain ⟨xs, ys, hxy, hx, hscan⟩ := scan_delimiter held hd
          have hk := (delimiterAt_eq_some hd).1
          obtain ⟨rest, rfl, hkept, rfl⟩ := contiguous_delimiter hx hk hxy
          rw [hscan]
          refine h.covers_held ?_
          have hplace := h.inPlace.append
          rw [List.reverse_reverse] at hplace
          obtain ⟨hline, hcol, -⟩ := hplace.cons
          have hmap := Kept.map Placed.char
            (show Kept (id ∘ Placed.char) (held ++ left) (p :: xs) rest from .cons hp hkept)
          have hmore := ih rest.length (by simp at hlt; omega) (h.delimiter hx hk) rfl
          have hcover := Covers.token
            (t := ⟨kind, kind.delimiter, p.line, p.col⟩) (by rw [← hx]; simp) hline hcol (by rw [← hx]; simpa using hmap)
            (by rw [← hx]; simpa using hmore)
          rw [← hx] at hcover
          simpa using hcover

/-- The tokens of a template lie over it as it is written. -/
theorem covers_tokenize (source : String) : Covers [] (tokenize source) source.toList := by
  have := covers_scan (Pending.nil source.toList)
  rw [List.append_nil, ← trimTags_eq_untrimmed] at this
  simpa [map_char_place, tokenize] using this

end StreamTemplate.Markup
