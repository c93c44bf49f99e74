import StreamTemplate.Proofs.Text.Indent

/-!
# Characters put at the end of a line

The indentation that the lines of a text share does not depend on what stands behind the first character
of a line that is no white space. So characters put there, which begin no line, are there in the dedented text
too, at the end of the same line (`dedentBy_append`).
-/

namespace StreamTemplate.Text

/-- The width of the indentation that the lines of a text share. -/
def margin (cs : List Char) : Nat :=
  ((sharedIndent ((splitFeeds cs).map emptyIfBlank)).getD []).length

/-- A line without the first characters, as many as given. -/
def dropMargin (k : Nat) (line : List Char) : List Char :=
  (emptyIfBlank line).drop k

/-- The text without the first characters of its lines, as many as given. -/
def dedentBy (k : Nat) (cs : List Char) : List Char :=
  joinFeeds ((splitFeeds cs).map (dropMargin k))

/-- The text without the first characters of its lines but the first. -/
def dedentBehind (k : Nat) (cs : List Char) : List Char :=
  joinFeeds ((splitFeeds cs).take 1 ++ ((splitFeeds cs).drop 1).map (dropMargin k))

/-- The last line of a text. -/
def finalLine (cs : List Char) : List Char :=
  (splitFeeds cs).getLast?.getD []

variable {c : Char} {k : Nat} {cs front back u v w : List Char} {ls ms : List (List Char)}

theorem toList_dedent (s : String) : (dedent s).toList = dedentBy (margin s.toList) s.toList := by
  rw [dedent, String.toList_ofList, List.map_map]
  rfl

/-! ### Lines of two parts -/

theorem splitFeeds_append_of_eq (h : splitFeeds front = ls ++ [u]) (h' : splitFeeds back = v :: ms) :
    splitFeeds (front ++ back) = ls ++ (u ++ v) :: ms := by
  induction front generalizing ls u with
  | nil =>
    obtain ⟨rfl, rfl⟩ : ls = [] ∧ u = [] := by
      rw [splitFeeds, eq_comm, List.append_eq_singleton_iff] at h
      simpa using h
    exact h'
  | cons c front ih =>
    by_cases feed : c = '\n'
    · rw [splitFeeds, if_pos feed] at h
      rw [List.cons_append, splitFeeds, if_pos feed]
      cases ls with
      | nil => exact absurd (List.cons.inj h).2 (splitFeeds_ne_nil front)
      | cons l ls =>
        obtain ⟨first, rest⟩ := List.cons.inj h
        rw [ih rest, List.cons_append, first]
    · rw [splitFeeds_cons feed] at h
      rw [List.cons_append, splitFeeds_cons feed]
      obtain ⟨first, rest, split⟩ := List.exists_cons_of_ne_nil (splitFeeds_ne_nil front)
      rw [split, consLine] at h
      cases ls with
      | nil =>
        obtain ⟨rfl, rfl⟩ := List.cons.inj h
        exact congrArg (consLine c) (@ih _ [] split)
      | cons l ls =>
        obtain ⟨rfl, rfl⟩ := List.cons.inj h
        exact congrArg (consLine c) (@ih _ (first :: ls) split)

theorem joinFeeds_cons (l : List Char) (ne : ls ≠ []) : joinFeeds (l :: ls) = l ++ '\n' :: joinFeeds ls := by
  cases ls with
  | nil => exact absurd rfl ne
  | cons => rfl

theorem joinFeeds_append (ls : List (List Char)) (u v : List Char) (ms : List (List Char)) :
    joinFeeds (ls ++ (u ++ v) :: ms) = joinFeeds (ls ++ [u]) ++ joinFeeds (v :: ms) := by
  induction ls with
  | nil =>
    cases ms with
    | nil => rfl
    | cons => exact List.append_assoc u v _
  | cons l ls ih =>
    rw [List.cons_append, List.cons_append, joinFeeds_cons l (by simp), joinFeeds_cons l (by simp), ih]
    simp

/-- The last line of a text ends as the text does. -/
theorem exists_splitFeeds_snoc (last : cs.getLast? = some c) (ne : c ≠ '\n') :
    ∃ ls u, splitFeeds cs = ls ++ [u] ∧ u.getLast? = some c := by
  obtain ⟨front, rfl⟩ := List.getLast?_eq_some_iff.1 last
  obtain ⟨ls, u, split⟩ := List.eq_nil_or_concat' (splitFeeds front) |>.resolve_left (splitFeeds_ne_nil front)
  have one : splitFeeds [c] = [[c]] := splitFeeds_of_not_mem (by simpa using Ne.symm ne)
  exact ⟨ls, u ++ [c], splitFeeds_append_of_eq split one, by simp⟩

theorem joinFeeds_splitFeeds (cs : List Char) : joinFeeds (splitFeeds cs) = cs := by
  induction cs with
  | nil => rfl
  | cons c cs ih =>
    by_cases feed : c = '\n'
    · rw [splitFeeds, if_pos feed, joinFeeds_cons _ (splitFeeds_ne_nil cs), ih, feed]
      rfl
    · obtain ⟨first, rest, split⟩ := List.exists_cons_of_ne_nil (splitFeeds_ne_nil cs)
      rw [split] at ih
      rw [splitFeeds_cons feed, split, consLine]
      cases rest with
      | nil => rw [← ih]; rfl
      | cons => rw [← ih]; rfl

theorem finalLine_append (front back : List Char) :
    finalLine (front ++ back) = if '\n' ∈ back then finalLine back else finalLine front ++ back := by
  obtain ⟨ls, u, split⟩ := List.eq_nil_or_concat' (splitFeeds front) |>.resolve_left (splitFeeds_ne_nil front)
  by_cases feed : '\n' ∈ back
  · obtain ⟨v, ms, split'⟩ := List.exists_cons_of_ne_nil (splitFeeds_ne_nil back)
    cases ms with
    | nil =>
      have one : back = v := by rw [← joinFeeds_splitFeeds back, split']; rfl
      exact absurd (one ▸ feed) (not_mem_of_mem_splitFeeds (by rw [split']; exact .head _))
    | cons m ms =>
      have behind : (ls ++ (u ++ v) :: m :: ms).getLast? = (v :: m :: ms).getLast? := by
        rw [List.getLast?_append, List.getLast?_cons_cons, List.getLast?_cons_cons]
        simp [List.getLast?_cons]
      rw [if_pos feed, finalLine, splitFeeds_append_of_eq split split', finalLine, split', behind]
  · rw [if_neg feed, finalLine, splitFeeds_append_of_eq split (splitFeeds_of_not_mem feed), finalLine, split]
    simp

/-! ### The shared indentation -/

theorem sharedIndent_congr {lines lines' : List (List Char)}
    (h : (lines.filter (· ≠ [])).map (·.takeWhile isHorizontal) =
      (lines'.filter (· ≠ [])).map (·.takeWhile isHorizontal)) :
    sharedIndent lines = sharedIndent lines' := by
  have along (lines : List (List Char)) : sharedIndent lines =
      ((lines.filter (· ≠ [])).map (·.takeWhile isHorizontal)).foldl
        (fun shared indent => some (shared.elim indent (commonStart · indent))) none := by
    rw [List.foldl_map]
    rfl
  rw [along, along, h]

section Line

variable (last : u.getLast? = some c) (solid : isBlank c = false)

include last solid

theorem emptyIfBlank_append (x : List Char) : emptyIfBlank (u ++ x) = u ++ x := by
  refine if_neg fun blank => ?_
  exact not_isHorizontal_of_solid solid
    (List.all_eq_true.1 blank c (List.mem_append_left x (List.mem_of_getLast? last)))

theorem length_takeWhile_ne : (u.takeWhile isHorizontal).length ≠ u.length := by
  intro all
  have mem : c ∈ u.takeWhile isHorizontal := by
    rw [(List.takeWhile_prefix isHorizontal).eq_of_length all]
    exact List.mem_of_getLast? last
  exact not_isHorizontal_of_solid solid (List.mem_takeWhile_imp mem)

theorem takeWhile_append_solid (x : List Char) :
    (u ++ x).takeWhile isHorizontal = u.takeWhile isHorizontal := by
  rw [List.takeWhile_append, if_neg (length_takeWhile_ne last solid)]

theorem dropMargin_append (le : k ≤ (u.takeWhile isHorizontal).length) (x : List Char) :
    dropMargin k (u ++ x) = dropMargin k u ++ x := by
  have whole := emptyIfBlank_append last solid []
  rw [List.append_nil] at whole
  rw [dropMargin, dropMargin, emptyIfBlank_append last solid, whole,
    List.drop_append_of_le_length (le.trans (List.takeWhile_prefix isHorizontal).length_le)]

end Line

/-- What is put at the end of a line does not change the shared indentation. -/
theorem margin_append (last : front.getLast? = some c) (solid : isBlank c = false) (plain : '\n' ∉ w) :
    margin (front ++ (w ++ back)) = margin (front ++ back) := by
  obtain ⟨ls, u, split, last⟩ := exists_splitFeeds_snoc last (ne_of_solid solid rfl)
  obtain ⟨v, ms, split'⟩ := List.exists_cons_of_ne_nil (splitFeeds_ne_nil back)
  have one : splitFeeds w = [] ++ [w] := splitFeeds_of_not_mem plain
  rw [margin, margin, splitFeeds_append_of_eq split split',
    splitFeeds_append_of_eq split (splitFeeds_append_of_eq one split')]
  congr 2
  refine sharedIndent_congr ?_
  have ne (x : List Char) : u ++ x ≠ [] := fun empty => by
    rw [(List.append_eq_nil_iff.1 empty).1] at last
    cases last
  simp [emptyIfBlank_append last solid, takeWhile_append_solid last solid, ne]

/-- The shared indentation is no wider than that of a line that is not blank. -/
theorem margin_le (mem : u ∈ splitFeeds cs) (some : c ∈ u) (solid : isBlank c = false) :
    margin cs ≤ (u.takeWhile isHorizontal).length := by
  have kept : emptyIfBlank u = u :=
    if_neg fun blank => not_isHorizontal_of_solid solid (List.all_eq_true.1 blank c some)
  rw [margin]
  cases shared : sharedIndent ((splitFeeds cs).map emptyIfBlank) with
  | none => exact Nat.zero_le _
  | some indent =>
    exact (prefix_sharedIndent shared (List.mem_map.2 ⟨u, mem, kept⟩) (List.ne_nil_of_mem some)).length_le

/-- The shared indentation is no wider than that of the last line of a beginning of the text. -/
theorem le_indent (split : splitFeeds front = ls ++ [u]) (last : u.getLast? = some c) (solid : isBlank c = false)
    (le : k ≤ margin (front ++ back)) : k ≤ (u.takeWhile isHorizontal).length := by
  obtain ⟨v, ms, split'⟩ := List.exists_cons_of_ne_nil (splitFeeds_ne_nil back)
  refine le.trans ((margin_le (u := u ++ v) ?_ ?_ solid).trans_eq ?_)
  · rw [splitFeeds_append_of_eq split split']
    simp
  · exact List.mem_append_left v (List.mem_of_getLast? last)
  · rw [takeWhile_append_solid last solid]

/-- What is put at the end of a line stands at the end of that line of the dedented text. -/
theorem dedentBy_append (last : front.getLast? = some c) (solid : isBlank c = false) (plain : '\n' ∉ w)
    (le : k ≤ margin (front ++ back)) :
    dedentBy k (front ++ (w ++ back)) = dedentBy k front ++ (w ++ dedentBehind k back) := by
  obtain ⟨ls, u, split, last⟩ := exists_splitFeeds_snoc last (ne_of_solid solid rfl)
  obtain ⟨v, ms, split'⟩ := List.exists_cons_of_ne_nil (splitFeeds_ne_nil back)
  have one : splitFeeds w = [] ++ [w] := splitFeeds_of_not_mem plain
  have behind : joinFeeds ((w ++ v) :: ms.map (dropMargin k)) = w ++ dedentBehind k back := by
    rw [dedentBehind, split']
    exact joinFeeds_append [] w v _
  rw [dedentBy, dedentBy, split, splitFeeds_append_of_eq split (splitFeeds_append_of_eq one split'),
    List.map_append, List.map_cons, dropMargin_append last solid (le_indent split last solid le),
    joinFeeds_append, behind]
  simp

theorem getLast?_dedentBy (last : front.getLast? = some c) (solid : isBlank c = false)
    (le : k ≤ margin (front ++ back)) : (dedentBy k front).getLast? = some c := by
  obtain ⟨ls, u, split, last⟩ := exists_splitFeeds_snoc last (ne_of_solid solid rfl)
  have stays : (dropMargin k u).getLast? = some c := by
    have whole := emptyIfBlank_append last solid []
    rw [List.append_nil] at whole
    have short : k < u.length := (le_indent split last solid le).trans_lt
      (lt_of_le_of_ne (List.takeWhile_prefix isHorizontal).length_le (length_takeWhile_ne last solid))
    rw [dropMargin, whole, List.getLast?_drop, if_neg (Nat.not_le.2 short), last]
  have ne : dropMargin k u ≠ [] := fun empty => by
    rw [empty] at stays
    cases stays
  have along := joinFeeds_append (ls.map (dropMargin k)) [] (dropMargin k u) []
  rw [List.nil_append] at along
  rw [dedentBy, split, List.map_append, List.map_singleton, along, joinFeeds,
    List.getLast?_append_of_ne_nil _ ne, stays]

/-! ### What is behind -/

/-- The first character that is no white space. -/
def firstSolid? (cs : List Char) : Option Char :=
  (trimStart cs).head?

/-- The characters that are no white space. -/
def solids (cs : List Char) : List Char :=
  cs.filter fun c => !isBlank c

theorem solids_append (cs ds : List Char) : solids (cs ++ ds) = solids cs ++ solids ds :=
  List.filter_append cs ds

theorem solids_eq_nil (h : ∀ c ∈ cs, isBlank c = true) : solids cs = [] :=
  List.filter_eq_nil_iff.2 fun c mem => by simp [h c mem]

theorem firstSolid?_eq (cs : List Char) : firstSolid? cs = (solids cs).head? := by
  induction cs with
  | nil => rfl
  | cons c cs ih =>
    rw [firstSolid?, trimStart, solids] at ih ⊢
    cases blank : isBlank c with
    | true => rw [List.dropWhile_cons_of_pos blank, List.filter_cons_of_neg (by simp [blank]), ih]
    | false =>
      rw [List.dropWhile_cons_of_neg (by simp [blank]), List.filter_cons_of_pos (by simp [blank])]
      rfl

theorem firstSolid?_eq_none (h : firstSolid? cs = none) : ∀ c ∈ cs, isBlank c = true :=
  List.dropWhile_eq_nil_iff.1 (List.head?_eq_none_iff.1 h)

theorem exists_of_firstSolid? (h : firstSolid? cs = some c) :
    ∃ blanks rest, cs = blanks ++ c :: rest ∧ ∀ d ∈ blanks, isBlank d = true := by
  obtain ⟨rest, behind⟩ := List.head?_eq_some_iff.1 h
  refine ⟨cs.takeWhile isBlank, rest, ?_, fun d mem => List.mem_takeWhile_imp mem⟩
  rw [← behind]
  exact List.takeWhile_append_dropWhile.symm

theorem firstSolid?_append (blank : ∀ c ∈ u, isBlank c = true) (v : List Char) :
    firstSolid? (u ++ v) = firstSolid? v := by
  rw [firstSolid?, trimStart, List.dropWhile_append_of_pos blank]
  rfl

theorem solids_joinFeeds (lines : List (List Char)) : solids (joinFeeds lines) = lines.flatMap solids := by
  induction lines with
  | nil => rfl
  | cons l lines ih =>
    cases lines with
    | nil => simp [joinFeeds]
    | cons => rw [joinFeeds_cons l (by simp), solids_append, List.flatMap_cons, ← ih]; rfl

/-- A margin that is no wider than the indentation of a line takes white space only. -/
theorem solids_dropMargin (le : ∀ c ∈ u, isBlank c = false → k ≤ (u.takeWhile isHorizontal).length) :
    solids (dropMargin k u) = solids u := by
  rw [dropMargin, emptyIfBlank]
  split
  · next blank =>
    have none : solids u = [] := solids_eq_nil fun c mem => isBlank_of_isHorizontal (List.all_eq_true.1 blank c mem)
    rw [List.drop_nil, none]
    rfl
  · have taken : solids (u.take k) = [] := by
      refine solids_eq_nil fun c mem => ?_
      by_contra solid
      have solid : isBlank c = false := Bool.eq_false_iff.2 solid
      have narrow := le c (List.mem_of_mem_take mem) solid
      have front : u.take k <+: u.takeWhile isHorizontal :=
        List.prefix_of_prefix_length_le (List.take_prefix k u) (List.takeWhile_prefix isHorizontal)
          ((List.length_take_le k u).trans narrow)
      exact not_isHorizontal_of_solid solid (List.mem_takeWhile_imp (front.subset mem))
    conv_rhs => rw [← List.take_append_drop k u, solids_append, taken, List.nil_append]

theorem dedentBehind_cons (k : Nat) (c : Char) (cs : List Char) :
    dedentBehind k (c :: cs) = if c = '\n' then '\n' :: dedentBy k cs else c :: dedentBehind k cs := by
  by_cases feed : c = '\n'
  · rw [if_pos feed, dedentBehind, splitFeeds, if_pos feed]
    exact joinFeeds_cons [] (by simpa using splitFeeds_ne_nil cs)
  · obtain ⟨first, rest, split⟩ := List.exists_cons_of_ne_nil (splitFeeds_ne_nil cs)
    rw [if_neg feed, dedentBehind, dedentBehind, splitFeeds_cons feed, split, consLine]
    show joinFeeds ((c :: first) :: rest.map _) = c :: joinFeeds (first :: rest.map _)
    cases rest <;> rfl

theorem dedentBehind_of_not_mem (plain : '\n' ∉ cs) : dedentBehind k cs = cs := by
  rw [dedentBehind, splitFeeds_of_not_mem plain]
  rfl

/-- Dedenting what is behind the beginning of a text leaves its first character that is no white space. -/
theorem firstSolid?_dedentBehind (le : k ≤ margin (front ++ back)) :
    firstSolid? (dedentBehind k back) = firstSolid? back := by
  obtain ⟨ls, u, split⟩ := List.eq_nil_or_concat' (splitFeeds front) |>.resolve_left (splitFeeds_ne_nil front)
  obtain ⟨v, ms, split'⟩ := List.exists_cons_of_ne_nil (splitFeeds_ne_nil back)
  have whole := splitFeeds_append_of_eq split split'
  have behind : solids (dedentBehind k back) = solids back := by
    conv_rhs => rw [← joinFeeds_splitFeeds back]
    rw [dedentBehind, split']
    show solids (joinFeeds (v :: ms.map (dropMargin k))) = solids (joinFeeds (v :: ms))
    rw [solids_joinFeeds, solids_joinFeeds, List.flatMap_cons, List.flatMap_cons, List.flatMap_map]
    congr 1
    refine List.flatMap_congr fun l mem => solids_dropMargin fun c some solid => le.trans (margin_le ?_ some solid)
    rw [whole]
    simp [mem]
  rw [firstSolid?_eq, firstSolid?_eq, behind]

end StreamTemplate.Text
