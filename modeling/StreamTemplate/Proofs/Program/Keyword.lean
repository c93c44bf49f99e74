import StreamTemplate.Proofs.Tag.Commented

/-!
# Keywords in front of a comment

What kind of statement a tag holds is read off the words at the front of its code. A comment behind the
code does not change them (`headerKeyword?_append`); an `else` may be followed by a comment on its own line
only (`isElse_append_iff`).
-/

namespace StreamTemplate.Program

open Tag Text

/-- Nothing but a comment follows, set apart from what is in front of it. -/
structure Trails (v : List Char) : Prop where
  apart : Tag.Apart v
  free : ∀ c, firstSolid? v = some c → c = '#'

variable {d : Char} {code v : List Char}

theorem endsWord_append (apart : Tag.Apart v) (cs : List Char) : endsWord (cs ++ v) = endsWord cs := by
  rw [endsWord, endsWord, apart.head_append (forall_separator (by decide))]

theorem afterWord?_append {word : String} (plain : word.toList.any isSeparator = false) (apart : Tag.Apart v)
    (cs : List Char) : afterWord? word (cs ++ v) = (afterWord? word cs).map (· ++ v) := by
  unfold afterWord?
  rw [apart.isPrefixOf_append plain]
  cases start : word.toList.isPrefixOf cs with
  | false => rfl
  | true =>
    have short : word.length ≤ cs.length := by
      rw [← String.length_toList]
      exact (List.isPrefixOf_iff_prefix.1 start).length_le
    rw [List.drop_append_of_le_length short, endsWord_append apart]
    cases endsWord (cs.drop word.length) <;> rfl

theorem afterWord?_of_not_prefix {word : String} {cs : List Char} (other : word.toList.isPrefixOf cs = false) :
    afterWord? word cs = none := by
  rw [afterWord?, other]
  rfl

theorem Trails.afterWord?_trimStart (trails : Trails v) : afterWord? "for" (trimStart v) = none := by
  refine afterWord?_of_not_prefix ?_
  cases behind : trimStart v with
  | nil => rfl
  | cons c rest =>
    obtain rfl := trails.free c (by rw [firstSolid?, behind]; rfl)
    rfl

theorem not_separator_of_keyword :
    ∀ word ∈ ["if", "elif", "for", "while", "async"], word.toList.any isSeparator = false := by
  decide

theorem afterWord?_suffix {word : String} {cs rest : List Char} (h : afterWord? word cs = some rest) :
    rest <:+ cs := by
  unfold afterWord? at h
  split at h
  · exact Option.some.inj h ▸ List.drop_suffix _ _
  · cases h

/-- A header is announced by the same keyword when nothing but a comment follows. -/
theorem headerKeyword?_append (solid : ∀ d, code.getLast? = some d → isBlank d = false) (trails : Trails v) :
    headerKeyword? (String.ofList (code ++ v)) = headerKeyword? (String.ofList code) := by
  have along (word : String) (mem : word ∈ ["if", "elif", "for", "while", "async"]) (cs : List Char) :
      afterWord? word (cs ++ v) = (afterWord? word cs).map (· ++ v) :=
    afterWord?_append (not_separator_of_keyword word mem) trails.apart cs
  have found : ["if", "elif", "for", "while"].find? (fun word => (afterWord? word (code ++ v)).isSome) =
      ["if", "elif", "for", "while"].find? fun word => (afterWord? word code).isSome := by
    simp only [List.find?_cons, List.find?_nil, along, List.mem_cons, true_or, or_true, Option.isSome_map]
  unfold headerKeyword?
  dsimp only
  rw [String.toList_ofList, String.toList_ofList, found, along "async" (by decide)]
  split
  · rfl
  · cases behind : afterWord? "async" code with
    | none => rfl
    | some rest =>
      simp only [Option.map_some]
      congr 2
      cases rest with
      | nil =>
        rw [List.nil_append, trails.afterWord?_trimStart, Option.isSome_none, Bool.and_false]
        rfl
      | cons c rest =>
        have last : ∃ d ∈ c :: rest, isBlank d = false := by
          refine ⟨_, List.getLast_mem (List.cons_ne_nil c rest), solid _ ?_⟩
          obtain ⟨front, rfl⟩ := afterWord?_suffix behind
          rw [List.getLast?_append_of_ne_nil _ (List.cons_ne_nil c rest)]
          exact List.getLast?_eq_some_getLast _
        rw [trimStart_append last, along "for" (by decide), Option.isSome_map]
        rfl

/-! ### An `else` -/

/-- Nothing but a comment, which has no line feed in it. -/
def isRemark (cs : List Char) : Bool :=
  match trimStart cs with
  | [] => true
  | c :: rest => c == '#' && !rest.contains '\n'

theorem isRemark_iff {cs : List Char} :
    isRemark cs = true ↔ (∀ c, firstSolid? cs = some c → c = '#') ∧ '\n' ∉ trimStart cs := by
  unfold isRemark firstSolid?
  cases trimStart cs with
  | nil => simp
  | cons c rest =>
    rw [Bool.and_eq_true, beq_iff_eq, List.head?_cons, Bool.not_eq_true', List.contains_eq_mem, decide_eq_false_iff_not]
    constructor
    · rintro ⟨rfl, line⟩
      exact ⟨fun d first => (Option.some.inj first).symm, by simpa using line⟩
    · rintro ⟨sign, line⟩
      exact ⟨sign c rfl, fun mem => line (.tail c mem)⟩

theorem isElse_iff {cs : List Char} : isElse (String.ofList cs) = true ↔
    ∃ blanks rest, cs = "else".toList ++ (blanks ++ ':' :: rest) ∧ (∀ c ∈ blanks, isBlank c = true) ∧
      isRemark rest = true := by
  unfold isElse
  rw [String.toList_ofList]
  constructor
  · intro h
    split at h
    · split at h
      · next rest _ more behind =>
        refine ⟨rest.takeWhile isBlank, more, ?_, fun c mem => List.mem_takeWhile_imp mem, h⟩
        rw [← behind, trimStart, List.takeWhile_append_dropWhile]
        rfl
      · cases h
    · cases h
  · rintro ⟨blanks, rest, rfl, blank, remark⟩
    have behind : trimStart (blanks ++ ':' :: rest) = ':' :: rest := by
      rw [trimStart, List.dropWhile_append_of_pos blank]
      rfl
    split
    · next more same =>
      obtain rfl : blanks ++ ':' :: rest = more := by simpa using same
      rw [behind]
      exact remark
    · next other => exact absurd rfl (other _)

/-- The colon of an `else` is part of the code in front of a comment. -/
theorem isElse_append_iff (trails : Trails v) : isElse (String.ofList (code ++ v)) = true ↔
    ∃ blanks rest, code = "else".toList ++ (blanks ++ ':' :: rest) ∧ (∀ c ∈ blanks, isBlank c = true) ∧
      isRemark (rest ++ v) = true := by
  rw [isElse_iff]
  constructor
  · rintro ⟨blanks, rest, whole, blank, remark⟩
    have colon {as : List Char} (more : v = as ++ ':' :: rest) : ¬ ∀ c ∈ as, isBlank c = true := fun blank =>
      absurd (trails.free ':' (by rw [more, firstSolid?_append blank]; rfl)) (by decide)
    rw [← List.append_assoc, List.append_eq_append_iff] at whole
    obtain ⟨as, front, more⟩ | ⟨cs, front, more⟩ := whole
    · -- The colon would come behind the code.
      refine absurd (fun c mem => ?_) (colon more)
      obtain ⟨as', word, rfl⟩ | ⟨cs, -, rfl⟩ := List.append_eq_append_iff.1 front.symm
      · cases as' with
        | nil => exact blank c mem
        | cons e as' =>
          have plain : "else".toList.any isSeparator = false := by decide
          exact absurd (trails.apart e (by rw [more]; rfl)) (List.any_eq_false.1 plain e (by simp [word]))
      · exact blank c (List.mem_append_right cs mem)
    · cases cs with
      | nil => exact absurd nofun (@colon [] more.symm)
      | cons e cs =>
        obtain ⟨rfl, rfl⟩ := List.cons.inj more
        exact ⟨blanks, cs, by simp [front], blank, remark⟩
  · rintro ⟨blanks, rest, rfl, blank, remark⟩
    exact ⟨blanks, rest ++ v, by simp, blank, remark⟩

/-! ### Code with a comment -/

section Commented

variable {a b : List Char} (h : Commented code a b)

include h

/-- What follows the code in both texts: only comments, and a line feed in both or in neither. -/
theorem exists_trails : ∃ v v', a = code ++ v ∧ b = code ++ v' ∧ Trails v ∧ Trails v' ∧
    ('\n' ∈ v ↔ '\n' ∈ v') ∧ ('\n' ∈ trimStart v' ↔ '\n' ∈ v') ∧ '#' ∈ v' := by
  cases h with
  | @intro pad pad' com rest space space' plain breaks free solid bare =>
    have blank : ∀ c ∈ pad, isBlank c = true := fun c mem => isBlank_of_isSpace (space c mem)
    have blank' : ∀ c ∈ pad', isBlank c = true := fun c mem => isBlank_of_isSpace (space' c mem)
    have in_pad : '\n' ∉ pad := not_mem_of_isSpace space (by decide)
    have in_pad' : '\n' ∉ pad' := not_mem_of_isSpace space' (by decide)
    have in_com : '\n' ∉ com := fun mem => (plain _ mem).1 rfl
    have apart {pad tail : List Char} (space : ∀ c ∈ pad, isSpace c = true) (apart : Tag.Apart tail) :
        Tag.Apart (pad ++ tail) := by
      cases pad with
      | nil => exact apart
      | cons c pad =>
        intro d first
        exact Option.some.inj first ▸ isSeparator_of_isSpace (space c (.head pad))
    have breaks' : Tag.Apart rest := fun c first => by
      rcases breaks c first with rfl | rfl <;> rfl
    have remark : Tag.Apart ('#' :: com ++ rest) := fun c first => by
      rw [← Option.some.inj first]
      rfl
    refine ⟨pad ++ rest, pad' ++ ('#' :: com ++ rest), rfl, by simp, ⟨apart space breaks', ?_⟩,
      ⟨apart space' remark, ?_⟩, by simp [in_pad, in_pad', in_com], ?_, by simp⟩
    · rwa [firstSolid?_append blank]
    · rw [firstSolid?_append blank']
      exact fun c first => (Option.some.inj first).symm
    · rw [trimStart, List.dropWhile_append_of_pos blank']
      simp [in_pad', in_com, isBlank]

variable (solid : ∀ d, code.getLast? = some d → isBlank d = false)

include solid

/-- The comment changes an `else` only if a line behind it holds a comment already. -/
theorem isElse_commented (clause : isElse (String.ofList a) = true → '\n' ∉ a.drop code.length) :
    isElse (String.ofList b) = isElse (String.ofList a) := by
  obtain ⟨v, v', rfl, rfl, trails, trails', feed, ahead, -⟩ := exists_trails h
  rw [List.drop_left] at clause
  rw [Bool.eq_iff_iff, isElse_append_iff trails, isElse_append_iff trails']
  rw [isElse_append_iff trails] at clause
  refine exists_congr fun blanks => exists_congr fun rest => and_congr_right fun whole => and_congr_right fun blank => ?_
  have clause (remark : isRemark (rest ++ v) = true) : '\n' ∉ v := clause ⟨blanks, rest, whole, blank, remark⟩
  rw [isRemark_iff] at clause
  rw [isRemark_iff, isRemark_iff]
  cases rest with
  | nil =>
    rw [List.nil_append, List.nil_append, and_iff_right trails'.free, ahead, ← feed]
    rw [List.nil_append, and_iff_right trails.free] at clause
    rw [and_iff_right trails.free]
    exact ⟨fun line mem => line (List.dropWhile_subset _ mem), clause⟩
  | cons e rest =>
    have some : ∃ d ∈ e :: rest, isBlank d = false := by
      refine ⟨_, List.getLast_mem (List.cons_ne_nil e rest), solid _ ?_⟩
      rw [whole, List.getLast?_append_of_ne_nil _ (by simp), List.getLast?_append_of_ne_nil _ (List.cons_ne_nil _ _),
        List.getLast?_cons_cons, List.getLast?_eq_some_getLast]
    have same (w : List Char) : firstSolid? (e :: rest ++ w) = firstSolid? (e :: rest) := by
      obtain ⟨d, mem, solid⟩ := some
      have ne : trimStart (e :: rest) ≠ [] := fun empty =>
        absurd (solid.symm.trans (List.dropWhile_eq_nil_iff.1 empty d mem)) Bool.false_ne_true
      rw [firstSolid?, firstSolid?, trimStart_append ⟨d, mem, solid⟩, List.head?_append_of_ne_nil _ ne]
    rw [same, same, trimStart_append some, trimStart_append some, List.mem_append, List.mem_append, feed]

/-- A comment does not change the header that a text is. -/
theorem headerKeyword?_commented :
    headerKeyword? (String.ofList b) = headerKeyword? (String.ofList a) := by
  obtain ⟨v, v', rfl, rfl, trails, trails', -⟩ := exists_trails h
  rw [headerKeyword?_append solid trails, headerKeyword?_append solid trails']

end Commented

end StreamTemplate.Program
