import StreamTemplate.Proofs.Program.Refused
import StreamTemplate.Proofs.Program.Keyword

/-!
# A comment in a tag

The code of a tag is what is left of its body without the shared indentation, without white space around
it and, in an output tag, without the last semicolon. A comment behind the last line of code stays behind
that line (`commented_code`).
-/

namespace StreamTemplate.Program

open Tag Text

variable {c d : Char} {cs front back u v pad rest : List Char} {mode : Mode}

/-! ### The end of the code -/

/-- The characters of a tag without what is cut off at their end: white space, and in front of it the last
semicolon of an output tag. -/
def Mode.cut : Mode → List Char → List Char
  | .eval, cs => trimEnd cs
  | _, cs => trimEnd (stripSemicolon (String.ofList cs)).toList

theorem solid_getLast?_trimEnd (last : (trimEnd cs).getLast? = some c) : isBlank c = false := by
  rw [trimEnd, List.getLast?_reverse] at last
  have stop := List.head?_dropWhile_not isBlank cs.reverse
  rw [last] at stop
  exact stop

/-- The last character that is no white space. -/
theorem exists_last_solid (h : ∃ c ∈ cs, isBlank c = false) :
    ∃ front d back, cs = front ++ d :: back ∧ isBlank d = false ∧ ∀ c ∈ back, isBlank c = true := by
  obtain ⟨back, split, blank⟩ := exists_trimEnd cs
  have ne : trimEnd cs ≠ [] := fun empty => by
    rw [empty, List.nil_append] at split
    obtain ⟨c, mem, solid⟩ := h
    exact absurd (solid.symm.trans (blank c (split ▸ mem))) Bool.false_ne_true
  obtain ⟨front, whole⟩ := List.getLast?_eq_some_iff.1 (List.getLast?_eq_some_getLast ne)
  refine ⟨front, _, back, ?_, solid_getLast?_trimEnd (List.getLast?_eq_some_getLast ne), blank⟩
  rw [List.append_cons, ← whole]
  exact split

theorem trimEnd_eq_nil (blank : ∀ c ∈ cs, isBlank c = true) : trimEnd cs = [] := by
  have := trimEnd_append blank []
  exact this

theorem trimEnd_solid (solid : isBlank d = false) (u v : List Char) :
    trimEnd (u ++ d :: v) = u ++ d :: trimEnd v := by
  rw [trimEnd, List.reverse_append, List.reverse_cons, trimEnd, List.append_assoc, List.dropWhile_append]
  split
  · next empty =>
    rw [List.isEmpty_iff] at empty
    rw [empty, List.singleton_append, List.dropWhile_cons_of_neg (by simp [solid])]
    simp
  · simp

theorem trimEnd_append_of_last (last : u.getLast? = some d) (solid : isBlank d = false) (v : List Char) :
    trimEnd (u ++ v) = u ++ trimEnd v := by
  obtain ⟨x, rfl⟩ := List.getLast?_eq_some_iff.1 last
  rw [← List.append_cons, trimEnd_solid solid, List.append_cons]

theorem getLast?_trimStart (last : u.getLast? = some d) (solid : isBlank d = false) :
    (trimStart u).getLast? = some d := by
  have ne : trimStart u ≠ [] := fun empty => by
    have := List.dropWhile_eq_nil_iff.1 empty d (List.mem_of_getLast? last)
    exact absurd (solid.symm.trans this) Bool.false_ne_true
  obtain ⟨ahead, split⟩ : trimStart u <:+ u := List.dropWhile_suffix isBlank
  rw [← last, ← split, List.getLast?_append_of_ne_nil _ ne, split]

theorem stripSemicolon_of_last (solid : isBlank d = false) (blank : ∀ c ∈ back, isBlank c = true)
    (front : List Char) : (stripSemicolon (String.ofList (front ++ d :: back))).toList =
      if d = ';' then front ++ back else front ++ d :: back := by
  have blanks : (front ++ d :: back).reverse.takeWhile isBlank = back.reverse := by
    rw [List.reverse_append, List.reverse_cons, List.append_assoc,
      List.takeWhile_append_of_pos fun c mem => blank c (List.mem_reverse.1 mem), List.singleton_append,
      List.takeWhile_cons_of_neg (by simp [solid]), List.append_nil]
  have behind : (front ++ d :: back).reverse.drop back.reverse.length = d :: front.reverse := by
    rw [List.reverse_append, List.reverse_cons, List.append_assoc, List.drop_left]
    rfl
  unfold stripSemicolon
  dsimp only
  rw [String.toList_ofList, blanks, behind]
  split
  · next rest same =>
    obtain ⟨rfl, rfl⟩ := List.cons.inj same
    simp
  · next other =>
    rw [if_neg fun same => other front.reverse (by rw [same]), String.toList_ofList]

theorem stripSemicolon_of_blank (blank : ∀ c ∈ cs, isBlank c = true) :
    stripSemicolon (String.ofList cs) = String.ofList cs := by
  have all : cs.reverse.takeWhile isBlank = cs.reverse :=
    List.takeWhile_eq_self_iff.2 fun c mem => blank c (List.mem_reverse.1 mem)
  unfold stripSemicolon
  dsimp only
  rw [String.toList_ofList, all, List.drop_length]

theorem stripSemicolon_solid (solid : isBlank d = false) (plain : d ≠ ';') (u v : List Char) :
    (stripSemicolon (String.ofList (u ++ d :: v))).toList = u ++ d :: (stripSemicolon (String.ofList v)).toList := by
  by_cases more : ∃ c ∈ v, isBlank c = false
  · obtain ⟨front, e, back, rfl, last, blank⟩ := exists_last_solid more
    have along : u ++ d :: (front ++ e :: back) = (u ++ d :: front) ++ e :: back := by simp
    rw [along, stripSemicolon_of_last last blank, stripSemicolon_of_last last blank]
    split <;> simp
  · have blank : ∀ c ∈ v, isBlank c = true := by simpa using more
    rw [stripSemicolon_of_last solid blank, if_neg plain, stripSemicolon_of_blank blank, String.toList_ofList]

namespace Mode

theorem cut_blank (mode : Mode) (blank : ∀ c ∈ cs, isBlank c = true) : mode.cut cs = [] := by
  cases mode <;> simp [cut, stripSemicolon_of_blank blank, trimEnd_eq_nil blank]

/-- Only what is behind a character that is kept can be cut off. -/
theorem cut_solid (solid : isBlank d = false) (plain : mode ≠ .eval → d ≠ ';') (u v : List Char) :
    mode.cut (u ++ d :: v) = u ++ d :: mode.cut v := by
  have output (plain : d ≠ ';') : trimEnd (stripSemicolon (String.ofList (u ++ d :: v))).toList =
      u ++ d :: trimEnd (stripSemicolon (String.ofList v)).toList := by
    rw [stripSemicolon_solid solid plain, trimEnd_solid solid]
  cases mode with
  | eval => exact trimEnd_solid solid u v
  | _ => exact output (plain (by decide))

theorem solid_getLast?_cut {mode : Mode} (last : (mode.cut cs).getLast? = some c) : isBlank c = false := by
  cases mode <;> exact solid_getLast?_trimEnd last

theorem prefix_cut (mode : Mode) (cs : List Char) : mode.cut cs <+: cs := by
  have trimmed (cs : List Char) : trimEnd cs <+: cs := by
    obtain ⟨back, split, -⟩ := exists_trimEnd cs
    exact ⟨back, split.symm⟩
  have output : trimEnd (stripSemicolon (String.ofList cs)).toList <+: cs := by
    by_cases some : ∃ c ∈ cs, isBlank c = false
    · obtain ⟨front, d, back, rfl, solid, blank⟩ := exists_last_solid some
      rw [stripSemicolon_of_last solid blank]
      split
      · rw [trimEnd_append blank]
        exact (trimmed front).trans (List.prefix_append _ _)
      · exact trimmed _
    · rw [stripSemicolon_of_blank (by simpa using some), String.toList_ofList]
      exact trimmed cs
  cases mode with
  | eval => exact trimmed cs
  | _ => exact output

/-! ### The code in a body -/

/-- The code at the beginning of a tag's body, when `back` follows it. -/
def codeAhead (mode : Mode) (front back : List Char) : List Char :=
  match mode with
  | .eval => trimStart (dedentBy (margin (front ++ back)) front)
  | _ => trimStart front

/-- What follows that code. -/
def codeBehind (mode : Mode) (front back : List Char) : List Char :=
  match mode with
  | .eval => dedentBehind (margin (front ++ back)) back
  | _ => back

section

variable (last : front.getLast? = some d) (solid : isBlank d = false)

include last solid

theorem getLast?_codeAhead (mode : Mode) (back : List Char) : (mode.codeAhead front back).getLast? = some d := by
  cases mode with
  | eval => exact getLast?_trimStart (getLast?_dedentBy last solid le_rfl) solid
  | _ => exact getLast?_trimStart last solid

/-- What stands at the end of a line of code stands behind that code. -/
theorem toList_code {w : List Char} (plain : mode ≠ .eval → d ≠ ';') (line : '\n' ∉ w) :
    (mode.code (String.ofList (front ++ (w ++ back)))).toList =
      mode.codeAhead front back ++ mode.cut (w ++ mode.codeBehind front back) := by
  have output (plain : d ≠ ';') : (trim (stripSemicolon (String.ofList (front ++ (w ++ back))))).toList =
      trimStart front ++ trimEnd (stripSemicolon (String.ofList (w ++ back))).toList := by
    have some : ∃ c ∈ front, isBlank c = false := ⟨d, List.mem_of_getLast? last, solid⟩
    have kept : (stripSemicolon (String.ofList (front ++ (w ++ back)))).toList =
        front ++ (stripSemicolon (String.ofList (w ++ back))).toList := by
      obtain ⟨x, rfl⟩ := List.getLast?_eq_some_iff.1 last
      rw [← List.append_cons, stripSemicolon_solid solid plain, List.append_cons]
    rw [trim, String.toList_ofList, kept, trimStart_append some,
      trimEnd_append_of_last (getLast?_trimStart last solid) solid]
  cases mode with
  | eval =>
    have last' : (dedentBy (margin (front ++ back)) front).getLast? = .some d :=
      getLast?_dedentBy last solid le_rfl
    have some : ∃ c ∈ dedentBy (margin (front ++ back)) front, isBlank c = false :=
      ⟨d, List.mem_of_getLast? last', solid⟩
    show (trim (dedent _)).toList = _
    rw [trim, String.toList_ofList, toList_dedent, String.toList_ofList, margin_append last solid line,
      dedentBy_append last solid line le_rfl, trimStart_append some,
      trimEnd_append_of_last (getLast?_trimStart last' solid) solid]
    rfl
  | _ => exact output (plain (by decide))

end

theorem prefix_cut_append (blank : ∀ c ∈ back, isBlank c = true) (mode : Mode) (u : List Char) :
    mode.cut (u ++ back) <+: u := by
  rcases Nat.le_total (mode.cut (u ++ back)).length u.length with short | long
  · exact List.prefix_of_prefix_length_le (mode.prefix_cut _) (List.prefix_append u back) short
  · obtain ⟨x, more⟩ := List.prefix_of_prefix_length_le (List.prefix_append u back) (mode.prefix_cut _) long
    have start : x <+: back := by
      have := mode.prefix_cut (u ++ back)
      rwa [← more, List.prefix_append_right_inj] at this
    cases x with
    | nil => rw [← more, List.append_nil]
    | cons d x =>
      have last := List.getLast?_eq_some_getLast (List.cons_ne_nil d x)
      rw [← List.getLast?_append_of_ne_nil u (List.cons_ne_nil d x), more] at last
      have := blank _ (start.subset (List.getLast_mem (List.cons_ne_nil d x)))
      exact absurd ((solid_getLast?_cut last).symm.trans this) Bool.false_ne_true

end Mode

/-! ### The comment -/

/-- What is added to a line: a comment, between spaces. -/
def remark (c : List Char) : List Char :=
  ' ' :: '#' :: ' ' :: (c ++ [' '])

/-- The code of a tag ends a line at the end of `front`. White space follows on that line, and on the lines
behind it there are comments, if anything. -/
structure LastLine (front pad back : List Char) : Prop where
  solid : ∃ d, front.getLast? = some d ∧ isBlank d = false
  space : ∀ d ∈ pad, isSpace d = true
  breaks : Breaks back
  free : ∀ d, firstSolid? back = some d → d = '#'

theorem breaks_codeBehind (breaks : Breaks back) (mode : Mode) (front : List Char) :
    Breaks (mode.codeBehind front back) := by
  cases mode with
  | eval =>
    cases back with
    | nil => exact nofun
    | cons e back =>
      intro d first
      rw [Mode.codeBehind, dedentBehind_cons] at first
      split at first
      · exact .inl (Option.some.inj first).symm
      · exact breaks d first
  | _ => exact breaks

theorem firstSolid?_codeBehind (mode : Mode) (front back : List Char) :
    firstSolid? (mode.codeBehind front back) = firstSolid? back := by
  cases mode with
  | eval => exact firstSolid?_dedentBehind le_rfl
  | _ => rfl

/-- Cutting off the end of the code and the comment, with more comments behind it or nothing, leaves both. -/
theorem commented_cut (mode : Mode) (code : List Char) (space : ∀ d ∈ pad, isSpace d = true) (breaks : Breaks back)
    (free : ∀ d, firstSolid? back = some d → d = '#') (plain : ∀ d ∈ cs, d ≠ '\n' ∧ d ≠ '\r' ∧ d ≠ '\x00') :
    Commented code (code ++ mode.cut (pad ++ back)) (code ++ mode.cut (pad ++ remark cs ++ back)) := by
  have space' (d : Char) (mem : d ∈ pad ++ [' ']) : isSpace d = true := by
    rcases List.mem_append.1 mem with mem | mem
    · exact space d mem
    · rw [List.mem_singleton.1 mem]
      rfl
  have comment (com : List Char) (part : com <+: ' ' :: (cs ++ [' '])) (d : Char) (mem : d ∈ com) :
      d ≠ '\n' ∧ d ≠ '\r' ∧ d ≠ '\x00' := by
    have mem := part.subset mem
    simp only [List.mem_cons, List.mem_append, List.not_mem_nil, or_false] at mem
    rcases mem with rfl | mem | rfl
    · decide
    · exact plain d mem
    · decide
  have sign : mode.cut (pad ++ remark cs ++ back) =
      (pad ++ [' ']) ++ '#' :: mode.cut (' ' :: (cs ++ [' ']) ++ back) := by
    rw [← Mode.cut_solid (d := '#') (by decide) fun _ => by decide]
    simp [remark]
  rw [sign]
  cases first : firstSolid? back with
  | none =>
    have blank := firstSolid?_eq_none first
    have empty : mode.cut (pad ++ back) = [] := mode.cut_blank fun d mem => by
      rcases List.mem_append.1 mem with mem | mem
      · exact isBlank_of_isSpace (space d mem)
      · exact blank d mem
    rw [empty]
    have : Commented code (code ++ ([] ++ []))
        (code ++ (pad ++ [' '] ++ '#' :: mode.cut (' ' :: (cs ++ [' ']) ++ back) ++ [])) :=
      .intro nofun space' (comment _ (mode.prefix_cut_append blank _)) nofun nofun nofun fun _ => rfl
    simpa using this
  | some d =>
    obtain rfl := free d first
    obtain ⟨blanks, rest, rfl, blank⟩ := exists_of_firstSolid? first
    have kept (u : List Char) : mode.cut (u ++ (blanks ++ '#' :: rest)) =
        u ++ (blanks ++ '#' :: mode.cut rest) := by
      rw [← List.append_assoc, Mode.cut_solid (by decide) fun _ => by decide, List.append_assoc]
    have breaks' : Breaks (blanks ++ '#' :: mode.cut rest) := by
      cases blanks <;> exact fun d first => breaks d first
    have free' (d : Char) (first : firstSolid? (blanks ++ '#' :: mode.cut rest) = some d) : d = '#' := by
      rw [firstSolid?_append blank] at first
      exact (Option.some.inj first).symm
    have solid (d : Char) (last : (blanks ++ '#' :: mode.cut rest).getLast? = some d) : isBlank d = false := by
      rw [List.getLast?_append_of_ne_nil _ (List.cons_ne_nil _ _), List.getLast?_cons] at last
      cases more : (mode.cut rest).getLast? with
      | none =>
        rw [more] at last
        exact Option.some.inj last ▸ rfl
      | some e =>
        rw [more] at last
        exact Option.some.inj last ▸ Mode.solid_getLast?_cut more
    rw [kept, kept, ← List.cons_append, ← List.append_assoc (pad ++ [' '])]
    exact .intro space space' (comment _ List.prefix_rfl) breaks' free' solid fun empty => by simp at empty

/-- A comment at the end of the last line of code stays there. -/
theorem LastLine.commented_code (line : LastLine front pad back) (semicolon : mode ≠ .eval → front.getLast? ≠ some ';')
    (plain : ∀ d ∈ cs, d ≠ '\n' ∧ d ≠ '\r' ∧ d ≠ '\x00') :
    Commented (mode.codeAhead front back) (mode.code (String.ofList (front ++ (pad ++ back)))).toList
      (mode.code (String.ofList (front ++ (pad ++ remark cs ++ back)))).toList := by
  obtain ⟨⟨d, last, solid⟩, space, breaks, free⟩ := line
  have semicolon (output : mode ≠ .eval) : d ≠ ';' := fun same => semicolon output (same ▸ last)
  have pad_line : '\n' ∉ pad := not_mem_of_isSpace space (by decide)
  have line : '\n' ∉ pad ++ remark cs := by
    have cs_line : '\n' ∉ cs := fun mem => (plain _ mem).1 rfl
    simp [remark, pad_line, cs_line]
  rw [Mode.toList_code last solid semicolon pad_line, Mode.toList_code last solid semicolon line]
  refine commented_cut mode _ space (breaks_codeBehind breaks mode front) ?_ plain
  rwa [firstSolid?_codeBehind]

/-! ### The statement of a tag -/

theorem afterWord?_eq_some {word : String} (h : afterWord? word cs = some rest) :
    cs = word.toList ++ rest ∧ endsWord rest = true := by
  unfold afterWord? at h
  split at h
  · next found =>
    obtain ⟨start, ends⟩ := Bool.and_eq_true_iff.1 found
    obtain ⟨more, rfl⟩ := List.isPrefixOf_iff_prefix.1 start
    rw [← String.length_toList, List.drop_left] at h ends
    exact ⟨by rw [Option.some.inj h], Option.some.inj h ▸ ends⟩
  · cases h

theorem exists_of_headerKeyword?_elif (h : headerKeyword? (String.ofList cs) = some "elif") :
    ∃ rest, cs = "elif".toList ++ rest ∧ endsWord rest = true := by
  unfold headerKeyword? at h
  dsimp only at h
  rw [String.toList_ofList] at h
  split at h
  · next word found =>
    obtain rfl := Option.some.inj h
    have after : (afterWord? "elif" cs).isSome = true :=
      List.find?_some (p := fun word => (afterWord? word cs).isSome) found
    obtain ⟨rest, after⟩ := Option.isSome_iff_exists.1 after
    exact ⟨rest, afterWord?_eq_some after⟩
  · split at h
    · split at h
      · exact absurd (Option.some.inj h) (by decide)
      · cases h
    · cases h

section

variable {o : Options} {source source' : String} {site site' : Site} {κ : Type}

theorem toOption_located {α : Type} (x : Except CodeFault α) : (located o source site x).toOption = x.toOption := by
  cases x <;> rfl

theorem toOption_locatedPart {α : Type} (x : Except CodeFault α) :
    (locatedPart o source site x).toOption = x.toOption := by
  cases x with
  | ok => rfl
  | error =>
    rw [locatedPart]
    split <;> rfl

/-- Where a header stands makes no difference to the statement. -/
theorem toOption_headerStatement (isElif : Bool) (header : Header κ) :
    (headerStatement o source site isElif header).toOption =
      (headerStatement o source' site' isElif header).toOption := by
  cases header with
  | ifDo test =>
    unfold headerStatement
    rw [toOption_bind, toOption_bind, toOption_locatedPart, toOption_locatedPart]
  | whileDo test =>
    unfold headerStatement
    rw [toOption_bind, toOption_bind, toOption_locatedPart, toOption_locatedPart]
  | forIn isAsync target iter =>
    unfold headerStatement
    dsimp only
    by_cases late : (isAsync && !o.enableAsync) = true
    · rw [if_pos late, if_pos late]
      rfl
    · rw [if_neg late, if_neg late]
      cases target with
      | error fault => rfl
      | ok target =>
        dsimp only
        rw [pure_bind, pure_bind, toOption_bind, toOption_bind, toOption_locatedPart, toOption_locatedPart]

end

section

variable {o : Options} {code a b : List Char} {s : LexState} (h : Commented code a b) (ends : EndsIn code s)
  (solid : ∀ d, code.getLast? = some d → isBlank d = false)

/-- The comment stays when the word in front of the code is another one. -/
theorem commented_of_append {u w r : List Char} (h : Commented (u ++ r) a b) :
    Commented (w ++ r) (w ++ a.drop u.length) (w ++ b.drop u.length) := by
  cases h with
  | intro space space' plain breaks free solid bare =>
    rw [List.append_assoc u, List.append_assoc u, List.drop_left, List.drop_left, ← List.append_assoc,
      ← List.append_assoc w]
    exact .intro space space' plain breaks free solid bare

include h ends solid

/-- The comment leaves a header as it is. -/
theorem header?_commented :
    header? language o (String.ofList b) = header? language o (String.ofList a) := by
  unfold header?
  rw [headerKeyword?_commented h solid]
  split
  · rfl
  · next found =>
    obtain ⟨v, v', rfl, rfl, trails, -⟩ := exists_trails h
    rw [headerKeyword?_append solid trails] at found
    obtain ⟨rest, rfl, word⟩ := exists_of_headerKeyword?_elif found
    obtain ⟨s', ends'⟩ := ends.of_elif (by simpa [endsWord] using word)
    have inner (cs : List Char) : ("if" ++ (String.ofList cs).drop 4 : String) =
        String.ofList ("if".toList ++ cs.drop "elif".toList.length) := by
      refine String.toList_injective ?_
      show ("if" ++ ((String.ofList cs).drop 4).copy).toList = _
      simp [String.toList_copy_drop]
    rw [inner, inner, (commented_of_append h).header ends']
  · rw [h.header ends]

end

end StreamTemplate.Program
