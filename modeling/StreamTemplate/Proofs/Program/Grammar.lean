import StreamTemplate.Proofs.Program.Counter

/-!
# The grammar of blocks

Which programs nest depends on the kinds of their instructions only. `Derives` says which lists of
kinds are made of whole blocks, and `nest` accepts exactly the programs of such kinds
(`exists_nest_iff`). Both ways go through `Unfolds`: a stretch that is some part written out takes
a nesting from before it to behind it (`Unfolds.nests`), so a program nests into a body just when it
is that body written out (`nest_eq_ok_iff`), and a list of kinds is derived just when some part is
written out with these kinds.
-/

namespace StreamTemplate.Program

variable {κ : Type}

/-- The phrases of the grammar: blocks and what stands alone, in a row; and the rest of a choice
behind the body of a clause. -/
inductive Phrase where
  | blocks (inLoop : Bool)
  | clauses (inLoop : Bool)

/-- The grammar of blocks. Jumps stand inside of a loop, and a choice has any number of clauses with
a condition and then at most one without. -/
inductive Derives : Phrase → List StatementKind → Prop
  | nil {inLoop} : Derives (.blocks inLoop) []
  | simple {inLoop rest} : Derives (.blocks inLoop) rest →
      Derives (.blocks inLoop) (.simple :: rest)
  | breakLoop {rest} : Derives (.blocks true) rest → Derives (.blocks true) (.breakLoop :: rest)
  | continueLoop {rest} : Derives (.blocks true) rest →
      Derives (.blocks true) (.continueLoop :: rest)
  | choice {inLoop body clauses rest} : Derives (.blocks inLoop) body →
      Derives (.clauses inLoop) clauses → Derives (.blocks inLoop) rest →
      Derives (.blocks inLoop) (.ifDo :: (body ++ (clauses ++ rest)))
  | loop {inLoop kind body rest} : kind.isLoop = true → Derives (.blocks true) body →
      Derives (.blocks inLoop) rest →
      Derives (.blocks inLoop) (kind :: (body ++ .endBlock :: rest))
  | close {inLoop} : Derives (.clauses inLoop) [.endBlock]
  | elif {inLoop body clauses} : Derives (.blocks inLoop) body →
      Derives (.clauses inLoop) clauses →
      Derives (.clauses inLoop) (.elifDo :: (body ++ clauses))
  | otherwise {inLoop body} : Derives (.blocks inLoop) body →
      Derives (.clauses inLoop) (.elseDo :: (body ++ [.endBlock]))

/-! ### What is derived is written out -/

/-- The phrase that a part is an instance of. -/
def Part.phrase (inLoop : Bool) : Part κ → Phrase
  | .nodes _ => .blocks inLoop
  | .clauses _ => .clauses inLoop

/-- Some part of the phrase is written out in the stretch. -/
def Phrase.Written : Phrase → List (Instruction κ) → Prop
  | .blocks inLoop, seg => ∃ nodes, Unfolds inLoop (.nodes nodes) seg
  | .clauses inLoop, seg => ∃ branches, Unfolds inLoop (.clauses branches) seg

theorem kind_forIn (isAsync : Bool) (target iter : κ) :
    (Statement.forIn isAsync target iter).kind.isLoop = true := by
  cases isAsync <;> rfl

theorem Unfolds.derives {inLoop : Bool} {part : Part κ} {seg : List (Instruction κ)}
    (h : Unfolds inLoop part seg) : Derives (part.phrase inLoop) (seg.map Instruction.kind) := by
  induction h with
  | nil => exact .nil
  | literal _ ih => exact .simple ih
  | output _ ih => exact .simple ih
  | simple _ ih => exact .simple ih
  | breakLoop _ ih => exact .breakLoop ih
  | continueLoop _ ih => exact .continueLoop ih
  | choice _ _ _ body clauses rest =>
    simp only [List.map_cons, List.map_append]
    exact .choice body clauses rest
  | forLoop _ _ body rest =>
    simp only [List.map_cons, List.map_append]
    exact .loop (kind_forIn ..) body rest
  | whileLoop _ _ body rest =>
    simp only [List.map_cons, List.map_append]
    exact .loop rfl body rest
  | close => exact .close
  | elif _ _ body clauses =>
    simp only [List.map_cons, List.map_append]
    exact .elif body clauses
  | otherwise _ close body _ =>
    cases close
    simp only [List.map_cons, List.map_append]
    exact .otherwise body

theorem Instruction.of_kind {i : Instruction κ} {kind : StatementKind} (h : i.kind = kind)
    (hk : kind ≠ .simple) :
    ∃ site source tag s, i = .statement site source tag s ∧ s.kind = kind := by
  cases i with
  | literal => exact absurd h.symm hk
  | output => exact absurd h.symm hk
  | statement site source tag s => exact ⟨site, source, tag, s, rfl, h⟩

theorem Phrase.Written.simple {inLoop : Bool} {i : Instruction κ} {rest : List (Instruction κ)}
    (hi : i.kind = .simple) (h : (Phrase.blocks inLoop).Written rest) :
    (Phrase.blocks inLoop).Written (i :: rest) := by
  obtain ⟨nodes, hu⟩ := h
  cases i with
  | literal => exact ⟨_, .literal hu⟩
  | output => exact ⟨_, .output hu⟩
  | statement site source tag s =>
    cases s with
    | simple code => exact ⟨_, .simple hu⟩
    | forIn isAsync => cases isAsync <;> cases hi
    | _ => cases hi

theorem Statement.of_kind {s : Statement κ} {kind : StatementKind} (h : s.kind = kind) :
    match kind with
    | .simple => ∃ code, s = .simple code
    | .ifDo => ∃ test, s = .ifDo test
    | .elifDo => ∃ test, s = .elifDo test
    | .elseDo => s = .elseDo
    | .forIn => ∃ target iter, s = .forIn false target iter
    | .asyncFor => ∃ target iter, s = .forIn true target iter
    | .whileDo => ∃ test, s = .whileDo test
    | .endBlock => s = .endBlock
    | .breakLoop => s = .breakLoop
    | .continueLoop => s = .continueLoop := by
  subst h
  cases s with
  | forIn isAsync target iter => cases isAsync <;> exact ⟨_, _, rfl⟩
  | simple | ifDo | elifDo | whileDo => exact ⟨_, rfl⟩
  | _ => rfl

/-- Every program of kinds that are derived is some part written out. -/
theorem Derives.written {phrase : Phrase} {kinds : List StatementKind} (h : Derives phrase kinds)
    {seg : List (Instruction κ)} (hs : seg.map Instruction.kind = kinds) : phrase.Written seg := by
  induction h generalizing seg with
  | nil =>
    rw [List.map_eq_nil_iff.1 hs]
    exact ⟨[], .nil⟩
  | simple _ ih =>
    obtain ⟨i, rest, rfl, hi, hr⟩ := List.map_eq_cons_iff.1 hs
    exact .simple hi (ih hr)
  | breakLoop _ ih =>
    obtain ⟨i, rest, rfl, hi, hr⟩ := List.map_eq_cons_iff.1 hs
    obtain ⟨site, source, tag, s, rfl, hk⟩ := Instruction.of_kind hi nofun
    obtain rfl : s = .breakLoop := Statement.of_kind hk
    obtain ⟨nodes, hu⟩ := ih hr
    exact ⟨_, .breakLoop hu⟩
  | continueLoop _ ih =>
    obtain ⟨i, rest, rfl, hi, hr⟩ := List.map_eq_cons_iff.1 hs
    obtain ⟨site, source, tag, s, rfl, hk⟩ := Instruction.of_kind hi nofun
    obtain rfl : s = .continueLoop := Statement.of_kind hk
    obtain ⟨nodes, hu⟩ := ih hr
    exact ⟨_, .continueLoop hu⟩
  | choice _ _ _ ihb ihc ihr =>
    obtain ⟨i, more, rfl, hi, hm⟩ := List.map_eq_cons_iff.1 hs
    obtain ⟨body, more, rfl, hb, hm⟩ := List.map_eq_append_iff.1 hm
    obtain ⟨clauses, rest, rfl, hc, hr⟩ := List.map_eq_append_iff.1 hm
    obtain ⟨site, source, tag, s, rfl, hk⟩ := Instruction.of_kind hi nofun
    obtain ⟨test, rfl⟩ := Statement.of_kind hk
    obtain ⟨⟨_, ub⟩, ⟨_, uc⟩, ⟨_, ur⟩⟩ := And.intro (ihb hb) (And.intro (ihc hc) (ihr hr))
    exact ⟨_, .choice ub uc ur⟩
  | @loop _ kind _ _ hl _ _ ihb ihr =>
    obtain ⟨i, more, rfl, hi, hm⟩ := List.map_eq_cons_iff.1 hs
    obtain ⟨body, more, rfl, hb, hm⟩ := List.map_eq_append_iff.1 hm
    obtain ⟨last, rest, rfl, he, hr⟩ := List.map_eq_cons_iff.1 hm
    have hne : kind ≠ .simple := by
      rintro rfl
      exact absurd hl Bool.false_ne_true
    obtain ⟨site, source, tag, s, rfl, hk⟩ := Instruction.of_kind hi hne
    obtain ⟨site', source', tag', s', rfl, hk'⟩ := Instruction.of_kind he nofun
    obtain rfl : s' = .endBlock := Statement.of_kind hk'
    obtain ⟨⟨_, ub⟩, ⟨_, ur⟩⟩ := And.intro (ihb hb) (ihr hr)
    rw [← hk] at hl
    cases s with
    | forIn => exact ⟨_, .forLoop ub ur⟩
    | whileDo => exact ⟨_, .whileLoop ub ur⟩
    | _ => exact absurd hl Bool.false_ne_true
  | close =>
    obtain ⟨i, rest, rfl, hi, hr⟩ := List.map_eq_cons_iff.1 hs
    obtain ⟨site, source, tag, s, rfl, hk⟩ := Instruction.of_kind hi nofun
    obtain rfl : s = .endBlock := Statement.of_kind hk
    rw [List.map_eq_nil_iff.1 hr]
    exact ⟨[], .close⟩
  | elif _ _ ihb ihc =>
    obtain ⟨i, more, rfl, hi, hm⟩ := List.map_eq_cons_iff.1 hs
    obtain ⟨body, clauses, rfl, hb, hc⟩ := List.map_eq_append_iff.1 hm
    obtain ⟨site, source, tag, s, rfl, hk⟩ := Instruction.of_kind hi nofun
    obtain ⟨test, rfl⟩ := Statement.of_kind hk
    obtain ⟨⟨_, ub⟩, ⟨_, uc⟩⟩ := And.intro (ihb hb) (ihc hc)
    exact ⟨_, .elif ub uc⟩
  | otherwise _ ihb =>
    obtain ⟨i, more, rfl, hi, hm⟩ := List.map_eq_cons_iff.1 hs
    obtain ⟨body, last, rfl, hb, he⟩ := List.map_eq_append_iff.1 hm
    obtain ⟨j, rest, rfl, hj, hr⟩ := List.map_eq_cons_iff.1 he
    obtain ⟨site, source, tag, s, rfl, hk⟩ := Instruction.of_kind hi nofun
    obtain rfl : s = .elseDo := Statement.of_kind hk
    obtain ⟨site', source', tag', s', rfl, hk'⟩ := Instruction.of_kind hj nofun
    obtain rfl : s' = .endBlock := Statement.of_kind hk'
    rw [List.map_eq_nil_iff.1 hr]
    obtain ⟨_, ub⟩ := ihb hb
    exact ⟨_, .otherwise ub .close⟩

/-! ### What is written out nests -/

namespace Nesting

/-- Adds finished nodes, one after the other. -/
def addAll (n : Nesting κ) (nodes : List (Node κ)) : Nesting κ :=
  nodes.foldl add n

@[simp]
theorem addAll_cons (n : Nesting κ) (node : Node κ) (nodes : List (Node κ)) :
    n.addAll (node :: nodes) = (n.add node).addAll nodes := rfl

/-- Nodes added outside of all blocks. -/
theorem addAll_outside (nodes root : List (Node κ)) :
    (⟨[], root⟩ : Nesting κ).addAll nodes = ⟨[], nodes.reverse ++ root⟩ := by
  induction nodes generalizing root with
  | nil => rfl
  | cons node nodes ih =>
    rw [addAll_cons, add, ih, List.reverse_cons, List.append_assoc]
    rfl

/-- Nodes added to the body of the innermost block. -/
theorem addAll_inside (f : Frame κ) (outer : List (Frame κ)) (root nodes : List (Node κ)) :
    (⟨f :: outer, root⟩ : Nesting κ).addAll nodes =
      ⟨{ f with body := nodes.reverse ++ f.body } :: outer, root⟩ := by
  induction nodes generalizing f with
  | nil => rfl
  | cons node nodes ih =>
    rw [addAll_cons, add, ih, List.reverse_cons, List.append_assoc]
    rfl

@[simp]
theorem inLoop_add (n : Nesting κ) (node : Node κ) : (n.add node).inLoop = n.inLoop := by
  obtain ⟨frames, root⟩ := n
  cases frames <;> rfl

theorem divide_choice {f : Frame κ} (ho : f.opener = .choice) (he : f.hasElse = false)
    (outer : List (Frame κ)) (root : List (Node κ)) (kind : StatementKind) (tag : String)
    (test : Option κ) : (⟨f :: outer, root⟩ : Nesting κ).divide kind tag test =
      .ok ⟨f.nextClause test tag :: outer, root⟩ := by
  simp [divide, ho, he]

theorem run_cons {n after : Nesting κ} {i : Instruction κ} (h : n.step i = .ok after)
    (rest : List (Instruction κ)) : n.run (i :: rest) = after.run rest := by
  rw [run, h]

end Nesting

/-- What a stretch does when it is nested as a part. Nodes are added where the stretch begins; it
may hold jumps only if that is in a loop. The clauses of a choice complete the block that is open
there. -/
def Part.Nests (inLoop : Bool) (seg : List (Instruction κ)) : Part κ → Prop
  | .nodes body => ∀ (n : Nesting κ) rest, (inLoop = true → n.inLoop = true) →
      n.run (seg ++ rest) = (n.addAll body).run rest
  | .clauses branches => ∀ (f : Frame κ) outer root rest, f.opener = .choice →
      (f.hasElse = true → branches = []) → (inLoop = true → anyLoop outer = true) →
      (⟨f :: outer, root⟩ : Nesting κ).run (seg ++ rest) =
        (Nesting.add ⟨outer, root⟩
          (.choice f.site (f.clauses.reverse ++ f.clause :: branches) f.tag)).run rest

/-- What stands alone adds one node. -/
theorem Part.Nests.cons {inLoop : Bool} {i : Instruction κ} {node : Node κ} {nodes : List (Node κ)}
    {seg : List (Instruction κ)} (h : (Part.nodes nodes).Nests inLoop seg)
    (hi : ∀ n : Nesting κ, (inLoop = true → n.inLoop = true) → n.step i = .ok (n.add node)) :
    (Part.nodes (node :: nodes)).Nests inLoop (i :: seg) := by
  intro n rest hl
  rw [List.cons_append, Nesting.run_cons (hi n hl), h _ rest (by rwa [Nesting.inLoop_add]),
    Nesting.addAll_cons]

/-- A block with one body: its header opens it, the end closes it. -/
theorem Part.Nests.loop {inLoop : Bool} {i : Instruction κ} {f : Frame κ} {node : Node κ}
    {body nodes : List (Node κ)} {seg rest : List (Instruction κ)}
    (hb : (Part.nodes body).Nests true seg) (hr : (Part.nodes nodes).Nests inLoop rest)
    (hi : ∀ n : Nesting κ, n.step i = .ok { n with frames := f :: n.frames })
    (ho : f.opener.kind.isLoop = true)
    (hc : Frame.close { f with body := body.reverse ++ f.body } = node)
    (site : Site) (source tag : String) :
    (Part.nodes (node :: nodes)).Nests inLoop
      (i :: (seg ++ .statement site source tag .endBlock :: rest)) := by
  intro n more hl
  have inside : (⟨f :: n.frames, n.root⟩ : Nesting κ).inLoop = true := by
    simp [Nesting.inLoop, ho]
  have closed : Nesting.step ⟨{ f with body := body.reverse ++ f.body } :: n.frames, n.root⟩
      (.statement site source tag .endBlock) = .ok (n.add node) := hc ▸ rfl
  rw [List.cons_append, Nesting.run_cons (hi n), List.append_assoc, hb _ _ fun _ => inside,
    Nesting.addAll_inside, List.cons_append, Nesting.run_cons closed,
    hr _ more (by rwa [Nesting.inLoop_add]), Nesting.addAll_cons]

/-- A clause of a choice: its body is read, and what is behind it completes the block. -/
theorem Part.Nests.clause {inLoop : Bool} {f : Frame κ} {outer : List (Frame κ)}
    {root body : List (Node κ)} {branches : List (Branch κ)} {seg arms : List (Instruction κ)}
    (hb : (Part.nodes body).Nests inLoop seg) (ha : (Part.clauses branches).Nests inLoop arms)
    (ho : f.opener = .choice) (he : f.hasElse = true → branches = [])
    (hl : inLoop = true → anyLoop outer = true) (rest : List (Instruction κ)) :
    (⟨f :: outer, root⟩ : Nesting κ).run (seg ++ (arms ++ rest)) =
      (Nesting.add ⟨outer, root⟩ (.choice f.site (f.clauses.reverse ++
        .mk f.clauseTest (f.body.reverse ++ body) f.clauseTag :: branches) f.tag)).run rest := by
  have inside : inLoop = true → (⟨f :: outer, root⟩ : Nesting κ).inLoop = true := fun h => by
    simp [Nesting.inLoop, hl h]
  have complete := ha { f with body := body.reverse ++ f.body } outer root rest ho he hl
  rw [Frame.clause, List.reverse_append, List.reverse_reverse] at complete
  rw [hb _ _ inside, Nesting.addAll_inside, complete]

theorem Unfolds.nests {inLoop : Bool} {part : Part κ} {seg : List (Instruction κ)}
    (h : Unfolds inLoop part seg) : part.Nests inLoop seg := by
  induction h with
  | nil => exact fun n rest _ => rfl
  | literal _ ih => exact ih.cons fun _ _ => rfl
  | output _ ih => exact ih.cons fun _ _ => rfl
  | simple _ ih => exact ih.cons fun _ _ => rfl
  | breakLoop _ ih =>
    exact ih.cons fun n hl => by rw [Nesting.step, Nesting.jump, if_pos (hl rfl)]
  | continueLoop _ ih =>
    exact ih.cons fun n hl => by rw [Nesting.step, Nesting.jump, if_pos (hl rfl)]
  | choice _ _ _ ihb iha ihn =>
    intro n more hl
    rw [List.cons_append, Nesting.run_cons rfl, List.append_assoc, List.append_assoc,
      Nesting.enter, ihb.clause iha rfl (fun h => absurd h Bool.false_ne_true) hl,
      ihn _ more (by rwa [Nesting.inLoop_add])]
    rfl
  | @forLoop _ _ _ isAsync _ _ _ _ _ _ _ _ _ _ _ _ ihb ihn =>
    refine ihb.loop ihn (fun _ => rfl) (by cases isAsync <;> rfl) ?_ _ _ _
    simp [Frame.close]
  | whileLoop _ _ ihb ihn =>
    refine ihb.loop ihn (fun _ => rfl) rfl ?_ _ _ _
    simp [Frame.close]
  | close =>
    intro f outer root rest ho _ _
    refine Nesting.run_cons ?_ rest
    simp [Nesting.step, Nesting.leave, Frame.close, ho]
  | @elif _ site source tag test _ _ _ _ _ _ ihb iha =>
    intro f outer root rest ho he hl
    have bare : f.hasElse = false := Bool.eq_false_iff.2 fun h => List.cons_ne_nil _ _ (he h)
    have divided : Nesting.step ⟨f :: outer, root⟩ (.statement site source tag (.elifDo test)) =
        .ok ⟨f.nextClause (some test) tag :: outer, root⟩ := Nesting.divide_choice ho bare ..
    rw [List.cons_append, Nesting.run_cons divided, List.append_assoc,
      ihb.clause (f := f.nextClause (some test) tag) iha ho
        (fun h => absurd h Bool.false_ne_true) hl]
    simp [Frame.nextClause]
  | @otherwise _ site source tag _ _ _ _ _ ihb iha =>
    intro f outer root rest ho he hl
    have bare : f.hasElse = false := Bool.eq_false_iff.2 fun h => List.cons_ne_nil _ _ (he h)
    have divided : Nesting.step ⟨f :: outer, root⟩ (.statement site source tag .elseDo) =
        .ok ⟨f.nextClause none tag :: outer, root⟩ := Nesting.divide_choice ho bare ..
    rw [List.cons_append, Nesting.run_cons divided, List.append_assoc,
      ihb.clause (f := f.nextClause none tag) iha ho (fun _ => rfl) hl]
    simp [Frame.nextClause]

/-! ### The programs that nest -/

/-- A program nests into a body just when it is that body written out. -/
theorem nest_eq_ok_iff {program : List (Instruction κ)} {body : List (Node κ)} :
    nest program = .ok body ↔ Unfolds false (.nodes body) program := by
  refine ⟨unfolds_nest, fun h => ?_⟩
  have nested := h.nests {} [] nofun
  rw [List.append_nil, Nesting.addAll_outside] at nested
  rw [nest, nested, Nesting.run, List.append_nil, List.reverse_reverse]

/-- A program nests just when the grammar of blocks derives the kinds of its instructions. -/
theorem exists_nest_iff {program : List (Instruction κ)} :
    (∃ body, nest program = .ok body) ↔
      Derives (.blocks false) (program.map Instruction.kind) := by
  constructor
  · rintro ⟨body, h⟩
    exact (unfolds_nest h).derives
  · intro h
    obtain ⟨body, hu⟩ := h.written rfl
    exact ⟨body, nest_eq_ok_iff.2 hu⟩

end StreamTemplate.Program
