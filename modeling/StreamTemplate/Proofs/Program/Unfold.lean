import StreamTemplate.Program.Block

/-! # Block trees and their stretches of a program

The tree that `nest` builds is related to the flat list it was read from: each node stands for one
instruction or for the stretch from its header to its end. -/

namespace StreamTemplate.Program

variable {κ : Type}

/-- What a stretch of a program stands for: nodes in a row, or the clauses that a choice still has
to try, to its end. -/
inductive Part (κ : Type) where
  | nodes (nodes : List (Node κ))
  | clauses (branches : List (Branch κ))

/-- `Unfolds inLoop part seg`: the stretch `seg` is `part` written out, inside of a loop or not. -/
inductive Unfolds : Bool → Part κ → List (Instruction κ) → Prop
  | nil {inLoop} : Unfolds inLoop (.nodes []) []
  | literal {inLoop site text nodes seg} : Unfolds inLoop (.nodes nodes) seg →
      Unfolds inLoop (.nodes (.literal site text :: nodes)) (.literal site text :: seg)
  | output {inLoop site escaped source code tag nodes seg} : Unfolds inLoop (.nodes nodes) seg →
      Unfolds inLoop (.nodes (.output site escaped source code tag :: nodes))
        (.output site escaped source code tag :: seg)
  | simple {inLoop site source code tag nodes seg} : Unfolds inLoop (.nodes nodes) seg →
      Unfolds inLoop (.nodes (.simple site source code tag :: nodes))
        (.statement site source tag (.simple code) :: seg)
  | breakLoop {site source tag nodes seg} : Unfolds true (.nodes nodes) seg →
      Unfolds true (.nodes (.control site true tag :: nodes))
        (.statement site source tag .breakLoop :: seg)
  | continueLoop {site source tag nodes seg} : Unfolds true (.nodes nodes) seg →
      Unfolds true (.nodes (.control site false tag :: nodes))
        (.statement site source tag .continueLoop :: seg)
  | choice {inLoop site source tag test body seg branches arms nodes rest} :
      Unfolds inLoop (.nodes body) seg → Unfolds inLoop (.clauses branches) arms →
      Unfolds inLoop (.nodes nodes) rest →
      Unfolds inLoop (.nodes (.choice site (.mk (some test) body tag :: branches) tag :: nodes))
        (.statement site source tag (.ifDo test) :: (seg ++ (arms ++ rest)))
  | forLoop {inLoop site source isAsync target iter body tag seg end' source' tag' nodes rest} :
      Unfolds true (.nodes body) seg → Unfolds inLoop (.nodes nodes) rest →
      Unfolds inLoop (.nodes (.forLoop site isAsync target iter body tag :: nodes))
        (.statement site source tag (.forIn isAsync target iter) ::
          (seg ++ .statement end' source' tag' .endBlock :: rest))
  | whileLoop {inLoop site source test body tag seg end' source' tag' nodes rest} :
      Unfolds true (.nodes body) seg → Unfolds inLoop (.nodes nodes) rest →
      Unfolds inLoop (.nodes (.whileLoop site test body tag :: nodes))
        (.statement site source tag (.whileDo test) ::
          (seg ++ .statement end' source' tag' .endBlock :: rest))
  | close {inLoop site source tag} :
      Unfolds inLoop (.clauses []) [.statement site source tag .endBlock]
  | elif {inLoop site source tag test body seg branches arms} :
      Unfolds inLoop (.nodes body) seg → Unfolds inLoop (.clauses branches) arms →
      Unfolds inLoop (.clauses (.mk (some test) body tag :: branches))
        (.statement site source tag (.elifDo test) :: (seg ++ arms))
  | otherwise {inLoop site source tag body seg arms} :
      Unfolds inLoop (.nodes body) seg → Unfolds inLoop (.clauses []) arms →
      Unfolds inLoop (.clauses [.mk none body tag])
        (.statement site source tag .elseDo :: (seg ++ arms))

/-- Nodes in a row stand for their stretches in a row. -/
theorem Unfolds.append {inLoop : Bool} {part : Part κ} {s t : List (Instruction κ)}
    {nodes more : List (Node κ)} (h : Unfolds inLoop part s) (e : part = .nodes nodes)
    (g : Unfolds inLoop (.nodes more) t) : Unfolds inLoop (.nodes (nodes ++ more)) (s ++ t) := by
  induction h generalizing nodes with
  | nil =>
    cases e
    exact g
  | literal _ ih =>
    cases e
    exact .literal (ih rfl g)
  | output _ ih =>
    cases e
    exact .output (ih rfl g)
  | simple _ ih =>
    cases e
    exact .simple (ih rfl g)
  | breakLoop _ ih =>
    cases e
    exact .breakLoop (ih rfl g)
  | continueLoop _ ih =>
    cases e
    exact .continueLoop (ih rfl g)
  | choice body arms _ _ _ ih =>
    cases e
    simpa only [List.cons_append, List.append_assoc] using .choice body arms (ih rfl g)
  | forLoop body _ _ ih =>
    cases e
    simpa only [List.cons_append, List.append_assoc] using .forLoop body (ih rfl g)
  | whileLoop body _ _ ih =>
    cases e
    simpa only [List.cons_append, List.append_assoc] using .whileLoop body (ih rfl g)
  | close | elif | otherwise => cases e

/-! ### Reading a program -/

/-- Whether one of some open blocks is a loop. -/
abbrev anyLoop (frames : List (Frame κ)) : Bool := frames.any (·.opener.kind.isLoop)

/-- `f.Opens inLoop head`: the stretch `head` leads from the header of an open block to the clause
being read. It is told by what the block will stand for when that clause and those to come are
read. -/
def Frame.Opens (f : Frame κ) (inLoop : Bool) (head : List (Instruction κ)) : Prop :=
  match f.opener with
  | .choice => ∀ {body seg branches arms nodes rest}, Unfolds inLoop (.nodes body) seg →
      Unfolds inLoop (.clauses branches) arms → (f.hasElse = true → branches = []) →
      Unfolds inLoop (.nodes nodes) rest →
      Unfolds inLoop (.nodes (.choice f.site
        (f.clauses.reverse ++ .mk f.clauseTest body f.clauseTag :: branches) f.tag :: nodes))
        (head ++ (seg ++ (arms ++ rest)))
  | .forLoop isAsync target iter =>
    ∃ source, head = [.statement f.site source f.tag (.forIn isAsync target iter)]
  | .whileLoop test => ∃ source, head = [.statement f.site source f.tag (.whileDo test)]

/-- What was read so far is written out in the finished nodes and the open blocks. -/
def Reads (root : List (Node κ)) : List (Frame κ) → List (Instruction κ) → Prop
  | [], done => Unfolds false (.nodes root.reverse) done
  | f :: outer, done => ∃ before head seg, Reads root outer before ∧
      f.Opens (anyLoop outer) head ∧
      Unfolds (anyLoop (f :: outer)) (.nodes f.body.reverse) seg ∧ done = before ++ (head ++ seg)

/-- A node is added to the innermost block. -/
theorem Reads.add {n : Nesting κ} {done seg : List (Instruction κ)} {node : Node κ}
    (h : Reads n.root n.frames done) (g : Unfolds (anyLoop n.frames) (.nodes [node]) seg) :
    Reads (n.add node).root (n.add node).frames (done ++ seg) := by
  obtain ⟨frames, root⟩ := n
  cases frames with
  | nil =>
    simp only [Nesting.add, Reads, List.reverse_cons]
    exact Unfolds.append h rfl g
  | cons f outer =>
    obtain ⟨before, head, s, hb, ho, hs, rfl⟩ := h
    refine ⟨before, head, s ++ seg, hb, ho, ?_, by simp only [List.append_assoc]⟩
    change Unfolds (anyLoop (f :: outer)) (.nodes (node :: f.body).reverse) (s ++ seg)
    rw [List.reverse_cons]
    exact Unfolds.append hs rfl g

/-- A block is opened. -/
theorem Reads.enter {n : Nesting κ} {done : List (Instruction κ)} {site : Site} {tag : String}
    {opener : Opener κ} {test : Option κ} {i : Instruction κ} (h : Reads n.root n.frames done)
    (ho : Frame.Opens { site, tag, opener, clauseTag := tag, clauseTest := test }
      (anyLoop n.frames) [i]) :
    Reads (n.enter site tag opener test).root (n.enter site tag opener test).frames
      (done ++ [i]) :=
  ⟨done, [i], [], h, ho, .nil, by simp only [List.append_nil]⟩

/-- A new clause of a choice follows on the clause that was read. -/
theorem Frame.Opens.next {f : Frame κ} {inLoop : Bool} {head seg : List (Instruction κ)}
    {i : Instruction κ} {test : Option κ} {tag : String} (h : f.Opens inLoop head)
    (hf : f.opener = .choice) (he : f.hasElse = false)
    (hs : Unfolds inLoop (.nodes f.body.reverse) seg)
    (hi : ∀ {body s branches arms}, Unfolds inLoop (.nodes body) s →
      Unfolds inLoop (.clauses branches) arms → (test.isNone = true → branches = []) →
      Unfolds inLoop (.clauses (.mk test body tag :: branches)) (i :: (s ++ arms))) :
    (f.nextClause test tag).Opens inLoop (head ++ (seg ++ [i])) := by
  simp only [Frame.Opens, hf] at h
  simp only [Frame.Opens, Frame.nextClause, hf]
  intro body s branches arms nodes rest hb ha hn hr
  have := h hs (hi hb ha hn) (by simp only [he, Bool.false_eq_true, false_imp_iff]) hr
  simpa [Frame.clause] using this

/-- Another clause of the innermost block is started. -/
theorem Reads.divide {n after : Nesting κ} {done : List (Instruction κ)} {kind : StatementKind}
    {tag : String} {test : Option κ} {i : Instruction κ} (h : Reads n.root n.frames done)
    (ha : n.divide kind tag test = .ok after)
    (hi : ∀ {inLoop body s branches arms}, Unfolds inLoop (.nodes body) s →
      Unfolds inLoop (.clauses branches) arms → (test.isNone = true → branches = []) →
      Unfolds inLoop (.clauses (.mk test body tag :: branches)) (i :: (s ++ arms))) :
    Reads after.root after.frames (done ++ [i]) := by
  obtain ⟨frames, root⟩ := n
  cases frames with
  | nil => cases ha
  | cons f outer =>
    obtain ⟨before, head, seg, hb, ho, hs, rfl⟩ := h
    simp only [Nesting.divide] at ha
    split at ha
    · rename_i hf
      split at ha
      · cases ha
      · rename_i he
        cases ha
        have hs' : Unfolds (anyLoop outer) (.nodes f.body.reverse) seg := by
          simpa [anyLoop, hf, Opener.kind, StatementKind.isLoop] using hs
        refine ⟨before, head ++ (seg ++ [i]), [], hb, ?_, .nil, ?_⟩
        · exact ho.next hf (Bool.eq_false_iff.mpr he) hs' hi
        · simp only [List.append_assoc, List.append_nil]
    · cases ha

/-- A jump is added, if there is a loop to jump in. -/
theorem Reads.jump {n after : Nesting κ} {done : List (Instruction κ)} {site : Site}
    {isBreak : Bool} {tag : String} {i : Instruction κ} (h : Reads n.root n.frames done)
    (ha : n.jump site isBreak tag = .ok after)
    (hi : anyLoop n.frames = true →
      Unfolds (anyLoop n.frames) (.nodes [.control site isBreak tag]) [i]) :
    Reads after.root after.frames (done ++ [i]) := by
  rw [Nesting.jump] at ha
  split at ha
  · rename_i hl
    cases ha
    exact h.add (hi hl)
  · cases ha

/-- A block is closed. -/
theorem Frame.Opens.close {f : Frame κ} {inLoop : Bool} {head seg : List (Instruction κ)}
    (h : f.Opens inLoop head)
    (hs : Unfolds (f.opener.kind.isLoop || inLoop) (.nodes f.body.reverse) seg)
    (site : Site) (source tag : String) :
    Unfolds inLoop (.nodes [f.close])
      (head ++ (seg ++ [.statement site source tag .endBlock])) := by
  cases ho : f.opener with
  | choice =>
    simp only [Frame.Opens, ho] at h
    simp only [ho, Opener.kind, StatementKind.isLoop, Bool.false_or] at hs
    simpa [Frame.close, ho, Frame.clause] using h hs .close (fun _ => rfl) .nil
  | forLoop isAsync target iter =>
    simp only [Frame.Opens, ho] at h
    obtain ⟨source, rfl⟩ := h
    have hl : f.opener.kind.isLoop = true := by
      cases isAsync <;> simp only [ho, Opener.kind, StatementKind.isLoop]
    rw [hl, Bool.true_or] at hs
    simpa [Frame.close, ho] using Unfolds.forLoop hs .nil
  | whileLoop test =>
    simp only [Frame.Opens, ho] at h
    obtain ⟨source, rfl⟩ := h
    simp only [ho, Opener.kind, StatementKind.isLoop, Bool.true_or] at hs
    simpa [Frame.close, ho] using Unfolds.whileLoop hs .nil

/-- One instruction is taken in. -/
theorem Reads.step {n after : Nesting κ} {done : List (Instruction κ)} {i : Instruction κ}
    (h : Reads n.root n.frames done) (hi : n.step i = .ok after) :
    Reads after.root after.frames (done ++ [i]) := by
  cases i with
  | literal site text =>
    cases hi
    exact h.add (.literal .nil)
  | output site escaped source code tag =>
    cases hi
    exact h.add (.output .nil)
  | statement site source tag s =>
    cases s with
    | simple code =>
      cases hi
      exact h.add (.simple .nil)
    | ifDo test =>
      cases hi
      refine h.enter (i := .statement site source tag (.ifDo test)) ?_
      intro body s branches arms nodes rest hb ha _ hr
      change Unfolds _ _ (.statement site source tag (.ifDo test) :: (s ++ (arms ++ rest)))
      exact .choice hb ha hr
    | forIn isAsync target iter =>
      cases hi
      exact h.enter ⟨source, rfl⟩
    | whileDo test =>
      cases hi
      exact h.enter ⟨source, rfl⟩
    | elifDo test => exact h.divide hi fun hb ha _ => .elif hb ha
    | elseDo =>
      refine h.divide hi fun hb ha hn => ?_
      cases hn rfl
      exact .otherwise hb ha
    | endBlock =>
      obtain ⟨frames, root⟩ := n
      cases frames with
      | nil => cases hi
      | cons f outer =>
        cases hi
        obtain ⟨before, head, seg, hb, ho, hs, rfl⟩ := h
        have := Reads.add (n := ⟨outer, root⟩) hb (ho.close hs site source tag)
        simpa only [List.append_assoc] using this
    | breakLoop => exact h.jump hi fun hl => hl ▸ .breakLoop .nil
    | continueLoop => exact h.jump hi fun hl => hl ▸ .continueLoop .nil

/-- A program that nests into a body is that body written out. -/
theorem Reads.run {program : List (Instruction κ)} {n : Nesting κ} {done : List (Instruction κ)}
    {body : List (Node κ)} (h : Reads n.root n.frames done) (hr : n.run program = .ok body) :
    Unfolds false (.nodes body) (done ++ program) := by
  induction program generalizing n done with
  | nil =>
    obtain ⟨frames, root⟩ := n
    cases frames with
    | nil =>
      cases hr
      rw [List.append_nil]
      exact h
    | cons f outer => cases hr
  | cons i rest ih =>
    rw [Nesting.run] at hr
    split at hr
    · rename_i after hi
      rw [List.append_cons]
      exact ih (h.step hi) hr
    · cases hr

/-- The block tree of a program stands for all of it. -/
theorem unfolds_nest {program : List (Instruction κ)} {body : List (Node κ)}
    (h : nest program = .ok body) : Unfolds false (.nodes body) program := by
  have read : Reads ({} : Nesting κ).root ({} : Nesting κ).frames [] := .nil
  exact read.run h

end StreamTemplate.Program
