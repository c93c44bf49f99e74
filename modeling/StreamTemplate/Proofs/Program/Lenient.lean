import StreamTemplate.Program.Compile
import StreamTemplate.Proofs.Tag.Lenient

/-! # Compiling for code that may wait

A template that compiles for code that may not wait compiles to the same program and the same body
for code that may. -/

namespace StreamTemplate.Program

open Tag

variable {κ : Type}

/-- All code of a statement has a property, and its loop, if it is one, is a plain one. -/
def Statement.Each (P : κ → Prop) : Statement κ → Prop
  | .simple code => P code
  | .ifDo test => P test
  | .elifDo test => P test
  | .whileDo test => P test
  | .forIn isAsync target iter => isAsync = false ∧ P target ∧ P iter
  | .elseDo | .endBlock | .breakLoop | .continueLoop => True

/-- All code of an instruction has a property, and its loop, if it is one, is a plain one. -/
def Instruction.Each (P : κ → Prop) : Instruction κ → Prop
  | .literal .. => True
  | .output _ _ _ code _ => P code
  | .statement _ _ _ s => s.Each P

/-- The options for code that may wait. -/
def Options.waiting (o : Options) : Options := { o with enableAsync := true }

section

variable {language : Tag.Language κ} {P : κ → Prop} {o : Options} {source : String}

/-- What succeeds for code that may not wait succeeds for code that may, with the same result; and
the result has a property. -/
def Carries {α : Type} (x y : Except CompileFault α) (Q : α → Prop) : Prop :=
  ∀ a, x = .ok a → y = .ok a ∧ Q a

theorem Carries.pure {α : Type} {a : α} {Q : α → Prop} (h : Q a) :
    Carries (pure a) (pure a) Q := by
  rintro _ ⟨⟩
  exact ⟨rfl, h⟩

theorem Carries.bind {α β : Type} {x y : Except CompileFault α} {f g : α → Except CompileFault β}
    {Q : α → Prop} {S : β → Prop} (h : Carries x y Q) (hf : ∀ a, Q a → Carries (f a) (g a) S) :
    Carries (x >>= f) (y >>= g) S := by
  intro b hb
  cases hx : x with
  | error => rw [hx] at hb; cases hb
  | ok a =>
    obtain ⟨hy, hq⟩ := h a hx
    rw [hx] at hb
    rw [hy]
    exact hf a hq b hb

theorem carries_located {x y : Except CodeFault κ} (h : Lenient P x y) (site : Site) :
    Carries (located o source site x) (located o.waiting source site y) P := by
  intro a ha
  cases hx : x with
  | error => rw [hx] at ha; cases ha
  | ok code =>
    rw [hx] at ha
    cases ha
    obtain ⟨hy, hp⟩ := h _ hx
    exact ⟨by rw [hy]; rfl, hp⟩

theorem carries_locatedPart {x y : Except CodeFault κ} (h : Lenient P x y) (site : Site) :
    Carries (locatedPart o source site x) (locatedPart o.waiting source site y) P := by
  intro a ha
  cases hx : x with
  | error fault =>
    rw [hx, locatedPart] at ha
    split at ha <;> cases ha
  | ok code =>
    rw [hx] at ha
    cases ha
    obtain ⟨hy, hp⟩ := h _ hx
    exact ⟨by rw [hy]; rfl, hp⟩

variable (hl : language.Lenient P) (ho : o.enableAsync = false)

include hl ho

/-- All instructions read so far have a property. -/
def ScanState.Each (P : κ → Prop) (s : ScanState κ) : Prop := ∀ i ∈ s.program, i.Each P

omit hl ho in
theorem ScanState.Each.emit {s : ScanState κ} (h : s.Each P) {i : Instruction κ} (hi : i.Each P) :
    (s.emit i).Each P :=
  List.forall_mem_cons.mpr ⟨hi, h⟩

omit hl ho in
theorem ScanState.Each.output {s : ScanState κ} (h : s.Each P) (site : Site) (text : String) :
    (s.output site text).Each P := by
  unfold ScanState.output
  dsimp only
  generalize (if s.trimming then String.ofList (Text.dropBreak text.toList) else text) = kept
  have hs : ScanState.Each P { s with trimming := false } := h
  by_cases he : kept = ""
  · rw [if_pos he]
    exact hs
  · rw [if_neg he]
    exact hs.emit (i := .literal site kept) trivial

theorem carries_addExpression {s : ScanState κ} (hs : s.Each P) (site : Site) (body : String)
    (escaped : Bool) : Carries (addExpression language o source s site body escaped)
      (addExpression language o.waiting source s site body escaped) (ScanState.Each P) := by
  unfold addExpression
  dsimp only
  split
  · exact .pure hs
  · refine .bind (Q := P) ?_ fun code hc => .pure (hs.emit hc)
    rw [ho]
    exact carries_located (hl.expression _) site

omit hl in
theorem carries_headerStatement {a b : Header κ} (h : Header.Lenient P a b) (site : Site)
    (isElif : Bool) : Carries (headerStatement o source site isElif a)
      (headerStatement o.waiting source site isElif b) (Statement.Each P) := by
  cases h with
  | ifDo h =>
    refine .bind (carries_locatedPart h site) fun test ht => .pure ?_
    cases isElif <;> exact ht
  | whileDo h => exact .bind (carries_locatedPart h site) fun test ht => .pure ht
  | @forIn isAsync target target' iter iter' ht hi =>
    cases isAsync with
    | true =>
      intro st hst
      simp only [headerStatement, ho, Bool.not_false, Bool.and_self, if_true] at hst
      cases hst
    | false =>
      have hi' (code : κ) (hc : P code) : Carries
          (locatedPart o source site iter >>= fun iter => pure (.forIn false code iter))
          (locatedPart o.waiting source site iter' >>= fun iter => pure (.forIn false code iter))
          (Statement.Each P) :=
        .bind (carries_locatedPart hi site) fun iter hi => .pure ⟨rfl, hc, hi⟩
      intro st hst
      cases hx : target with
      | error => rw [hx] at hst; cases hst
      | ok code =>
        obtain ⟨hy, hc⟩ := ht code hx
        rw [hx] at hst
        rw [hy]
        exact hi' code hc st hst

theorem header?_lenient (text : String) :
    Option.Rel (fun a b => a.1 = b.1 ∧ Header.Lenient P a.2 b.2) (header? language o text)
      (header? language o.waiting text) := by
  have mapped (isElif : Bool) {x y : Option (Header κ)} (h : Option.Rel (Header.Lenient P) x y) :
      Option.Rel (fun a b => a.1 = b.1 ∧ Header.Lenient P a.2 b.2) (x.map (isElif, ·))
        (y.map (isElif, ·)) := by
    cases h with
    | none => exact .none
    | some h => exact .some ⟨rfl, h⟩
  unfold header?
  rw [ho]
  split
  · exact .none
  · exact mapped true (hl.header _ _)
  · exact mapped false (hl.header _ _)

theorem carries_statementOf (site : Site) (text : String) :
    Carries (statementOf language o source site text)
      (statementOf language o.waiting source site text) (Statement.Each P) := by
  unfold statementOf
  split
  · exact .pure trivial
  · split
    · exact .pure trivial
    · split
      · exact .pure trivial
      · split
        · exact .pure trivial
        · have hh := header?_lenient hl ho text
          revert hh
          generalize header? language o text = x, header? language o.waiting text = y
          intro hh
          cases hh with
          | none =>
            rw [ho]
            exact .bind (carries_located (hl.statements _) site) fun code hc => .pure hc
          | some h =>
            obtain ⟨same, h⟩ := h
            dsimp only
            rw [same]
            exact carries_headerStatement ho h site _

theorem carries_addStatement {s : ScanState κ} (hs : s.Each P) (site : Site) (body : String) :
    Carries (addStatement language o source s site body)
      (addStatement language o.waiting source s site body) (ScanState.Each P) := by
  unfold addStatement
  dsimp only
  split
  · exact .pure hs
  · exact .bind (carries_statementOf hl ho site _) fun st hst => .pure (hs.emit hst)

theorem carries_scanToken {s : ScanState κ} (hs : s.Each P) (t : Markup.Token) :
    Carries (scanToken language o source s t) (scanToken language o.waiting source s t)
      (ScanState.Each P) := by
  have hlit (text : String) : (({ s with mode := .literal } : ScanState κ).emit
      (.literal ⟨t.line, t.col⟩ text)).Each P :=
    ScanState.Each.emit (s := { s with mode := .literal }) hs trivial
  unfold scanToken
  dsimp only
  split
  · exact .pure hs
  · split
    · exact .pure (hlit _)
    · exact .pure (hlit _)
    · split
      · exact .pure (hs.output _ _)
      · exact .pure (hs.output _ _)
      · exact carries_addStatement hl ho hs _ _
      · exact carries_addExpression hl ho hs _ _ _
      · exact carries_addExpression hl ho hs _ _ _
      · exact .pure hs
    · split
      · nofun
      · refine .pure ?_
        split
        · exact hs.output _ _
        · exact hs

theorem carries_scan {s : ScanState κ} (hs : s.Each P) (tokens : List Markup.Token) :
    Carries (tokens.foldlM (scanToken language o source) s)
      (tokens.foldlM (scanToken language o.waiting source) s) (ScanState.Each P) := by
  induction tokens generalizing s with
  | nil => exact .pure hs
  | cons t rest ih => exact .bind (carries_scanToken hl ho hs t) fun s hs => ih hs

/-- What compiles for code that may not wait compiles to the same program and the same body for code
that may. -/
theorem compile_waiting {c : Compiled κ} (hc : compile language o source = .ok c) :
    compile language o.waiting source = .ok { c with isAsync := true } ∧
      c.isAsync = false ∧ nest c.program = .ok c.body ∧ ∀ i ∈ c.program, i.Each P := by
  unfold compile at hc ⊢
  dsimp only at hc ⊢
  cases hu : Markup.firstUnclosed? (Markup.tokenize source) with
  | some =>
    rw [hu] at hc
    cases hc
  | none =>
    rw [hu] at hc
    have empty : ScanState.Each P ({} : ScanState κ) := nofun
    have scanned : Carries ((Markup.tokenize source).foldlM (scanToken language o source) {})
        ((Markup.tokenize source).foldlM (scanToken language o.waiting source) {})
        (ScanState.Each P) := carries_scan hl ho empty _
    dsimp only at hc ⊢
    cases hs : (Markup.tokenize source).foldlM (scanToken language o source) {} with
    | error =>
      rw [hs] at hc
      cases hc
    | ok s =>
      obtain ⟨hw, each⟩ := scanned s hs
      rw [hs] at hc
      rw [hw]
      simp only [bind, Except.bind] at hc ⊢
      cases hn : nest s.program.reverse with
      | error =>
        rw [hn] at hc
        cases hc
      | ok body =>
        rw [hn] at hc
        cases hc
        exact ⟨rfl, ho, hn, fun i hi => each i (List.mem_reverse.mp hi)⟩

end

end StreamTemplate.Program
