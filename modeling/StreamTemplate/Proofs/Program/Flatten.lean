import StreamTemplate.Proofs.Markup.Reading
import StreamTemplate.Proofs.Program.Grammar
import StreamTemplate.Proofs.Program.Pieces

/-!
# Block trees written out

A block tree holds everything of the program that it was nested from but two things: how the ends
were written and where, and where the clauses of a choice stood. `flattenNodes` writes a tree out
with one spelling for all ends and one place for all clauses, and gives back the program with these
replaced (`kept`).

A tree keeps the whole tag of a header, not the code in it, so that is read again from the tag
(`tagCode`). In a program that was compiled it is the code of the instruction
(`reread_of_compile`).
-/

namespace StreamTemplate.Program

open Markup

variable {κ : Type}

/-! ### Writing out -/

/-- The place that stands for one that a tree does not keep. -/
def nowhere : Site := ⟨0, 0⟩

/-- The end that stands for all ends. -/
def endTag : Instruction κ := .statement nowhere "end" "" .endBlock

/-- The characters of a statement tag without the delimiter that opens it. -/
def dropOpener : List Char → List Char
  | '<' :: '%' :: '_' :: rest => rest
  | '<' :: '%' :: rest => rest
  | rest => rest

/-- The code of a statement tag, from the whole tag. The delimiter that closes it has two
characters. -/
def tagCode (tag : String) : String :=
  statementText (String.ofList (dropOpener tag.toList).dropLast.dropLast)

/-- The statement of a tag with its code. -/
def tagged (site : Site) (tag : String) (s : Statement κ) : Instruction κ :=
  .statement site (tagCode tag) tag s

/-- The header of a clause: that of the whole choice, of which the place is known, or another. -/
def clauseHeader (first : Option Site) (test : Option κ) (tag : String) : Instruction κ :=
  match first, test with
  | some site, some test => tagged site tag (.ifDo test)
  | none, some test => tagged nowhere tag (.elifDo test)
  | _, none => tagged nowhere tag .elseDo

mutual

/-- A node written out. -/
def Node.flatten : Node κ → List (Instruction κ)
  | .literal site text => [.literal site text]
  | .output site escaped source code tag => [.output site escaped source code tag]
  | .simple site source code tag => [.statement site source tag (.simple code)]
  | .control site isBreak tag =>
    [tagged site tag (if isBreak then .breakLoop else .continueLoop)]
  | .choice site branches _ => flattenBranches (some site) branches ++ [endTag]
  | .forLoop site isAsync target iter body tag =>
    tagged site tag (.forIn isAsync target iter) :: (flattenNodes body ++ [endTag])
  | .whileLoop site test body tag =>
    tagged site tag (.whileDo test) :: (flattenNodes body ++ [endTag])

/-- Nodes in a row written out. -/
def flattenNodes : List (Node κ) → List (Instruction κ)
  | [] => []
  | node :: rest => node.flatten ++ flattenNodes rest

/-- A clause written out, with its header. -/
def Branch.flatten (first : Option Site) : Branch κ → List (Instruction κ)
  | .mk test body tag => clauseHeader first test tag :: flattenNodes body

/-- The clauses of a choice written out, the first one at the place of the choice if that is
given. -/
def flattenBranches (first : Option Site) : List (Branch κ) → List (Instruction κ)
  | [] => []
  | branch :: rest => branch.flatten first ++ flattenBranches none rest

end

/-- A part written out; behind the clauses that are left of a choice comes its end. -/
def Part.flatten : Part κ → List (Instruction κ)
  | .nodes body => flattenNodes body
  | .clauses branches => flattenBranches none branches ++ [endTag]

/-- What a tree keeps of an instruction: of an end, that it is there, and not where a clause
stands. -/
def Instruction.kept : Instruction κ → Instruction κ
  | .statement site source tag s =>
    match s with
    | .endBlock => endTag
    | .elifDo _ | .elseDo => .statement nowhere source tag s
    | _ => .statement site source tag s
  | i => i

/-- The instruction with the code of a header, a clause or a jump read again from the tag. -/
def Instruction.reread : Instruction κ → Instruction κ
  | .statement site source tag s =>
    match s with
    | .simple _ => .statement site source tag s
    | _ => tagged site tag s
  | i => i

theorem flatten_choice (site : Site) (branch : Branch κ) (branches : List (Branch κ))
    (tag : String) : (Node.choice site (branch :: branches) tag).flatten =
      branch.flatten (some site) ++ (Part.clauses branches).flatten := by
  rw [Node.flatten, flattenBranches, List.append_assoc, Part.flatten]

theorem flatten_clauses (branch : Branch κ) (branches : List (Branch κ)) :
    (Part.clauses (branch :: branches)).flatten =
      branch.flatten none ++ (Part.clauses branches).flatten := by
  rw [Part.flatten, flattenBranches, List.append_assoc, Part.flatten]

theorem flatten_nodes (node : Node κ) (nodes : List (Node κ)) :
    (Part.nodes (node :: nodes)).flatten = node.flatten ++ (Part.nodes nodes).flatten := by
  rw [Part.flatten, flattenNodes, Part.flatten]

/-- A stretch is what the part that it is nested into is written out as. -/
theorem Unfolds.flatten_eq {inLoop : Bool} {part : Part κ} {seg : List (Instruction κ)}
    (h : Unfolds inLoop part seg) : part.flatten = seg.map fun i => i.reread.kept := by
  induction h with
  | nil | close => rfl
  | literal _ ih | output _ ih | simple _ ih | breakLoop _ ih | continueLoop _ ih =>
    rw [flatten_nodes, ih]
    rfl
  | choice _ _ _ body clauses rest =>
    rw [flatten_nodes, flatten_choice, Branch.flatten, ← Part.flatten, body, clauses, rest]
    simp [Instruction.reread, Instruction.kept, clauseHeader, tagged]
  | forLoop _ _ body rest | whileLoop _ _ body rest =>
    rw [flatten_nodes, Node.flatten, ← Part.flatten, body, rest]
    simp [Instruction.reread, Instruction.kept, tagged]
  | elif _ _ body clauses | otherwise _ _ body clauses =>
    rw [flatten_clauses, Branch.flatten, ← Part.flatten, body, clauses]
    simp [Instruction.reread, Instruction.kept, clauseHeader, tagged]

/-! ### Compiled programs -/

theorem dropOpener_eval {cs : List Char} (plain : cs.head? ≠ some '_') :
    dropOpener ('<' :: '%' :: cs) = cs := by
  rw [dropOpener]
  rintro rest rfl
  exact plain rfl

/-- A statement tag holds its code. -/
theorem tagCode_eq {k : TokenKind} {body : String}
    (opens : k = .openEvalTrim ∨ k = .openEval ∧ body.toList.head? ≠ some '_') :
    tagCode (k.delimiter ++ body ++ "%>") = statementText body := by
  have inner : (dropOpener (k.delimiter ++ body ++ "%>").toList).dropLast.dropLast =
      body.toList := by
    rw [String.toList_append, String.toList_append, List.append_assoc]
    rcases opens with rfl | ⟨rfl, plain⟩
    · change (body.toList ++ ['%', '>']).dropLast.dropLast = body.toList
      simp
    · have behind : (body.toList ++ ['%', '>']).head? ≠ some '_' := by
        cases chars : body.toList with
        | nil => simp
        | cons c cs =>
          rw [chars] at plain
          exact plain
      change (dropOpener ('<' :: '%' :: (body.toList ++ ['%', '>']))).dropLast.dropLast =
        body.toList
      rw [dropOpener_eval behind]
      simp
  rw [tagCode, inner, String.ofList_toList]

theorem reread_statement {site : Site} {source tag : String} {statement : Statement κ}
    (code : tagCode tag = source) : Instruction.reread (.statement site source tag statement) =
      .statement site source tag statement := by
  cases statement with
  | simple => rfl
  | _ => simp only [Instruction.reread, tagged, code]

/-- The code of a statement that the scan has read is in its tag. -/
theorem Instruction.Reads.reread_eq {s : ScanState κ} {opener body : Token} {rest : List Token}
    {afterText : Bool} {cs : List Char} {i : Instruction κ}
    (read : i.Reads { s with mode := .ofOpen opener.kind, opener := some opener.value } body.value)
    (opens : opener.kind.isOpen = true) (h : Markup.Reads afterText cs (opener :: body :: rest)) :
    i.reread = i := by
  cases i with
  | literal => exact read.elim
  | output => rfl
  | statement site source tag statement =>
    obtain ⟨mode, code, whole⟩ := read
    obtain ⟨value, found⟩ := h.of_delimiter (ne_text (.inl opens))
    have tag_eq : tag = opener.kind.delimiter ++ body.value ++ "%>" := value ▸ whole
    refine reread_statement ?_
    rw [tag_eq, code]
    refine tagCode_eq ?_
    cases kind : opener.kind with
    | openEvalTrim => exact .inl rfl
    | openEval =>
      -- With a `_` behind it, the delimiter would be the longer one.
      refine .inr ⟨rfl, fun head => ?_⟩
      obtain ⟨more, chars⟩ := List.head?_eq_some_iff.1 head
      rw [textOf_cons, textOf_cons, value, kind, chars] at found
      cases found
    | openEscaped | openRaw | openComment =>
      rw [kind] at mode
      cases mode
    | _ =>
      rw [kind] at opens
      cases opens

/-- In a compiled program, the code of every statement is in its tag. -/
theorem reread_of_compile {language : Tag.Language κ} {o : Options} {source : String}
    {c : Compiled κ} (h : compile language o source = .ok c) {i : Instruction κ}
    (hi : i ∈ c.program) : i.reread = i := by
  obtain ⟨s, pieces, program⟩ := pieces_of_compile h
  rw [program, List.mem_reverse] at hi
  rcases pieces.origin hi with (initial | ⟨site, text, rfl⟩) | tag
  · cases initial
  · rfl
  · obtain ⟨before, opener, body, after, s₁, he, opens, read⟩ := tag
    obtain ⟨_, reads⟩ := (he ▸ reads_tokenize source).tail
    exact read.reread_eq opens reads

/-! ### Trees and programs -/

/-- Just the programs of the grammar of blocks nest. The tree written out is the program again, but
for what a tree does not keep and with the code of headers read from their tags; that makes no
difference in a program that was compiled. -/
theorem flattenNodes_nest :
    (∀ program : List (Instruction κ),
      (∃ body, nest program = .ok body) ↔
        Derives (.blocks false) (program.map Instruction.kind)) ∧
      (∀ (program : List (Instruction κ)) (body : List (Node κ)), nest program = .ok body →
        flattenNodes body = program.map fun i => i.reread.kept) ∧
      ∀ (language : Tag.Language κ) (o : Options) (source : String) (c : Compiled κ),
        compile language o source = .ok c →
          flattenNodes c.body = c.program.map Instruction.kept := by
  refine ⟨fun program => exists_nest_iff, fun program body h => ?_, fun language o source c h => ?_⟩
  · exact (unfolds_nest h).flatten_eq
  · obtain ⟨-, -, nested⟩ := of_compile h
    refine (unfolds_nest nested).flatten_eq.trans (List.map_congr_left fun i hi => ?_)
    rw [reread_of_compile h hi]

/-- A choice in a loop, with a jump. -/
theorem flattenNodes_choice_in_loop :
    ∃ c : Compiled Tag.Code,
      compile Tag.language {}
          "<% while x: %><%_ if y: %>a<% else: %><% break %><% endif %><% end %>" =
        .ok c ∧
      nest c.program = .ok c.body ∧
      Derives (.blocks false) (c.program.map Instruction.kind) ∧
      flattenNodes c.body = c.program.map (fun i => i.reread.kept) ∧
      flattenNodes c.body = c.program.map Instruction.kept := by
  cases compiled : compile Tag.language {}
      "<% while x: %><%_ if y: %>a<% else: %><% break %><% endif %><% end %>" with
  | error fault =>
    have succeeds : (compile Tag.language {}
        "<% while x: %><%_ if y: %>a<% else: %><% break %><% endif %><% end %>"
        ).toOption.isSome = true := by decide +kernel
    rw [compiled] at succeeds
    cases succeeds
  | ok c =>
    obtain ⟨grammar, whole, exactly⟩ := flattenNodes_nest (κ := Tag.Code)
    have nested : nest c.program = .ok c.body := (of_compile compiled).2.2
    exact ⟨c, rfl, nested, (grammar c.program).1 ⟨c.body, nested⟩, whole c.program c.body nested,
      exactly Tag.language {} _ c compiled⟩

end StreamTemplate.Program
