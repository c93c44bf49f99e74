import Mathlib.Data.List.Chain
import StreamTemplate.Proofs.Markup.Reading
import StreamTemplate.Proofs.Program.Pieces

/-!
# The literal text of a template

Which literal text a template that compiles is compiled to can be told from its tokens alone, each
with the tokens in front of it (`literals`). The scan keeps two things for that, the mode and
whether a line break is still to be removed, and both are functions of the tokens read so far
(`ScanState.After`); that is kept by every piece of the template (`Pieces.literals_eq`).

A close delimiter that trims removes a line break at the start of the next text, but quoted
delimiters in between are passed over, although they are output too (`trimsLater`). Where none
stands behind such a delimiter, the break is removed just from a text directly behind it
(`trimsNext`).
-/

namespace StreamTemplate.Program

open Markup

variable {κ : Type}

/-- Whether an instruction is literal text. -/
def Instruction.isLiteral : Instruction κ → Bool
  | .literal .. => true
  | _ => false

/-- Whether the tokens, the nearest first, end inside of a quotation: the last delimiter is a quoted
one. -/
def endsQuoted (before : List Token) : Bool :=
  (before.dropWhile fun t => t.kind = .text).head?.any (·.kind.isQuoted)

/-- Whether a delimiter that trims stands directly behind the tokens, the nearest first. -/
def trimsNext (before : List Token) : Bool :=
  before.head?.any (·.kind.trimsBreak)

/-- Whether a delimiter that trims stands behind the tokens, the nearest first, with nothing but
quoted delimiters behind it. -/
def trimsLater (before : List Token) : Bool :=
  trimsNext (before.dropWhile (·.kind.isQuoted))

/-- The literal text that a token is compiled to when it stands behind the given ones, the nearest
first. `trims` tells by these whether a text loses a line break. -/
def literalOf (trims : List Token → Bool) (before : List Token) (t : Token) :
    List (Instruction κ) :=
  if t.kind = .text then
    if before.head?.any (·.kind.isOpen) then [] else shown (trims before) t.site t.value
  else if t.kind.isQuoted then [.literal t.site t.kind.unquoted]
  else if t.kind.isClose && endsQuoted before then [.literal t.site t.value]
  else []

/-- The literal text that tokens are compiled to, in order. -/
def literals (trims : List Token → Bool) (before : List Token) :
    List Token → List (Instruction κ)
  | [] => []
  | t :: rest => literalOf trims before t ++ literals trims (t :: before) rest

/-- The state of the scan behind some tokens, the nearest first, where no tag is open. -/
structure ScanState.After (s : ScanState κ) (before : List Token) : Prop where
  mode : s.mode = if endsQuoted before then .literal else .outside
  trimming : s.trimming = trimsLater before
  closed : before.head?.any (·.kind.isOpen) = false

/-- The literal text in the program so far. -/
def ScanState.literal (s : ScanState κ) : List (Instruction κ) :=
  s.program.reverse.filter Instruction.isLiteral

/-! ### Close delimiters and line breaks -/

/-- A close delimiter does not begin with a line break. -/
theorem dropBreak_closer {k : TokenKind} (h : k.isClose = true) :
    Text.dropBreak k.delimiter.toList = k.delimiter.toList := by
  revert h
  cases k <;> decide

theorem shown_closer {t : Token} (kind : t.kind.isClose = true)
    (value : t.value = t.kind.delimiter) (trimming : Bool) :
    shown trimming t.site t.value = [(.literal t.site t.value : Instruction κ)] := by
  have some' : t.kind.delimiter ≠ "" := by
    revert kind
    cases t.kind <;> decide
  rw [shown, value, dropBreak_closer kind, String.ofList_toList, ite_self]
  exact if_neg some'

/-! ### What a token adds -/

section

variable {trims : List Token → Bool} {before : List Token} {t : Token}

theorem endsQuoted_text (kind : t.kind = .text) : endsQuoted (t :: before) = endsQuoted before := by
  rw [endsQuoted, List.dropWhile_cons_of_pos (by simp [kind]), endsQuoted]

theorem endsQuoted_delimiter (kind : t.kind ≠ .text) :
    endsQuoted (t :: before) = t.kind.isQuoted := by
  rw [endsQuoted, List.dropWhile_cons_of_neg (by simp [kind])]
  rfl

theorem endsQuoted_quoted (kind : t.kind.isQuoted = true) : endsQuoted (t :: before) = true := by
  rw [endsQuoted_delimiter (ne_text (.inr (.inr kind))), kind]

theorem endsQuoted_open (kind : t.kind.isOpen = true) : endsQuoted (t :: before) = false := by
  rw [endsQuoted_delimiter (ne_text (.inl kind)), not_isQuoted (.inl kind)]

theorem trimsLater_quoted (kind : t.kind.isQuoted = true) :
    trimsLater (t :: before) = trimsLater before := by
  rw [trimsLater, List.dropWhile_cons_of_pos (by exact kind), trimsLater]

theorem trimsLater_of_not_isQuoted (kind : t.kind.isQuoted = false) :
    trimsLater (t :: before) = t.kind.trimsBreak := by
  rw [trimsLater, List.dropWhile_cons_of_neg (by simp [kind])]
  rfl

theorem literalOf_text (kind : t.kind = .text) (free : before.head?.any (·.kind.isOpen) = false) :
    literalOf trims before t = (shown (trims before) t.site t.value : List (Instruction κ)) := by
  rw [literalOf, if_pos kind, free, if_neg Bool.false_ne_true]

theorem literalOf_body (kind : t.kind = .text) {opener : Token}
    (opens : opener.kind.isOpen = true) : literalOf trims (opener :: before) t = ([] : List (Instruction κ)) := by
  rw [literalOf, if_pos kind]
  exact if_pos opens

theorem literalOf_quoted (kind : t.kind.isQuoted = true) :
    literalOf trims before t = [(.literal t.site t.kind.unquoted : Instruction κ)] := by
  rw [literalOf, if_neg (ne_text (.inr (.inr kind))), if_pos kind]

theorem literalOf_open (kind : t.kind.isOpen = true) :
    literalOf trims before t = ([] : List (Instruction κ)) := by
  unfold literalOf
  revert kind
  cases t.kind <;> simp [TokenKind.isOpen, TokenKind.isQuoted, TokenKind.isClose]

theorem literalOf_close (kind : t.kind.isClose = true) :
    literalOf trims before t =
      if endsQuoted before then [(.literal t.site t.value : Instruction κ)] else [] := by
  unfold literalOf
  revert kind
  cases t.kind <;> simp [TokenKind.isQuoted, TokenKind.isClose]

end

/-! ### What a piece adds -/

section

variable {s : ScanState κ} {before : List Token} {t : Token}

theorem literal_output (s : ScanState κ) (site : Site) (text : String) :
    (s.output site text).literal = s.literal ++ shown s.trimming site text := by
  have only : (shown s.trimming site text : List (Instruction κ)).reverse.filter
      Instruction.isLiteral = shown s.trimming site text := by
    rcases shown_cases (κ := κ) s.trimming site text with h | ⟨kept, h⟩ <;> rw [h] <;> rfl
  rw [ScanState.literal, ScanState.literal, ScanState.output_eq, List.reverse_append,
    List.filter_append, only]

theorem literal_quote (s : ScanState κ) (t : Token) :
    (s.quote t).literal = s.literal ++ [.literal t.site t.kind.unquoted] := by
  simp [ScanState.literal, ScanState.quote, ScanState.emit, Instruction.isLiteral]

/-- What is read in a tag is no literal text. -/
theorem literal_read {s₁ : ScanState κ} {body : String} {program : List (Instruction κ)}
    (read : ∀ i ∈ program, i.Reads s₁ body) :
    ScanState.literal { s with program := program ++ s.program } = s.literal := by
  have none' : program.reverse.filter Instruction.isLiteral = [] := by
    refine List.filter_eq_nil_iff.2 fun i hi => ?_
    have reads := read i (List.mem_reverse.1 hi)
    cases i with
    | literal => exact reads.elim
    | output | statement => exact Bool.false_ne_true
  rw [ScanState.literal, List.reverse_append, List.filter_append, none', List.append_nil,
    ScanState.literal]

@[simp]
theorem literal_leave (s : ScanState κ) (k : TokenKind) : (s.leave k).literal = s.literal := rfl

namespace ScanState.After

theorem text (h : s.After before) (kind : t.kind = .text) :
    (s.output t.site t.value).After (t :: before) where
  mode := by rw [mode_output, endsQuoted_text kind, h.mode]
  trimming := by
    rw [output_eq, trimsLater_of_not_isQuoted (by rw [kind]; rfl), kind]
    rfl
  closed := by simp [kind, TokenKind.isOpen]

theorem quoted (h : s.After before) (kind : t.kind.isQuoted = true) :
    (s.quote t).After (t :: before) where
  mode := by
    rw [endsQuoted_quoted kind]
    rfl
  trimming := by
    rw [trimsLater_quoted kind]
    exact h.trimming
  closed := by simpa using not_isOpen (.inr (.inr kind))

theorem leave (s : ScanState κ) (before : List Token) (kind : t.kind.isClose = true) :
    (s.leave t.kind).After (t :: before) := by
  have plain := not_isQuoted (.inr kind)
  refine ⟨?_, ?_, ?_⟩
  · rw [endsQuoted_delimiter (ne_text (.inr (.inl kind))), plain]
    rfl
  · rw [trimsLater_of_not_isQuoted plain]
    rfl
  · simpa using not_isOpen (.inr (.inl kind))

end ScanState.After

/-- The pieces of a template add the literal text of their tokens. -/
theorem Pieces.literals_eq {s' : ScanState κ} {ts : List Token} (h : Pieces s ts s')
    (values : ∀ t ∈ ts, t.kind.isClose = true → t.value = t.kind.delimiter)
    (behind : s.After before) : s'.literal = s.literal ++ literals trimsLater before ts := by
  induction h generalizing before with
  | done => rw [literals, List.append_nil]
  | text kind free _ ih =>
    obtain ⟨-, values⟩ := List.forall_mem_cons.1 values
    rw [ih values (behind.text kind), literal_output, literals, literalOf_text kind behind.closed,
      behind.trimming, List.append_assoc]
  | quoted kind _ ih =>
    obtain ⟨-, values⟩ := List.forall_mem_cons.1 values
    rw [ih values (behind.quoted kind), literal_quote, literals, literalOf_quoted kind,
      List.append_assoc]
  | @endQuote _ t _ _ kind quoted _ ih =>
    obtain ⟨value, values⟩ := List.forall_mem_cons.1 values
    have inside : endsQuoted before = true := by
      cases hb : endsQuoted before with
      | true => rfl
      | false =>
        rw [behind.mode, hb] at quoted
        cases quoted
    rw [ih values (.leave _ _ kind), literal_leave, literal_output, shown_closer kind (value kind),
      literals, literalOf_close kind, if_pos inside, List.append_assoc]
  | tag opens kind closes read _ ih =>
    have outside : endsQuoted (_ :: _ :: before) = false :=
      (endsQuoted_text kind).trans (endsQuoted_open opens)
    rw [ih (fun t ht => values t (by simp [ht])) (.leave _ _ closes), literal_leave,
      literal_read read, literals, literals, literals, literalOf_open opens,
      literalOf_body kind opens, literalOf_close closes, outside]
    rfl
  | @lostTag _ opener middle closer _ _ opens kind closes _ ih =>
    have value : closer.value = closer.kind.delimiter := values closer (by simp) closes
    rw [ih (fun t ht => values t (by simp [ht])) (.leave _ (middle :: opener :: before) closes),
      literal_leave, literal_output, literal_quote, shown_closer closes value, literals, literals,
      literals, literalOf_open opens, literalOf_quoted kind, literalOf_close closes,
      if_pos (endsQuoted_quoted kind)]
    simp

end

/-! ### Templates -/

/-- A close delimiter that trims has no quoted delimiter directly behind it. -/
def Apart (t u : Token) : Prop :=
  t.kind.trimsBreak = true → u.kind.isQuoted = false

instance : DecidableRel Apart := fun _ _ => inferInstanceAs (Decidable (_ → _))

/-- Where no quoted delimiter stands behind one that trims, none is passed over. -/
theorem trimsLater_eq {before : List Token} (h : before.IsChain fun u t => Apart t u) :
    trimsLater before = trimsNext before := by
  induction before with
  | nil => rfl
  | cons u before ih =>
    cases kind : u.kind.isQuoted with
    | false =>
      rw [trimsLater_of_not_isQuoted kind]
      rfl
    | true =>
      have keeps : u.kind.trimsBreak = false := by
        revert kind
        cases u.kind <;> decide
      rw [trimsLater_quoted kind, ih h.tail, trimsNext, trimsNext, List.head?_cons, Option.any_some,
        keeps]
      cases before with
      | nil => rfl
      | cons t before =>
        have apart : Apart t u := h.rel
        refine Bool.eq_false_iff.2 fun trims => ?_
        exact Bool.false_ne_true ((apart trims).symm.trans kind)

theorem literals_eq_of_isChain {before ts : List Token}
    (h : (before.reverse ++ ts).IsChain Apart) :
    (literals trimsLater before ts : List (Instruction κ)) = literals trimsNext before ts := by
  induction ts generalizing before with
  | nil => rfl
  | cons t ts ih =>
    have same := trimsLater_eq (List.isChain_reverse.1 h.left_of_append)
    rw [literals, literals, ih (by simpa using h), literalOf, literalOf, same]

theorem value_eq_delimiter {source : String} {t : Token} (ht : t ∈ tokenize source)
    (kind : t.kind ≠ .text) : t.value = t.kind.delimiter := by
  obtain ⟨before, after, he⟩ := List.append_of_mem ht
  have read := reads_tokenize source
  rw [he] at read
  obtain ⟨_, read⟩ := read.tail
  exact (read.of_delimiter kind).1

/-- The literal text that a template is compiled to is that of its tokens, in their order. A line
break is removed from a text behind a close delimiter that trims: directly behind it, or with quoted
delimiters in between, if there are any. -/
theorem filter_isLiteral_compile {language : Tag.Language κ} {o : Options} {source : String}
    {c : Compiled κ} (h : compile language o source = .ok c) :
    c.program.filter Instruction.isLiteral = literals trimsLater [] (tokenize source) ∧
      ((tokenize source).IsChain Apart →
        c.program.filter Instruction.isLiteral = literals trimsNext [] (tokenize source)) := by
  obtain ⟨s, pieces, program⟩ := pieces_of_compile h
  have values : ∀ t ∈ tokenize source, t.kind.isClose = true → t.value = t.kind.delimiter :=
    fun t ht kind => value_eq_delimiter ht (ne_text (.inr (.inl kind)))
  have behind : ScanState.After ({} : ScanState κ) [] := ⟨rfl, rfl, rfl⟩
  have all : c.program.filter Instruction.isLiteral = literals trimsLater [] (tokenize source) := by
    rw [program]
    exact pieces.literals_eq values behind
  exact ⟨all, fun apart => all.trans (literals_eq_of_isChain apart)⟩

/-- Behind a comment that trims, a line break is removed; behind a quoted delimiter none is. -/
theorem literals_behind_comment :
    ∃ c : Compiled Tag.Code, compile Tag.language {} "<%# -%>\nc<%%\nd %>" = .ok c ∧
      (tokenize "<%# -%>\nc<%%\nd %>").IsChain Apart ∧
      c.program.filter Instruction.isLiteral =
        literals trimsLater [] (tokenize "<%# -%>\nc<%%\nd %>") ∧
      c.program.filter Instruction.isLiteral =
        literals trimsNext [] (tokenize "<%# -%>\nc<%%\nd %>") ∧
      c.program.filter Instruction.isLiteral =
        [.literal ⟨1, 7⟩ "c", .literal ⟨2, 1⟩ "<%", .literal ⟨2, 4⟩ "\nd ",
          .literal ⟨3, 2⟩ "%>"] := by
  have compiled : compile Tag.language {} "<%# -%>\nc<%%\nd %>" =
      .ok ⟨[.literal ⟨1, 7⟩ "c", .literal ⟨2, 1⟩ "<%", .literal ⟨2, 4⟩ "\nd ",
          .literal ⟨3, 2⟩ "%>"],
        [.literal ⟨1, 7⟩ "c", .literal ⟨2, 1⟩ "<%", .literal ⟨2, 4⟩ "\nd ",
          .literal ⟨3, 2⟩ "%>"], false⟩ := by cbv
  have apart : (tokenize "<%# -%>\nc<%%\nd %>").IsChain Apart := by decide +kernel
  obtain ⟨later, next⟩ := filter_isLiteral_compile compiled
  exact ⟨_, compiled, apart, later, next apart, rfl⟩

/-- The quoted delimiter is passed over: the break behind it is removed. -/
example : compile Tag.language {} "<%# -%><%%\na" =
    .ok ⟨[.literal ⟨1, 7⟩ "<%", .literal ⟨1, 10⟩ "a"],
      [.literal ⟨1, 7⟩ "<%", .literal ⟨1, 10⟩ "a"], false⟩ := by cbv

end StreamTemplate.Program
