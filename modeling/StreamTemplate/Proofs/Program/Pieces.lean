import StreamTemplate.Program.Compile

/-!
# The pieces of a template

Whether the tokens of a template are accepted is decided in two places: the check that each open
delimiter has a close delimiter two tokens further on, and the scan, which knows what the last
delimiter has begun. Together they leave few ways to go on (`Pieces`): text, a quoted delimiter, the
close delimiter that ends a quotation, and whole tags. `pieces_of_compile` takes a template that
compiles apart into such pieces, with the state of the scan between them, so that what holds of
every template is proved piece by piece.

A tag is an open delimiter, its text and a close delimiter, with one exception: the check does not
look at the token in the middle, and a quoted delimiter passes there. The tag is then lost, and the
close delimiter ends the quotation (`Pieces.lostTag`).
-/

namespace StreamTemplate

namespace Markup

/-- The delimiters that stand for the characters of a delimiter. -/
def TokenKind.isQuoted : TokenKind → Bool
  | .openLiteral | .closeLiteral => true
  | _ => false

/-- The characters that a quoted delimiter stands for. -/
def TokenKind.unquoted : TokenKind → String
  | .openLiteral => "<%"
  | .closeLiteral => "%>"
  | _ => ""

theorem ne_text {k : TokenKind} (h : k.isOpen = true ∨ k.isClose = true ∨ k.isQuoted = true) :
    k ≠ .text := by
  rintro rfl
  revert h
  decide

theorem not_isOpen {k : TokenKind} (h : k = .text ∨ k.isClose = true ∨ k.isQuoted = true) :
    k.isOpen = false := by
  revert h
  cases k <;> decide

theorem not_isQuoted {k : TokenKind} (h : k.isOpen = true ∨ k.isClose = true) :
    k.isQuoted = false := by
  revert h
  cases k <;> decide

/-- What the check for close delimiters says of an open one. -/
theorem exists_close_of_firstUnclosed? {t : Token} {ts : List Token}
    (h : firstUnclosed? (t :: ts) = none) (ht : t.kind.isOpen = true) :
    ∃ middle close rest, ts = middle :: close :: rest ∧ close.kind.isClose = true := by
  rw [firstUnclosed?, ht] at h
  rcases ts with _ | ⟨middle, _ | ⟨close, rest⟩⟩
  · simp at h
  · simp at h
  · refine ⟨middle, close, rest, rfl, ?_⟩
    cases hc : close.kind.isClose with
    | true => rfl
    | false => simp [hc] at h

theorem firstUnclosed?_tail {t : Token} {ts : List Token} (h : firstUnclosed? (t :: ts) = none) :
    firstUnclosed? ts = none := by
  rw [firstUnclosed?] at h
  split at h
  · cases h
  · exact h

end Markup

open Markup

/-- Where a token stands. -/
abbrev Markup.Token.site (t : Token) : Program.Site := ⟨t.line, t.col⟩

namespace Program

variable {κ : Type}

/-- Whether the text that comes next is the body of a tag. -/
def Mode.inTag : Mode → Bool
  | .outside | .literal => false
  | .eval | .escaped | .raw | .comment => true

theorem Mode.inTag_ofOpen (k : TokenKind) : (Mode.ofOpen k).inTag = true := by
  cases k <;> rfl

/-- The state behind a close delimiter. -/
def ScanState.leave (s : ScanState κ) (closer : TokenKind) : ScanState κ :=
  { s with mode := .outside, opener := none, trimming := closer.trimsBreak }

/-- The instruction that outputs text, if anything is left of the text. -/
def shown (trimming : Bool) (site : Site) (text : String) : List (Instruction κ) :=
  let kept := if trimming then String.ofList (Text.dropBreak text.toList) else text
  if kept = "" then [] else [.literal site kept]

theorem shown_cases (trimming : Bool) (site : Site) (text : String) :
    (shown trimming site text : List (Instruction κ)) = [] ∨
      ∃ kept, (shown trimming site text : List (Instruction κ)) = [.literal site kept] := by
  unfold shown
  generalize (if trimming then String.ofList (Text.dropBreak text.toList) else text) = kept
  dsimp only
  split
  · exact .inl rfl
  · exact .inr ⟨kept, rfl⟩

theorem ScanState.output_eq (s : ScanState κ) (site : Site) (text : String) :
    s.output site text =
      { s with trimming := false, program := shown s.trimming site text ++ s.program } := by
  unfold output shown
  dsimp only
  generalize (if s.trimming then String.ofList (Text.dropBreak text.toList) else text) = kept
  split <;> rfl

@[simp]
theorem ScanState.mode_output (s : ScanState κ) (site : Site) (text : String) :
    (s.output site text).mode = s.mode := by
  rw [output_eq]

/-- The state inside a quotation that a quoted delimiter begins or goes on with. -/
def ScanState.quote (s : ScanState κ) (t : Token) : ScanState κ :=
  ({ s with mode := .literal } : ScanState κ).emit (.literal t.site t.kind.unquoted)

/-- The instruction comes from a tag with the given body, read in the given state: it is no literal
text, and a statement has the text of the body. -/
def Instruction.Reads (s : ScanState κ) (body : String) : Instruction κ → Prop
  | .literal .. => False
  | .output .. => True
  | .statement _ source tag _ =>
    s.mode = .eval ∧ source = statementText body ∧ tag = s.tagText body

/-! ### One token -/

/-- What the scan can do with one token. -/
inductive Scans : ScanState κ → Token → ScanState κ → Prop
  | opens {s t} (kind : t.kind.isOpen = true) :
      Scans s t { s with mode := .ofOpen t.kind, opener := some t.value }
  | quotes {s t} (kind : t.kind.isQuoted = true) : Scans s t (s.quote t)
  | shows {s t} (kind : t.kind = .text) (free : s.mode.inTag = false) :
      Scans s t (s.output t.site t.value)
  | runs {s t program} (kind : t.kind = .text) (inside : s.mode.inTag = true)
      (read : ∀ i ∈ program, i.Reads s t.value) :
      Scans s t { s with program := program ++ s.program }
  | ends {s t} (kind : t.kind.isClose = true) (quoted : s.mode = .literal) :
      Scans s t ((s.output t.site t.value).leave t.kind)
  | closes {s t} (kind : t.kind.isClose = true) (inside : s.mode.inTag = true) :
      Scans s t (s.leave t.kind)

namespace Scans

variable {s s' : ScanState κ} {t : Token}

theorem of_isClose (h : Scans s t s') (kind : t.kind.isClose = true) :
    s.mode = .literal ∧ s' = (s.output t.site t.value).leave t.kind ∨
      s.mode.inTag = true ∧ s' = s.leave t.kind := by
  cases h with
  | ends _ quoted => exact .inl ⟨quoted, rfl⟩
  | closes _ inside => exact .inr ⟨inside, rfl⟩
  | shows k _ | runs k _ _ =>
    rw [k] at kind
    cases kind
  | opens k | quotes k =>
    exfalso
    revert kind k
    cases t.kind <;> decide

/-- There is nothing to close outside of tags and quotations. -/
theorem mode_ne_outside (h : Scans s t s') (kind : t.kind.isClose = true) : s.mode ≠ .outside := by
  intro outside
  rcases h.of_isClose kind with ⟨quoted, -⟩ | ⟨inside, -⟩
  · exact nomatch outside.symm.trans quoted
  · rw [outside] at inside
    cases inside

/-- A close delimiter ends a tag. -/
theorem of_inside (h : Scans s t s') (kind : t.kind.isClose = true) (inside : s.mode.inTag = true) :
    s' = s.leave t.kind := by
  rcases h.of_isClose kind with ⟨quoted, -⟩ | ⟨-, rfl⟩
  · rw [quoted] at inside
    cases inside
  · rfl

end Scans

section

variable {language : Tag.Language κ} {o : Options} {source : String}

theorem addExpression_reads {s s' : ScanState κ} {site : Site} {body : String} {escaped : Bool}
    (h : addExpression language o source s site body escaped = .ok s') :
    ∃ program, s' = { s with program := program ++ s.program } ∧
      ∀ i ∈ program, i.Reads s body := by
  unfold addExpression at h
  dsimp only at h
  split at h
  · cases h
    exact ⟨[], rfl, nofun⟩
  · cases hc : located o source site (language.expression o.enableAsync
        (endComment (Text.trim (stripSemicolon body)))) with
    | error => rw [hc] at h; cases h
    | ok code =>
      rw [hc] at h
      cases h
      exact ⟨[_], rfl, fun i hi => List.mem_singleton.1 hi ▸ trivial⟩

theorem addStatement_reads {s s' : ScanState κ} {site : Site} {body : String}
    (hs : s.mode = .eval) (h : addStatement language o source s site body = .ok s') :
    ∃ program, s' = { s with program := program ++ s.program } ∧
      ∀ i ∈ program, i.Reads s body := by
  unfold addStatement at h
  dsimp only at h
  split at h
  · cases h
    exact ⟨[], rfl, nofun⟩
  · cases hc : statementOf language o source site (statementText body) with
    | error => rw [hc] at h; cases h
    | ok statement =>
      rw [hc] at h
      cases h
      exact ⟨[_], rfl, fun i hi => List.mem_singleton.1 hi ▸ ⟨hs, rfl, rfl⟩⟩

/-- The text of a tag is read, or skipped in a comment. -/
theorem scans_of_body {s s' : ScanState κ} {t : Token} (kind : t.kind = .text)
    (inside : s.mode.inTag = true) (h : ∃ program, s' = { s with program := program ++ s.program } ∧
      ∀ i ∈ program, i.Reads s t.value) : Scans s t s' := by
  obtain ⟨program, rfl, read⟩ := h
  exact .runs kind inside read

/-- The scan does nothing else. -/
theorem scans_of_scanToken {s s' : ScanState κ} {t : Token}
    (h : scanToken language o source s t = .ok s') : Scans s t s' := by
  unfold scanToken at h
  dsimp only at h
  split at h
  case isTrue ho =>
    cases h
    exact .opens ho
  case isFalse ho =>
    split at h
    case h_1 hk =>
      cases h
      have := Scans.quotes (s := s) (t := t) (by rw [hk]; rfl)
      rwa [ScanState.quote, hk] at this
    case h_2 hk =>
      cases h
      have := Scans.quotes (s := s) (t := t) (by rw [hk]; rfl)
      rwa [ScanState.quote, hk] at this
    case h_3 hk =>
      split at h
      case h_1 hm => cases h; exact .shows hk (by rw [hm]; rfl)
      case h_2 hm => cases h; exact .shows hk (by rw [hm]; rfl)
      case h_3 hm => exact scans_of_body hk (by rw [hm]; rfl) (addStatement_reads hm h)
      case h_4 hm => exact scans_of_body hk (by rw [hm]; rfl) (addExpression_reads h)
      case h_5 hm => exact scans_of_body hk (by rw [hm]; rfl) (addExpression_reads h)
      case h_6 hm => cases h; exact scans_of_body hk (by rw [hm]; rfl) ⟨[], rfl, nofun⟩
    case h_4 hl hc ht =>
      have kind : t.kind.isClose = true := by
        cases hk : t.kind <;> simp_all [TokenKind.isOpen, TokenKind.isClose]
      split at h
      · cases h
      · cases h
        split
        case isTrue hm => exact .ends kind hm
        case isFalse hm =>
          refine .closes kind ?_
          cases hmode : s.mode <;> simp_all [Mode.inTag]

end

/-! ### A whole template -/

/-- The ways to go on in a template that is accepted: from the state of the scan before some tokens
to that behind the last of them. -/
inductive Pieces : ScanState κ → List Token → ScanState κ → Prop
  | done {s} : Pieces s [] s
  | text {s t ts s'} (kind : t.kind = .text) (free : s.mode.inTag = false)
      (more : Pieces (s.output t.site t.value) ts s') : Pieces s (t :: ts) s'
  | quoted {s t ts s'} (kind : t.kind.isQuoted = true) (more : Pieces (s.quote t) ts s') :
      Pieces s (t :: ts) s'
  | endQuote {s t ts s'} (kind : t.kind.isClose = true) (quoted : s.mode = .literal)
      (more : Pieces ((s.output t.site t.value).leave t.kind) ts s') : Pieces s (t :: ts) s'
  | tag {s opener body closer program ts s'} (opens : opener.kind.isOpen = true)
      (kind : body.kind = .text) (closes : closer.kind.isClose = true)
      (read : ∀ i ∈ program, i.Reads
        { s with mode := .ofOpen opener.kind, opener := some opener.value } body.value)
      (more : Pieces (ScanState.leave { s with program := program ++ s.program } closer.kind)
        ts s') : Pieces s (opener :: body :: closer :: ts) s'
  | lostTag {s opener middle closer ts s'} (opens : opener.kind.isOpen = true)
      (kind : middle.kind.isQuoted = true) (closes : closer.kind.isClose = true)
      (more : Pieces (((s.quote middle).output closer.site closer.value).leave closer.kind) ts s') :
      Pieces s (opener :: middle :: closer :: ts) s'

theorem foldlM_cons_ok {α β ε : Type} {f : β → α → Except ε β} {b b' : β} {a : α} {as : List α}
    (h : (a :: as).foldlM f b = .ok b') : ∃ b₁, f b a = .ok b₁ ∧ as.foldlM f b₁ = .ok b' := by
  rw [List.foldlM_cons] at h
  cases hf : f b a with
  | error => rw [hf] at h; cases h
  | ok b₁ =>
    rw [hf] at h
    exact ⟨b₁, rfl, h⟩

section

variable {language : Tag.Language κ} {o : Options} {source : String}

theorem pieces_of_scan {ts : List Token} {s s' : ScanState κ} (checked : firstUnclosed? ts = none)
    (free : s.mode.inTag = false) (h : ts.foldlM (scanToken language o source) s = .ok s') :
    Pieces s ts s' := by
  induction hn : ts.length using Nat.strongRecOn generalizing ts s with
  | _ n ih =>
    cases ts with
    | nil =>
      cases h
      exact .done
    | cons t ts =>
      have shorter {us : List Token} {s₁ : ScanState κ} (hl : us.length < (t :: ts).length)
          (checked : firstUnclosed? us = none) (free : s₁.mode.inTag = false)
          (h : us.foldlM (scanToken language o source) s₁ = .ok s') : Pieces s₁ us s' :=
        ih _ (hn ▸ hl) checked free h rfl
      obtain ⟨s₁, first, h⟩ := foldlM_cons_ok h
      cases scans_of_scanToken first with
      | opens opens =>
        obtain ⟨middle, closer, ts, rfl, closes⟩ := exists_close_of_firstUnclosed? checked opens
        obtain ⟨s₂, second, h⟩ := foldlM_cons_ok h
        obtain ⟨s₃, third, h⟩ := foldlM_cons_ok h
        have third := scans_of_scanToken third
        have checked' := firstUnclosed?_tail checked
        have more {s₄ : ScanState κ} (free : s₄.mode.inTag = false)
            (h : ts.foldlM (scanToken language o source) s₄ = .ok s') : Pieces s₄ ts s' :=
          shorter (by simp; omega) (firstUnclosed?_tail (firstUnclosed?_tail checked')) free h
        have inside := Mode.inTag_ofOpen t.kind
        cases scans_of_scanToken second with
        | opens opens' =>
          -- The outer tag's delimiter closes the inner one, and then another delimiter follows.
          obtain ⟨_, closer', _, he, closes'⟩ := exists_close_of_firstUnclosed? checked' opens'
          obtain ⟨rfl, rfl⟩ := List.cons.inj he
          obtain rfl := third.of_inside closes (Mode.inTag_ofOpen middle.kind)
          obtain ⟨s₄, fourth, -⟩ := foldlM_cons_ok h
          exact absurd rfl ((scans_of_scanToken fourth).mode_ne_outside closes')
        | quotes kind =>
          rcases third.of_isClose closes with ⟨-, rfl⟩ | ⟨inside, -⟩
          · refine .lostTag opens kind closes (more rfl ?_)
            rw [← h]
            simp [ScanState.quote, ScanState.emit, ScanState.output_eq, ScanState.leave]
          · cases inside
        | shows _ free' => exact absurd (free'.symm.trans inside) Bool.false_ne_true
        | runs kind _ read =>
          obtain rfl := third.of_inside closes inside
          exact .tag opens kind closes read (more rfl h)
        | ends _ quoted =>
          rw [show Mode.ofOpen t.kind = .literal from quoted] at inside
          cases inside
        | closes => exact absurd rfl (third.mode_ne_outside closes)
      | quotes kind => exact .quoted kind (shorter (by simp) (firstUnclosed?_tail checked) rfl h)
      | shows kind _ =>
        exact .text kind free (shorter (by simp) (firstUnclosed?_tail checked) (by simpa) h)
      | runs kind inside => exact absurd (free.symm.trans inside) Bool.false_ne_true
      | ends kind quoted =>
        exact .endQuote kind quoted (shorter (by simp) (firstUnclosed?_tail checked) rfl h)
      | closes kind inside => exact absurd (free.symm.trans inside) Bool.false_ne_true

/-- What a template that compiles is compiled to. -/
theorem of_compile {c : Compiled κ} (h : compile language o source = .ok c) :
    firstUnclosed? (tokenize source) = none ∧
      (∃ s : ScanState κ, (tokenize source).foldlM (scanToken language o source) {} = .ok s ∧
        c.program = s.program.reverse) ∧ nest c.program = .ok c.body := by
  unfold compile at h
  dsimp only at h
  split at h
  · cases h
  · next checked =>
    cases hs : (tokenize source).foldlM (scanToken language o source) {} with
    | error => rw [hs] at h; cases h
    | ok s =>
      rw [hs] at h
      simp only [bind, Except.bind] at h
      cases hn : nest s.program.reverse with
      | error => rw [hn] at h; cases h
      | ok body =>
        rw [hn] at h
        cases h
        exact ⟨checked, ⟨s, rfl, rfl⟩, hn⟩

/-- Compiled for code that may wait, a template has a body that may wait, and no other one has. -/
theorem isAsync_of_compile {c : Compiled κ} (hc : compile language o source = .ok c) :
    c.isAsync = o.enableAsync := by
  unfold compile at hc
  dsimp only at hc
  split at hc
  · cases hc
  · cases hs : (tokenize source).foldlM (scanToken language o source) {} with
    | error =>
      rw [hs] at hc
      cases hc
    | ok s =>
      rw [hs] at hc
      simp only [bind, Except.bind] at hc
      split at hc
      · cases hc
        rfl
      · cases hc

/-- A template that compiles is made of pieces. -/
theorem pieces_of_compile {c : Compiled κ} (h : compile language o source = .ok c) :
    ∃ s : ScanState κ, Pieces {} (tokenize source) s ∧ c.program = s.program.reverse := by
  obtain ⟨checked, ⟨s, scanned, he⟩, -⟩ := of_compile h
  exact ⟨s, pieces_of_scan checked rfl scanned, he⟩

end

/-! ### Where instructions come from -/

/-- The instruction is read from one of the tags among the tokens. -/
def Instruction.FromTag (ts : List Token) (i : Instruction κ) : Prop :=
  ∃ before opener body after, ∃ s : ScanState κ, ts = before ++ opener :: body :: after ∧
    opener.kind.isOpen = true ∧
    i.Reads { s with mode := .ofOpen opener.kind, opener := some opener.value } body.value

theorem Instruction.FromTag.cons {ts : List Token} {i : Instruction κ} (h : i.FromTag ts)
    (t : Token) : i.FromTag (t :: ts) := by
  obtain ⟨before, opener, body, after, s, rfl, opens, read⟩ := h
  exact ⟨t :: before, opener, body, after, s, rfl, opens, read⟩

theorem ScanState.mem_output {s : ScanState κ} {site : Site} {text : String} {i : Instruction κ}
    (hi : i ∈ (s.output site text).program) :
    i ∈ s.program ∨ ∃ site text, i = .literal site text := by
  rw [output_eq] at hi
  rcases shown_cases (κ := κ) s.trimming site text with h | ⟨kept, h⟩
  · rw [h] at hi
    exact .inl hi
  · rw [h] at hi
    exact (List.mem_cons.1 hi).elim (fun e => .inr ⟨site, kept, e⟩) .inl

theorem ScanState.mem_quote {s : ScanState κ} {t : Token} {i : Instruction κ}
    (hi : i ∈ (s.quote t).program) : i ∈ s.program ∨ ∃ site text, i = .literal site text :=
  (List.mem_cons.1 hi).elim (fun e => .inr ⟨_, _, e⟩) .inl

/-- An instruction was there before, is literal text, or is read from a tag. -/
theorem Pieces.origin {s s' : ScanState κ} {ts : List Token} (h : Pieces s ts s')
    {i : Instruction κ} (hi : i ∈ s'.program) :
    (i ∈ s.program ∨ ∃ site text, i = .literal site text) ∨ i.FromTag ts := by
  induction h with
  | done => exact .inl (.inl hi)
  | text _ _ _ ih =>
    rcases ih hi with (here | literal) | tag
    · exact .inl (ScanState.mem_output here)
    · exact .inl (.inr literal)
    · exact .inr (tag.cons _)
  | quoted _ _ ih =>
    rcases ih hi with (here | literal) | tag
    · exact .inl (ScanState.mem_quote here)
    · exact .inl (.inr literal)
    · exact .inr (tag.cons _)
  | endQuote _ _ _ ih =>
    rcases ih hi with (here | literal) | tag
    · exact .inl (ScanState.mem_output here)
    · exact .inl (.inr literal)
    · exact .inr (tag.cons _)
  | @tag s opener body closer _ ts _ opens _ _ read _ ih =>
    rcases ih hi with (here | literal) | tag
    · refine (List.mem_append.1 here).elim (fun here => .inr ?_) fun here => .inl (.inl here)
      exact ⟨[], opener, body, closer :: ts, s, rfl, opens, read i here⟩
    · exact .inl (.inr literal)
    · exact .inr (((tag.cons _).cons _).cons _)
  | lostTag _ _ _ _ ih =>
    rcases ih hi with (here | literal) | tag
    · exact .inl ((ScanState.mem_output here).elim ScanState.mem_quote .inr)
    · exact .inl (.inr literal)
    · exact .inr (((tag.cons _).cons _).cons _)

/-! ### Open delimiters -/

/-- Behind an open delimiter stand a text or a quoted delimiter, and a close delimiter. -/
theorem Pieces.behind_open {s s' : ScanState κ} {ts before after : List Token} {t : Token}
    (h : Pieces s ts s') (he : ts = before ++ t :: after) (ht : t.kind.isOpen = true) :
    ∃ middle closer rest, after = middle :: closer :: rest ∧ closer.kind.isClose = true ∧
      (middle.kind = .text ∨ middle.kind.isQuoted = true) := by
  have differs {u : Token} (hu : u.kind = .text ∨ u.kind.isClose = true ∨ u.kind.isQuoted = true) :
      u ≠ t := by
    rintro rfl
    exact Bool.false_ne_true ((not_isOpen hu).symm.trans ht)
  induction h generalizing before with
  | done => exact absurd he.symm (by simp)
  | text kind _ _ ih | quoted kind _ ih | endQuote kind _ _ ih =>
    rcases before with _ | ⟨_, before⟩
    · exact absurd (List.cons.inj he).1 (differs (by simp [kind]))
    · exact ih (List.cons.inj he).2
  | tag _ kind closes | lostTag _ kind closes =>
    rename_i ih
    rcases before with _ | ⟨_, _ | ⟨_, _ | ⟨_, before⟩⟩⟩
    · exact ⟨_, _, _, (List.cons.inj he).2.symm, closes, by simp [kind]⟩
    · exact absurd (List.cons.inj (List.cons.inj he).2).1 (differs (by simp [kind]))
    · exact absurd (List.cons.inj (List.cons.inj (List.cons.inj he).2).2).1
        (differs (by simp [closes]))
    · exact ih (List.cons.inj (List.cons.inj (List.cons.inj he).2).2).2

/-- In a template that compiles, each open delimiter is followed by its text and a close delimiter,
unless a quoted delimiter stands in the place of the text. -/
theorem close_behind_open {language : Tag.Language κ} {o : Options} {source : String}
    {c : Compiled κ} (h : compile language o source = .ok c) {before after : List Token}
    {t : Token} (he : tokenize source = before ++ t :: after) (ht : t.kind.isOpen = true) :
    ∃ middle closer rest, after = middle :: closer :: rest ∧ closer.kind.isClose = true ∧
      (middle.kind = .text ∨ middle.kind.isQuoted = true) := by
  obtain ⟨s, pieces, -⟩ := pieces_of_compile h
  exact pieces.behind_open he ht

/-- The text of a comment stands behind the delimiter that opens the comment. -/
theorem text_behind_comment :
    ∃ (c : Compiled Tag.Code) (after : List Token),
      compile Tag.language {} "a<%# b %>c" = .ok c ∧
        tokenize "a<%# b %>c" = [⟨.text, "a", 1, 0⟩] ++ ⟨.openComment, "<%#", 1, 1⟩ :: after ∧
        ∃ middle closer rest, after = middle :: closer :: rest ∧ closer.kind.isClose = true ∧
          (middle.kind = .text ∨ middle.kind.isQuoted = true) := by
  have compiled : compile Tag.language {} "a<%# b %>c" =
      .ok ⟨[.literal ⟨1, 0⟩ "a", .literal ⟨1, 9⟩ "c"],
        [.literal ⟨1, 0⟩ "a", .literal ⟨1, 9⟩ "c"], false⟩ := by cbv
  have tokens : tokenize "a<%# b %>c" = [⟨.text, "a", 1, 0⟩] ++ ⟨.openComment, "<%#", 1, 1⟩ ::
      [⟨.text, " b ", 1, 4⟩, ⟨.close, "%>", 1, 7⟩, ⟨.text, "c", 1, 9⟩] := by decide +kernel
  exact ⟨_, _, compiled, tokens, close_behind_open compiled tokens rfl⟩

/-- A quoted delimiter behind an open one passes, and the tag is lost. -/
example : compile Tag.language {} "<%=<%%%>" =
    .ok ⟨[.literal ⟨1, 3⟩ "<%", .literal ⟨1, 6⟩ "%>"],
      [.literal ⟨1, 3⟩ "<%", .literal ⟨1, 6⟩ "%>"], false⟩ := by cbv

end Program

end StreamTemplate
