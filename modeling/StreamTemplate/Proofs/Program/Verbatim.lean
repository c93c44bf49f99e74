import StreamTemplate.Proofs.Markup.Cover
import StreamTemplate.Proofs.Program.Grammar
import StreamTemplate.Proofs.Program.Pieces

/-!
# Templates for a given text

Every text can be written as a template that outputs it: each `<%` and each `%>` in it is written as
the delimiter that stands for these characters (`verbatim`). What the quoting inserts might complete
another delimiter with the characters around it, or one that trims white space. It does neither,
since in what is copied a `<` has no `%` behind it and a `%` no `>` (`Copied`), and quoted text does
not begin with `%>` (`not_startsClose_quoteDelimiters`). So the scan finds exactly the delimiters
that the quoting has written (`means_scan`), and the template is compiled to literal text only.
-/

namespace StreamTemplate

namespace Markup

/-- The characters with every `<%` and `%>` quoted, from left to right. -/
def quoteDelimiters : List Char → List Char
  | '<' :: '%' :: rest => '<' :: '%' :: '%' :: quoteDelimiters rest
  | '%' :: '>' :: rest => '%' :: '%' :: '>' :: quoteDelimiters rest
  | c :: rest => c :: quoteDelimiters rest
  | [] => []

/-- The template for a text. -/
def verbatim (text : String) : String :=
  String.ofList (quoteDelimiters text.toList)

/-- The text that a token stands for outside of tags. -/
def Token.meaning (t : Token) : String :=
  if t.kind = .text then t.value else t.kind.unquoted

/-- A token that is output as text, outside of tags. -/
def Token.IsLiteral (t : Token) : Prop :=
  (t.kind = .text ∧ t.value ≠ "") ∨ t.kind.isQuoted = true

/-! ### Quoted characters -/

/-- `c` does not begin a delimiter of two characters that goes on in `rest`. -/
structure Copied (c : Char) (rest : List Char) : Prop where
  opens : c = '<' → rest.head? ≠ some '%'
  closes : c = '%' → rest.head? ≠ some '>'

theorem Copied.of {c : Char} {rest : List Char}
    (opens : ∀ more, c = '<' → rest = '%' :: more → False)
    (closes : ∀ more, c = '%' → rest = '>' :: more → False) : Copied c rest where
  opens hc h := by
    obtain ⟨more, rfl⟩ := List.head?_eq_some_iff.1 h
    exact opens more hc rfl
  closes hc h := by
    obtain ⟨more, rfl⟩ := List.head?_eq_some_iff.1 h
    exact closes more hc rfl

theorem head?_quoteDelimiters (cs : List Char) : (quoteDelimiters cs).head? = cs.head? := by
  fun_cases quoteDelimiters cs <;> rfl

theorem Copied.quote {c : Char} {rest : List Char} (h : Copied c rest) :
    Copied c (quoteDelimiters rest) := by
  obtain ⟨opens, closes⟩ := h
  rw [← head?_quoteDelimiters] at opens closes
  exact ⟨opens, closes⟩

theorem Copied.not_prefix_open {c : Char} {rest word : List Char} (h : Copied c rest) :
    ¬ '<' :: '%' :: word <+: c :: rest := by
  rintro ⟨more, he⟩
  obtain ⟨rfl, rfl⟩ := List.cons.inj he
  exact h.opens rfl rfl

theorem Copied.not_prefix_close {c : Char} {rest word : List Char} (h : Copied c rest) :
    ¬ '%' :: '>' :: word <+: c :: rest := by
  rintro ⟨more, he⟩
  obtain ⟨rfl, rfl⟩ := List.cons.inj he
  exact h.closes rfl rfl

/-- A quoted text does not begin with a close delimiter. -/
theorem not_startsClose_quoteDelimiters (cs : List Char) : ¬ ['%', '>'] <+: quoteDelimiters cs := by
  fun_cases quoteDelimiters cs with
  | case1 | case2 => simp [List.cons_prefix_cons]
  | case3 c rest opens closes => exact (Copied.of opens closes).quote.not_prefix_close
  | case4 => simp

/-- No delimiter begins at a character that is copied. -/
theorem Copied.delimiterAt_eq_none {c : Char} {rest : List Char} (h : Copied c rest)
    (behind : ¬ ['%', '>'] <+: rest) : delimiterAt (c :: rest) = none := by
  cases found : delimiterAt (c :: rest) with
  | none => rfl
  | some k =>
    obtain ⟨hk, hp⟩ := delimiterAt_eq_some found
    exfalso
    cases k with
    | text => exact hk rfl
    | close => exact h.not_prefix_close hp
    | closeTrimBreak | closeTrimBlanks | closeLiteral =>
      exact behind (List.cons_prefix_cons.1 hp).2
    | _ => exact h.not_prefix_open hp

/-- Quoted text holds no delimiter that trims in front of itself. -/
theorem not_trimOpen_infix (cs : List Char) : ¬ ['<', '%', '_'] <:+: quoteDelimiters cs := by
  fun_induction quoteDelimiters cs with
  | case1 rest ih | case2 rest ih => simp [List.infix_cons_iff, List.cons_prefix_cons, ih]
  | case3 c rest opens closes ih =>
    exact fun h => (List.infix_cons_iff.1 h).elim (Copied.of opens closes).quote.not_prefix_open ih
  | case4 => simp

/-- Quoted text holds no delimiter that trims behind itself. -/
theorem not_trimClose_infix (cs : List Char) : ¬ ['_', '%', '>'] <:+: quoteDelimiters cs := by
  fun_induction quoteDelimiters cs with
  | case1 rest ih | case2 rest ih => simp [List.infix_cons_iff, List.cons_prefix_cons, ih]
  | case3 c rest opens closes ih =>
    -- Copying a `_` is harmless: what follows it does not begin with `%>`.
    refine fun h => (List.infix_cons_iff.1 h).elim (fun hp => ?_) ih
    exact not_startsClose_quoteDelimiters rest (List.cons_prefix_cons.1 hp).2
  | case4 => simp

/-! ### Tokens -/

section

variable {α : Type} {char : α → Char}

/-- Nothing is trimmed where no delimiter trims. -/
theorem trimTags_eq_self {cs : List α} (opens : ¬ ['<', '%', '_'] <:+: cs.map char)
    (closes : ¬ ['_', '%', '>'] <:+: cs.map char) : trimTags char cs = cs := by
  have kept : Kept char [] cs [] := by
    rintro l a r rfl
    rw [List.append_nil, List.append_nil, isTrimmed]
    have right : startsTrimOpen char (r.dropWhile (isGap char)) = false := by
      refine Bool.eq_false_iff.2 fun h => opens ?_
      have : (r.dropWhile (isGap char)).map char <:+: (l ++ a :: r).map char :=
        (((List.dropWhile_suffix _).trans (List.suffix_cons a r)).trans
          (List.suffix_append l _)).isInfix.map char
      exact (startsTrimOpen_iff.1 h).isInfix.trans this
    have left : endsTrimClose char (l.reverse.dropWhile (isGap char)) = false := by
      refine Bool.eq_false_iff.2 fun h => closes ?_
      have : (l.reverse.dropWhile (isGap char)).map char <:+: (l.map char).reverse := by
        rw [← List.map_reverse]
        exact (List.dropWhile_suffix _).isInfix.map char
      have before : ['_', '%', '>'] <:+: l.map char :=
        List.reverse_infix.1 ((endsTrimClose_iff.1 h).isInfix.trans this)
      exact before.trans ((List.prefix_append l _).isInfix.map char)
    rw [right, left, Bool.or_false, Bool.and_false]
  have whole := kept.untrimmed
  rwa [List.append_nil, untrimmed, List.append_nil, ← trimTags_eq_untrimmed] at whole

end

/-- The tokens are texts and quoted delimiters, and together they stand for the characters. -/
structure Means (ts : List Token) (cs : List Char) : Prop where
  literal : ∀ t ∈ ts, t.IsLiteral
  joined : ts.flatMap (·.meaning.toList) = cs

theorem Means.append {ts us : List Token} {cs ds : List Char} (h : Means ts cs) (g : Means us ds) :
    Means (ts ++ us) (cs ++ ds) where
  literal t ht := (List.mem_append.1 ht).elim (h.literal t) (g.literal t)
  joined := by rw [List.flatMap_append, h.joined, g.joined]

theorem Means.cons {t : Token} {ts : List Token} {cs : List Char} (ht : t.kind.isQuoted = true)
    (h : Means ts cs) : Means (t :: ts) (t.kind.unquoted.toList ++ cs) where
  literal := List.forall_mem_cons.2 ⟨.inr ht, h.literal⟩
  joined := by
    rw [List.flatMap_cons, h.joined, Token.meaning, if_neg (ne_text (.inr (.inr ht)))]

theorem means_textToken (held : List Placed) :
    Means (textToken held) (held.reverse.map (·.char)) := by
  rcases held with _ | ⟨p, held⟩
  · exact ⟨nofun, rfl⟩
  · rw [textToken_of_ne_nil (List.cons_ne_nil p held)]
    refine ⟨fun t ht => ?_, by simp [Token.meaning]⟩
    obtain rfl := List.mem_singleton.1 ht
    exact .inl ⟨rfl, by simp⟩

/-- A quoted delimiter ends the text in front of it. -/
theorem means_scan_quoted (kind : TokenKind) (quoted : kind.isQuoted = true)
    {held ps : List Placed} {rest cs : List Char}
    (written : ps.map (·.char) = kind.delimiter.toList ++ rest)
    (found : delimiterAt (kind.delimiter.toList ++ rest) = some kind)
    (more : ∀ qs : List Placed, qs.map (·.char) = rest → Means (scan 0 [] qs) cs) :
    Means (scan 0 held ps) (held.reverse.map (·.char) ++ (kind.unquoted.toList ++ cs)) := by
  rw [← written] at found
  cases ps with
  | nil => cases found
  | cons p ps =>
    obtain ⟨xs, qs, rfl, hx, hscan⟩ := scan_delimiter held found
    rw [← List.cons_append, List.map_append, hx, List.append_cancel_left_eq] at written
    rw [hscan]
    exact (means_textToken held).append (.cons quoted (more qs written))

/-- The tokens of a quoted text stand for the text. -/
theorem means_scan (cs : List Char) (held ps : List Placed)
    (written : ps.map (·.char) = quoteDelimiters cs) :
    Means (scan 0 held ps) (held.reverse.map (·.char) ++ cs) := by
  fun_induction quoteDelimiters cs generalizing held ps with
  | case1 rest ih => exact means_scan_quoted .openLiteral rfl written rfl (ih [])
  | case2 rest ih => exact means_scan_quoted .closeLiteral rfl written rfl (ih [])
  | case3 c rest opens closes ih =>
    -- No delimiter begins here, so the character joins the text held back.
    obtain ⟨p, ps, rfl, rfl, behind⟩ := List.map_eq_cons_iff.1 written
    have copied : delimiterAt ((p :: ps).map (·.char)) = none := by
      rw [written]
      exact (Copied.of opens closes).quote.delimiterAt_eq_none
        (not_startsClose_quoteDelimiters rest)
    rw [scan_cons, copied]
    simpa using ih (p :: held) ps behind
  | case4 =>
    obtain rfl := List.map_eq_nil_iff.1 written
    rw [List.append_nil]
    exact means_textToken held

theorem tokenize_eq_scan {source : String} (opens : ¬ ['<', '%', '_'] <:+: source.toList)
    (closes : ¬ ['_', '%', '>'] <:+: source.toList) :
    tokenize source = scan 0 [] (place 1 0 source.toList) := by
  rw [tokenize, trimTags_eq_self] <;> rwa [map_char_place]

theorem means_tokenize_verbatim (text : String) : Means (tokenize (verbatim text)) text.toList := by
  have chars : (verbatim text).toList = quoteDelimiters text.toList := String.toList_ofList
  rw [tokenize_eq_scan (chars ▸ not_trimOpen_infix _) (chars ▸ not_trimClose_infix _)]
  exact means_scan _ [] _ ((map_char_place 1 0 _).trans chars)

/-! ### Plain text -/

/-- A text without the two characters that every delimiter holds is one token. -/
theorem scan_of_quiet (held ps : List Placed) (quiet : Quiet (ps.map (·.char)) []) :
    scan 0 held ps = textToken (ps.reverse ++ held) := by
  induction ps generalizing held with
  | nil => rfl
  | cons p ps ih =>
    have here : delimiterAt ((p :: ps).map (·.char)) = none := by
      simpa using quiet [] _ rfl (by simp)
    have behind : Quiet (ps.map (·.char)) [] := fun l r he hr =>
      quiet (p.char :: l) r (by rw [List.map_cons, he]; rfl) hr
    rw [scan_cons, here]
    simpa using ih (p :: held) behind

theorem quiet_of_plain {cs : List Char} (opens : ¬ ['<', '%'] <:+: cs)
    (closes : ¬ ['%', '>'] <:+: cs) : Quiet cs [] := by
  rintro l r rfl -
  rw [List.append_nil]
  cases found : delimiterAt r with
  | none => rfl
  | some k =>
    obtain ⟨hk, hp⟩ := delimiterAt_eq_some found
    have inside : k.delimiter.toList <:+: l ++ r :=
      hp.isInfix.trans (List.suffix_append l r).isInfix
    have two : ['<', '%'] <:+: k.delimiter.toList ∨ ['%', '>'] <:+: k.delimiter.toList := by
      revert hk
      cases k <;> decide
    exact absurd two (not_or.2 ⟨fun h => opens (h.trans inside), fun h => closes (h.trans inside)⟩)

theorem tokenize_plain {text : String} (ne : text ≠ "") (opens : ¬ ['<', '%'] <:+: text.toList)
    (closes : ¬ ['%', '>'] <:+: text.toList) : tokenize text = [⟨.text, text, 1, 0⟩] := by
  have trimOpen : ¬ ['<', '%', '_'] <:+: text.toList := fun h =>
    opens ((show ['<', '%'] <:+: ['<', '%', '_'] by decide).trans h)
  have trimClose : ¬ ['_', '%', '>'] <:+: text.toList := fun h =>
    closes ((show ['%', '>'] <:+: ['_', '%', '>'] by decide).trans h)
  have quiet : Quiet ((place 1 0 text.toList).map (·.char)) [] := by
    rw [map_char_place]
    exact quiet_of_plain opens closes
  rw [tokenize_eq_scan trimOpen trimClose, scan_of_quiet [] _ quiet, List.append_nil, textToken,
    List.getLast?_reverse, List.reverse_reverse, map_char_place, String.ofList_toList]
  cases chars : text.toList with
  | nil => exact absurd (String.toList_eq_nil_iff.1 chars) ne
  | cons c cs => rfl

end Markup

open Markup

namespace Program

variable {κ : Type}

/-! ### Templates of literal text -/

theorem firstUnclosed?_eq_none {ts : List Token} (h : ∀ t ∈ ts, t.kind.isOpen = false) :
    firstUnclosed? ts = none := by
  induction ts with
  | nil => rfl
  | cons t ts ih =>
    obtain ⟨ht, hts⟩ := List.forall_mem_cons.1 h
    rw [firstUnclosed?, ht, Bool.false_and, if_neg Bool.false_ne_true, ih hts]

section

variable (language : Tag.Language κ) (o : Options) (source : String)

/-- Outside of tags, and with no line break to remove, a literal token is output as it is. -/
theorem scanToken_literal {s : ScanState κ} {t : Token} (h : t.IsLiteral)
    (free : s.mode.inTag = false) (keeps : s.trimming = false) :
    ∃ s', scanToken language o source s t = .ok s' ∧ s'.mode.inTag = false ∧
      s'.trimming = false ∧ s'.program = .literal t.site t.meaning :: s.program := by
  obtain ⟨kind, value, line, col⟩ := t
  rcases h with ⟨rfl, ne⟩ | quoted
  · refine ⟨s.output ⟨line, col⟩ value, ?_, ?_, ?_, ?_⟩
    · cases mode : s.mode with
      | outside | literal =>
        unfold scanToken
        simp only [mode]
        rfl
      | eval | escaped | raw | comment =>
        rw [mode] at free
        cases free
    · rwa [ScanState.mode_output]
    · rw [ScanState.output_eq]
    · rw [ScanState.output_eq, shown, keeps, if_neg Bool.false_ne_true, if_neg ne]
      rfl
  · cases kind with
    | openLiteral | closeLiteral => exact ⟨s.quote _, rfl, rfl, keeps, rfl⟩
    | _ => cases quoted

theorem foldlM_literal {ts : List Token} (h : ∀ t ∈ ts, t.IsLiteral) {s : ScanState κ}
    (free : s.mode.inTag = false) (keeps : s.trimming = false) :
    ∃ s', ts.foldlM (scanToken language o source) s = .ok s' ∧
      s'.program = (ts.map fun t => .literal t.site t.meaning).reverse ++ s.program := by
  induction ts generalizing s with
  | nil => exact ⟨s, rfl, rfl⟩
  | cons t ts ih =>
    obtain ⟨ht, hts⟩ := List.forall_mem_cons.1 h
    obtain ⟨s₁, first, free₁, keeps₁, program₁⟩ := scanToken_literal language o source ht free keeps
    obtain ⟨s', rest, program⟩ := ih hts free₁ keeps₁
    refine ⟨s', ?_, ?_⟩
    · rw [List.foldlM_cons, first]
      exact rest
    · rw [program, program₁, List.map_cons, List.reverse_cons, List.append_assoc]
      rfl

theorem unfolds_literal (ts : List Token) :
    Unfolds false (.nodes (ts.map fun t => (.literal t.site t.meaning : Node κ)))
      (ts.map fun t => .literal t.site t.meaning) := by
  induction ts with
  | nil => exact .nil
  | cons t ts ih => exact .literal ih

theorem compile_literal (h : ∀ t ∈ tokenize source, t.IsLiteral) :
    compile language o source =
      .ok { program := (tokenize source).map fun t => .literal t.site t.meaning
            body := (tokenize source).map fun t => .literal t.site t.meaning
            isAsync := o.enableAsync } := by
  have closed : firstUnclosed? (tokenize source) = none :=
    firstUnclosed?_eq_none fun t ht => not_isOpen ((h t ht).imp And.left .inr)
  obtain ⟨s, scanned, program⟩ := foldlM_literal language o source h (s := {}) rfl rfl
  have reversed : s.program.reverse =
      (tokenize source).map fun t => .literal t.site t.meaning := by
    rw [program, List.append_nil, List.reverse_reverse]
  have nested := nest_eq_ok_iff.2 (unfolds_literal (κ := κ) (tokenize source))
  unfold compile
  simp only [closed, scanned, bind, Except.bind, reversed, nested]
  rfl

end

/-- Every text is what some template outputs, and that template is compiled to nothing else; a text
that holds nothing of a delimiter is such a template itself. -/
theorem compile_verbatim (language : Tag.Language κ) (o : Options) (text : String) :
    (∃ pieces : List (Site × String),
      compile language o (verbatim text) =
        .ok { program := pieces.map fun p => .literal p.1 p.2
              body := pieces.map fun p => .literal p.1 p.2
              isAsync := o.enableAsync } ∧
        String.join (pieces.map Prod.snd) = text) ∧
      (text ≠ "" → ¬ ['<', '%'] <:+: text.toList → ¬ ['%', '>'] <:+: text.toList →
        compile language o text =
          .ok { program := [.literal ⟨1, 0⟩ text]
                body := [.literal ⟨1, 0⟩ text]
                isAsync := o.enableAsync }) := by
  refine ⟨⟨(tokenize (verbatim text)).map fun t => (t.site, t.meaning), ?_, ?_⟩, ?_⟩
  · rw [compile_literal _ _ _ (means_tokenize_verbatim text).literal, List.map_map, List.map_map]
    rfl
  · refine String.toList_injective ?_
    rw [String.toList_join, List.map_map, List.flatMap_map]
    exact (means_tokenize_verbatim text).joined
  · intro ne opens closes
    have token := tokenize_plain ne opens closes
    rw [compile_literal, token]
    · rfl
    · rw [token]
      exact fun t ht => List.mem_singleton.1 ht ▸ .inl ⟨rfl, ne⟩

/-- Such a template and such a text. -/
theorem compile_verbatim_brackets :
    (∃ pieces : List (Site × String),
      compile Tag.language {} (verbatim "<%>%%> -%>_%> <%_") =
        .ok { program := pieces.map fun p => .literal p.1 p.2
              body := pieces.map fun p => .literal p.1 p.2
              isAsync := false } ∧
        String.join (pieces.map Prod.snd) = "<%>%%> -%>_%> <%_") ∧
      "50 % > 5 %" ≠ "" ∧ ¬ ['<', '%'] <:+: "50 % > 5 %".toList ∧
      ¬ ['%', '>'] <:+: "50 % > 5 %".toList ∧
      compile Tag.language {} "50 % > 5 %" =
        .ok { program := [.literal ⟨1, 0⟩ "50 % > 5 %"]
              body := [.literal ⟨1, 0⟩ "50 % > 5 %"]
              isAsync := false } := by
  have ne : "50 % > 5 %" ≠ "" := by decide
  have opens : ¬ ['<', '%'] <:+: "50 % > 5 %".toList := by decide
  have closes : ¬ ['%', '>'] <:+: "50 % > 5 %".toList := by decide
  exact ⟨(compile_verbatim Tag.language {} _).1, ne, opens, closes,
    (compile_verbatim Tag.language {} "50 % > 5 %").2 ne opens closes⟩

end Program
end StreamTemplate
