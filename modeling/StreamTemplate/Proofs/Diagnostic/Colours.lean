import StreamTemplate.Diagnostic.Report
import StreamTemplate.Proofs.Text.Lines
import StreamTemplate.Value.Show
import Mathlib.Data.List.TakeWhile

/-!
# Colours change nothing but escape sequences

Stripping takes out what looks like an escape sequence anywhere in a text, so a style can make a
difference beyond its own sequences: a text that ends within a sequence is completed by what stands
behind it, and the reset behind a coloured text keeps the two apart. In a diagnostic a coloured text
is text of the diagnostic's own, which has no escape character, or has a line feed or nothing behind
it. A sequence goes on neither with a line feed nor with the escape character of a reset
(`Detached`), so with colours and without the same is stripped, whatever the texts of a diagnostic
hold (`stripColours_coloured`).
-/

namespace StreamTemplate.Diagnostic

open Text

/-- A text that no escape sequence goes on into: it does not begin with a character that a sequence
can have behind its escape character. -/
def Detached (cs : List Char) : Prop :=
  cs.head?.any (between ' ' '~') = false

variable {c : Char} {cs rest : List Char}

namespace Detached

theorem nil : Detached [] :=
  rfl

theorem feed (cs : List Char) : Detached ('\n' :: cs) :=
  rfl

theorem escape (cs : List Char) : Detached (escapeChar :: cs) :=
  rfl

/-- It does not begin with a character of a smaller class either. -/
theorem any_head (h : Detached rest) {lo hi : Char} (low : ' ' ≤ lo) (high : hi ≤ '~') :
    rest.head?.any (between lo hi) = false := by
  refine Bool.eq_false_iff.2 fun here => Bool.eq_false_iff.1 h ?_
  obtain ⟨c, first, inside⟩ := (Option.any_eq_true _ _).1 here
  rw [between, Bool.and_eq_true, decide_eq_true_eq, decide_eq_true_eq] at inside
  refine (Option.any_eq_true _ _).2 ⟨c, first, ?_⟩
  rw [between, Bool.and_eq_true, decide_eq_true_eq, decide_eq_true_eq]
  exact ⟨Char.le_trans low inside.1, Char.le_trans inside.2 high⟩

end Detached

/-! ### Escape sequences -/

/-- The sequence that a bracket begins: parameters, intermediates, and a final character. -/
theorem sequenceTail?_bracket (cs : List Char) :
    sequenceTail? ('[' :: cs) =
      let params := cs.takeWhile (between '0' '?')
      let middle := (cs.drop params.length).takeWhile (between ' ' '/')
      if ((cs.drop params.length).drop middle.length).head?.any (between '@' '~') then
        some (2 + params.length + middle.length)
      else none := by
  rw [sequenceTail?]
  dsimp only
  split
  · next final more split => rw [split]; rfl
  · next split => rw [split]; rfl

theorem sequenceTail?_cons (ne : c ≠ '[') (cs : List Char) :
    sequenceTail? (c :: cs) = if between '@' 'Z' c || between '\\' '_' c then some 1 else none := by
  rw [sequenceTail?]
  exact fun same => absurd same ne

/-- A sequence does not reach beyond the text. -/
theorem le_length_of_sequenceTail? {n : Nat} (h : sequenceTail? cs = some n) : n ≤ cs.length := by
  cases cs with
  | nil => cases h
  | cons c cs =>
    by_cases bracket : c = '['
    · subst bracket
      rw [sequenceTail?_bracket] at h
      dsimp only at h
      split at h
      · next final =>
        obtain ⟨c, first, -⟩ := (Option.any_eq_true _ _).1 final
        have some_left := List.length_pos_of_mem (List.mem_of_mem_head? first)
        rw [List.length_drop, List.length_drop] at some_left
        cases h
        rw [List.length_cons]
        omega
      · cases h
    · rw [sequenceTail?_cons bracket] at h
      split at h
      · cases h
        exact Nat.succ_pos _
      · cases h

/-- No sequence begins with a text that is detached. -/
theorem sequenceTail?_of_detached (h : Detached rest) : sequenceTail? rest = none := by
  cases rest with
  | nil => rfl
  | cons c rest =>
    have bracket : c ≠ '[' := by
      rintro rfl
      cases h
    have upper : between '@' 'Z' c = false := h.any_head (by decide) (by decide)
    have others : between '\\' '_' c = false := h.any_head (by decide) (by decide)
    rw [sequenceTail?_cons bracket, upper, others]
    rfl

/-- The sequence at the front of a text ends within it, or there is none. -/
theorem sequenceTail?_append (h : Detached rest) (cs : List Char) :
    sequenceTail? (cs ++ rest) = sequenceTail? cs := by
  cases cs with
  | nil => exact sequenceTail?_of_detached h
  | cons c cs =>
    by_cases bracket : c = '['
    · subst bracket
      have run {lo hi : Char} (low : ' ' ≤ lo) (high : hi ≤ '~') (cs : List Char) :
          (cs ++ rest).takeWhile (between lo hi) = cs.takeWhile (between lo hi) ∧
            (cs ++ rest).drop (cs.takeWhile (between lo hi)).length =
              cs.drop (cs.takeWhile (between lo hi)).length ++ rest :=
        ⟨takeWhile_append_of_head (h.any_head low high) cs,
          List.drop_append_of_le_length (List.takeWhile_prefix _).length_le⟩
      rw [List.cons_append, sequenceTail?_bracket, sequenceTail?_bracket]
      dsimp only
      rw [(run (by decide) (by decide) cs).1, (run (by decide) (by decide) cs).2,
        (run (by decide) (by decide) _).1, (run (by decide) (by decide) _).2,
        any_head_append (h.any_head (by decide) (by decide))]
    · rw [List.cons_append, sequenceTail?_cons bracket, sequenceTail?_cons bracket]

/-! ### What is stripped -/

theorem stripSequences_eq_drop (n : Nat) (cs : List Char) :
    stripSequences n cs = stripSequences 0 (cs.drop n) := by
  induction cs generalizing n with
  | nil => cases n <;> rfl
  | cons c cs ih =>
    cases n with
    | zero => rfl
    | succ n => exact ih n

/-- The characters in front of a detached text are stripped by themselves. -/
theorem stripSequences_append (h : Detached rest) {skip : Nat} (short : skip ≤ cs.length) :
    stripSequences skip (cs ++ rest) = stripSequences skip cs ++ stripSequences 0 rest := by
  induction cs generalizing skip with
  | nil =>
    obtain rfl : skip = 0 := Nat.le_zero.1 short
    rfl
  | cons c cs ih =>
    cases skip with
    | succ skip => exact ih (Nat.le_of_succ_le_succ short)
    | zero =>
      have same : (if c = escapeChar then sequenceTail? (cs ++ rest) else none) =
          if c = escapeChar then sequenceTail? cs else none := by rw [sequenceTail?_append h]
      rw [List.cons_append, stripSequences, stripSequences, same]
      split
      · next tail found =>
        split at found
        · exact ih (le_length_of_sequenceTail? found)
        · cases found
      · rw [ih (Nat.zero_le _), List.cons_append]

/-- Characters without an escape character are kept, whatever stands behind them. -/
theorem stripSequences_plain_append (plain : escapeChar ∉ cs) (rest : List Char) :
    stripSequences 0 (cs ++ rest) = cs ++ stripSequences 0 rest := by
  induction cs with
  | nil => rfl
  | cons c cs ih =>
    obtain ⟨here, there⟩ := not_or.1 (List.mem_cons.not.1 plain)
    rw [List.cons_append, stripSequences, if_neg (Ne.symm here), ih there, List.cons_append]

/-- The sequence of a style is stripped, whatever stands behind it. -/
theorem stripSequences_style {number : List Char} (digits : number.all (between '0' '?') = true)
    (rest : List Char) :
    stripSequences 0 (escapeChar :: '[' :: number ++ ['m'] ++ rest) = stripSequences 0 rest := by
  have found : sequenceTail? ('[' :: (number ++ 'm' :: rest)) = some (number.length + 2) := by
    have params : (number ++ 'm' :: rest).takeWhile (between '0' '?') = number := by
      rw [takeWhile_append_of_head rfl]
      exact List.takeWhile_eq_self_iff.2 (List.all_eq_true.1 digits)
    rw [sequenceTail?_bracket]
    dsimp only
    rw [params, List.drop_left, List.takeWhile_cons_of_neg (by decide), List.length_nil, List.drop_zero,
      List.head?_cons, Option.any_some, if_pos (by decide), Nat.add_zero, Nat.add_comm]
  have behind : ('[' :: (number ++ 'm' :: rest)).drop (number.length + 2) = rest := by
    rw [List.drop_succ_cons, ← List.drop_drop, List.drop_left]
    rfl
  rw [List.cons_append, List.cons_append, List.append_assoc, List.singleton_append, List.cons_append,
    stripSequences, if_pos rfl, found]
  dsimp only
  rw [stripSequences_eq_drop, behind]

/-! ### Texts -/

variable {palette : Palette} {styles : List Style} {text back : String}

theorem toList_stripColours (text : String) : (stripColours text).toList = stripSequences 0 text.toList :=
  String.toList_ofList

/-- A text in front of a detached one is stripped by itself. -/
theorem stripColours_append (h : Detached back.toList) (text : String) :
    stripColours (text ++ back) = stripColours text ++ stripColours back := by
  rw [← String.toList_inj, String.toList_append, toList_stripColours, toList_stripColours,
    toList_stripColours, String.toList_append, stripSequences_append h (Nat.zero_le _)]

/-- A text without an escape character is kept, whatever stands behind it. -/
theorem stripColours_plain_append (plain : escapeChar ∉ text.toList) (back : String) :
    stripColours (text ++ back) = text ++ stripColours back := by
  rw [← String.toList_inj, String.toList_append, toList_stripColours, toList_stripColours,
    String.toList_append, stripSequences_plain_append plain]

theorem stripColours_plain (plain : escapeChar ∉ text.toList) : stripColours text = text := by
  have kept := stripColours_plain_append plain ""
  rwa [String.append_empty, show stripColours "" = "" from rfl, String.append_empty] at kept

/-! ### Painted texts -/

theorem Style.digits (style : Style) : style.number.toList.all (between '0' '?') = true := by
  cases style <;> rfl

theorem stripColours_sequence_append {number : String}
    (digits : number.toList.all (between '0' '?') = true) (back : String) :
    stripColours (Style.sequence number ++ back) = stripColours back := by
  rw [← String.toList_inj, toList_stripColours, toList_stripColours, String.toList_append,
    Style.sequence, String.toList_ofList, stripSequences_style digits]

theorem stripColours_styles_append (styles : List Style) (back : String) :
    stripColours (String.join (styles.map fun style => Style.sequence style.number) ++ back) =
      stripColours back := by
  induction styles with
  | nil => rw [List.map_nil, String.join_nil, String.empty_append]
  | cons style styles ih =>
    rw [List.map_cons, String.join_cons, String.append_assoc, stripColours_sequence_append style.digits, ih]

/-- A style makes no difference where a text is stripped by itself. -/
theorem stripColours_paint_append
    (apart : stripColours (text ++ back) = stripColours text ++ stripColours back) :
    stripColours (palette.paint styles text ++ back) = stripColours text ++ stripColours back := by
  fun_cases Palette.paint palette styles text with
  | case1 => exact apart
  | case2 => exact apart
  | case3 =>
    have reset : Detached (Style.sequence "0" ++ back).toList := by
      rw [String.toList_append]
      exact .escape _
    rw [String.append_assoc, String.append_assoc, stripColours_styles_append, stripColours_append reset,
      stripColours_sequence_append rfl]

/-- Behind a text that ends within a sequence, a reset makes a difference. -/
example : stripColours (Palette.plain.dimText "\x1b[" ++ "A") = "" ∧
    stripColours (Palette.coloured.dimText "\x1b[" ++ "A") = "\x1b[A" := by
  decide

theorem stripColours_paint (palette : Palette) (styles : List Style) (text : String) :
    stripColours (palette.paint styles text) = stripColours text := by
  have alone : stripColours (palette.paint styles text ++ "") = stripColours text ++ stripColours "" :=
    stripColours_paint_append (stripColours_append (show Detached "".toList from .nil) text)
  rwa [String.append_empty, show stripColours "" = "" from rfl, String.append_empty] at alone

/-- A text of the diagnostic's own is kept, painted or not. -/
theorem stripColours_label_append (plain : escapeChar ∉ text.toList) (back : String) :
    stripColours (palette.paint styles text ++ back) = text ++ stripColours back := by
  have kept := stripColours_plain plain
  rw [stripColours_paint_append (by rw [kept, stripColours_plain_append plain]), kept]

/-! ### Rows -/

/-- Rows are stripped one by one. -/
theorem stripColours_intercalate (rows : List String) :
    stripColours ("\n".intercalate rows) = "\n".intercalate (rows.map stripColours) := by
  induction rows with
  | nil => rfl
  | cons row rows ih =>
    cases rows with
    | nil => rw [List.map_singleton, String.intercalate_singleton, String.intercalate_singleton]
    | cons next rows =>
      have feed : Detached ("\n" ++ "\n".intercalate (next :: rows)).toList := by
        rw [String.toList_append]
        exact .feed _
      rw [List.map_cons, List.map_cons, String.intercalate_cons_cons, String.intercalate_cons_cons,
        String.append_assoc, stripColours_append feed, stripColours_plain_append (by decide), ih,
        List.map_cons, String.append_assoc]

/-- Among other rows, what is left of some depends on what is left of each. -/
theorem stripColours_rows {rows rows' : List String} (same : rows.map stripColours = rows'.map stripColours)
    (above below : List String) :
    stripColours ("\n".intercalate (above ++ rows ++ below)) =
      stripColours ("\n".intercalate (above ++ rows' ++ below)) := by
  rw [stripColours_intercalate, stripColours_intercalate]
  simp only [List.map_append, same]

theorem not_mem_append {front back : String} (first : c ∉ front.toList) (second : c ∉ back.toList) :
    c ∉ (front ++ back).toList := by
  rw [String.toList_append, List.mem_append]
  exact not_or.2 ⟨first, second⟩

theorem not_mem_toString (other : c.isDigit = false) (n : Nat) : c ∉ (toString n).toList := by
  rw [Nat.toString_eq_ofList_toDigits, String.toList_ofList]
  intro mem
  have digit := Nat.isDigit_of_mem_toDigits (by decide) (by decide) mem
  exact Bool.false_ne_true (other.symm.trans digit)

theorem escape_not_mem_number (n : Int) : escapeChar ∉ (toString n).toList := by
  cases n with
  | ofNat n => exact not_mem_toString (by decide) n
  | negSucc n =>
    rw [show toString (Int.negSucc n) = "-" ++ toString (n + 1) from rfl]
    exact not_mem_append (by decide) (not_mem_toString (by decide) (n + 1))

theorem escape_not_mem_blanks (n : Nat) : escapeChar ∉ (replicate n ' ').toList := by
  rw [replicate, String.toList_ofList]
  exact fun mem => absurd (List.eq_of_mem_replicate mem) (by decide)

theorem escape_not_mem_text (code : Code) : escapeChar ∉ code.text.toList := by
  cases code <;> decide

theorem escape_not_mem_docsUrl (code : Code) : escapeChar ∉ code.docsUrl.toList :=
  not_mem_append (by decide) (by cases code <;> decide +kernel)

/-- Of a numbered line, what it shows is stripped, and nothing else. -/
theorem stripColours_sourceLine (palette : Palette) (n : Int) (content : String) (isError : Bool) :
    stripColours (palette.sourceLine n content isError) =
      Palette.plain.sourceLine n (stripColours content) isError := by
  have number : escapeChar ∉ ((if isError then ">" else " ") ++ alignRight 3 (toString n)).toList :=
    not_mem_append (by cases isError <;> decide)
      (not_mem_append (escape_not_mem_blanks _) (escape_not_mem_number n))
  have body : stripColours (if isError then palette.errorLine content else palette.dimText content) =
      stripColours content := by
    cases isError <;> exact stripColours_paint palette _ content
  unfold Palette.sourceLine
  dsimp only
  rw [String.append_assoc, stripColours_label_append number, stripColours_plain_append (by decide), body,
    ← String.append_assoc]
  cases isError <;> rfl

/-- Of an excerpt, the lines that it shows are stripped, and nothing else. -/
theorem stripColours_format (palette : Palette) (s : Snippet) :
    stripColours (s.format palette) =
      Snippet.format .plain { s with lines := s.lines.map fun row => (row.1, stripColours row.2) } := by
  have caret_plain (column : Int) : escapeChar ∉ (caret column).toList :=
    not_mem_append (escape_not_mem_blanks _) (by decide)
  have bar : stripColours (palette.dimText "   |") = "   |" := by
    rw [Palette.dimText, stripColours_paint, stripColours_plain (by decide)]
  have lines : (s.lines.map fun row =>
        palette.sourceLine row.1 row.2 (row.1 = s.errorLine)).map stripColours =
      (s.lines.map fun row => (row.1, stripColours row.2)).map fun row =>
        Palette.plain.sourceLine row.1 row.2 (row.1 = s.errorLine) := by
    rw [List.map_map, List.map_map]
    exact List.map_congr_left fun row _ => stripColours_sourceLine palette _ _ _
  have pointer : (s.column.toList.map fun column =>
        palette.dimText "   |" ++ " " ++ palette.errorLine (caret column)).map stripColours =
      s.column.toList.map fun column => "   |" ++ " " ++ caret column := by
    rw [List.map_map]
    refine List.map_congr_left fun column _ => ?_
    rw [Function.comp_apply, Palette.dimText, String.append_assoc, stripColours_label_append (by decide),
      stripColours_plain_append (by decide), Palette.errorLine, stripColours_paint,
      stripColours_plain (caret_plain column), String.append_assoc]
  unfold Snippet.format
  dsimp only
  rw [stripColours_intercalate, List.map_append, List.map_append, List.map_cons, List.map_cons,
    List.map_nil, bar, lines, pointer]
  rfl

/-! ### Reports -/

/-- A row with a word of the diagnostic's own in front. -/
theorem stripColours_labelled {lead label : String} (plain : escapeChar ∉ lead.toList)
    (word : escapeChar ∉ label.toList) (text : String) :
    stripColours (lead ++ palette.paint styles label ++ " " ++ text) =
      lead ++ label ++ " " ++ stripColours text := by
  rw [String.append_assoc, String.append_assoc, stripColours_plain_append plain,
    stripColours_label_append word, stripColours_plain_append (by decide), String.append_assoc,
    String.append_assoc]

theorem stripColours_docsRow (palette : Palette) (code : Code) :
    stripColours (docsRow palette code) = docsRow .plain code := by
  rw [docsRow, Palette.dimText, stripColours_labelled (by decide) (by decide), Palette.docsUrl,
    stripColours_paint, stripColours_plain (escape_not_mem_docsUrl code)]
  rfl

theorem stripColours_errorHeader (palette : Palette) (code : Code) (message : String) :
    stripColours (palette.errorHeader code.text message) =
      code.text ++ ": " ++ stripColours message := by
  have header : palette.errorHeader code.text message = palette.errorCode code.text ++ ": " ++ message := by
    cases code <;> rfl
  rw [header, Palette.errorCode, String.append_assoc, stripColours_label_append (escape_not_mem_text code),
    stripColours_plain_append (by decide), String.append_assoc]

theorem SyntaxReport.stripColours_compact (palette : Palette) (r : SyntaxReport) :
    stripColours (r.compact palette) = stripColours (r.compact .plain) := by
  unfold SyntaxReport.compact
  refine stripColours_rows ?_ _ _
  split
  · split
    · rfl
    · rw [List.map_singleton, List.map_singleton, stripColours_format, stripColours_format]
  · rfl

namespace RenderReport

variable (palette : Palette) (r : RenderReport)

theorem stripColours_locationRow :
    stripColours (r.locationRow palette) = "  Location: " ++ stripColours r.location := by
  rw [locationRow, stripColours_plain_append (by decide), Palette.location, stripColours_paint]

theorem map_middleRows :
    (r.middleRows palette).map stripColours = (r.middleRows .plain).map stripColours := by
  unfold middleRows
  rw [List.map_append, List.map_append, List.map_map, List.map_map]
  congr 1
  rw [List.map_map]
  refine List.map_congr_left fun s _ => ?_
  rw [Function.comp_apply, Function.comp_apply, stripColours_format, stripColours_format]

/-- The rows of advice. -/
theorem map_advice {lead word : String} (plain : escapeChar ∉ lead.toList)
    (label : escapeChar ∉ word.toList) (advice : Option String) :
    (advice.toList.map (lead ++ palette.hint word ++ " " ++ ·)).map stripColours =
      advice.toList.map fun text => lead ++ word ++ " " ++ stripColours text := by
  rw [List.map_map]
  exact List.map_congr_left fun text _ => stripColours_labelled plain label text

theorem stripColours_text : stripColours (r.text palette) = stripColours (r.text .plain) := by
  have place (shown : Bool) : (if shown then [r.locationRow palette] else []).map stripColours =
      (if shown then [r.locationRow .plain] else []).map stripColours := by
    cases shown with
    | false => rfl
    | true => exact congrArg ([·]) ((r.stripColours_locationRow palette).trans
        (r.stripColours_locationRow .plain).symm)
  unfold text
  dsimp only
  rw [stripColours_intercalate, stripColours_intercalate]
  simp only [List.map_append]
  rw [place, map_middleRows palette, map_advice palette (by decide) (by decide),
    map_advice .plain (by decide) (by decide)]

theorem stripColours_compact : stripColours (r.compact palette) = stripColours (r.compact .plain) := by
  unfold compact
  dsimp only
  rw [stripColours_intercalate, stripColours_intercalate]
  simp only [List.map_append, List.map_cons, List.map_nil]
  rw [map_middleRows palette, map_advice palette (by decide) (by decide),
    map_advice .plain (by decide) (by decide), stripColours_docsRow palette,
    stripColours_errorHeader, stripColours_errorHeader, stripColours_locationRow,
    stripColours_locationRow, stripColours_docsRow .plain]

end RenderReport

/-- With colours and without, the same is left of a report when its escape sequences are stripped,
whatever its message, its place, the lines that it shows, the tag and the advice hold; the same is so
of the text of every fault. A text without escape characters is what is left of it. -/
theorem stripColours_coloured :
    (∀ r : RenderReport, stripColours (r.text .coloured) = stripColours (r.text .plain) ∧
        stripColours (r.compact .coloured) = stripColours (r.compact .plain)) ∧
      (∀ r : SyntaxReport, stripColours (r.compact .coloured) = stripColours (r.compact .plain)) ∧
      (∀ (heap : Heap) (fault : Fault), (heap.faultText .coloured fault).map stripColours =
        (heap.faultText .plain fault).map stripColours) ∧
      ∀ text : String, escapeChar ∉ text.toList → stripColours text = text := by
  refine ⟨fun r => ⟨r.stripColours_text .coloured, r.stripColours_compact .coloured⟩,
    fun r => r.stripColours_compact .coloured, fun heap fault => ?_, fun _ => stripColours_plain⟩
  cases fault with
  | render report => exact congrArg Except.ok (report.stripColours_text .coloured)
  | raised => rfl
  | unbound => rfl
  | chunkType => rfl
  | template => rfl
  | aborted => rfl

/-- A report of which the message, the name and a line end within a sequence, and one without escape
characters, of which the text is what is left. -/
theorem stripColours_coloured_unfinished :
    (∃ r : RenderReport, r.message = "no\x1b[" ∧ r.name = some "a.html\x1b" ∧
      r.snippet = some ⟨[(1, "<p>\x1b[3")], 1, none⟩ ∧
      stripColours (r.text .coloured) = stripColours (r.text .plain) ∧
      stripColours (r.compact .coloured) = stripColours (r.compact .plain)) ∧
    ∃ r : RenderReport, r.suggestion = some "x" ∧
      escapeChar ∉ (r.text .plain).toList ∧ escapeChar ∈ (r.text .coloured).toList ∧
      stripColours (r.text .coloured) = r.text .plain := by
  constructor
  · exact ⟨⟨"no\x1b[", none, some "a.html\x1b", none, none, some ⟨[(1, "<p>\x1b[3")], 1, none⟩,
      .runtimeError⟩, rfl, rfl, rfl, stripColours_coloured.1 _⟩
  · have plain : escapeChar ∉
        (RenderReport.text .plain ⟨"no", none, none, none, some "x", none, .runtimeError⟩).toList := by
      decide +kernel
    exact ⟨_, rfl, plain, by decide +kernel,
      (stripColours_coloured.1 _).1.trans (stripColours_coloured.2.2.2 _ plain)⟩

end StreamTemplate.Diagnostic
