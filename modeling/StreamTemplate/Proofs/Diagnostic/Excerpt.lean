import StreamTemplate.Proofs.Markup.Cover
import StreamTemplate.Proofs.Text.Lines
import StreamTemplate.Program.Compile
import StreamTemplate.Render.Failure

/-!
# Excerpts show the line of the error

An error carries the number of a line as the lexer counts them, by line feeds; an excerpt takes the
line out of a list that is cut at every line boundary. Where no other boundary stands within the
lines up to the last one shown, the two numberings are the same, and an excerpt shows the line of the
error and its neighbours.
-/

namespace StreamTemplate.Diagnostic

open Markup Text

/-- The lines of a source as the lexer numbers them. -/
def numberedLines (source : String) : List (Int × String) :=
  (feedLines source.toList).zipIdx.map fun (line, i) => ((i : Int) + 1, String.ofList line)

/-- The lines whose numbers differ from that of a line by `context` at most. -/
def rowsAround (source : String) (line context : Int) : List (Int × String) :=
  (numberedLines source).filter fun row => line - context ≤ row.1 ∧ row.1 ≤ line + context

section Rows

variable {α β : Type}

/-- Rows that are taken by their place depend on the lines up to the last such place only. -/
theorem filterMap_zipIdx_take {f : α × Nat → Option β} {n : Nat}
    (late : ∀ a i, n ≤ i → f (a, i) = none) (xs : List α) :
    (xs.take n).zipIdx.filterMap f = xs.zipIdx.filterMap f := by
  have behind : ((xs.drop n).zipIdx (xs.take n).length).filterMap f = [] := by
    refine List.filterMap_eq_nil_iff.mpr fun row mem => ?_
    have place := List.le_snd_of_mem_zipIdx mem
    have left : row.2 < (xs.take n).length + (xs.drop n).length := List.snd_lt_add_of_mem_zipIdx mem
    refine late row.1 row.2 ?_
    simp only [List.length_take, List.length_drop] at place left
    omega
  calc (xs.take n).zipIdx.filterMap f
      = (xs.take n).zipIdx.filterMap f ++ ((xs.drop n).zipIdx (xs.take n).length).filterMap f := by
        rw [behind, List.append_nil]
    _ = xs.zipIdx.filterMap f := by
        conv => rhs; rw [← List.take_append_drop n xs, List.zipIdx_append, List.filterMap_append]
        rw [Nat.zero_add]

/-- One row has a given place. -/
theorem filter_zipIdx {xs : List α} {k : Nat} {x : α} (here : xs[k]? = some x) (start : Nat) :
    (xs.zipIdx start).filter (fun row => row.2 = start + k) = [(x, start + k)] := by
  induction xs generalizing k start with
  | nil => cases here
  | cons y xs ih =>
    rw [List.zipIdx_cons]
    cases k with
    | zero =>
      obtain rfl : y = x := Option.some.inj here
      have others : (xs.zipIdx (start + 1)).filter (fun row => row.2 = start + 0) = [] := by
        refine List.filter_eq_nil_iff.mpr fun row mem => ?_
        have place := List.le_snd_of_mem_zipIdx mem
        simp only [decide_eq_true_eq]
        omega
      rw [List.filter_cons_of_pos (by simp), others]
      rfl
    | succ k =>
      rw [List.filter_cons_of_neg (by simp), show start + (k + 1) = start + 1 + k by omega]
      exact ih here (start + 1)

end Rows

/-- No boundary other than line feeds, with a carriage return in front or without, stands within the
first `n` lines of a source. -/
def UnbrokenTo (source : String) (n : Nat) : Prop :=
  ∀ l ∈ (splitFeeds source.toList).take n, Unbroken l

instance (source : String) (n : Nat) : Decidable (UnbrokenTo source n) :=
  List.decidableBAll _ ((splitFeeds source.toList).take n)

variable {source : String} {n : Nat}

theorem take_sourceLines (h : UnbrokenTo source n) :
    (sourceLines source).take n = ((feedLines source.toList).map String.ofList).take n := by
  rw [sourceLines, ← List.map_take, take_splitLines h, List.map_take]

/-- A snippet shows the rows around the line of the error. -/
theorem ofSource_of_unbroken {context : Nat} {column : Option Int}
    (h : UnbrokenTo source (n + context)) :
    Snippet.ofSource source n context column = ⟨rowsAround source n context, n, column⟩ := by
  have late (line : String) (i : Nat) (behind : n + context ≤ i) :
      (if (n : Int) - 1 - context ≤ (i : Int) ∧ (i : Int) < n + context
        then some ((i : Int) + 1, line) else none) = none :=
    if_neg (by omega)
  have rows : (Snippet.ofSource source n context column).lines = rowsAround source n context := by
    unfold Snippet.ofSource rowsAround numberedLines
    rw [← filterMap_zipIdx_take late, take_sourceLines h, filterMap_zipIdx_take late,
      List.zipIdx_map, List.filterMap_map, List.filter_map, ← List.filterMap_eq_map,
      List.filterMap_filter]
    refine List.filterMap_congr fun (line, i) _ => ?_
    have same : ((n : Int) - 1 - context ≤ (i : Int) ∧ (i : Int) < n + context) ↔
        ((n : Int) - context ≤ (i : Int) + 1 ∧ (i : Int) + 1 ≤ n + context) := by omega
    simp only [Function.comp_apply, Prod.map_apply, id_eq, decide_eq_true_eq]
    exact if_congr same rfl rfl
  rw [← rows]
  rfl

/-- The line of a character, as the lexer counts it, is one of the lines. -/
theorem exists_line {before after : List Char} {c : Char} (place : source.toList = before ++ c :: after) :
    ∃ line, (feedLines source.toList)[lineAfter before - 1]? = some line := by
  have below := count_lt_length_feedLines before c after
  rw [← place] at below
  exact ⟨_, List.getElem?_eq_getElem below⟩

theorem givenLine_of_pos (pos : 0 < n) : givenLine (some (n : Int)) = some (n : Int) := by
  simp [givenLine, Option.filter, pos.ne']

/-- A report of a fault in the writing of a template shows the line of its number. -/
theorem excerpt_of_line {content : String} (pos : 0 < n)
    (row : (sourceLines source)[n - 1]? = some content) {r : SyntaxReport}
    (written : r.source = some source) (here : r.line = some (n : Int)) :
    r.excerpt = "\n   |\n" ++ Text.alignRight 3 (toString (n : Int)) ++ " | " ++ content ++
      (r.col.map fun col => "\n   | " ++ caret col).getD "" := by
  have positive : (n : Int) > 0 := by omega
  simp only [SyntaxReport.excerpt, written, here, givenLine_of_pos pos, if_pos positive,
    Int.toNat_natCast, row]

variable {line : List Char}

/-- As far as no other boundary stands within a line, that is the line as the lexer counts. -/
theorem getElem?_sourceLines (h : UnbrokenTo source n) (pos : 0 < n)
    (shown : (feedLines source.toList)[n - 1]? = some line) :
    (sourceLines source)[n - 1]? = some (String.ofList line) := by
  have taken := congrArg (·[n - 1]?) (take_sourceLines h)
  simpa [List.getElem?_take, Nat.sub_lt pos, shown] using taken

/-- Without neighbours there is one row around a line. -/
theorem rowsAround_zero (pos : 0 < n) (shown : (feedLines source.toList)[n - 1]? = some line) :
    rowsAround source n 0 = [((n : Int), String.ofList line)] := by
  have place (row : List Char × Nat) :
      decide ((n : Int) - 0 ≤ (row.2 : Int) + 1 ∧ (row.2 : Int) + 1 ≤ n + 0) =
        decide (row.2 = 0 + (n - 1)) :=
    decide_eq_decide.mpr (by omega)
  have one := filter_zipIdx shown 0
  unfold rowsAround numberedLines
  rw [List.filter_map, show _ ∘ _ = _ from funext place, one]
  simp
  omega

/-- The compact form shows that line, too, with the caret below it. -/
theorem compact_of_unbroken (h : UnbrokenTo source n) (pos : 0 < n)
    (shown : (feedLines source.toList)[n - 1]? = some line) (some_text : source ≠ "")
    {r : SyntaxReport} (written : r.source = some source) (here : r.line = some (n : Int))
    (palette : Palette) :
    r.compact palette = "\n".intercalate
      [r.code.text ++ ": " ++ r.message, "  --> " ++ r.location,
        Snippet.format palette ⟨[((n : Int), String.ofList line)], n, r.col⟩,
        "  Docs: " ++ r.code.docsUrl] := by
  have snippet : Snippet.ofSource source n 0 r.col =
      ⟨[((n : Int), String.ofList line)], n, r.col⟩ := by
    rw [← rowsAround_zero pos shown]
    exact ofSource_of_unbroken h
  simp only [SyntaxReport.compact, written, here, givenLine_of_pos pos, if_neg some_text, snippet]
  rfl

/-- A report of a failure shows the line and two lines on each side of it. -/
theorem snippet_of_unbroken (h : UnbrokenTo source (n + 2)) (pos : 0 < n) (some_text : source ≠ "")
    {c : RenderContext} (written : c.source = some source) (here : c.line = n)
    (tag : Option String) (fault : Fault) (text : String) :
    (c.report tag fault text).snippet = some ⟨rowsAround source n 2, n, none⟩ := by
  have snippet : Snippet.ofSource source n 2 none = ⟨rowsAround source n 2, n, none⟩ :=
    ofSource_of_unbroken h
  simp only [RenderContext.report, written, here, givenLine_of_pos pos, if_neg some_text, snippet]

/-- An error on the line of a character, as the lexer counts lines, is shown with this line, and a
failure also with its neighbours, unless a boundary that the lexer does not count stands within the
lines up to the last one shown. -/
theorem excerpts_of_unbroken {source : String} {before after : List Char} {c : Char}
    (place : source.toList = before ++ c :: after) :
    ∃ line, (feedLines source.toList)[lineAfter before - 1]? = some line ∧
      (UnbrokenTo source (lineAfter before) → ∀ r : SyntaxReport,
        r.source = some source → r.line = some (lineAfter before : Int) →
        r.excerpt = "\n   |\n" ++ Text.alignRight 3 (toString (lineAfter before : Int)) ++ " | " ++
            String.ofList line ++ (r.col.map fun col => "\n   | " ++ caret col).getD "" ∧
        ∀ palette, r.compact palette = "\n".intercalate
          [r.code.text ++ ": " ++ r.message, "  --> " ++ r.location,
            Snippet.format palette
              ⟨[((lineAfter before : Int), String.ofList line)], lineAfter before, r.col⟩,
            "  Docs: " ++ r.code.docsUrl]) ∧
      (UnbrokenTo source (lineAfter before + 2) → ∀ context : RenderContext,
        context.source = some source → context.line = lineAfter before →
        ∀ tag fault text, (context.report tag fault text).snippet =
          some ⟨rowsAround source (lineAfter before) 2, lineAfter before, none⟩) := by
  obtain ⟨line, shown⟩ := exists_line place
  have pos : 0 < lineAfter before := Nat.succ_pos _
  have some_text : source ≠ "" := by
    rintro rfl
    simp at place
  exact ⟨line, shown,
    fun unbroken r written here =>
      ⟨excerpt_of_line pos (getElem?_sourceLines unbroken pos shown) written here,
        compact_of_unbroken unbroken pos shown some_text written here⟩,
    fun unbroken context written here => snippet_of_unbroken unbroken pos some_text written here⟩

/-- A carriage return in front of the line feed changes nothing. -/
theorem second_line_shown :
    (⟨"Unclosed", some 2, none, none, some "a\r\n<% if x %>\nc", some 2, .unclosedBlock⟩ :
      SyntaxReport).excerpt = "\n   |\n  2 | <% if x %>\n   |   ^" := by
  obtain ⟨line, shown, unbroken, -⟩ := @excerpts_of_unbroken "a\r\n<% if x %>\nc" ['a', '\r', '\n']
    "% if x %>\nc".toList '<' (by decide)
  obtain rfl : "<% if x %>".toList = line := Option.some.inj (Eq.trans (by decide) shown)
  exact (unbroken (by decide) _ rfl rfl).1.trans (by decide)

/-- Behind a form feed the error is on line two and what is shown as line two is not that line. -/
example : (feedLines "a\x0cb\n<% if x %>\nc".toList)[1]? = some "<% if x %>".toList ∧
      (match Program.compile Tag.language {} "a\x0cb\n<% if x %>\nc" with
        | .error (.template r) => some (r.line, r.excerpt)
        | _ => none) = some (some 2, "\n   |\n  2 | b\n   |   ^") := by
  decide +kernel

end StreamTemplate.Diagnostic
