import StreamTemplate.Proofs.Diagnostic.Colours
import StreamTemplate.Proofs.Diagnostic.Excerpt

/-!
# Where the caret stands

A diagnostic shows a line behind its number, which takes up three columns at least, and a caret behind
a bar whose place is fixed. So the caret is to the left of the character that it is meant for, by
a number of columns that depends on the width of the number only; and as it is below all lines of an
excerpt, it is directly below the line of the error only if no other line follows (`caret_beside`).
-/

namespace StreamTemplate.Diagnostic

open Text

/-- The rows of a text. -/
def rows (text : String) : List (List Char) :=
  splitFeeds text.toList

/-- What stands in front of a line in its row: a marker, the number of the line, and a bar. -/
def gutter (marker : String) (n : Nat) : List Char :=
  (marker ++ alignRight 3 (toString n) ++ " | ").toList

/-- How many columns the number of a line takes up. -/
def numberWidth (n : Nat) : Nat :=
  max 3 (toString n).length

/-- The last caret of a text stands `down` rows below the row that shows a line behind `front`, and
`left` columns to the left of the character at column `col` of the line. -/
def Points (text : String) (front line : List Char) (col down left : Nat) : Prop :=
  ∃ above between pad below,
    rows text = above ++ (front ++ line) :: between ++ (pad ++ ['^']) :: below ∧
      between.length + 1 = down ∧ pad.length + left = front.length + col ∧ ∀ row ∈ pad :: below, '^' ∉ row

variable {source line : String} {n col : Nat} {marker text : String}

/-! ### Rows -/

theorem length_alignRight (width : Nat) (s : String) :
    (alignRight width s).length = max width s.length := by
  rw [alignRight, replicate, String.length_append, String.length_ofList, List.length_replicate]
  omega

theorem length_gutter (marker : String) (n : Nat) :
    (gutter marker n).length = marker.length + numberWidth n + 3 := by
  rw [gutter, String.length_toList, String.length_append, String.length_append, length_alignRight]
  rfl

theorem feed_not_mem_gutter (h : '\n' ∉ marker.toList) (n : Nat) : '\n' ∉ gutter marker n := by
  simpa [gutter, alignRight, replicate, h] using not_mem_toString (c := '\n') (by decide) n

theorem feed_not_mem_sourceLines (h : line ∈ sourceLines source) : '\n' ∉ line.toList := by
  obtain ⟨l, mem, rfl⟩ := List.mem_map.1 h
  rw [String.toList_ofList]
  exact fun feed => absurd (isLineBreak_of_mem_splitLines _ l mem _ feed) (by decide)

/-! ### The rows of an excerpt -/

/-- A numbered line, without colours. -/
theorem toList_sourceLine (n : Nat) (line : String) (isError : Bool) :
    (Palette.plain.sourceLine n line isError).toList =
      gutter (if isError then ">" else " ") n ++ line.toList := by
  rw [gutter, ← String.toList_append]
  cases isError <;> rfl

theorem feed_not_mem_sourceLine (h : '\n' ∉ line.toList) (n : Nat) (isError : Bool) :
    '\n' ∉ (Palette.plain.sourceLine n line isError).toList := by
  rw [toList_sourceLine, List.mem_append, not_or]
  exact ⟨feed_not_mem_gutter (by cases isError <;> decide) n, h⟩

/-- The row of a caret: a bar, and blanks up to the caret. -/
def caretRow (col : Nat) : List Char :=
  [' ', ' ', ' ', '|', ' '] ++ List.replicate col ' ' ++ ['^']

theorem toList_caret (col : Nat) : ("   | " ++ caret col).toList = caretRow col := by
  simp [caret, replicate, caretRow]

theorem feed_not_mem_caret (col : Nat) : '\n' ∉ ("   | " ++ caret col).toList := by
  rw [toList_caret]
  simp [caretRow]

/-- The rows of an excerpt around the line of the error. -/
theorem rows_format {s : Snippet} {before : List (Int × String)} {after : List (Nat × String)}
    (lines : s.lines = before ++ ((n : Int), line) :: after.map (fun row => ((row.1 : Int), row.2)))
    (error : s.errorLine = n) (column : s.column = some (col : Int)) (here : '\n' ∉ line.toList)
    (others : ∀ row ∈ after, '\n' ∉ row.2.toList) :
    ∃ above between, rows (s.format .plain) =
        above ++ (gutter ">" n ++ line.toList) :: between ++ caretRow col :: ["   |".toList] ∧
      between.length = after.length := by
  let row (numbered : Int × String) : String :=
    Palette.plain.sourceLine numbered.1 numbered.2 (numbered.1 = s.errorLine)
  let following := after.map fun numbered => row (numbered.1, numbered.2)
  have texts : s.format .plain = "\n".intercalate (("   |" :: before.map row) ++
      ((Palette.plain.sourceLine n line true :: following) ++ ["   | " ++ caret col, "   |"])) := by
    have shape : s.format .plain = "\n".intercalate ("   |" :: s.lines.map row ++
        s.column.toList.map (fun col => "   | " ++ caret col) ++ ["   |"]) := rfl
    have this_line : row (n, line) = Palette.plain.sourceLine n line true := by simp [row, error]
    have rest : (after.map fun numbered => ((numbered.1 : Int), numbered.2)).map row = following :=
      List.map_map
    rw [shape, lines, column, List.map_append, List.map_cons, this_line, rest]
    simp only [Option.toList, List.map_cons, List.map_nil, List.cons_append, List.append_assoc,
      List.nil_append]
  have free : ∀ text ∈ Palette.plain.sourceLine n line true :: following, '\n' ∉ text.toList := by
    refine List.forall_mem_cons.2 ⟨feed_not_mem_sourceLine here n true, fun text mem => ?_⟩
    obtain ⟨numbered, there, rfl⟩ := List.mem_map.1 mem
    exact feed_not_mem_sourceLine (others numbered there) _ _
  have caret_free : ∀ text ∈ ["   | " ++ caret col, "   |"], '\n' ∉ text.toList :=
    List.forall_mem_cons.2 ⟨feed_not_mem_caret col, by decide⟩
  refine ⟨("   |" :: before.map row).flatMap fun text => splitFeeds text.toList,
    following.map String.toList, ?_, by rw [List.length_map, List.length_map]⟩
  rw [texts, rows, splitFeeds_intercalate (by simp), List.flatMap_append, List.flatMap_append,
    flatMap_splitFeeds free, flatMap_splitFeeds caret_free]
  simp only [List.map_cons, List.map_nil, toList_sourceLine, toList_caret, if_true, List.append_assoc,
    List.cons_append]

/-- Rows are taken by their place: what becomes of the first `m` from a place on, if each of them is
taken and no other. -/
theorem filterMap_zipIdx_from {α β : Type} {f : α × Nat → Option β} {g : α × Nat → β} {xs : List α}
    {x : α} {k m : Nat} (here : xs[k]? = some x) (before : k < m)
    (late : ∀ a i, m ≤ i → f (a, i) = none) (taken : ∀ a i, k ≤ i → i < m → f (a, i) = some (g (a, i))) :
    xs.zipIdx.filterMap f =
      (xs.take k).zipIdx.filterMap f ++ g (x, k) :: ((((xs.take m).drop (k + 1)).zipIdx (k + 1)).map g) := by
  have kept : (xs.take m)[k]? = some x := by rw [List.getElem?_take_of_lt before, here]
  obtain ⟨short, same⟩ := List.getElem?_eq_some_iff.1 kept
  have behind : (((xs.take m).drop (k + 1)).zipIdx (k + 1)).filterMap f =
      (((xs.take m).drop (k + 1)).zipIdx (k + 1)).map g := by
    rw [← List.filterMap_eq_map]
    refine List.filterMap_congr fun row mem => ?_
    have low := List.le_snd_of_mem_zipIdx mem
    have high := List.snd_lt_add_of_mem_zipIdx mem
    rw [List.length_drop, List.length_take] at high
    exact taken row.1 row.2 (by omega) (by omega)
  have split : xs.take m = xs.take k ++ x :: (xs.take m).drop (k + 1) := by
    conv => lhs; rw [← List.take_append_drop k (xs.take m), List.drop_eq_getElem_cons short, same]
    rw [List.take_take, Nat.min_eq_left before.le]
  have place : (xs.take k).length = k := by
    rw [List.length_take] at short ⊢
    omega
  rw [← filterMap_zipIdx_take late]
  conv => lhs; rw [split]
  rw [List.zipIdx_append, List.filterMap_append, Nat.zero_add, place, List.zipIdx_cons,
    List.filterMap_cons_some (taken x k le_rfl before), behind]

/-- A snippet shows the line of the error, and below it as many lines as it may and there are. -/
theorem exists_lines_ofSource (pos : 0 < n) (shown : (sourceLines source)[n - 1]? = some line)
    (context : Nat) (column : Option Int) :
    ∃ before, ∃ after : List (Nat × String),
      (Snippet.ofSource source n context column).lines =
          before ++ ((n : Int), line) :: after.map (fun row => ((row.1 : Int), row.2)) ∧
        after.length = min context ((sourceLines source).length - n) ∧
        ∀ row ∈ after, row.2 ∈ sourceLines source := by
  let behind := (((sourceLines source).take (n + context)).drop (n - 1 + 1)).zipIdx (n - 1 + 1)
  obtain ⟨before, lines⟩ : ∃ before, (Snippet.ofSource source n context column).lines =
      before ++ ((n : Int), line) :: behind.map fun row => ((row.2 : Int) + 1, row.1) := by
    have lines : (Snippet.ofSource source n context column).lines = _ :=
      filterMap_zipIdx_from (g := fun row => ((row.2 : Int) + 1, row.1)) shown
        (show n - 1 < n + context by omega) (fun a i late => if_neg (by omega))
        fun a i low high => if_pos (by omega)
    rw [show ((n - 1 : Nat) : Int) + 1 = n by omega] at lines
    exact ⟨_, lines⟩
  refine ⟨before, behind.map fun row => (row.2 + 1, row.1), ?_, ?_, ?_⟩
  · rw [lines, List.map_map]
    rfl
  · rw [List.length_map, List.length_zipIdx, List.length_drop, List.length_take]
    omega
  · intro row mem
    obtain ⟨place, there, rfl⟩ := List.mem_map.1 mem
    exact List.mem_of_mem_take (List.mem_of_mem_drop (List.fst_mem_of_mem_zipIdx there))

/-! ### The caret -/

/-- A caret is behind a bar, whatever stands in front of the line that it belongs to. -/
theorem points_of_rows {above between below : List (List Char)} {front line : List Char} {left : Nat}
    (split : rows text = above ++ (front ++ line) :: between ++ caretRow col :: below)
    (wide : 5 + left = front.length) (last : ∀ row ∈ below, '^' ∉ row) :
    Points text front line col (between.length + 1) left := by
  refine ⟨above, between, _, below, split, rfl, ?_, List.forall_mem_cons.2 ⟨?_, last⟩⟩
  · rw [List.length_append, List.length_replicate, ← wide]
    exact Nat.add_right_comm 5 col left
  · simp

/-- More rows above, and rows without a caret below, change nothing. -/
theorem Points.within {outer : String} {above below : List (List Char)} {front line : List Char}
    {down left : Nat} (h : Points text front line col down left)
    (split : rows outer = above ++ rows text ++ below) (last : ∀ row ∈ below, '^' ∉ row) :
    Points outer front line col down left := by
  obtain ⟨above', between, pad, below', inner, near, place, free⟩ := h
  refine ⟨above ++ above', between, pad, below' ++ below, ?_, near, place, ?_⟩
  · rw [split, inner]
    simp only [List.append_assoc, List.cons_append]
  · obtain ⟨first, others⟩ := List.forall_mem_cons.1 free
    exact List.forall_mem_cons.2 ⟨first, List.forall_mem_append.2 ⟨others, last⟩⟩

/-- In an excerpt the caret is below the lines that follow. -/
theorem points_format (pos : 0 < n) (shown : (sourceLines source)[n - 1]? = some line)
    (context col : Nat) :
    Points ((Snippet.ofSource source n context (some (col : Int))).format .plain) (gutter ">" n)
      line.toList col (min context ((sourceLines source).length - n) + 1) (numberWidth n - 1) := by
  obtain ⟨before, after, lines, many, each⟩ :=
    exists_lines_ofSource pos shown context (some (col : Int))
  obtain ⟨above, between, split, few⟩ := rows_format lines rfl rfl
    (feed_not_mem_sourceLines (List.mem_of_getElem? shown))
    fun row mem => feed_not_mem_sourceLines (each row mem)
  rw [← many, ← few]
  refine points_of_rows split ?_ (by decide)
  rw [length_gutter, numberWidth, show ">".length = 1 from rfl]
  omega

/-- In a report the caret is directly below the line. -/
theorem points_report (pos : 0 < n) (shown : (sourceLines source)[n - 1]? = some line)
    {r : SyntaxReport} (written : r.source = some source) (here : r.line = some (n : Int))
    (column : r.col = some (col : Int)) :
    Points r.text (gutter "" n) line.toList col 1 (numberWidth n - 2) := by
  have free : '\n' ∉ gutter "" n ++ line.toList := by
    rw [List.mem_append, not_or]
    exact ⟨feed_not_mem_gutter (by decide) n, feed_not_mem_sourceLines (List.mem_of_getElem? shown)⟩
  obtain ⟨header, text⟩ : ∃ header, r.text = header ++ r.excerpt := ⟨_, rfl⟩
  have excerpt : r.excerpt.toList = '\n' :: ("   |".toList ++ '\n' ::
      ((gutter "" n ++ line.toList) ++ '\n' :: ("   | " ++ caret col).toList)) := by
    rw [excerpt_of_line pos shown written here, column, show toString (n : Int) = toString n from rfl]
    simp [gutter]
  have split : rows r.text = (rows header ++ ["   |".toList]) ++ (gutter "" n ++ line.toList) :: [] ++
      caretRow col :: [] := by
    rw [rows, text, String.toList_append, excerpt, splitFeeds_append_feed,
      splitFeeds_append (by decide), splitFeeds_append free,
      splitFeeds_of_not_mem (feed_not_mem_caret col), toList_caret, ← rows]
    simp only [List.append_assoc, List.cons_append, List.nil_append]
  refine points_of_rows split ?_ (by simp)
  rw [length_gutter, numberWidth, show "".length = 0 from rfl]
  omega

/-- The row below an excerpt has no caret of its own. -/
theorem rows_docs (code : Code) :
    rows ("  Docs: " ++ code.docsUrl) = [("  Docs: " ++ code.docsUrl).toList] ∧
      '^' ∉ ("  Docs: " ++ code.docsUrl).toList := by
  have feed : '\n' ∉ ("  Docs: " ++ code.docsUrl).toList :=
    not_mem_append (by decide) (not_mem_append (by decide +kernel) (by cases code <;> decide +kernel))
  exact ⟨splitFeeds_of_not_mem feed,
    not_mem_append (by decide) (not_mem_append (by decide +kernel) (by cases code <;> decide +kernel))⟩

/-- In the compact form of a report the excerpt has one line, with the caret directly below it. -/
theorem points_compact (pos : 0 < n) (shown : (sourceLines source)[n - 1]? = some line)
    {r : SyntaxReport} (written : r.source = some source) (here : r.line = some (n : Int))
    (column : r.col = some (col : Int)) :
    Points (r.compact .plain) (gutter ">" n) line.toList col 1 (numberWidth n - 1) := by
  have some_text : source ≠ "" := by
    rintro rfl
    simp [sourceLines, splitLines] at shown
  have excerpt := points_format pos shown 0 col
  rw [Nat.zero_min, Nat.zero_add] at excerpt
  have shape : r.compact .plain = "\n".intercalate [r.code.text ++ ": " ++ r.message,
      "  --> " ++ r.location, (Snippet.ofSource source n (0 : Nat) (some (col : Int))).format .plain,
      "  Docs: " ++ r.code.docsUrl] := by
    simp only [SyntaxReport.compact, written, here, givenLine_of_pos pos, if_neg some_text, column]
    rfl
  have split : rows (r.compact .plain) =
      (rows (r.code.text ++ ": " ++ r.message) ++ rows ("  --> " ++ r.location)) ++
        rows ((Snippet.ofSource source n (0 : Nat) (some (col : Int))).format .plain) ++
        rows ("  Docs: " ++ r.code.docsUrl) := by
    rw [shape, rows, splitFeeds_intercalate (by simp)]
    simp only [List.flatMap_cons, List.flatMap_nil, List.append_nil, List.append_assoc, rows]
  obtain ⟨docs, no_caret⟩ := rows_docs r.code
  refine excerpt.within split fun row mem => ?_
  rw [docs, List.mem_singleton] at mem
  rwa [mem]

/-- The last caret of a diagnostic is to the left of the character that it is meant for, by two columns
less than the number of the line takes up in the text of a report, and by one less in its compact form
and in an excerpt; as a number takes up three columns at least, it is never in the column of the
character. It is directly below the line in a report. In an excerpt the lines that follow are between
them. -/
theorem caret_beside {source line : String} {n : Nat} (pos : 0 < n)
    (shown : (sourceLines source)[n - 1]? = some line) (col : Nat) :
    (∀ r : SyntaxReport, r.source = some source → r.line = some (n : Int) → r.col = some (col : Int) →
      Points r.text (gutter "" n) line.toList col 1 (numberWidth n - 2) ∧
        Points (r.compact .plain) (gutter ">" n) line.toList col 1 (numberWidth n - 1)) ∧
      ∀ context : Nat, Points ((Snippet.ofSource source n context (some (col : Int))).format .plain)
        (gutter ">" n) line.toList col (min context ((sourceLines source).length - n) + 1)
        (numberWidth n - 1) :=
  ⟨fun _ written here column =>
    ⟨points_report pos shown written here column, points_compact pos shown written here column⟩,
    fun context => points_format pos shown context col⟩

/-- A tag that is not closed, on the second of three lines. -/
theorem caret_beside_tag :
    (0 < 2 ∧ (sourceLines "a\nb <% c\nd")[2 - 1]? = some "b <% c") ∧
      Points (SyntaxReport.text ⟨"Unclosed", some 2, none, none, some "a\nb <% c\nd", some 2, .unclosedTag⟩)
        (gutter "" 2) "b <% c".toList 2 1 1 ∧
      Points (SyntaxReport.compact .plain
          ⟨"Unclosed", some 2, none, none, some "a\nb <% c\nd", some 2, .unclosedTag⟩)
        (gutter ">" 2) "b <% c".toList 2 1 2 ∧
      Points ((Snippet.ofSource "a\nb <% c\nd" 2 1 (some 2)).format .plain)
        (gutter ">" 2) "b <% c".toList 2 2 2 := by
  have second : 0 < 2 ∧ (sourceLines "a\nb <% c\nd")[2 - 1]? = some "b <% c" := by decide
  obtain ⟨reports, excerpts⟩ := caret_beside second.1 second.2 2
  obtain ⟨text, compact⟩ := reports
    ⟨"Unclosed", some 2, none, none, some "a\nb <% c\nd", some 2, .unclosedTag⟩ rfl rfl rfl
  exact ⟨second, text, compact, excerpts 1⟩

/-- The caret is meant for the character behind the blank. -/
example :
    (SyntaxReport.text ⟨"Unclosed", some 2, none, none, some "a\nb <% c\nd", some 2, .unclosedTag⟩ =
      "Syntax Error: Unclosed\n  --> <template>:2:2\n" ++
        "   |\n" ++
        "  2 | b <% c\n" ++
        "   |   ^") ∧
    ((Snippet.ofSource "a\nb <% c\nd" 2 1 (some 2)).format .plain =
      "   |\n" ++
      "   1 | a\n" ++
      ">  2 | b <% c\n" ++
      "   3 | d\n" ++
      "   |   ^\n" ++
      "   |") := by
  decide +kernel

end StreamTemplate.Diagnostic
