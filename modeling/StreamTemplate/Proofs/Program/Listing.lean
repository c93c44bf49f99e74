import StreamTemplate.Program.Compile
import StreamTemplate.Proofs.Text.Lines

/-!
# Lines of a program listing

Literal text is escaped in a listing, and takes up one line whatever it is; code is shown as it is
written, and takes up as many lines as it has. So each instruction is found in a listing below the
code in front of it, and the lines are the descriptions of the instructions, one by one, exactly if
all code is on one line (`listing_lines`).

Escaped text is read back from left to right (`unescapeLiteral_flatMap_append`): a backslash never
stands alone in it, so it is always clear where an escape begins.
-/

namespace StreamTemplate.Program

open Text

/-! ### Escaped text -/

/-- The letter that stands, behind a backslash, for a character of literal text. -/
def escapeLetter? (c : Char) : Option Char :=
  if c = '\\' then some '\\'
  else if c = '\n' then some 'n'
  else if c = '\r' then some 'r'
  else if c = '\x22' then some '\x22'
  else none

/-- A character of literal text as the listing shows it. -/
def escapedChar (c : Char) : List Char :=
  (escapeLetter? c).elim [c] (['\\', ·])

/-- The characters with each of the four escapes replaced by what it stands for, from left to
right. -/
def unescapeLiteral : List Char → List Char
  | '\\' :: '\\' :: rest => '\\' :: unescapeLiteral rest
  | '\\' :: 'n' :: rest => '\n' :: unescapeLiteral rest
  | '\\' :: 'r' :: rest => '\r' :: unescapeLiteral rest
  | '\\' :: '\x22' :: rest => '\x22' :: unescapeLiteral rest
  | c :: rest => c :: unescapeLiteral rest
  | [] => []

/-- Whether a double quote stands in the text that no backslash escapes. -/
def hasBareQuote : List Char → Bool
  | '\\' :: _ :: rest => hasBareQuote rest
  | c :: rest => c == '\x22' || hasBareQuote rest
  | [] => false

/-- The characters with every occurrence of one of them replaced. -/
def replaceChar (c : Char) (replacement cs : List Char) : List Char :=
  cs.flatMap fun d => if d = c then replacement else [d]

variable {c d : Char}

theorem toList_escapeLiteral (s : String) : (escapeLiteral s).toList = s.toList.flatMap escapedChar := by
  rw [escapeLiteral, String.toList_ofList]
  congr 1
  funext c
  unfold escapedChar escapeLetter?
  repeat' split
  all_goals rfl

theorem plain_of_escapeLetter? (h : escapeLetter? c = none) :
    c ≠ '\\' ∧ c ≠ '\n' ∧ c ≠ '\r' ∧ c ≠ '\x22' := by
  unfold escapeLetter? at h
  repeat' split at h
  all_goals simp_all

theorem escapedChar_of_some (h : escapeLetter? c = some d) : escapedChar c = ['\\', d] := by
  rw [escapedChar, h]
  rfl

theorem escapedChar_of_none (h : escapeLetter? c = none) : escapedChar c = [c] := by
  rw [escapedChar, h]
  rfl

theorem unescapeLiteral_escape (h : escapeLetter? c = some d) (rest : List Char) :
    unescapeLiteral ('\\' :: d :: rest) = c :: unescapeLiteral rest := by
  unfold escapeLetter? at h
  repeat' split at h
  all_goals cases h <;> simp_all [unescapeLiteral]

theorem unescapeLiteral_cons (h : c ≠ '\\') (rest : List Char) :
    unescapeLiteral (c :: rest) = c :: unescapeLiteral rest := by
  conv => lhs; unfold unescapeLiteral
  split <;> simp_all

theorem hasBareQuote_cons (h : c ≠ '\\') (rest : List Char) :
    hasBareQuote (c :: rest) = (c == '\x22' || hasBareQuote rest) := by
  conv => lhs; unfold hasBareQuote
  split <;> simp_all

/-- What stands behind escaped text does not change how it is read. -/
theorem unescapeLiteral_flatMap_append (cs rest : List Char) :
    unescapeLiteral (cs.flatMap escapedChar ++ rest) = cs ++ unescapeLiteral rest := by
  induction cs with
  | nil => rfl
  | cons c cs ih =>
    rw [List.flatMap_cons, List.append_assoc, List.cons_append, ← ih]
    cases letter : escapeLetter? c with
    | none =>
      rw [escapedChar_of_none letter]
      exact unescapeLiteral_cons (plain_of_escapeLetter? letter).1 _
    | some d =>
      rw [escapedChar_of_some letter]
      exact unescapeLiteral_escape letter _

theorem hasBareQuote_flatMap (cs : List Char) : hasBareQuote (cs.flatMap escapedChar) = false := by
  induction cs with
  | nil => rfl
  | cons c cs ih =>
    rw [List.flatMap_cons]
    cases letter : escapeLetter? c with
    | none =>
      obtain ⟨backslash, -, -, quote⟩ := plain_of_escapeLetter? letter
      rw [escapedChar_of_none letter, List.singleton_append, hasBareQuote_cons backslash, ih]
      simpa using quote
    | some d =>
      rw [escapedChar_of_some letter]
      exact ih

theorem not_mem_escapedChar (c : Char) : '\n' ∉ escapedChar c ∧ '\r' ∉ escapedChar c := by
  cases letter : escapeLetter? c with
  | none =>
    obtain ⟨-, feed, carriage, -⟩ := plain_of_escapeLetter? letter
    rw [escapedChar_of_none letter, List.mem_singleton, List.mem_singleton]
    exact ⟨feed.symm, carriage.symm⟩
  | some d =>
    rw [escapedChar_of_some letter]
    unfold escapeLetter? at letter
    repeat' split at letter
    all_goals cases letter <;> decide

/-- Escaped text has no line break. -/
theorem not_mem_escapeLiteral (s : String) :
    '\n' ∉ (escapeLiteral s).toList ∧ '\r' ∉ (escapeLiteral s).toList := by
  rw [toList_escapeLiteral]
  constructor <;> intro mem <;> obtain ⟨c, -, here⟩ := List.mem_flatMap.1 mem
  · exact (not_mem_escapedChar c).1 here
  · exact (not_mem_escapedChar c).2 here

/-- Escaping in one go is replacing the four characters one after the other, the backslash first. -/
theorem escapeLiteral_eq_replaced (s : String) :
    (escapeLiteral s).toList =
      replaceChar '\x22' ['\\', '\x22'] (replaceChar '\r' ['\\', 'r']
        (replaceChar '\n' ['\\', 'n'] (replaceChar '\\' ['\\', '\\'] s.toList))) := by
  rw [toList_escapeLiteral]
  unfold replaceChar
  rw [List.flatMap_assoc, List.flatMap_assoc, List.flatMap_assoc]
  congr 1
  funext c
  cases letter : escapeLetter? c with
  | none =>
    obtain ⟨backslash, feed, carriage, quote⟩ := plain_of_escapeLetter? letter
    simp [escapedChar_of_none letter, backslash, feed, carriage, quote]
  | some d =>
    rw [escapedChar_of_some letter]
    unfold escapeLetter? at letter
    repeat' split at letter
    all_goals cases letter <;> simp_all

/-! ### Lines of a listing -/

variable {κ : Type} {program : List (Instruction κ)}

/-- The code that an instruction shows; literal text is no code. -/
def Instruction.code : Instruction κ → List Char
  | .literal .. => []
  | .output _ _ source .. => source.toList
  | .statement _ source .. => source.toList

/-- How many line feeds there are in the code of some instructions. -/
def codeFeeds (program : List (Instruction κ)) : Nat :=
  (program.flatMap Instruction.code).count '\n'

/-- The lines that some instructions take up in a listing. -/
def describedLines (program : List (Instruction κ)) : List (List Char) :=
  program.flatMap fun i => splitFeeds i.describe.toList

/-- The line feeds of a description are those of the code. -/
theorem count_describe (i : Instruction κ) : i.describe.toList.count '\n' = i.code.count '\n' := by
  fun_cases Instruction.describe i with
  | case1 site text =>
    have free : (escapeLiteral text).toList.count '\n' = 0 :=
      List.count_eq_zero.2 (not_mem_escapeLiteral text).1
    simp [Instruction.code, free]
  | case2 => simp [Instruction.code]
  | case3 => simp [Instruction.code]
  | case4 => rfl

theorem codeFeeds_cons (i : Instruction κ) (program : List (Instruction κ)) :
    codeFeeds (i :: program) = i.code.count '\n' + codeFeeds program := by
  rw [codeFeeds, List.flatMap_cons, List.count_append, ← codeFeeds]

theorem codeFeeds_eq_zero : codeFeeds program = 0 ↔ ∀ i ∈ program, '\n' ∉ i.code := by
  rw [codeFeeds, List.count_eq_zero, List.mem_flatMap]
  simp only [not_exists, not_and]

theorem length_describedLines (program : List (Instruction κ)) :
    (describedLines program).length = program.length + codeFeeds program := by
  induction program with
  | nil => rfl
  | cons i program ih =>
    rw [describedLines, List.flatMap_cons, List.length_append, length_splitFeeds, count_describe,
      ← describedLines, ih, codeFeeds_cons, List.length_cons]
    omega

theorem splitFeeds_listing (ne : program ≠ []) :
    splitFeeds (listing program).toList = describedLines program := by
  rw [listing, splitFeeds_intercalate (by simpa using ne), List.flatMap_map]
  rfl

theorem describedLines_of_plain (h : ∀ i ∈ program, '\n' ∉ i.code) :
    describedLines program = program.map (·.describe.toList) := by
  have free : ∀ text ∈ program.map Instruction.describe, '\n' ∉ text.toList := by
    intro text mem
    obtain ⟨i, here, rfl⟩ := List.mem_map.1 mem
    rw [← List.count_eq_zero, count_describe, List.count_eq_zero]
    exact h i here
  have lines := flatMap_splitFeeds free
  rwa [List.flatMap_map, List.map_map] at lines

/-- The description of an instruction begins as many lines below the place of the instruction in the
program as the code in front of it has line feeds, and takes up one line more than its own code has;
so the lines are the descriptions of the instructions exactly if no code has a line feed. Literal text
never has one: its description is what the four replacements make of it, has no line break and no
double quote that is not escaped, and is read back from left to right. -/
theorem listing_lines {program : List (Instruction κ)} (ne : program ≠ []) :
    (∀ before i after, program = before ++ i :: after →
      ∃ above below, splitFeeds (listing program).toList =
          above ++ splitFeeds i.describe.toList ++ below ∧
        above.length = before.length + codeFeeds before ∧
        (splitFeeds i.describe.toList).length = i.code.count '\n' + 1) ∧
      (splitFeeds (listing program).toList).length = program.length + codeFeeds program ∧
      (splitFeeds (listing program).toList = program.map (·.describe.toList) ↔
        ∀ i ∈ program, '\n' ∉ i.code) ∧
      ∀ text, (escapeLiteral text).toList =
          replaceChar '\x22' ['\\', '\x22'] (replaceChar '\r' ['\\', 'r']
            (replaceChar '\n' ['\\', 'n'] (replaceChar '\\' ['\\', '\\'] text.toList))) ∧
        '\n' ∉ (escapeLiteral text).toList ∧ '\r' ∉ (escapeLiteral text).toList ∧
        hasBareQuote (escapeLiteral text).toList = false ∧
        unescapeLiteral (escapeLiteral text).toList = text.toList := by
  have lines := splitFeeds_listing ne
  refine ⟨fun before i after split => ?_, ?_, ⟨fun same => ?_, fun plain => ?_⟩, fun text => ?_⟩
  · refine ⟨describedLines before, describedLines after, ?_, length_describedLines before, ?_⟩
    · rw [lines, split, describedLines, List.flatMap_append, List.flatMap_cons, List.append_assoc]
      rfl
    · rw [length_splitFeeds, count_describe]
  · rw [lines, length_describedLines]
  · have total := length_describedLines program
    rw [← lines, same, List.length_map] at total
    exact codeFeeds_eq_zero.1 (by omega)
  · rw [lines, describedLines_of_plain plain]
  · obtain ⟨feed, carriage⟩ := not_mem_escapeLiteral text
    refine ⟨escapeLiteral_eq_replaced text, feed, carriage, ?_, ?_⟩
    · rw [toList_escapeLiteral, hasBareQuote_flatMap]
    · simpa [toList_escapeLiteral, unescapeLiteral] using unescapeLiteral_flatMap_append text.toList []

/-- The second of three instructions has a line feed in its code, and the third is described on the
fourth line. -/
theorem listing_below_code : ∃ compiled : Compiled Tag.Code,
    compile Tag.language {} "a\n<% x = 1\ny = 2 %><%= x %>" = .ok compiled ∧
      compiled.program.length = 3 ∧ codeFeeds compiled.program = 1 ∧ compiled.program ≠ [] ∧
      (splitFeeds (listing compiled.program).toList).length = 4 ∧
      splitFeeds (listing compiled.program).toList ≠ compiled.program.map (·.describe.toList) := by
  have made : (match compile Tag.language {} "a\n<% x = 1\ny = 2 %><%= x %>" with
      | .ok compiled => some (compiled.program.length, codeFeeds compiled.program)
      | .error _ => none) = some (3, 1) := by
    decide +kernel
  split at made
  · next compiled ok =>
    obtain ⟨three, one⟩ := Prod.mk.inj (Option.some.inj made)
    have ne : compiled.program ≠ [] := List.ne_nil_of_length_pos (by omega)
    obtain ⟨-, total, same, -⟩ := listing_lines ne
    refine ⟨compiled, ok, three, one, ne, by omega, fun each => ?_⟩
    have none_left := codeFeeds_eq_zero.2 (same.1 each)
    omega
  · cases made

end StreamTemplate.Program
