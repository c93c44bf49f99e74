import StreamTemplate.Text.Entity

/-!
# Escaped text is safe, and can be read back

In an escaped text no character is left that has a meaning in HTML. The only ones that remain of the
five are the ampersands that the escaping itself has written, each at the beginning of an entity.

So nothing is lost: the entities are told apart from left to right whatever the text had in it, also
what looked like an entity before, and replacing each by its character gives the text back
(`unescapeChars_escapeChars_append`).
-/

namespace StreamTemplate.Text

/-- The entities that escaping writes. -/
def entities : List (List Char) :=
  ["&amp;".toList, "&lt;".toList, "&gt;".toList, "&#34;".toList, "&#39;".toList]

/-- Characters that can stand in HTML text or attributes: none of them opens or closes anything, and
each ampersand begins an entity. -/
structure SafeChars (cs : List Char) : Prop where
  plain : ∀ c ∈ cs, c ≠ '<' ∧ c ≠ '>' ∧ c ≠ '\x22' ∧ c ≠ '\x27'
  ampersand : ∀ before after, cs = before ++ '&' :: after → ∃ e ∈ entities, e <+: '&' :: after

/-- A text that can stand in HTML text or attributes. -/
def Safe (s : String) : Prop :=
  SafeChars s.toList

variable {c : Char} {e cs : List Char}

theorem mem_entities_of_entity? (h : entity? c = some e) : e ∈ entities := by
  unfold entity? at h
  repeat' split at h
  all_goals cases h <;> simp [entities]

theorem plain_of_entity? (h : entity? c = none) :
    c ≠ '&' ∧ c ≠ '<' ∧ c ≠ '>' ∧ c ≠ '\x22' ∧ c ≠ '\x27' := by
  unfold entity? at h
  repeat' split at h
  all_goals simp_all

/-- An entity is an ampersand with plain characters behind it. -/
theorem exists_of_mem_entities (h : e ∈ entities) :
    ∃ rest, e = '&' :: rest ∧ '&' ∉ rest ∧ ∀ c ∈ e, c ≠ '<' ∧ c ≠ '>' ∧ c ≠ '\x22' ∧ c ≠ '\x27' := by
  have each : entities.all (fun e => e == '&' :: e.tail && !e.tail.contains '&' &&
      e.all fun c => c ≠ '<' ∧ c ≠ '>' ∧ c ≠ '\x22' ∧ c ≠ '\x27') = true := by decide
  have this := List.all_eq_true.mp each e h
  simp only [Bool.and_eq_true, beq_iff_eq, Bool.not_eq_true', List.all_eq_true, decide_eq_true_eq] at this
  obtain ⟨⟨cons, plain⟩, safe⟩ := this
  exact ⟨e.tail, cons, by simpa using plain, safe⟩

namespace SafeChars

theorem nil : SafeChars [] :=
  ⟨nofun, fun before after split => by simp at split⟩

/-- Something plain is put in front. -/
theorem cons (h : SafeChars cs) (plain : entity? c = none) : SafeChars (c :: cs) := by
  obtain ⟨other, safe⟩ := plain_of_entity? plain
  constructor
  case plain =>
    intro c' mem
    rcases List.mem_cons.mp mem with rfl | mem
    · exact safe
    · exact h.plain c' mem
  case ampersand =>
    intro before after split
    cases before with
    | nil => exact absurd (List.cons.inj split).1 other
    | cons _ before => exact h.ampersand before after (List.cons.inj split).2

/-- An entity is put in front. -/
theorem entity (h : SafeChars cs) (mem : e ∈ entities) : SafeChars (e ++ cs) := by
  obtain ⟨rest, rfl, only, plain⟩ := exists_of_mem_entities mem
  constructor
  case plain =>
    intro c here
    exact (List.mem_append.mp here).elim (plain c) (h.plain c)
  case ampersand =>
    intro before after split
    rcases List.append_eq_append_iff.mp split with ⟨between, -, behind⟩ | ⟨inside, front, back⟩
    · exact h.ampersand between after behind
    -- The only ampersand of an entity is its first character.
    · cases before with
      | nil => exact ⟨_, mem, cs, split⟩
      | cons _ before =>
        cases inside with
        | nil => exact h.ampersand [] after back.symm
        | cons c inside =>
          obtain rfl := (List.cons.inj back).1
          refine absurd ?_ only
          rw [(List.cons.inj front).2]
          exact List.mem_append_right _ (.head _)

end SafeChars

theorem escapeChars_cons (c : Char) (cs : List Char) :
    escapeChars (c :: cs) = (entity? c).getD [c] ++ escapeChars cs :=
  List.flatMap_cons

theorem safeChars_escapeChars (cs : List Char) : SafeChars (escapeChars cs) := by
  induction cs with
  | nil => exact .nil
  | cons c cs ih =>
    rw [escapeChars_cons]
    cases found : entity? c with
    | none => exact ih.cons found
    | some e => exact ih.entity (mem_entities_of_entity? found)

theorem toList_escapeHtml (s : String) : (escapeHtml s).toList = escapeChars s.toList := by
  unfold escapeHtml
  split
  · next plain =>
    have kept (c : Char) (mem : c ∈ s.toList) : (entity? c).getD [c] = [c] := by
      rw [Option.isNone_iff_eq_none.mp (List.all_eq_true.mp plain c mem)]
      rfl
    unfold escapeChars
    rw [List.flatMap_def, List.map_congr_left kept, ← List.flatMap_def, List.flatMap_singleton']
  · exact String.toList_ofList

/-- What escaping makes of a text is safe. -/
theorem safe_escapeHtml (s : String) : Safe (escapeHtml s) := by
  unfold Safe
  rw [toList_escapeHtml]
  exact safeChars_escapeChars s.toList

example : escapeHtml "<a href='x'>&</a>" = "&lt;a href=&#39;x&#39;&gt;&amp;&lt;/a&gt;" := by decide

/-! ### Reading back -/

/-- The characters with each of the five entities that escaping writes replaced by its character,
from left to right. -/
def unescapeChars : List Char → List Char
  | '&' :: 'a' :: 'm' :: 'p' :: ';' :: rest => '&' :: unescapeChars rest
  | '&' :: 'l' :: 't' :: ';' :: rest => '<' :: unescapeChars rest
  | '&' :: 'g' :: 't' :: ';' :: rest => '>' :: unescapeChars rest
  | '&' :: '#' :: '3' :: '4' :: ';' :: rest => '\x22' :: unescapeChars rest
  | '&' :: '#' :: '3' :: '9' :: ';' :: rest => '\x27' :: unescapeChars rest
  | c :: rest => c :: unescapeChars rest
  | [] => []

/-- The text with each of the five entities replaced by its character. -/
def unescapeHtml (s : String) : String :=
  String.ofList (unescapeChars s.toList)

theorem escapeChars_append (cs cs' : List Char) :
    escapeChars (cs ++ cs') = escapeChars cs ++ escapeChars cs' :=
  List.flatMap_append

theorem unescapeChars_cons (h : c ≠ '&') (rest : List Char) :
    unescapeChars (c :: rest) = c :: unescapeChars rest := by
  conv => lhs; unfold unescapeChars
  split <;> simp_all

theorem unescapeChars_entity (h : entity? c = some e) (rest : List Char) :
    unescapeChars (e ++ rest) = c :: unescapeChars rest := by
  unfold entity? at h
  repeat' split at h
  all_goals cases h <;> simp_all [unescapeChars]

/-- What stands behind an escaped text does not become part of one of its entities. -/
theorem unescapeChars_escapeChars_append (cs rest : List Char) :
    unescapeChars (escapeChars cs ++ rest) = cs ++ unescapeChars rest := by
  induction cs with
  | nil => rfl
  | cons c cs ih =>
    rw [escapeChars_cons, List.append_assoc, List.cons_append, ← ih]
    cases found : entity? c with
    | none => exact unescapeChars_cons (plain_of_entity? found).1 _
    | some e => exact unescapeChars_entity found _

/-- A text with nothing to escape is no exception. -/
theorem escapeHtml_eq (s : String) : escapeHtml s = String.ofList (escapeChars s.toList) := by
  rw [← toList_escapeHtml, String.ofList_toList]

/-- Escaping goes along the text, whether there is anything to escape or not, and is taken back by
reading the entities from left to right, so that different texts are escaped differently. -/
theorem escapeHtml_readable :
    (∀ s t, escapeHtml (s ++ t) = escapeHtml s ++ escapeHtml t) ∧
      (∀ s, unescapeHtml (escapeHtml s) = s) ∧
      Function.Injective escapeHtml ∧
      ∀ s, escapeHtml s = String.ofList (escapeChars s.toList) := by
  have back (s : String) : unescapeHtml (escapeHtml s) = s := by
    have read : unescapeChars (escapeChars s.toList) = s.toList := by
      simpa [unescapeChars] using unescapeChars_escapeChars_append s.toList []
    rw [unescapeHtml, toList_escapeHtml, read, String.ofList_toList]
  refine ⟨fun s t => ?_, back, fun s t same => ?_, escapeHtml_eq⟩
  · rw [escapeHtml_eq, escapeHtml_eq s, escapeHtml_eq t, String.toList_append, escapeChars_append,
      String.ofList_append]
  · rw [← back s, same, back t]

/-- What looked like an entity before is none afterwards. -/
example : escapeHtml "&lt;" = "&amp;lt;" ∧ unescapeHtml "&amp;lt; &am" = "&lt; &am" := by decide

end StreamTemplate.Text
