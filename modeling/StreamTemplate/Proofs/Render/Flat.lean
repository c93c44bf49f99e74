import StreamTemplate.Proofs.Loop.Process
import StreamTemplate.Proofs.Program.Jumps
import StreamTemplate.Render.Start

/-! # Bodies and flat programs

The body of a template does what its flat program does, run with a counter; and in a render the
target of each loop is given the item of that loop. -/

namespace StreamTemplate

open Program

universe u

/-! ### The items of loops in a render -/

theorem Scope.find?_set (s : Scope) (id : String) (v : Value) : (s.set id v).find? id = some v := by
  simp [Scope.find?, Scope.set]

theorem Scope.find?_set_ne (s : Scope) {id other : String} (h : id ≠ other) (v : Value) :
    (s.set other v).find? id = s.find? id := by
  have hb : (id == other) = false := beq_false_of_ne h
  simp only [Scope.find?, Scope.set, List.lookup_cons, hb]
  induction s.entries with
  | nil => rfl
  | cons e rest ih =>
    obtain ⟨key, w⟩ := e
    by_cases he : key = other
    · have hne : (id == key) = false := beq_false_of_ne (he ▸ h)
      simpa [List.lookup_cons, he, hb] using ih
    · have hk : List.filter (·.1 ≠ other) ((key, w) :: rest) =
          (key, w) :: rest.filter (·.1 ≠ other) := by simp [he]
      rw [hk, List.lookup_cons, List.lookup_cons, ih]

open Eval in
/-- What the beginning of code does depends on what the scope names for further look-up. -/
theorem Eval.beginCode_eq (s : RenderState) : (beginCode : Eval Unit) s = ((do
      let v ← match s.scope.find? Scope.fallbackName with
        | some v => pure v
        | none =>
          let dict ← work (newDict (Builtin.table.map fun (name, v) => (.text name, v)))
          setName Scope.fallbackName dict
          pure dict
      let fallback := if v.same (.builtin .module) then .known else .members v
      modify fun s => { s with fallback }) : Eval Unit) s := rfl

open Eval in
/-- When code begins, the names of the scope keep their values. -/
theorem Eval.beginCode_ends {id : String} (hid : id ≠ Scope.fallbackName) {v : Value}
    {s : RenderState} (hs : s.scope.find? id = some v) :
    ((beginCode : Eval Unit) s).Ends fun r => r.2.scope.find? id = some v := by
  rw [beginCode_eq]
  cases s.scope.find? Scope.fallbackName with
  | some w => exact hs
  | none =>
    -- The new dictionary is the result of work on the heap, which may fail.
    rintro (_ | dict)
    · exact hs
    · exact (s.scope.find?_set_ne hid dict).trans hs

theorem Eval.name_eq (id : String) (s : RenderState) :
    (Eval.name id : Eval Value) s = (match s.scope.find? id with
      | some v => (pure v : Eval Value)
      | none => Eval.knownName id) s := rfl

/-- A name of the scope has its value. -/
theorem Eval.name_of_find? {id : String} {v : Value} {s : RenderState}
    (hs : s.scope.find? id = some v) : (Eval.name id : Eval Value) s = .done (.ok v, s) := by
  rw [name_eq, hs]
  rfl

namespace Rendering

/-- Assigns a value to what the code of a loop's target assigns to. -/
def give (e : Engine) (target : Tag.Code) (v : Value) : ExceptT Fault Rendering Unit :=
  match target with
  | .target place => do
    Eval.beginCode
    place.assign e v
  | code => code.exec e

/-- The code of a loop's target assigns the current item. -/
theorem machine_gives (e : Engine) (r : Render) (context : Nat) :
    (machine e r context).Gives (give e) := by
  intro target v
  cases target with
  | target place =>
    funext s
    have hs : ({ s with scope := s.scope.set loopItem v } : RenderState).scope.find? loopItem =
        some v := Scope.find?_set s.scope loopItem v
    have hb := Eval.beginCode_ends (by decide) hs
    refine Process.bind_congr_of_ends hb ?_
    rintro ⟨_ | _, t⟩ ht
    · rfl
    · change Process.bind _ (Eval.name loopItem t) = _
      rw [Eval.name_of_find? ht]
      rfl
  | _ => rfl

end Rendering

/-! ### The body of a program -/

variable {κ γ : Type} {m : Type → Type u} [Monad m] [LawfulMonad m]

/-- The body that a program nests into does what the program does, run from its first instruction
with a counter, whatever the machine does for the code in the tags: the same things in the same
order, with the same end. The end is never a jump that no loop took. -/
theorem Program.runNodes_nest {program : List (Instruction κ)} {body : List (Node κ)}
    (hb : nest program = .ok body) {h : Machine κ γ m} {give : κ → Value → ExceptT Fault m Unit}
    (hg : h.Gives give) (rounds : Nat) :
    ∃ n, ∀ fuel, n ≤ fuel → runNodes h false rounds body = (do
      Point.run h give rounds program fuel {}
      return .next) := by
  obtain ⟨n, sn⟩ : ∃ n, Simulates h give rounds program false (.nodes body) program n :=
    (unfolds_nest hb).simulates hg
  have hx : Follows h give rounds program (0 + program.length) [] 1 pure := by
    refine ⟨?_, fun a outer h => absurd h (List.cons_ne_nil a outer).symm,
      fun a outer h => absurd h (List.cons_ne_nil a outer).symm⟩
    intro fuel hf
    obtain ⟨fuel, rfl⟩ : ∃ l, fuel = l + 1 := ⟨fuel - 1, by omega⟩
    simp [Point.run]
  refine ⟨1 + n, fun fuel hf => ?_⟩
  have hd : program.drop 0 = program ++ [] := by rw [List.drop_zero, List.append_nil]
  have hl : Inside ([] : List (ActiveLoop γ)) 0 program.length :=
    fun a ha => absurd ha (Option.not_mem_none a)
  have := sn hd hl (fun h => absurd h Bool.false_ne_true) hx fuel hf
  rw [unwind, onFault_nothing, bind_pure] at this
  exact this.symm

/-- A loop that is left at the first item that counts as true. -/
def Program.firstTrue : List (Instruction Tag.Code) :=
  [.statement ⟨1, 0⟩ "for x in xs" "<% for x in xs: %>"
      (.forIn false (.target (.name "x" 1)) (.expression (.name "xs" 1))),
    .statement ⟨1, 18⟩ "if x" "<% if x: %>" (.ifDo (.expression (.name "x" 1))),
    .output ⟨1, 29⟩ true "x" (.expression (.name "x" 1)) "<%= x %>",
    .statement ⟨1, 37⟩ "break" "<% break %>" .breakLoop,
    .statement ⟨1, 48⟩ "end" "<% end %>" .endBlock,
    .statement ⟨1, 57⟩ "end" "<% end %>" .endBlock]

/-- The machine of a render that sees no names but the known ones, of a program and its body. -/
def Rendering.bare (program : List (Instruction Tag.Code)) (body : List (Node Tag.Code)) :
    Machine Tag.Code Iteration Rendering :=
  machine ⟨fun _ => Run.stuck, fun _ => Run.stuck⟩
    { template := ⟨none, none, "", ⟨program, body, false⟩, {}⟩, scope := .initial, stream := 0 } 0

theorem Program.firstTrue_runs : ∃ body, nest firstTrue = .ok body ∧ ∃ n, ∀ fuel, n ≤ fuel →
    runNodes (Rendering.bare firstTrue body) false patience body = (do
      Point.run (Rendering.bare firstTrue body) (Rendering.give ⟨fun _ => Run.stuck, fun _ =>
        Run.stuck⟩) patience firstTrue fuel {}
      return .next) :=
  ⟨_, rfl, Program.runNodes_nest rfl (Rendering.machine_gives _ _ _) patience⟩

end StreamTemplate
