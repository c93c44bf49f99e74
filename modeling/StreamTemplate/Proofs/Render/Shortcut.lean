import StreamTemplate.Loop.Run
import StreamTemplate.Proofs.Render.Contained
import StreamTemplate.Render.Shortcut

/-!
# Ways to render a source

A template can be made and rendered, its source can be compiled and what renders it called, or the
source can be rendered in one step. The first two are the same process. The last takes data that counts
as false for no data, before anybody asks whether it is a mapping. Nothing comes of that if it is one,
for it is empty then. But what is no mapping is refused by the others, and by this one only if it
counts as true (`renderSource_beside`).
-/

namespace StreamTemplate

/-- Whether a value can be the data of a render: none, or a mapping. -/
def Value.isData : Value → Bool
  | .none | .cell .dict _ => true
  | _ => false

section

variable (e : Engine) (hasLoop : Bool) (source : String) (name filename : Option String)
  (options : RenderOptions)

/-- Makes a template and renders it, with arguments by position. -/
def renderMade (args : List Value) : Run Nat := do
  let t ← Run.ofExcept (Template.make source name filename options)
  t.render e hasLoop args []

/-- Compiles a source and calls what renders it. -/
def renderCompiled (args : List Value) : Run Nat :=
  match compileSource e hasLoop source name filename options with
  | .ok renderer => renderer args
  | .error fault => throw fault

end

variable {e : Engine} {hasLoop : Bool} {source : String} {name filename : Option String}
  {options : RenderOptions} {t : Template} {fault : Fault} {d : Value} {s : Store}

/-! ### Data by position -/

/-- A mapping that counts as false gives no names, and neither does the value for none. -/
theorem positionalData_of_falsy (data : d.isData) (falsy : s.heap.truth d = false) :
    (positionalData [d]).run.run s = (.ok [], s) := by
  fun_cases Value.isData d with
  | case1 => rfl
  | case2 id =>
    have empty : (s.heap.dict id).entries = [] := by
      simpa [Heap.truth, Dict.used] using falsy
    have names : dataNames s.heap id = [] := by
      rw [dataNames, empty, List.filterMap_nil]
    exact congrArg (fun names => (Except.ok names, s)) names
  | case3 => simp_all [Value.isData]

theorem positionalData_of_not_isData (other : d.isData = false) :
    positionalData [d] = throw (notMapping "render()" d) := by
  unfold positionalData
  split <;> simp_all [Value.isData]

/-! ### Renders -/

theorem renderCompiled_eq (args : List Value) :
    renderCompiled e hasLoop source name filename options args =
      renderMade e hasLoop source name filename options args := by
  unfold renderCompiled compileSource renderMade
  cases Template.make source name filename options <;> rfl

theorem upTo_renderMade_error (unmade : Template.make source name filename options = .error fault)
    (args : List Value) (s : Store) :
    (renderMade e hasLoop source name filename options args).upTo s = (.done (.error fault), s) := by
  rw [renderMade, unmade]
  rfl

theorem upTo_renderSource_error (unmade : Template.make source name filename options = .error fault)
    (d : Value) (s : Store) :
    (renderSource e hasLoop source name filename options d).upTo s = (.done (.error fault), s) := by
  rw [renderSource, unmade]
  rfl

theorem upTo_renderMade_ok (made : Template.make source name filename options = .ok t)
    (args : List Value) (s : Store) :
    (renderMade e hasLoop source name filename options args).upTo s =
      (t.render e hasLoop args []).upTo s := by
  rw [renderMade, made]
  rfl

/-- Data that counts as false is left out. -/
theorem upTo_renderSource_ok (made : Template.make source name filename options = .ok t)
    (d : Value) (s : Store) :
    (renderSource e hasLoop source name filename options d).upTo s =
      (t.render e hasLoop (if s.heap.truth d then [d] else []) []).upTo s := by
  rw [renderSource, made]
  rfl

/-- A render depends on its arguments by the names that they give only. -/
theorem upTo_render_congr {args args' : List Value}
    (same : (positionalData args).run.run s = (positionalData args').run.run s) :
    (t.render e hasLoop args []).upTo s = (t.render e hasLoop args' []).upTo s :=
  Run.upTo_bind_congr _ (congrArg (fun r => (Halted.done r.1, r.2)) same)

theorem upTo_render_refused (other : d.isData = false) :
    (t.render e hasLoop [d] []).upTo s = (.done (.error (notMapping "render()" d)), s) := by
  rw [Template.render, positionalData_of_not_isData other]
  rfl

/-- A render whose stream begins with nothing begins with a new stream. -/
theorem upTo_startWith (plain : t.options.opening = []) (data : List (String × Value)) (s : Store) :
    (t.startWith e hasLoop data).upTo s =
      (Render.start e hasLoop
          ⟨t, (Scope.initial.setAll t.options.globals.entries).setAll data, s.streams.size⟩ >>=
        fun _ => pure s.streams.size).upTo { s with streams := s.streams.push {} } := by
  have opens : (newStream t.options.opening).run.run s =
      (.ok s.streams.size, { s with streams := s.streams.push {} }) := by
    rw [plain, newStream, buildAll]
    rfl
  have prepared := Act.run_bind (newStream t.options.opening) (fun stream => return (⟨t,
    (Scope.initial.setAll t.options.globals.entries).setAll data, stream⟩ : Render)) s
  rw [opens] at prepared
  exact Run.upTo_bind_ok _ (congrArg (fun r => (Halted.done r.1, r.2)) prepared)

/-- Calling what renders a compiled source is rendering the template that is made of it. Rendering the
source in one step comes to the same, with the same streams, the same fault and the same code that is
left to run, if the value can be data or counts as true, or if no template can be made. If none of that
holds, the template refuses the value and nothing happens, while the one step renders without data. -/
theorem renderSource_beside (e : Engine) (hasLoop : Bool) (source : String)
    (name filename : Option String) (options : RenderOptions) (d : Value) (s : Store) :
    renderCompiled e hasLoop source name filename options [d] =
        renderMade e hasLoop source name filename options [d] ∧
      (d.isData = true ∨ s.heap.truth d = true ∨
          (∃ fault, Template.make source name filename options = .error fault) →
        (renderSource e hasLoop source name filename options d).upTo s =
          (renderMade e hasLoop source name filename options [d]).upTo s) ∧
      (d.isData = false → s.heap.truth d = false →
          (∃ t, Template.make source name filename options = .ok t) →
        (renderMade e hasLoop source name filename options [d]).upTo s =
            (.done (.error (notMapping "render()" d)), s) ∧
          (renderSource e hasLoop source name filename options d).upTo s =
            (renderMade e hasLoop source name filename options []).upTo s) := by
  refine ⟨renderCompiled_eq [d], ?_, ?_⟩
  · intro agreeing
    cases made : Template.make source name filename options with
    | error fault => rw [upTo_renderSource_error made, upTo_renderMade_error made]
    | ok t =>
      rw [upTo_renderSource_ok made, upTo_renderMade_ok made]
      cases truth : s.heap.truth d with
      | true => rfl
      | false =>
        have data : d.isData = true := by
          rcases agreeing with data | truthy | ⟨fault, unmade⟩
          · exact data
          · exact nomatch truthy.symm.trans truth
          · exact nomatch unmade.symm.trans made
        exact (upTo_render_congr (positionalData_of_falsy data truth)).symm
  · rintro other falsy ⟨t, made⟩
    constructor
    · rw [upTo_renderMade_ok made, upTo_render_refused other]
    · rw [upTo_renderSource_ok made, upTo_renderMade_ok made, falsy]
      rfl

/-- The number zero: the template refuses it, and the one step gives the first stream. -/
theorem renderSource_beside_zero :
    ∃ t, Template.make "x" none none {} = .ok t ∧ Value.isData (.int 0) = false ∧
      ({} : Store).heap.truth (.int 0) = false ∧
      (renderMade mainEngine true "x" none none {} [.int 0]).upTo {} =
        (.done (.error (.say .type "render() data must be a mapping, got int")), {}) ∧
      ∃ s', (renderSource mainEngine true "x" none none {} (.int 0)).upTo {} = (.done (.ok 0), s') := by
  obtain ⟨t, made, plain, bare, atOnce, outcome⟩ : ∃ t, Template.make "x" none none {} = .ok t ∧
      t.options.opening.isEmpty ∧ t.options.globals.entries.isEmpty ∧
      ¬(Render.withData t []).Scheduled ∧
      (Render.withData t []).outcome mainEngine Render.oneStream = some { sources := 1 } :=
    Template.exists_made (by decide +kernel)
  obtain ⟨result, ρ, s', st, run, -, same⟩ := Render.run_of_outcome outcome
  obtain rfl : result = .ok () := Render.Outcome.ok_of_raised (congrArg Render.Outcome.raised same).symm
  obtain ⟨-, -, apart⟩ :=
    renderSource_beside mainEngine true "x" none none {} (.int 0) {}
  obtain ⟨refused, without⟩ := apart rfl rfl ⟨t, made⟩
  refine ⟨t, made, rfl, rfl, refused, s', ?_⟩
  have starts : ((Render.withData t []).start mainEngine true).upTo Render.oneStream =
      (.done (.ok ()), s') := by
    rw [Render.start_of_not_scheduled atOnce, Run.upTo, Render.run_eq_body, map_eq_pure_bind,
      Process.run_bind, run]
    rfl
  have begins : (t.startWith mainEngine true []).upTo {} = (.done (.ok 0), s') := by
    rw [upTo_startWith (List.isEmpty_iff.1 plain), List.isEmpty_iff.1 bare]
    exact Run.upTo_bind_ok (fun _ => pure 0) starts
  rw [without, upTo_renderMade_ok made]
  exact begins

end StreamTemplate
