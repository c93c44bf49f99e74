import StreamTemplate.Library.Basic
import StreamTemplate.Proofs.Library.Cache
import StreamTemplate.Session.Library

/-!
# Templates that are kept

A library keeps the templates that were asked for most recently. What it keeps is told by the calls that
were made, in order, since it was last cleared: those that failed do not count, and neither does what
became of the loader and of the options meanwhile.
-/

namespace StreamTemplate

/-- What can be done with a library. -/
inductive LibraryAct where
  | get (name : String) (enableAsync defer : Option Bool)
  | fromSource (source : String) (name : Option String) (enableAsync defer : Option Bool)
  | clear
  /-- The loader, what it has to offer and the options become others. -/
  | change (loader : Option Loader) (options : RenderOptions)

/-- What the template of a name is kept under. -/
def Library.key (l : Library) (name : String) (enableAsync defer : Option Bool) : EditionKey :=
  (name, (l.optionsFor enableAsync defer).enableAsync, (l.optionsFor enableAsync defer).defer)

/-- A library with all templates that it has given, and those that it has given by name since it was
last cleared. -/
structure LibraryHistory where
  library : Library
  given : List Edition := []
  uses : List (EditionKey × Edition) := []

namespace LibraryHistory

/-- Something more is done. A call that fails gives no other library, so the one there was goes on. -/
def act (h : LibraryHistory) : LibraryAct → LibraryHistory
  | .get name enableAsync defer =>
    match h.library.get name enableAsync defer with
    | .ok (edition, library) =>
      { library, given := h.given ++ [edition]
        uses := h.uses ++ [(h.library.key name enableAsync defer, edition)] }
    | .error _ => h
  | .fromSource source name enableAsync defer =>
    match h.library.fromSource source name enableAsync defer with
    | .ok (edition, library) => { h with library, given := h.given ++ [edition] }
    | .error _ => h
  | .clear => { h with library := h.library.clear, uses := [] }
  | .change loader options => { h with library := { h.library with loader, options } }

/-- Several things are done in order. -/
def after (h : LibraryHistory) (acts : List LibraryAct) : LibraryHistory :=
  acts.foldl act h

theorem after_singleton (h : LibraryHistory) (a : LibraryAct) : h.after [a] = h.act a := rfl

end LibraryHistory

/-! ## One call -/

namespace Library

variable {l l' : Library} {name source : String} {filename : Option String} {fault : Fault}
  {enableAsync defer : Option Bool} {options : RenderOptions} {edition : Edition}

theorem compile_eq_ok {given : Option String}
    (h : l.compile source given filename options = .ok (edition, l')) :
    Template.make source given filename options = .ok edition.template ∧
      edition.number = l.made ∧ l' = { l with made := l.made + 1 } := by
  unfold compile at h
  cases template : Template.make source given filename options with
  | error => simp [template, bind, Except.bind] at h
  | ok t =>
    rw [template] at h
    cases h
    exact ⟨rfl, rfl, rfl⟩

/-- What is loaded is compiled from what the loader has. -/
theorem template_load {loader : Loader} (here : l.loader = some loader) :
    (fun r => r.1.template) <$> l.load name options = (do
      let (source, filename) ← loader.source name
      Template.make source name filename options) := by
  rw [load, here]
  cases found : loader.source name with
  | error => simp [found, bind, Except.bind]
  | ok s =>
    simp only [found, bind, Except.bind, compile]
    cases Template.make s.1 name s.2 options <;> rfl

theorem load_eq_ok (h : l.load name options = .ok (edition, l')) :
    edition.number = l.made ∧ l' = { l with made := l.made + 1 } := by
  obtain ⟨loader, options', cache, made⟩ := l
  cases loader with
  | none => cases h
  | some loader =>
    unfold load at h
    cases found : loader.source name with
    | error => simp [found, bind, Except.bind] at h
    | ok s =>
      simp only [found, bind, Except.bind] at h
      exact (compile_eq_ok h).2

theorem get_of_found (found : l.cache.find? (l.key name enableAsync defer) = some edition) :
    l.get name enableAsync defer = .ok (edition,
      { l with cache := l.cache.insert (l.key name enableAsync defer) edition }) := by
  unfold key at found ⊢
  simp only [get, found]

theorem get_of_not_found (absent : l.cache.find? (l.key name enableAsync defer) = none) :
    l.get name enableAsync defer =
      (fun r => (r.1, { r.2 with cache := r.2.cache.insert (l.key name enableAsync defer) r.1 })) <$>
        l.load name (l.optionsFor enableAsync defer) := by
  unfold key at absent ⊢
  simp only [get, absent]
  cases l.load name (l.optionsFor enableAsync defer) <;> rfl

/-- A call that gives a template uses it, and makes a new one unless it was kept. -/
theorem get_eq_ok (h : l.get name enableAsync defer = .ok (edition, l')) :
    l'.cache = l.cache.insert (l.key name enableAsync defer) edition ∧
      (l.cache.find? (l.key name enableAsync defer) = some edition ∧ l'.made = l.made ∨
        edition.number = l.made ∧ l'.made = l.made + 1) := by
  cases found : l.cache.find? (l.key name enableAsync defer) with
  | some kept =>
    rw [get_of_found found] at h
    cases h
    exact ⟨rfl, .inl ⟨rfl, rfl⟩⟩
  | none =>
    rw [get_of_not_found found] at h
    cases loaded : l.load name (l.optionsFor enableAsync defer) with
    | error => simp [loaded] at h
    | ok r =>
      obtain ⟨number, same⟩ := load_eq_ok loaded
      rw [loaded] at h
      cases h
      rw [same]
      exact ⟨rfl, .inr ⟨number, rfl⟩⟩

end Library

/-! ## All calls -/

namespace LibraryHistory

variable {capacity : Nat} {h : LibraryHistory} {name : String} {enableAsync defer : Option Bool}
  {edition : Edition} {library : Library}

theorem act_get_of_ok (result : h.library.get name enableAsync defer = .ok (edition, library)) :
    h.act (.get name enableAsync defer) =
      { library, given := h.given ++ [edition]
        uses := h.uses ++ [(h.library.key name enableAsync defer, edition)] } := by
  simp only [act, result]

theorem act_get_of_error {fault : Fault} (result : h.library.get name enableAsync defer = .error fault) :
    h.act (.get name enableAsync defer) = h := by
  simp only [act, result]

theorem act_fromSource_of_ok {source : String} {name : Option String}
    (result : h.library.fromSource source name enableAsync defer = .ok (edition, library)) :
    h.act (.fromSource source name enableAsync defer) = { h with library, given := h.given ++ [edition] } := by
  simp only [act, result]

theorem act_fromSource_of_error {source : String} {name : Option String} {fault : Fault}
    (result : h.library.fromSource source name enableAsync defer = .error fault) :
    h.act (.fromSource source name enableAsync defer) = h := by
  simp only [act, result]

theorem library_act_get (h : LibraryHistory) (name : String) (enableAsync defer : Option Bool) :
    (h.act (.get name enableAsync defer)).library =
      ((h.library.get name enableAsync defer).toOption.map (·.2)).getD h.library := by
  cases result : h.library.get name enableAsync defer with
  | ok r => rw [act_get_of_ok result]; rfl
  | error => rw [act_get_of_error result]; rfl

theorem library_act_fromSource (h : LibraryHistory) (source : String) (name : Option String)
    (enableAsync defer : Option Bool) :
    (h.act (.fromSource source name enableAsync defer)).library =
      ((h.library.fromSource source name enableAsync defer).toOption.map (·.2)).getD h.library := by
  cases result : h.library.fromSource source name enableAsync defer with
  | ok r => rw [act_fromSource_of_ok result]; rfl
  | error => rw [act_fromSource_of_error result]; rfl

/-- The cache of the library is known by the uses, and templates are numbered as they are made. -/
structure Sound (capacity : Nat) (h : LibraryHistory) : Prop where
  capacity : h.library.cache.capacity = capacity
  holds : h.library.cache.Holds h.uses
  given : ∀ use ∈ h.uses, use.2 ∈ h.given
  numbered : ∀ edition ∈ h.given, edition.number < h.library.made

namespace Sound

theorem get (sound : h.Sound capacity) (name : String) (enableAsync defer : Option Bool) :
    (h.act (.get name enableAsync defer)).Sound capacity := by
  cases result : h.library.get name enableAsync defer with
  | error => exact (act_get_of_error result).symm ▸ sound
  | ok r =>
    obtain ⟨edition, library⟩ := r
    rw [act_get_of_ok result]
    obtain ⟨cache, origin⟩ := Library.get_eq_ok result
    have older : h.library.made ≤ library.made := by
      rcases origin with ⟨-, same⟩ | ⟨-, next⟩ <;> omega
    have new : edition.number < library.made := by
      rcases origin with ⟨found, same⟩ | ⟨number, next⟩
      · have before : edition.number < h.library.made :=
          sound.numbered _ (sound.given _ (sound.holds.mem_of_find? found))
        omega
      · omega
    constructor
    case capacity =>
      show library.cache.capacity = capacity
      rw [cache, Cache.capacity_insert, sound.capacity]
    case holds =>
      show library.cache.Holds _
      exact cache ▸ sound.holds.insert _ _
    case given =>
      intro use mem
      rcases List.mem_append.mp mem with mem | mem
      · exact List.mem_append_left _ (sound.given use mem)
      · cases List.mem_singleton.mp mem
        exact List.mem_append_right _ (List.mem_singleton_self _)
    case numbered =>
      intro e mem
      rcases List.mem_append.mp mem with mem | mem
      · exact Nat.lt_of_lt_of_le (sound.numbered e mem) older
      · cases List.mem_singleton.mp mem
        exact new

theorem fromSource (sound : h.Sound capacity) (source : String) (name : Option String)
    (enableAsync defer : Option Bool) :
    (h.act (.fromSource source name enableAsync defer)).Sound capacity := by
  cases result : h.library.fromSource source name enableAsync defer with
  | error => exact (act_fromSource_of_error result).symm ▸ sound
  | ok r =>
    obtain ⟨edition, library⟩ := r
    obtain ⟨-, number, rfl⟩ := Library.compile_eq_ok result
    rw [act_fromSource_of_ok result]
    refine ⟨sound.capacity, sound.holds, fun use mem => ?_, fun e mem => ?_⟩
    · exact List.mem_append_left _ (sound.given use mem)
    · rcases List.mem_append.mp mem with mem | mem
      · exact Nat.lt_succ_of_lt (sound.numbered e mem)
      · cases List.mem_singleton.mp mem
        exact Nat.lt_succ_of_le (Nat.le_of_eq number)

/-- Whatever is done. -/
theorem act (sound : h.Sound capacity) (a : LibraryAct) : (h.act a).Sound capacity := by
  cases a with
  | get name enableAsync defer => exact sound.get name enableAsync defer
  | fromSource source name enableAsync defer => exact sound.fromSource source name enableAsync defer
  | clear => exact ⟨sound.capacity, Cache.holds_clear _, nofun, sound.numbered⟩
  | change loader options => exact ⟨sound.capacity, sound.holds, sound.given, sound.numbered⟩

theorem after (sound : h.Sound capacity) (acts : List LibraryAct) : (h.after acts).Sound capacity := by
  induction acts generalizing h with
  | nil => exact sound
  | cons a acts ih => exact ih (sound.act a)

theorem of_make {loader : Option Loader} {options : RenderOptions} {capacity : Int} {l : Library}
    (made : Library.make loader options capacity = .ok l) :
    Sound capacity.toNat { library := l } := by
  unfold Library.make at made
  split at made
  · cases made
  · cases made
    exact ⟨rfl, Cache.holds_of_empty rfl, nofun, nofun⟩

end Sound

/-- What a call for a template by its name comes to, given what was done before. -/
structure Serves (h : LibraryHistory) (name : String) (enableAsync defer : Option Bool) : Prop where
  /-- A template that is held is given as it was, whatever the loader. -/
  held : ∀ edition, h.library.cache.find? (h.library.key name enableAsync defer) = some edition →
    (h.library.key name enableAsync defer, edition) ∈ h.uses ∧ ∀ loader,
      { h.library with loader }.get name enableAsync defer = .ok (edition,
        { h.library with
          loader, cache := h.library.cache.insert (h.library.key name enableAsync defer) edition })
  /-- Any other is compiled from what the loader has now, with the options asked for. -/
  compiled : ∀ loader, h.library.loader = some loader →
    h.library.key name enableAsync defer ∉ h.library.cache.keys →
    (fun r => r.1.template) <$> h.library.get name enableAsync defer = (do
      let (source, filename) ← loader.source name
      Template.make source name filename (h.library.optionsFor enableAsync defer))
  /-- It is none of those given before. -/
  fresh : ∀ edition library, h.library.get name enableAsync defer = .ok (edition, library) →
    h.library.key name enableAsync defer ∉ h.library.cache.keys → edition ∉ h.given
  /-- A call that fails leaves everything as it was. -/
  failed : ∀ fault, h.library.get name enableAsync defer = .error fault →
    h.act (.get name enableAsync defer) = h

theorem Sound.serves (sound : h.Sound capacity) (name : String) (enableAsync defer : Option Bool) :
    h.Serves name enableAsync defer := by
  constructor
  case held =>
    intro edition found
    refine ⟨sound.holds.mem_of_find? found, fun loader => ?_⟩
    exact Library.get_of_found (l := { h.library with loader }) found
  case compiled =>
    intro loader here absent
    rw [Library.get_of_not_found (Cache.find?_eq_none absent), ← Library.template_load here]
    cases h.library.load name (h.library.optionsFor enableAsync defer) <;> rfl
  case fresh =>
    intro edition library result absent mem
    have number := sound.numbered edition mem
    obtain ⟨-, ⟨found, -⟩ | ⟨same, -⟩⟩ := Library.get_eq_ok result
    · rw [Cache.find?_eq_none absent] at found
      cases found
    · omega
  case failed =>
    exact fun fault => act_get_of_error

end LibraryHistory

/-- The templates that a library holds are those that were used last, of as many different keys as there
is room for, and calls go by that, whatever was done since the library was made. -/
theorem Library.get_recent {loader : Option Loader} {options : RenderOptions} {capacity : Int}
    {l : Library} (made : Library.make loader options capacity = .ok l) (acts : List LibraryAct) :
    let h := LibraryHistory.after { library := l } acts
    h.library.cache.size ≤ capacity.toNat ∧
    h.library.cache.keys = ((h.uses.map (·.1)).dedup).rtake capacity.toNat ∧
    ∀ name enableAsync defer, h.Serves name enableAsync defer := by
  intro h
  have sound : h.Sound capacity.toNat := (LibraryHistory.Sound.of_make made).after acts
  refine ⟨?_, ?_, sound.serves⟩
  · exact sound.capacity ▸ sound.holds.size_le
  · exact sound.capacity ▸ sound.holds.keys_eq

/-- With room for one of two templates, the one used last is held. -/
theorem Library.get_recent_of_two : ∃ l,
    Library.make (some (.ofTemplates [("a", ""), ("b", "")])) {} 1 = .ok l ∧
      (LibraryHistory.after { library := l } [.get "a" none none, .get "b" none none]).library.cache.keys =
        [("b", false, false)] := by
  have made : Library.make (some (.ofTemplates [("a", ""), ("b", "")])) {} 1 = .ok _ := rfl
  obtain ⟨-, keys, -⟩ := Library.get_recent made [.get "a" none none, .get "b" none none]
  exact ⟨_, made, keys.trans rfl⟩

/-! ## Sessions -/

namespace LibrarySession

variable (s : LibrarySession)

@[simp] theorem library_read (start : Run Nat) : (s.read start).2.library = s.library := by
  unfold read
  split <;> rfl

@[simp] theorem library_showEdition (edition : Edition) :
    (s.showEdition edition).2.library = s.library := by
  unfold showEdition
  split <;> rfl

theorem library_showResult (r : Except Fault (Edition × Library)) :
    (s.showResult r).2.library = (r.toOption.map (·.2)).getD s.library := by
  cases r with
  | ok r => exact library_showEdition ..
  | error => rfl

theorem library_readNamed (name : String) (args : List Value) (data : List (String × Value)) :
    (s.readNamed name args data).2.library =
      ((s.library.get name none none).toOption.map (·.2)).getD s.library := by
  unfold readNamed
  cases s.library.get name none none with
  | ok r => exact library_read ..
  | error => rfl

/-- What a request does to the library of a session is something that can be done with a library. -/
theorem library_answer (request : LibraryRequest) : ∃ acts,
    (s.answer request).2.library = (LibraryHistory.after { library := s.library } acts).library := by
  have nothing : ∃ acts, s.library = (LibraryHistory.after { library := s.library } acts).library :=
    ⟨[], rfl⟩
  have change (loader : Option Loader) (options : RenderOptions) : ∃ acts,
      { s.library with loader, options } =
        (LibraryHistory.after { library := s.library } acts).library :=
    ⟨[.change loader options], rfl⟩
  cases request with
  | get name enableAsync defer =>
    refine ⟨[.get name enableAsync defer], ?_⟩
    rw [LibraryHistory.after_singleton, LibraryHistory.library_act_get]
    exact library_showResult ..
  | fromSource source name enableAsync defer =>
    refine ⟨[.fromSource source name enableAsync defer], ?_⟩
    rw [LibraryHistory.after_singleton, LibraryHistory.library_act_fromSource]
    exact library_showResult ..
  | render name args data =>
    simp only [answer]
    split
    next args data s' built =>
      have same : s'.library = s.library := congrArg (·.2.library) built.symm
      refine ⟨[.get name none none], ?_⟩
      rw [LibraryHistory.after_singleton, LibraryHistory.library_act_get, ← same]
      exact library_readNamed ..
    next fault s' built => exact ⟨[], congrArg (·.2.library) built.symm⟩
  | renderShown number data =>
    simp only [answer]
    split
    · exact ⟨[], library_read ..⟩
    · exact nothing
  | setGlobal name value =>
    simp only [answer]
    split
    next v s' built =>
      have same : s'.library = s.library := congrArg (·.2.library) built.symm
      simp only [LibrarySession.change, same]
      exact change _ _
    next fault s' built => exact ⟨[], congrArg (·.2.library) built.symm⟩
  | names => exact nothing
  | clear => exact ⟨[.clear], rfl⟩
  | describe => exact nothing
  | source name => exact nothing
  | setSource name source => exact change _ _
  | eraseSource name => exact change _ _
  | setDefaults enableAsync defer => exact change _ _

end LibrarySession

end StreamTemplate
