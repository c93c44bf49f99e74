import StreamTemplate.Library.Loader

/-!
# What a search through folders finds

A name is looked for in one folder after the other, and the first one that has a file there gives the
source (`search_eq_some_iff`). A name that goes down from where it starts, as all the names do that a
loader lists, leads to a file inside the folder that it was found from (`encloses_of_descends`); a name
that goes up, or that begins at a root, leads to wherever it says.
-/

namespace StreamTemplate

/-! ### Names of files as paths -/

namespace Path

/-- Whether steps taken `depth` folders below a place never leave that place. -/
def staysBelow (depth : Nat) : List String → Bool
  | [] => true
  | step :: rest =>
    if step = parentStep then 0 < depth && staysBelow (depth - 1) rest
    else staysBelow (depth + 1) rest

/-- A path that goes down from where one is: it has steps and no root, and never goes further up than
it went down before. -/
structure Descends (p : Path) : Prop where
  root : p.root = ""
  parts : p.parts ≠ []
  stays : staysBelow 0 p.parts = true

/-- A text that is the name of one file or folder. -/
structure IsName (step : String) : Prop where
  ne_empty : step ≠ ""
  ne_here : step ≠ "."
  ne_parent : step ≠ parentStep
  no_slash : '/' ∉ step.toList

instance (step : String) : Decidable (IsName step) :=
  decidable_of_iff (step ≠ "" ∧ step ≠ "." ∧ step ≠ parentStep ∧ '/' ∉ step.toList)
    ⟨fun ⟨empty, here, parent, slash⟩ => ⟨empty, here, parent, slash⟩,
      fun h => ⟨h.ne_empty, h.ne_here, h.ne_parent, h.no_slash⟩⟩

theorem staysBelow_of_isName {steps : List String} (h : ∀ step ∈ steps, IsName step) (depth : Nat) :
    staysBelow depth steps = true := by
  induction steps generalizing depth with
  | nil => rfl
  | cons step rest ih =>
    obtain ⟨first, others⟩ := List.forall_mem_cons.1 h
    rw [staysBelow, if_neg first.ne_parent]
    exact ih others _

theorem segments_of_no_slash {cs : List Char} (h : '/' ∉ cs) : segments cs = [cs] := by
  induction cs with
  | nil => rfl
  | cons c rest ih =>
    obtain ⟨hc, hr⟩ := not_or.1 (mt List.mem_cons.2 h)
    rw [segments, if_neg (Ne.symm hc), ih hr]
    rfl

theorem segments_append_slash {cs : List Char} (h : '/' ∉ cs) (rest : List Char) :
    segments (cs ++ '/' :: rest) = cs :: segments rest := by
  induction cs with
  | nil => rfl
  | cons c cs ih =>
    obtain ⟨hc, hr⟩ := not_or.1 (mt List.mem_cons.2 h)
    rw [List.cons_append, segments, if_neg (Ne.symm hc), ih hr]
    rfl

theorem segments_intercalate {steps : List (List Char)} (ne : steps ≠ [])
    (h : ∀ step ∈ steps, '/' ∉ step) : segments (['/'].intercalate steps) = steps := by
  induction steps with
  | nil => exact absurd rfl ne
  | cons step rest ih =>
    obtain ⟨first, others⟩ := List.forall_mem_cons.1 h
    cases rest with
    | nil => simpa using segments_of_no_slash first
    | cons next rest =>
      rw [List.intercalate_cons_cons, List.append_assoc, List.singleton_append,
        segments_append_slash first, ih (List.cons_ne_nil _ _) others]

theorem rootOf_append {cs : List Char} (ne : cs ≠ []) (h : '/' ∉ cs) (rest : List Char) :
    rootOf (cs ++ rest) = "" := by
  cases cs with
  | nil => exact absurd rfl ne
  | cons c cs =>
    have hc : c ≠ '/' := fun hc => h (hc ▸ List.mem_cons_self)
    rw [List.cons_append, rootOf] <;> simp [hc]

/-- The names of the folders on the way and of the file, written with slashes, are read back. -/
theorem ofText_intercalate {steps : List String} (ne : steps ≠ []) (h : ∀ step ∈ steps, IsName step) :
    ofText ("/".intercalate steps) = ⟨"", steps⟩ := by
  have text : ("/".intercalate steps).toList = ['/'].intercalate (steps.map String.toList) :=
    String.toList_intercalate
  have parts : segments ("/".intercalate steps).toList = steps.map String.toList := by
    rw [text]
    refine segments_intercalate (by simpa using ne) fun step hs => ?_
    obtain ⟨s, mem, rfl⟩ := List.mem_map.1 hs
    exact (h s mem).no_slash
  have root : rootOf ("/".intercalate steps).toList = "" := by
    obtain ⟨step, rest, rfl⟩ := List.exists_cons_of_ne_nil ne
    have first := h step List.mem_cons_self
    have some_char : step.toList ≠ [] := by simpa using first.ne_empty
    rw [text]
    cases rest with
    | nil => simpa using rootOf_append some_char first.no_slash []
    | cons next rest =>
      rw [List.map_cons, List.map_cons, List.intercalate_cons_cons, List.append_assoc]
      exact rootOf_append some_char first.no_slash _
  have kept : ((steps.map String.toList).map String.ofList).filter (fun part => part ≠ "" && part ≠ ".") =
      steps := by
    have same : String.ofList ∘ String.toList = id := funext fun s => String.ofList_toList
    rw [List.map_map, same, List.map_id]
    exact List.filter_eq_self.2 fun s hs => by simp [(h s hs).ne_empty, (h s hs).ne_here]
  rw [ofText, root, parts, kept]

end Path

/-! ### Following steps -/

namespace Folder

variable {f : Folder}

/-- A tree as a disk has it: files and folders have names, and a file is not a folder. -/
structure Sound (f : Folder) : Prop where
  named : ∀ file ∈ f.files, ∀ step ∈ file.1, Path.IsName step
  apart : ∀ file ∈ f.files, f.hasFolder file.1 = false

/-- A path leads to a place inside the folder that another path leads to. -/
def Encloses (f : Folder) (base p : Path) : Prop :=
  ∃ folder steps, f.hasFolder folder = true ∧ f.place? base = some folder ∧
    f.place? p = some (folder ++ steps) ∧ steps ≠ []

theorem follow_append (place first second : List String) :
    f.follow place (first ++ second) = (f.follow place first).bind (f.follow · second) := by
  induction first generalizing place with
  | nil => rfl
  | cons step rest ih =>
    rw [List.cons_append, follow, follow]
    split
    · rfl
    split
    · split
      · rfl
      · exact ih _
    · exact ih _

theorem place?_join {p : Path} (root : p.root = "") (base : Path) :
    f.place? (base.join p) = (f.place? base).bind (f.follow · p.parts) := by
  rw [Path.join, if_pos root]
  simp only [place?, start?, follow_append, Option.bind_eq_bind, Option.bind_assoc]

/-- Steps that stay below a place lead to a place below it. -/
theorem prefix_of_follow {place there : List String} (down : List String) {steps : List String}
    (stays : Path.staysBelow down.length steps = true)
    (h : f.follow (place ++ down) steps = some there) : place <+: there := by
  induction steps generalizing down with
  | nil =>
    obtain rfl : place ++ down = there := Option.some.inj h
    exact List.prefix_append _ _
  | cons step rest ih =>
    rw [follow] at h
    rw [Path.staysBelow] at stays
    split at h
    case isTrue => exact absurd h.symm (Option.some_ne_none _)
    split at stays
    case isTrue up =>
      obtain ⟨deep, stays⟩ := Bool.and_eq_true_iff.1 stays
      have ne : down ≠ [] := List.ne_nil_of_length_pos (by simpa using deep)
      rw [if_pos up, if_neg (by simp [ne]), List.dropLast_append_of_ne_nil ne] at h
      exact ih _ (by rwa [List.length_dropLast]) h
    case isFalse down =>
      rw [if_neg down, List.append_assoc] at h
      exact ih _ (by rwa [List.length_append]) h

/-- Names of folders, one in the other, are followed to what is in the last one. -/
theorem follow_of_isName {place steps : List String} (names : ∀ step ∈ steps, Path.IsName step)
    (folders : ∀ steps', steps' <+: steps → steps' ≠ steps → f.hasFolder (place ++ steps') = true) :
    f.follow place steps = some (place ++ steps) := by
  induction steps generalizing place with
  | nil => rw [follow, List.append_nil]
  | cons step rest ih =>
    obtain ⟨first, others⟩ := List.forall_mem_cons.1 names
    have here := folders [] (List.nil_prefix) (List.cons_ne_nil _ _).symm
    rw [List.append_nil] at here
    rw [follow, here, if_neg (by simp), if_neg first.ne_parent]
    rw [ih others fun steps' le ne => ?_, List.append_assoc, List.singleton_append]
    rw [List.append_assoc, List.singleton_append]
    exact folders (step :: steps') ((List.prefix_cons_inj step).2 le) fun same =>
      ne (List.cons.inj same).2

theorem hasFolder_of_steps {place steps there : List String} (ne : steps ≠ [])
    (h : f.follow place steps = some there) : f.hasFolder place = true := by
  obtain ⟨step, rest, rfl⟩ := List.exists_cons_of_ne_nil ne
  rw [follow] at h
  split at h
  case isTrue => exact absurd h.symm (Option.some_ne_none _)
  case isFalse known => simpa using known

/-! ### Files -/

theorem file?_eq_some {p : Path} {data : List UInt8} (h : f.file? p = some data) :
    ∃ place, f.place? p = some place ∧ (place, data) ∈ f.files := by
  rw [file?, Option.bind_eq_bind, Option.bind_eq_some_iff] at h
  obtain ⟨place, hp, h⟩ := h
  rw [Option.bind_eq_bind, Option.bind_eq_some_iff] at h
  obtain ⟨⟨place', data'⟩, found, same⟩ := h
  obtain rfl : data' = data := Option.some.inj same
  obtain rfl : place' = place := by simpa using List.find?_some found
  exact ⟨place', hp, List.mem_reverse.1 (List.mem_of_find?_eq_some found)⟩

theorem file?_isSome {p : Path} {place : List String} (hp : f.place? p = some place)
    {data : List UInt8} (mem : (place, data) ∈ f.files) : (f.file? p).isSome = true := by
  have found : (f.files.reverse.find? (·.1 = place)).isSome = true :=
    List.find?_isSome.2 ⟨_, List.mem_reverse.2 mem, by simp⟩
  obtain ⟨file, found⟩ := Option.isSome_iff_exists.1 found
  rw [file?, hp]
  simp [found]

/-- The file that a descending path leads to is inside the folder it descends from. -/
theorem encloses_of_descends (h : f.Sound) {p base : Path} (descends : p.Descends)
    {data : List UInt8} (found : f.file? (base.join p) = some data) :
    f.Encloses base (base.join p) := by
  obtain ⟨place, hp, mem⟩ := file?_eq_some found
  rw [place?_join descends.root, Option.bind_eq_some_iff] at hp
  obtain ⟨folder, hb, hf⟩ := hp
  have here : f.hasFolder folder = true := hasFolder_of_steps descends.parts hf
  obtain ⟨steps, rfl⟩ : folder <+: place :=
    prefix_of_follow [] descends.stays (by rwa [List.append_nil])
  refine ⟨folder, steps, here, hb, by rw [place?_join descends.root, hb]; exact hf, ?_⟩
  rintro rfl
  rw [List.append_nil] at mem
  exact absurd here (by simp [h.apart _ mem])

theorem mem_filesUnder {base : Path} {steps : List String} (h : steps ∈ f.filesUnder base) :
    ∃ folder data, f.place? base = some folder ∧ f.hasFolder folder = true ∧
      (folder ++ steps, data) ∈ f.files := by
  rw [filesUnder] at h
  split at h
  case h_1 => exact absurd h List.not_mem_nil
  case h_2 folder hb =>
    cases here : f.hasFolder folder with
    | false =>
      rw [here] at h
      exact absurd h List.not_mem_nil
    | true =>
      rw [here] at h
      obtain ⟨⟨file, data⟩, mem, hs⟩ := List.mem_filterMap.1 h
      change (if folder.isPrefixOf file then some (file.drop folder.length) else none) = some steps at hs
      split at hs
      case isFalse => exact absurd hs.symm (Option.some_ne_none _)
      case isTrue le =>
        obtain ⟨more, rfl⟩ := List.isPrefixOf_iff_prefix.1 le
        obtain rfl : more = steps := by simpa using hs
        exact ⟨folder, data, hb, here, mem⟩

/-- The files of a folder are found by their steps from it. -/
theorem file?_of_mem_filesUnder (h : f.Sound) {base : Path} {steps : List String}
    (mem : steps ∈ f.filesUnder base) : (f.file? (base.join ⟨"", steps⟩)).isSome = true := by
  obtain ⟨folder, data, hb, here, mem⟩ := mem_filesUnder mem
  have names : ∀ step ∈ steps, Path.IsName step := fun step hs =>
    h.named _ mem step (List.mem_append_right _ hs)
  refine file?_isSome ?_ mem
  rw [place?_join rfl, hb]
  refine follow_of_isName names fun steps' le ne => ?_
  rw [hasFolder, Bool.or_eq_true, Bool.or_eq_true]
  refine .inr (List.any_eq_true.2 ⟨_, mem, Bool.and_eq_true_iff.2 ⟨?_, ?_⟩⟩)
  · exact List.isPrefixOf_iff_prefix.2 ((List.prefix_append_right_inj _).2 le)
  · simpa using ne

end Folder

/-! ### Searching -/

namespace Loader

variable {tree : Folder} {name : String} {paths : List Path}

theorem search_eq_none_iff :
    search tree name paths = none ↔ ∀ base ∈ paths, tree.file? (base.join (.ofText name)) = none := by
  induction paths with
  | nil => simp [search]
  | cons base rest ih =>
    rw [search, List.forall_mem_cons]
    cases tree.file? (base.join (.ofText name)) with
    | some data => simp
    | none => simpa using ih

/-- The first folder that has a file of the name is the one that counts. -/
theorem search_eq_some_iff {path : Path} {data : List UInt8} :
    search tree name paths = some (path, data) ↔
      ∃ before base after, paths = before ++ base :: after ∧
        (∀ b ∈ before, tree.file? (b.join (.ofText name)) = none) ∧
        path = base.join (.ofText name) ∧ tree.file? path = some data := by
  induction paths with
  | nil => simp [search]
  | cons base rest ih =>
    rw [search]
    cases here : tree.file? (base.join (.ofText name)) with
    | some found =>
      constructor
      · intro h
        obtain ⟨rfl, rfl⟩ := Prod.mk.inj (Option.some.inj h)
        exact ⟨[], base, rest, rfl, by simp, rfl, here⟩
      · rintro ⟨before, first, after, split, none_before, rfl, found'⟩
        cases before with
        | nil =>
          obtain ⟨rfl, rfl⟩ := List.cons.inj split
          rw [Option.some.inj (here.symm.trans found')]
        | cons b before =>
          obtain ⟨rfl, -⟩ := List.cons.inj split
          rw [none_before _ List.mem_cons_self] at here
          exact absurd here.symm (Option.some_ne_none _)
    | none =>
      refine ih.trans ⟨?_, ?_⟩
      · rintro ⟨before, first, after, rfl, none_before, h⟩
        exact ⟨base :: before, first, after, rfl, List.forall_mem_cons.2 ⟨here, none_before⟩, h⟩
      · rintro ⟨before, first, after, split, none_before, rfl, found⟩
        cases before with
        | nil =>
          obtain ⟨rfl, rfl⟩ := List.cons.inj split
          rw [here] at found
          exact absurd found.symm (Option.some_ne_none _)
        | cons b before =>
          obtain ⟨rfl, rfl⟩ := List.cons.inj split
          exact ⟨before, first, after, rfl, (List.forall_mem_cons.1 none_before).2, rfl, found⟩

/-- The names that are listed go down from where they start, to a file. -/
theorem of_mem_names (h : tree.Sound) {encoding : String}
    (listed : name ∈ (folders paths encoding tree).names) :
    (Path.ofText name).Descends ∧
      ∃ base ∈ paths, (tree.file? (base.join (.ofText name))).isSome = true := by
  rw [names, sortedNames, List.mem_eraseDups, List.mem_mergeSort] at listed
  obtain ⟨steps, mem, rfl⟩ := List.mem_map.1 listed
  obtain ⟨mem, suffix⟩ := List.mem_filter.1 mem
  obtain ⟨base, hb, mem⟩ := List.mem_flatMap.1 mem
  have ne : steps ≠ [] := by
    rintro rfl
    exact absurd suffix (by decide)
  have steps_named : ∀ step ∈ steps, Path.IsName step := fun step hs =>
    let ⟨_, _, _, _, mem⟩ := Folder.mem_filesUnder mem
    h.named _ mem step (List.mem_append_right _ hs)
  rw [Path.ofText_intercalate ne steps_named]
  exact ⟨⟨rfl, ne, Path.staysBelow_of_isName steps_named 0⟩, base, hb,
    Folder.file?_of_mem_filesUnder h mem⟩

/-- A loader that searches folders gives the source from the first of them that has a file of the name,
and says that there is no such template if none has. A name that goes down from where it starts, such
as each of those that are listed, leads to a file inside that folder; nothing keeps the others in. -/
theorem source_of_folders (h : tree.Sound) (paths : List Path) (encoding name : String) :
    (name ∉ (folders paths encoding tree).names ∧
      (∀ base ∈ paths, tree.file? (base.join (.ofText name)) = none) ∧
      (folders paths encoding tree).source name = .error (notFound
        ("Template '" ++ name ++ "' not found in: " ++ ", ".intercalate (paths.map (·.toText))))) ∨
    ∃ before base after data, paths = before ++ base :: after ∧
      (∀ b ∈ before, tree.file? (b.join (.ofText name)) = none) ∧
      tree.file? (base.join (.ofText name)) = some data ∧
      (folders paths encoding tree).source name =
        (fileText encoding data).map (·, some (base.join (.ofText name)).toText) ∧
      ((Path.ofText name).Descends ∨ name ∈ (folders paths encoding tree).names →
        tree.Encloses base (base.join (.ofText name))) := by
  cases found : search tree name paths with
  | none =>
    have missing := search_eq_none_iff.1 found
    refine .inl ⟨fun listed => ?_, missing, by simp only [source, found]; rfl⟩
    obtain ⟨-, base, hb, there⟩ := of_mem_names h listed
    rw [missing base hb] at there
    exact absurd there Bool.false_ne_true
  | some file =>
    obtain ⟨path, data⟩ := file
    obtain ⟨before, base, after, split, none_before, rfl, here⟩ := search_eq_some_iff.1 found
    refine .inr ⟨before, base, after, data, split, none_before, here, ?_, fun inside => ?_⟩
    · simp only [source, found]
      cases fileText encoding data <;> rfl
    · exact Folder.encloses_of_descends h (inside.elim id fun listed => (of_mem_names h listed).1) here

/-- A folder with a template in it, and a file beside the folder: the name that goes up to that file
is not kept from it, and the name that is listed leads to the template. -/
theorem source_of_folders_beside :
    ∃ tree : Folder, tree.Sound ∧
      (folders [.ofText "templates"] "utf-8" tree).source "../notes.txt" =
        .ok ("out", some "templates/../notes.txt") ∧
      "a.ejs" ∈ (folders [.ofText "templates"] "utf-8" tree).names ∧
      tree.Encloses (.ofText "templates") ((Path.ofText "templates").join (.ofText "a.ejs")) := by
  let tree : Folder :=
    { files := [(["templates", "a.ejs"], [105, 110]), (["notes.txt"], [111, 117, 116])], folders := [] }
  have sound : tree.Sound :=
    ⟨List.forall_mem_cons.2 ⟨by decide, List.forall_mem_cons.2 ⟨by decide, by simp⟩⟩, by decide⟩
  have listed : "a.ejs" ∈ (folders [.ofText "templates"] "utf-8" tree).names := by
    rw [names, sortedNames, List.mem_eraseDups, List.mem_mergeSort]
    decide
  refine ⟨tree, sound, by rfl, listed, ?_⟩
  rcases source_of_folders sound [.ofText "templates"] "utf-8" "a.ejs" with ⟨absent, -⟩ | h
  · exact absurd listed absent
  · obtain ⟨before, base, after, data, split, -, -, -, inside⟩ := h
    cases before with
    | nil =>
      obtain ⟨rfl, -⟩ := List.cons.inj split
      exact inside (.inr listed)
    | cons b before => exact absurd (List.cons.inj split).2 (by simp)

end Loader

end StreamTemplate
