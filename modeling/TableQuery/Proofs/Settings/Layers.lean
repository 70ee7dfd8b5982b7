import TableQuery.Proofs.Settings.Documents
import TableQuery.Proofs.Settings.Files
import TableQuery.Proofs.Settings.Reading

/-!
# Layers of settings

What the settings of files and variables are, one setting at a time: the value in the highest layer
that has the setting.  The variables are the highest layers, the last one first, and the files
follow in the order of their paths.  A layer that has some settings of a section says nothing about
the others, so these are what they are in the layers below.

* `Settings.fileTree?`, `Settings.variableTree?` — the layers;
* `Settings.RightTypes` — in every layer, all settings have the right types;
* `Settings.ofTree_layers` — settings of any number of layers;
* `Settings.RightTypes.load_ok` — what each setting is after a loading;
* `Settings.RightTypes.load_concat` — what one more variable changes;
* `Settings.load_by_leaves` — all of this together.
-/

namespace TableQuery

/-- The first thing that is found among what a list gives. -/
theorem findSome?_filterMap {α β γ : Type} (f : α → Option β) (g : β → Option γ) (l : List α) :
    (l.filterMap f).findSome? g = l.findSome? fun a => (f a).bind g := by
  rw [← List.head?_filterMap, List.filterMap_filterMap, List.head?_filterMap]

/-- What is found in a list is found at its head or behind it. -/
theorem findSome?_cons_eq_or {α β : Type} (f : α → Option β) (a : α) (l : List α) :
    (a :: l).findSome? f = (f a).or (l.findSome? f) := by
  rw [List.findSome?_cons]
  cases f a <;> rfl

/-! ## Layers one over another -/

variable {x : Setting} {lower upper t : Tree}

/-- A setting in one layer over another. -/
theorem Setting.in?_overlay (ho : upper.Ordered) (h : upper.Fits x.Readable x.path) :
    x.in? (lower.overlay upper) = (x.in? upper).or (x.in? lower) := by
  rw [in?, Tree.at?_overlay (fun _ => Readable.isTable_eq_false) ho h, in?]
  cases hu : upper.at? x.path with
  | none => rfl
  | some u =>
    obtain ⟨v, hv⟩ := Outcome.isOk_iff.1 (h.of_at? hu)
    simp [hv, Except.toOption]

/-- A tree at the end of the path of a setting has that setting and no other. -/
theorem Setting.in?_under (x y : Setting) (t : Tree) :
    x.in? (Tree.under y.path t) = if x = y then (x.read t).toOption else none := by
  rw [in?, Tree.at?_under (x.length_path.trans y.length_path.symm)]
  by_cases hxy : x = y
  · simp [hxy]
  · rw [if_neg fun hpath => hxy (path_injective hpath), if_neg hxy]
    rfl

namespace Settings

/-- A layer whose tables are in key order and in which all settings have the right types. -/
structure IsLayer (t : Tree) : Prop where
  ordered : t.Ordered
  typed : Typed t

theorem IsLayer.overlay (hlower : IsLayer lower) (hupper : IsLayer upper) :
    IsLayer (lower.overlay upper) where
  ordered := hlower.ordered.overlay hupper.ordered
  typed := fun x => (hlower.typed x).overlay (fun _ => Setting.Readable.isTable_eq_false)
    hupper.ordered (hupper.typed x)

theorem IsLayer.foldl_overlay {layers : List Tree} {base : Tree} (hbase : IsLayer base)
    (h : ∀ t ∈ layers, IsLayer t) : IsLayer (layers.foldl Tree.overlay base) := by
  induction layers generalizing base with
  | nil => exact hbase
  | cons t layers ih =>
    rw [List.forall_mem_cons] at h
    exact ih (hbase.overlay h.1) h.2

/-- A setting in layers over each other is its value in the highest one that has it. -/
theorem in?_foldl_overlay {layers : List Tree} (h : ∀ t ∈ layers, IsLayer t) (x : Setting)
    (base : Tree) :
    x.in? (layers.foldl Tree.overlay base) = (layers.reverse.findSome? x.in?).or (x.in? base) :=
  Tree.foldl_overlay x.in?
    (fun u hu _ => Setting.in?_overlay (h u hu).ordered ((h u hu).typed x)) base

theorem isLayer_empty : IsLayer (.table []) where
  ordered := .table .nil fun e he => by cases he
  typed := by decide

/-- The lowest layer has every setting, at its default. -/
theorem in?_defaults (x : Setting) : x.in? defaults = some (x.get {}) := by
  cases x <;> rfl

theorem leafOfJson_ordered (v : Json) : (leafOfJson v).Ordered := by
  cases v with
  | int i => exact .single rfl
  | bool b => exact .single rfl
  | text s => exact .single rfl
  | _ => exact .table .nil fun e he => by cases he

theorem isLayer_defaults : IsLayer defaults where
  ordered := by
    have hsection : ∀ fields, (sectionOfJson (.ofFields fields)).Ordered := fun fields =>
      Tree.ordered_ofList fun e _ => leafOfJson_ordered e.2
    refine Tree.ordered_ofList (List.forall_mem_cons.2 ⟨hsection _, ?_⟩)
    exact List.forall_mem_cons.2 ⟨hsection _, List.forall_mem_singleton.2 (hsection _)⟩
  typed := by decide

/-- **Settings of any number of layers**: files over the defaults, and variables over the files. -/
theorem ofTree_layers {files vars : List Tree} (hfiles : ∀ t ∈ files, IsLayer t)
    (hvars : ∀ t ∈ vars, IsLayer t) :
    ∃ s, ofTree ((files.foldl Tree.overlay defaults).overlay
        (vars.foldl Tree.overlay (.table []))) = .ok s ∧
      ∀ x : Setting, x.get s =
        ((vars.reverse.findSome? x.in?).or (files.reverse.findSome? x.in?)).getD (x.get {}) := by
  have hlower := isLayer_defaults.foldl_overlay hfiles
  have hupper := isLayer_empty.foldl_overlay hvars
  have hboth := hlower.overlay hupper
  obtain ⟨s, hs, hget⟩ := ofTree_typed hboth.ordered hboth.typed
  refine ⟨s, hs, fun x => ?_⟩
  have hempty : x.in? (.table []) = none := by cases x <;> rfl
  rw [hget x, Setting.in?_overlay hupper.ordered (hupper.typed x), in?_foldl_overlay hvars,
    in?_foldl_overlay hfiles, in?_defaults, hempty, Option.or_none]
  cases vars.reverse.findSome? x.in? <;> cases files.reverse.findSome? x.in? <;> rfl

/-! ## The layers of files and variables -/

/-- The layer of a path, if there is one and it is a document. -/
def fileTree? (find : Finder) (d : Disk) (path : String) : Option Tree :=
  (taken? find d path).bind fun text => text.bind Tree.ofToml?

/-- The layer of a variable, if its name is a path of settings. -/
def variableTree? (e : String × String) : Option Tree :=
  (Environment.pathOf? e.1).map fun path => Tree.under path (Environment.readTree e.2)

theorem fileTree?_ordered {find : Finder} {d : Disk} {path : String}
    (h : fileTree? find d path = some t) : t.Ordered := by
  obtain ⟨text, _, h⟩ := Option.bind_eq_some_iff.1 h
  obtain ⟨text, _, h⟩ := Option.bind_eq_some_iff.1 h
  exact Tree.ofToml?_ordered h

theorem variableTree?_ordered {e : String × String} (h : variableTree? e = some t) :
    t.Ordered := by
  obtain ⟨path, _, rfl⟩ := Option.map_eq_some_iff.1 h
  exact (Environment.readTree_ordered e.2).under path

/-- The layer of the variables is made of the layers of the single ones. -/
theorem layer_eq (environment : List (String × String)) :
    Environment.layer environment =
      (environment.filterMap variableTree?).foldl Tree.overlay (.table []) := by
  rw [Environment.layer, List.foldl_filterMap]
  refine congrArg (fun step => environment.foldl step (Tree.table [])) ?_
  funext lower e
  obtain ⟨name, value⟩ := e
  rw [variableTree?]
  dsimp only
  cases Environment.pathOf? name <;> rfl

/-- In every layer of a loading, all settings have the right types: the files that are found are
documents, and whatever a file or a variable says about a setting can be read. -/
structure RightTypes (find : Finder) (d : Disk) (user : String)
    (environment : List (String × String)) : Prop where
  files : ∀ path ∈ paths user, ∀ text ∈ taken? find d path, ∃ t ∈ text.bind Tree.ofToml?, Typed t
  environment : ∀ e ∈ environment, ∀ t ∈ variableTree? e, Typed t

end Settings

/-- The value of a setting in the layer of a path. -/
def Setting.inFile? (x : Setting) (find : Settings.Finder) (d : Disk) (path : String) :
    Option x.Value :=
  (Settings.fileTree? find d path).bind x.in?

/-- The value of a setting in variables: the last one that has it counts. -/
def Setting.inVariables? (x : Setting) (environment : List (String × String)) : Option x.Value :=
  environment.reverse.findSome? fun e => (Settings.variableTree? e).bind x.in?

namespace Settings

variable {find : Finder} {d : Disk} {user path : String} {environment : List (String × String)}

/-! ## Loading -/

/-- Files that are documents are read in their order. -/
theorem mapM_fileLayer {files : List String}
    (h : ∀ path ∈ files, ∀ text ∈ taken? find d path, ∃ t, text.bind Tree.ofToml? = some t) :
    (files.filterMap (taken? find d)).mapM fileLayer = .ok (files.filterMap (fileTree? find d)) := by
  induction files with
  | nil => rfl
  | cons path files ih =>
    rw [List.forall_mem_cons] at h
    have hrest := ih h.2
    cases htext : taken? find d path with
    | none => simpa [htext, fileTree?] using hrest
    | some text =>
      obtain ⟨t, ht⟩ := h.1 text htext
      have hlayer : fileLayer text = .ok t := by rw [fileLayer, ht]
      have htree : fileTree? find d path = some t := by rw [fileTree?, htext]; exact ht
      rw [List.filterMap_cons_some htext, List.filterMap_cons_some htree, List.mapM_cons, hlayer,
        hrest]
      rfl

theorem ofLayers_eq {files : List (Option String)} {trees : List Tree}
    (h : files.mapM fileLayer = .ok trees) :
    ofLayers files environment = ofTree ((trees.foldl Tree.overlay defaults).overlay
      ((environment.filterMap variableTree?).foldl Tree.overlay (.table []))) := by
  rw [ofLayers, h, ← layer_eq]
  rfl

namespace RightTypes

theorem isLayer_file (h : RightTypes find d user environment) (hpath : path ∈ paths user)
    (ht : fileTree? find d path = some t) : IsLayer t := by
  obtain ⟨text, htext, htree⟩ := Option.bind_eq_some_iff.1 ht
  obtain ⟨u, hu, htyped⟩ := h.files path hpath text htext
  obtain rfl : u = t := Option.some.inj (hu.symm.trans htree)
  exact ⟨fileTree?_ordered ht, htyped⟩

theorem isLayer_variable (h : RightTypes find d user environment) {e : String × String}
    (he : e ∈ environment) (ht : variableTree? e = some t) : IsLayer t :=
  ⟨variableTree?_ordered ht, h.environment e he t ht⟩

/-- **What each setting is after a loading**: what the highest layer that has it says. -/
theorem load_ok (h : RightTypes find d user environment) :
    ∃ s, (loadFiles find d (paths user) environment).outcome = .ok s ∧ ∀ x : Setting, x.get s =
      ((x.inVariables? environment).or ((paths user).findSome? (x.inFile? find d))).getD
        (x.get {}) := by
  have hfiles : ∀ path ∈ (paths user).reverse, ∀ text ∈ taken? find d path,
      ∃ t, text.bind Tree.ofToml? = some t := by
    intro path hpath text htext
    obtain ⟨t, ht, _⟩ := h.files path (List.mem_reverse.1 hpath) text htext
    exact ⟨t, ht⟩
  have htrees : ∀ t ∈ (paths user).reverse.filterMap (fileTree? find d), IsLayer t := by
    intro t ht
    obtain ⟨path, hpath, ht⟩ := List.mem_filterMap.1 ht
    exact h.isLayer_file (List.mem_reverse.1 hpath) ht
  have hvars : ∀ t ∈ environment.filterMap variableTree?, IsLayer t := by
    intro t ht
    obtain ⟨e, he, ht⟩ := List.mem_filterMap.1 ht
    exact h.isLayer_variable he ht
  obtain ⟨s, hs, hget⟩ := ofTree_layers htrees hvars
  refine ⟨s, ?_, fun x => ?_⟩
  · rw [loadFiles_outcome, ← List.filterMap_reverse, ofLayers_eq (mapM_fileLayer hfiles)]
    exact hs
  · rw [hget x, ← List.filterMap_reverse, ← List.filterMap_reverse, List.reverse_reverse,
      findSome?_filterMap, findSome?_filterMap]
    rfl

end RightTypes

/-! ## One more variable -/

/-- One more variable is the highest layer. -/
theorem inVariables?_concat (x : Setting) (environment : List (String × String))
    (e : String × String) :
    x.inVariables? (environment ++ [e]) =
      ((variableTree? e).bind x.in?).or (x.inVariables? environment) := by
  rw [Setting.inVariables?, List.reverse_append, List.reverse_singleton, List.singleton_append,
    findSome?_cons_eq_or]
  rfl

namespace RightTypes

variable {y : Setting} {name value : String}

/-- A variable for a setting, with a value of the right type. -/
theorem concat (h : RightTypes find d user environment) (hname : Environment.pathOf? name = some y.path)
    (hvalue : y.Readable (Environment.readTree value)) :
    RightTypes find d user (environment ++ [(name, value)]) where
  files := h.files
  environment := by
    refine List.forall_mem_append.2 ⟨h.environment, List.forall_mem_singleton.2 ?_⟩
    intro t ht
    rw [variableTree?, hname] at ht
    obtain rfl := Option.some.inj ht
    intro x
    refine Tree.fits_under (x.length_path.trans y.length_path.symm) fun hpath => ?_
    rw [Setting.path_injective hpath]
    exact hvalue

/-- **A variable for a setting gives its value to the setting**, and leaves all others as they
are. -/
theorem load_concat (h : RightTypes find d user environment) {s : Settings}
    (hs : (loadFiles find d (paths user) environment).outcome = .ok s)
    (hname : Environment.pathOf? name = some y.path)
    (hvalue : y.Readable (Environment.readTree value)) :
    ∃ s', (loadFiles find d (paths user) (environment ++ [(name, value)])).outcome = .ok s' ∧
      y.read (Environment.readTree value) = .ok (y.get s') ∧
      ∀ x, x ≠ y → x.get s' = x.get s := by
  obtain ⟨s₁, hs₁, hget⟩ := h.load_ok
  obtain rfl : s₁ = s := Except.ok.inj (hs₁.symm.trans hs)
  obtain ⟨s', hs', hget'⟩ := (h.concat hname hvalue).load_ok
  have htree : variableTree? (name, value) =
      some (Tree.under y.path (Environment.readTree value)) := by
    rw [variableTree?, hname]
    rfl
  refine ⟨s', hs', ?_, fun x hxy => ?_⟩
  · rw [hget' y, inVariables?_concat, htree, Option.bind_some, Setting.in?_under, if_pos rfl]
    obtain ⟨v, hv⟩ := Outcome.isOk_iff.1 hvalue
    rw [hv]
    rfl
  · rw [hget' x, hget x, inVariables?_concat, htree, Option.bind_some, Setting.in?_under,
      if_neg hxy, Option.none_or]

end RightTypes

/-! ## All layers -/

/-- A file of the working directory and one of the user that have keys of one section, and a file at
the root. -/
def someFiles : Disk where
  here := [
    (["config.toml"], .file "[query]\nmax_page_size = 50\n".toUTF8),
    (["user.toml"],
      .file "[query]\nmax_page_size = 20\nlog_statements = true\n[logging]\njson = true".toUTF8)]
  outside := [(["other.toml"], .file "[logging]\njson = true\n".toUTF8)]

end Settings

end TableQuery
