import TableQuery.Proofs.Outcome
import TableQuery.Proofs.Settings.Overlay
import TableQuery.Settings.Reading

/-!
# Settings one at a time

There are nine settings, and each has a place of its own in a tree and in the settings that are
read from it.  If what a tree has at the places of settings can be read, the whole tree can be read,
and each setting is what stands at its place, or its default where nothing stands.  What else is in
the tree makes no difference.

* `Setting` — the settings, with the path, the reader and the place of each;
* `Setting.in?` — the value of a setting in a tree;
* `Settings.Slot` — a key that fills one part of a section, which no other key touches;
* `Settings.Slot.get_readFields` — that part after the fields of a table have been read;
* `Settings.Typed` — a tree in which all settings have the right types;
* `Settings.ofTree_typed` — the settings of such a tree, one at a time.
-/

namespace TableQuery

open Outcome

/-! ## The settings -/

/-- The settings. -/
inductive Setting where
  | maxPageSize | queriesDir | logStatements
  | url | maxConnections | minConnections | connectionTimeout
  | level | json
  deriving DecidableEq

namespace Setting

/-- All of them. -/
def all : List Setting :=
  [.maxPageSize, .queriesDir, .logStatements, .url, .maxConnections, .minConnections,
    .connectionTimeout, .level, .json]

theorem mem_all (x : Setting) : x ∈ all := by
  cases x <;> simp [all]

/-- The values of a setting. -/
def Value : Setting → Type
  | .maxPageSize => UInt64
  | .queriesDir => String
  | .logStatements => Bool
  | .url => String
  | .maxConnections => UInt32
  | .minConnections => UInt32
  | .connectionTimeout => UInt64
  | .level => String
  | .json => Bool

instance : (x : Setting) → DecidableEq x.Value
  | .maxPageSize | .connectionTimeout => inferInstanceAs (DecidableEq UInt64)
  | .maxConnections | .minConnections => inferInstanceAs (DecidableEq UInt32)
  | .queriesDir | .url | .level => inferInstanceAs (DecidableEq String)
  | .logStatements | .json => inferInstanceAs (DecidableEq Bool)

/-- The section and the key of a setting. -/
def path : Setting → List String
  | .maxPageSize => ["query", "max_page_size"]
  | .queriesDir => ["query", "queries_dir"]
  | .logStatements => ["query", "log_statements"]
  | .url => ["database", "url"]
  | .maxConnections => ["database", "max_connections"]
  | .minConnections => ["database", "min_connections"]
  | .connectionTimeout => ["database", "connection_timeout_secs"]
  | .level => ["logging", "level"]
  | .json => ["logging", "json"]

theorem length_path (x : Setting) : x.path.length = 2 := by
  cases x <;> rfl

/-- Each setting has a path of its own. -/
theorem path_injective {x y : Setting} (h : x.path = y.path) : x = y := by
  cases x <;> cases y <;> simp [path] at h ⊢

/-- The reader of a setting. -/
def read : (x : Setting) → Settings.Reader x.Value
  | .maxPageSize => Settings.readWord
  | .queriesDir => Settings.readPath
  | .logStatements => Settings.readTruth
  | .url => Settings.readText
  | .maxConnections => Settings.readHalfWord
  | .minConnections => Settings.readHalfWord
  | .connectionTimeout => Settings.readWord
  | .level => Settings.readText
  | .json => Settings.readTruth

/-- The value of a setting. -/
def get : (x : Setting) → Settings → x.Value
  | .maxPageSize => fun s => s.query.maxPageSize
  | .queriesDir => fun s => s.query.queriesDir
  | .logStatements => fun s => s.query.logStatements
  | .url => fun s => s.database.url
  | .maxConnections => fun s => s.database.maxConnections
  | .minConnections => fun s => s.database.minConnections
  | .connectionTimeout => fun s => s.database.connectionTimeout
  | .level => fun s => s.logging.level
  | .json => fun s => s.logging.json

/-- There are no other settings: what all of them are is all there is. -/
theorem eq_of_get {s s' : Settings} (h : ∀ x : Setting, x.get s = x.get s') : s = s' := by
  obtain ⟨⟨_, _, _⟩, ⟨_, _, _, _⟩, ⟨_, _⟩⟩ := s
  obtain ⟨⟨_, _, _⟩, ⟨_, _, _, _⟩, ⟨_, _⟩⟩ := s'
  cases h .maxPageSize
  cases h .queriesDir
  cases h .logStatements
  cases h .url
  cases h .maxConnections
  cases h .minConnections
  cases h .connectionTimeout
  cases h .level
  cases h .json
  rfl

/-- The value of a setting in a tree, if the tree has one and it can be read. -/
def in? (x : Setting) (t : Tree) : Option x.Value :=
  (t.at? x.path).bind fun u => (x.read u).toOption

/-- The value of a setting can be read from this tree. -/
def Readable (x : Setting) (t : Tree) : Prop := (x.read t).isOk = true

instance (x : Setting) : DecidablePred x.Readable := fun _ => inferInstanceAs (Decidable (_ = _))

/-- The value of a setting is never a table. -/
theorem Readable.isTable_eq_false {x : Setting} {t : Tree} (h : x.Readable t) :
    t.isTable = false := by
  cases t with
  | table fields => cases x <;> cases h
  | _ => rfl

end Setting

namespace Settings

/-! ## The parts of a section -/

section Sections

variable {σ α : Type} {keys : List (Key σ)} {name : String} {read : Reader α} {get : σ → α}
  {s s' : σ} {fields : List (String × Tree)} {t : Tree}

/-- What the value of a key makes of a section, from what its reader makes of the value. -/
theorem key_eq_ok {put : σ → α → σ} :
    (key name read put).2 s t = .ok s' ↔ ∃ v, read t = .ok v ∧ put s v = s' :=
  map_eq_ok

/-- The key of this name fills this part of the section, and no other key touches the part. -/
structure Slot (keys : List (Key σ)) (name : String) (read : Reader α) (get : σ → α) : Prop where
  /-- The key itself. -/
  own : ∃ put, keys.lookup name = some (key name read put).2 ∧ ∀ s v, get (put s v) = v
  /-- The other keys. -/
  others : ∀ k ∈ keys, k.1 ≠ name → ∀ s t s', k.2 s t = .ok s' → get s' = get s

/-- What one field makes of a section: nothing if its key is unknown. -/
inductive FieldRead (keys : List (Key σ)) (s : σ) (e : String × Tree) : σ → Prop
  | unknown (h : keys.lookup e.1 = none) : FieldRead keys s e s
  | known {change : σ → Reader σ} {s' : σ} (h : keys.lookup e.1 = some change)
    (hread : change s e.2 = .ok s') : FieldRead keys s e s'

/-- Fields are read one after the other. -/
theorem readFields_cons {e : String × Tree} :
    readFields keys s (e :: fields) = .ok s' ↔
      ∃ u, FieldRead keys s e u ∧ readFields keys u fields = .ok s' := by
  obtain ⟨name, t⟩ := e
  rw [readFields, List.foldlM_cons, bind_eq_ok]
  refine exists_congr fun u => and_congr_left' ?_
  constructor
  · intro hu
    cases hl : keys.lookup name with
    | none =>
      simp only [hl] at hu
      obtain rfl := Except.ok.inj hu
      exact .unknown hl
    | some change =>
      simp only [hl] at hu
      exact .known hl (mapError_eq_ok.1 hu)
  · intro hu
    cases hu with
    | unknown hl => simp only [hl]
    | known hl hread => simp only [hl, hread]; rfl

/-- A table is read if what it has under the keys is read. -/
theorem readFields_ok (hfields : (fields.map Prod.fst).Nodup)
    (h : ∀ k ∈ keys, ∀ t, fields.lookup k.1 = some t → ∀ s, ∃ s', k.2 s t = .ok s') (s : σ) :
    ∃ s', readFields keys s fields = .ok s' := by
  induction fields generalizing s with
  | nil => exact ⟨s, rfl⟩
  | cons e fields ih =>
    obtain ⟨hnew, hrest⟩ := List.nodup_cons.1 hfields
    have hlater : ∀ k ∈ keys, ∀ t, fields.lookup k.1 = some t → ∀ s, ∃ s', k.2 s t = .ok s' := by
      intro k hk t ht
      refine h k hk t ?_
      rw [Keyed.lookup_cons_eq_ite, if_neg, ht]
      intro heq
      exact hnew (heq ▸ List.mem_map_of_mem (Keyed.mem_of_lookup ht))
    have hfirst : ∃ u, FieldRead keys s e u := by
      cases hl : keys.lookup e.1 with
      | none => exact ⟨s, .unknown hl⟩
      | some change =>
        have hfound : (e :: fields).lookup e.1 = some e.2 := by
          rw [Keyed.lookup_cons_eq_ite, if_pos rfl]
        obtain ⟨u, hu⟩ := h _ (Keyed.mem_of_lookup hl) e.2 hfound s
        exact ⟨u, .known hl hu⟩
    obtain ⟨u, hu⟩ := hfirst
    obtain ⟨s', hs'⟩ := ih hrest hlater u
    exact ⟨s', readFields_cons.2 ⟨u, hu, hs'⟩⟩

namespace Slot

variable (slot : Slot keys name read get)

include slot

/-- A field under another name leaves the part as it is. -/
theorem get_of_ne {e : String × Tree} (he : e.1 ≠ name) (h : FieldRead keys s e s') :
    get s' = get s := by
  cases h with
  | unknown => rfl
  | known hl hread =>
    exact slot.others _ (Keyed.mem_of_lookup hl) he _ _ _ hread

/-- A field under the name fills the part, whatever was in it. -/
theorem read_of_eq {e : String × Tree} (he : e.1 = name) (h : FieldRead keys s e s') :
    read e.2 = .ok (get s') := by
  obtain ⟨put, hput, hget⟩ := slot.own
  cases h with
  | unknown hl => rw [he, hput] at hl; cases hl
  | known hl hread =>
    rw [he, hput] at hl
    obtain rfl := Option.some.inj hl
    obtain ⟨v, hv, rfl⟩ := key_eq_ok.1 hread
    rw [hv, hget]

/-- Fields without the name leave the part as it is. -/
theorem get_of_lookup_eq_none (hname : fields.lookup name = none)
    (h : readFields keys s fields = .ok s') : get s' = get s := by
  induction fields generalizing s with
  | nil => cases h; rfl
  | cons e fields ih =>
    obtain ⟨u, hu, h⟩ := readFields_cons.1 h
    rw [Keyed.lookup_cons_eq_ite] at hname
    split at hname
    · cases hname
    · rename_i hne
      rw [ih hname h, slot.get_of_ne (Ne.symm hne) hu]

/-- **A part of a section after the fields of a table have been read**: what its reader makes of
the value under its name. -/
theorem read_of_lookup_eq_some (hfields : (fields.map Prod.fst).Nodup)
    (ht : fields.lookup name = some t) (h : readFields keys s fields = .ok s') :
    read t = .ok (get s') := by
  induction fields generalizing s with
  | nil => cases ht
  | cons e fields ih =>
    obtain ⟨hnew, hrest⟩ := List.nodup_cons.1 hfields
    obtain ⟨u, hu, h⟩ := readFields_cons.1 h
    rw [Keyed.lookup_cons_eq_ite] at ht
    split at ht
    · rename_i hname
      obtain rfl := Option.some.inj ht
      have hnone : fields.lookup name = none :=
        Keyed.lookup_eq_none_of_notMem (hname ▸ hnew)
      rw [slot.get_of_lookup_eq_none hnone h]
      exact slot.read_of_eq hname.symm hu
    · exact ih hrest ht h

end Slot

/-- A key whose value is read changes a section. -/
theorem key_ok {put : σ → α → σ} (h : (read t).isOk = true) (s : σ) :
    ∃ s', (key name read put).2 s t = .ok s' := by
  obtain ⟨v, hv⟩ := isOk_iff.1 h
  exact ⟨put s v, key_eq_ok.2 ⟨v, hv, rfl⟩⟩

/-- A key that puts its value elsewhere leaves a part of a section as it is. -/
theorem key_get {put : σ → α → σ} {β : Type} {get : σ → β} (h : ∀ s v, get (put s v) = get s)
    (s : σ) (t : Tree) (s' : σ) (hs' : (key name read put).2 s t = .ok s') : get s' = get s := by
  obtain ⟨v, _, rfl⟩ := key_eq_ok.1 hs'
  exact h s v

/-- A section that is a table is read field by field. -/
theorem readSection_table (h : t.isTable = true) (defaults : σ) :
    readSection name keys defaults t = readFields keys defaults t.fields := by
  cases t with
  | table fields => rfl
  | _ => cases h

theorem readSection_isOk (ho : t.Ordered) (ht : t.isTable = true)
    (h : ∀ k ∈ keys, ∀ u, t.fields.lookup k.1 = some u → ∀ s, ∃ s', k.2 s u = .ok s')
    (defaults : σ) : (readSection name keys defaults t).isOk = true := by
  rw [readSection_table ht]
  exact isOk_iff.2 (readFields_ok ho.keys_nodup h defaults)

end Sections

/-! ## Whole trees -/

/-- All settings that the tree has are of the right types: the sections are tables, and the values
of settings in them can be read.  Anything else may be in the tree as well. -/
def Typed (t : Tree) : Prop := ∀ x : Setting, t.Fits x.Readable x.path

instance : DecidablePred Typed := fun t =>
  decidable_of_iff (∀ x ∈ Setting.all, t.Fits x.Readable x.path)
    ⟨fun h x => h x x.mem_all, fun h x _ => h x⟩

variable {t : Tree} {s : Settings}

/-- A tree with settings of the right types is read. -/
theorem ofTree_ok (ho : t.Ordered) (h : Typed t) : ∃ s, ofTree t = .ok s := by
  have hsections : ∀ k ∈ sections, ∀ u, t.fields.lookup k.1 = some u →
      ∀ s, ∃ s', k.2 s u = .ok s' := by
    simp only [sections, List.forall_mem_cons]
    refine ⟨fun u hu => key_ok ?_, fun u hu => key_ok ?_, fun u hu => key_ok ?_,
      fun k hk => by cases hk⟩
    · refine readSection_isOk (ho.of_lookup hu) ((h .maxPageSize).2 u hu).1 ?_ _
      simp only [queryKeys, List.forall_mem_cons]
      exact ⟨fun v hv => key_ok (((h .maxPageSize).2 u hu).2 v hv),
        fun v hv => key_ok (((h .queriesDir).2 u hu).2 v hv),
        fun v hv => key_ok (((h .logStatements).2 u hu).2 v hv), fun k hk => by cases hk⟩
    · refine readSection_isOk (ho.of_lookup hu) ((h .url).2 u hu).1 ?_ _
      simp only [databaseKeys, List.forall_mem_cons]
      exact ⟨fun v hv => key_ok (((h .url).2 u hu).2 v hv),
        fun v hv => key_ok (((h .maxConnections).2 u hu).2 v hv),
        fun v hv => key_ok (((h .minConnections).2 u hu).2 v hv),
        fun v hv => key_ok (((h .connectionTimeout).2 u hu).2 v hv), fun k hk => by cases hk⟩
    · refine readSection_isOk (ho.of_lookup hu) ((h .level).2 u hu).1 ?_ _
      simp only [loggingKeys, List.forall_mem_cons]
      exact ⟨fun v hv => key_ok (((h .level).2 u hu).2 v hv),
        fun v hv => key_ok (((h .json).2 u hu).2 v hv), fun k hk => by cases hk⟩
  obtain ⟨s, hs⟩ := readFields_ok ho.keys_nodup hsections {}
  exact ⟨s, mapError_eq_ok.2 hs⟩

/-- **A key of a section after a tree has been read**: what its reader makes of the value at the
end of its path, or what the section has there by default. -/
theorem get_of_slots {σ α : Type} {structName outer inner : String} {keys : List (Key σ)}
    {defaults : σ} {read : Reader α} {part : Settings → σ} (get : σ → α)
    (hsection : Slot sections outer (readSection structName keys defaults) part)
    (hkey : Slot keys inner read get) (hdefaults : part {} = defaults) (ho : t.Ordered)
    (hfits : t.Fits (fun u => (read u).isOk = true) [outer, inner]) (h : ofTree t = .ok s) :
    get (part s) =
      ((t.at? [outer, inner]).bind fun u => (read u).toOption).getD (get defaults) := by
  have hread : readFields sections {} t.fields = .ok s := mapError_eq_ok.1 h
  show _ = (((t.fields.lookup outer).bind fun u =>
    (u.fields.lookup inner).bind some).bind fun u => (read u).toOption).getD (get defaults)
  cases hu : t.fields.lookup outer with
  | none => rw [hsection.get_of_lookup_eq_none hu hread, hdefaults]; rfl
  | some u =>
    have hinner := hsection.read_of_lookup_eq_some ho.keys_nodup hu hread
    rw [readSection_table (hfits.2 u hu).1] at hinner
    cases hv : u.fields.lookup inner with
    | none => rw [hkey.get_of_lookup_eq_none hv hinner]; simp [hv]
    | some v =>
      have hvalue := hkey.read_of_lookup_eq_some (ho.of_lookup hu).keys_nodup hv hinner
      simp [hv, hvalue, Except.toOption]

theorem slot_query : Slot sections "query" (readSection "QueryConfig" queryKeys {}) query where
  own := ⟨_, rfl, fun _ _ => rfl⟩
  others := by
    simp only [sections, List.forall_mem_cons]
    exact ⟨fun h => absurd rfl h, fun _ => key_get fun _ _ => rfl, fun _ => key_get fun _ _ => rfl,
      fun k hk => by cases hk⟩

theorem slot_database :
    Slot sections "database" (readSection "DatabaseConfig" databaseKeys {}) database where
  own := ⟨_, rfl, fun _ _ => rfl⟩
  others := by
    simp only [sections, List.forall_mem_cons]
    exact ⟨fun _ => key_get fun _ _ => rfl, fun h => absurd rfl h, fun _ => key_get fun _ _ => rfl,
      fun k hk => by cases hk⟩

theorem slot_logging :
    Slot sections "logging" (readSection "LoggingConfig" loggingKeys {}) logging where
  own := ⟨_, rfl, fun _ _ => rfl⟩
  others := by
    simp only [sections, List.forall_mem_cons]
    exact ⟨fun _ => key_get fun _ _ => rfl, fun _ => key_get fun _ _ => rfl, fun h => absurd rfl h,
      fun k hk => by cases hk⟩

/-- **Each setting after a tree has been read** is its value in the tree, or else its default. -/
theorem get_ofTree (ho : t.Ordered) (h : Typed t) (hs : ofTree t = .ok s) (x : Setting) :
    x.get s = (x.in? t).getD (x.get {}) := by
  have hfits := h x
  cases x
  case' maxPageSize =>
    refine get_of_slots QuerySettings.maxPageSize slot_query ?_ rfl ho hfits hs
  case' queriesDir =>
    refine get_of_slots QuerySettings.queriesDir slot_query ?_ rfl ho hfits hs
  case' logStatements =>
    refine get_of_slots QuerySettings.logStatements slot_query ?_ rfl ho hfits hs
  case' url =>
    refine get_of_slots DatabaseSettings.url slot_database ?_ rfl ho hfits hs
  case' maxConnections =>
    refine get_of_slots DatabaseSettings.maxConnections slot_database ?_ rfl ho hfits hs
  case' minConnections =>
    refine get_of_slots DatabaseSettings.minConnections slot_database ?_ rfl ho hfits hs
  case' connectionTimeout =>
    refine get_of_slots DatabaseSettings.connectionTimeout slot_database ?_ rfl ho hfits hs
  case' level =>
    refine get_of_slots LoggingSettings.level slot_logging ?_ rfl ho hfits hs
  case' json =>
    refine get_of_slots LoggingSettings.json slot_logging ?_ rfl ho hfits hs
  -- In each section the key of the setting is there, and no other key puts its value in its place.
  all_goals
    refine ⟨⟨_, rfl, fun _ _ => rfl⟩, ?_⟩
    simp only [queryKeys, databaseKeys, loggingKeys, List.forall_mem_cons]
    and_intros
  all_goals
    first
    | exact fun h => absurd rfl h
    | exact fun _ => key_get fun _ _ => rfl
    | exact fun k hk => by cases hk

/-- **A tree in which all settings have the right types is read**, and each setting is its value in
the tree, or else its default. -/
theorem ofTree_typed (ho : t.Ordered) (h : Typed t) :
    ∃ s, ofTree t = .ok s ∧ ∀ x : Setting, x.get s = (x.in? t).getD (x.get {}) := by
  obtain ⟨s, hs⟩ := ofTree_ok ho h
  exact ⟨s, hs, get_ofTree ho h hs⟩

end Settings

end TableQuery
