import TableQuery.Proofs.Catalogue.Positions
import TableQuery.Proofs.Catalogue.QueryFiles

/-!
# Which registrations make a catalogue

A catalogue is made from registrations that have no defect: no type stands twice, each query file can
be read as text, and the properties of each table are consistent.  Otherwise the error is that of the
first defect, where the type of a registration comes before its query file and the file before the
properties, and each property is checked against those before it.

The catalogue then finds each declared property by its name, by its column in any letter case, and by
nothing else.

* `Catalogue.Sound` — registrations without a defect;
* `Table.Defect`, `Registration.Defect` — what is wrong with a property and with a registration;
* `Table.checkProperties_eq_error`, `Catalogue.outcome_add_eq_error` — one table and one registration;
* `Table.Indexes` — a table finds these properties and no others;
* `Catalogue.registrations_decided` — when there is a catalogue, which error there is otherwise, and
  what the catalogue finds.
-/

namespace TableQuery

open Outcome

/-! ## Properties -/

namespace Table

/-- What is wrong with a property behind others, which is the first of these that applies. -/
inductive Defect (typeName : String) (earlier : List Property) (p : Property) :
    ConfigurationError → Prop where
  | name (h : isIdentifier p.name = false) : Defect typeName earlier p (.invalidIdentifier p.name)
  | column (hname : isIdentifier p.name = true) (h : isIdentifier p.column = false) :
    Defect typeName earlier p (.invalidIdentifier p.column)
  | duplicateName (hname : isIdentifier p.name = true) (hcolumn : isIdentifier p.column = true)
    (h : p.name ∈ earlier.map Property.name) :
    Defect typeName earlier p (.duplicateProperty typeName p.name)
  | duplicateColumn (hname : isIdentifier p.name = true) (hcolumn : isIdentifier p.column = true)
    (hnew : p.name ∉ earlier.map Property.name)
    (h : Text.lower p.column ∈ earlier.map fun q => Text.lower q.column) :
    Defect typeName earlier p (.duplicateColumn typeName p.column)

variable {folder : Folder} {typeName : String} {d : Declaration} {earlier rest : List Property}
  {p : Property} {e : ConfigurationError}

theorem hasName_eq_true_iff {name : String} :
    hasName earlier name = true ↔ name ∈ earlier.map Property.name := by
  rw [← Bool.not_eq_false, hasName_eq_false_iff, not_not]

theorem hasColumn_eq_true_iff {column : String} : hasColumn earlier column = true ↔
    Text.lower column ∈ earlier.map fun p => Text.lower p.column := by
  rw [← Bool.not_eq_false, hasColumn_eq_false_iff, not_not]

/-- **One property**: it has a defect, or it is consistent with those before it and the error is that
of a property behind it. -/
theorem checkProperties_cons_eq_error (h : Consistent earlier) :
    checkProperties typeName earlier (p :: rest) = .error e ↔ Defect typeName earlier p e ∨
      Consistent (earlier ++ [p]) ∧ checkProperties typeName (earlier ++ [p]) rest = .error e := by
  rw [checkProperties, Consistent.concat_iff]
  constructor
  · intro herror
    rcases bind_eq_error.1 herror with hrefused | ⟨_, hname, herror⟩
    · obtain ⟨hname, rfl⟩ := checkIdentifier_eq_error.1 hrefused
      exact .inl (.name hname)
    rcases bind_eq_error.1 herror with hrefused | ⟨_, hcolumn, herror⟩
    · obtain ⟨hcolumn, rfl⟩ := checkIdentifier_eq_error.1 hrefused
      exact .inl (.column (checkIdentifier_eq_ok.1 hname) hcolumn)
    rw [checkIdentifier_eq_ok] at hname hcolumn
    split at herror
    next hold =>
      obtain rfl := Except.error.inj herror
      exact .inl (.duplicateName hname hcolumn (hasName_eq_true_iff.1 hold))
    next hnew =>
      rw [Bool.not_eq_true] at hnew
      split at herror
      next hold =>
        obtain rfl := Except.error.inj herror
        exact .inl (.duplicateColumn hname hcolumn (hasName_eq_false_iff.1 hnew)
          (hasColumn_eq_true_iff.1 hold))
      next hfresh =>
        rw [Bool.not_eq_true] at hfresh
        exact .inr ⟨⟨h, hname, hcolumn, hnew, hfresh⟩, herror⟩
  · rintro (hdefect | ⟨⟨-, hname, hcolumn, hnew, hfresh⟩, herror⟩)
    · cases hdefect with
      | name hname => rw [checkIdentifier_eq_error.2 ⟨hname, rfl⟩]; rfl
      | column hname hcolumn =>
        rw [checkIdentifier_eq_ok.2 hname, checkIdentifier_eq_error.2 ⟨hcolumn, rfl⟩]
        rfl
      | duplicateName hname hcolumn hold =>
        rw [checkIdentifier_eq_ok.2 hname, checkIdentifier_eq_ok.2 hcolumn,
          hasName_eq_true_iff.2 hold]
        rfl
      | duplicateColumn hname hcolumn hnew hold =>
        rw [checkIdentifier_eq_ok.2 hname, checkIdentifier_eq_ok.2 hcolumn,
          hasName_eq_false_iff.2 hnew, hasColumn_eq_true_iff.2 hold]
        rfl
    · rw [checkIdentifier_eq_ok.2 hname, checkIdentifier_eq_ok.2 hcolumn, hnew, hfresh]
      exact herror

/-- **The first defect of properties** is the error of their checks. -/
theorem checkProperties_eq_error (h : Consistent earlier) :
    checkProperties typeName earlier rest = .error e ↔ ∃ before p after,
      rest = before ++ p :: after ∧ Consistent (earlier ++ before) ∧
        Defect typeName (earlier ++ before) p e := by
  induction rest generalizing earlier with
  | nil => simp [checkProperties]
  | cons p rest ih =>
    rw [checkProperties_cons_eq_error h]
    constructor
    · rintro (hdefect | ⟨hp, herror⟩)
      · exact ⟨[], p, rest, rfl, by simpa using h, by simpa using hdefect⟩
      · obtain ⟨before, q, after, rfl, hbefore, hdefect⟩ := (ih hp).1 herror
        exact ⟨p :: before, q, after, rfl, by simpa using hbefore, by simpa using hdefect⟩
    · rintro ⟨before, q, after, hsplit, hbefore, hdefect⟩
      cases before with
      | nil =>
        obtain ⟨rfl, rfl⟩ := List.cons.inj hsplit
        exact .inl (by simpa using hdefect)
      | cons q' before =>
        obtain ⟨rfl, rfl⟩ := List.cons.inj hsplit
        rw [List.append_cons] at hbefore hdefect
        have hp : Consistent (earlier ++ [p]) := hbefore.sublist (List.sublist_append_left _ _)
        exact .inr ⟨hp, (ih hp).2 ⟨before, q, after, rfl, hbefore, hdefect⟩⟩

/-- The error of a declaration is that of its query file, or the first defect of its properties. -/
theorem ofDeclaration_eq_error : ofDeclaration folder typeName d = .error e ↔
    d.Unreadable folder e ∨ d.Readable folder ∧ ∃ before p after, d.properties = before ++ p :: after ∧
      Consistent before ∧ Defect typeName before p e := by
  have hchecks : checkProperties typeName [] d.properties = .error e ↔ ∃ before p after,
      d.properties = before ++ p :: after ∧ Consistent before ∧ Defect typeName before p e :=
    checkProperties_eq_error .nil
  rw [ofDeclaration, bind_eq_error, Declaration.base_eq_error, ← Declaration.exists_base_iff,
    ← hchecks, ← exists_and_right]
  refine or_congr_right (exists_congr fun base => and_congr_right fun _ => ?_)
  rw [bind_eq_error]
  refine or_iff_left ?_
  rintro ⟨_, -, hdone⟩
  cases hdone

theorem exists_ofDeclaration_iff : (∃ t, ofDeclaration folder typeName d = .ok t) ↔
    d.Readable folder ∧ Consistent d.properties := by
  simp only [ofDeclaration_eq_ok, ← Declaration.exists_base_iff]
  constructor
  · rintro ⟨t, base, hbase, hconsistent, -⟩
    exact ⟨⟨base, hbase⟩, hconsistent⟩
  · rintro ⟨⟨base, hbase⟩, hconsistent⟩
    exact ⟨_, base, hbase, hconsistent, rfl⟩

end Table

/-! ## Registrations -/

/-- What is wrong with a registration behind others, which is the first of these that applies. -/
inductive Registration.Defect (folder : Folder) (earlier : List Registration) (r : Registration) :
    ConfigurationError → Prop where
  | registered (h : r.type ∈ earlier.map Registration.type) :
    Defect folder earlier r (.duplicateTable r.type.name)
  | unreadable {e} (hnew : r.type ∉ earlier.map Registration.type)
    (h : r.declaration.Unreadable folder e) : Defect folder earlier r e
  | property (hnew : r.type ∉ earlier.map Registration.type)
    (hreadable : r.declaration.Readable folder) {before after : List Property} {p : Property}
    {e : ConfigurationError} (hsplit : r.declaration.properties = before ++ p :: after)
    (hbefore : Table.Consistent before) (h : Table.Defect r.type.name before p e) :
    Defect folder earlier r e

namespace Catalogue

/-- Registrations without a defect: no type stands twice, each query file has a text, and the
properties of each table are consistent. -/
structure Sound (folder : Folder) (registrations : List Registration) : Prop where
  distinct : (registrations.map Registration.type).Nodup
  readable : ∀ r ∈ registrations, r.declaration.Readable folder
  consistent : ∀ r ∈ registrations, Table.Consistent r.declaration.properties

section Building

variable {folder : Folder} {registrations earlier : List Registration} {r : Registration}
  {c : Catalogue} {e : ConfigurationError}

theorem Sound.nil : Sound folder [] := ⟨.nil, by simp, by simp⟩

/-- **One registration more**: it is sound behind sound ones if it has no defect. -/
theorem Sound.concat_iff : Sound folder (earlier ++ [r]) ↔ Sound folder earlier ∧
    r.type ∉ earlier.map Registration.type ∧ r.declaration.Readable folder ∧
      Table.Consistent r.declaration.properties := by
  constructor
  · rintro ⟨hdistinct, hreadable, hconsistent⟩
    rw [List.map_append, List.map_singleton, ← List.concat_eq_append, List.nodup_concat] at hdistinct
    rw [List.forall_mem_append, List.forall_mem_singleton] at hreadable hconsistent
    exact ⟨⟨hdistinct.2, hreadable.1, hconsistent.1⟩, hdistinct.1, hreadable.2, hconsistent.2⟩
  · rintro ⟨⟨hdistinct, hreadable, hconsistent⟩, hnew, hr, hp⟩
    refine ⟨?_, List.forall_mem_append.2 ⟨hreadable, List.forall_mem_singleton.2 hr⟩,
      List.forall_mem_append.2 ⟨hconsistent, List.forall_mem_singleton.2 hp⟩⟩
    rw [List.map_append, List.map_singleton, ← List.concat_eq_append]
    exact hdistinct.concat hnew

/-- A type has a table just if it stands in a registration, when all registrations are sound. -/
theorem isRegistered_eq_true_iff (h : Holds folder c earlier) (hsound : Sound folder earlier)
    {type : TargetType} :
    c.isRegistered type = true ↔ type ∈ earlier.map Registration.type := by
  rw [isRegistered, Option.isSome_iff_exists, List.mem_map]
  simp only [← table_eq_ok, h type]
  constructor
  · rintro ⟨t, r, hr, hname, -⟩
    exact ⟨r, hr, hname⟩
  · rintro ⟨r, hr, hname⟩
    obtain ⟨t, ht⟩ := Table.exists_ofDeclaration_iff.2 ⟨hsound.readable r hr, hsound.consistent r hr⟩
    exact ⟨t, r, hr, hname, ht⟩

theorem isRegistered_eq_false_iff (h : Holds folder c earlier) (hsound : Sound folder earlier)
    {type : TargetType} :
    c.isRegistered type = false ↔ type ∉ earlier.map Registration.type := by
  rw [← Bool.not_eq_true, isRegistered_eq_true_iff h hsound]

/-- **One registration**: it is added to the catalogue of others that are sound just if it is sound
behind them. -/
theorem exists_outcome_add_iff (h : Holds folder c earlier) (hsound : Sound folder earlier) :
    (∃ c', (add folder c r).outcome = .ok c') ↔ Sound folder (earlier ++ [r]) := by
  simp only [outcome_add_eq_ok, isRegistered_eq_false_iff h hsound, Sound.concat_iff, hsound,
    true_and]
  constructor
  · rintro ⟨c', hnew, t, ht, -⟩
    exact ⟨hnew, Table.exists_ofDeclaration_iff.1 ⟨t, ht⟩⟩
  · rintro ⟨hnew, hdeclared⟩
    obtain ⟨t, ht⟩ := Table.exists_ofDeclaration_iff.2 hdeclared
    exact ⟨_, hnew, t, ht, rfl⟩

/-- **One registration with a defect** ends with the error of this defect. -/
theorem outcome_add_eq_error (h : Holds folder c earlier) (hsound : Sound folder earlier) :
    (add folder c r).outcome = .error e ↔ r.Defect folder earlier e := by
  have hadd : (add folder c r).outcome = .error e ↔
      (c.isRegistered r.type = true ∧ e = .duplicateTable r.type.name) ∨
      c.isRegistered r.type = false ∧
        Table.ofDeclaration folder r.type.name r.declaration = .error e := by
    rw [add]
    cases c.isRegistered r.type with
    | true => simp [Traced.fail, eq_comm]
    | false => cases Table.ofDeclaration folder r.type.name r.declaration <;> simp [Except.bind]
  rw [hadd, isRegistered_eq_true_iff h hsound, isRegistered_eq_false_iff h hsound,
    Table.ofDeclaration_eq_error]
  constructor
  · rintro (⟨hold, rfl⟩ | ⟨hnew, hunreadable | ⟨hreadable, hproperties⟩⟩)
    · exact .registered hold
    · exact .unreadable hnew hunreadable
    · obtain ⟨before, p, after, hsplit, hbefore, hp⟩ := hproperties
      exact .property hnew hreadable hsplit hbefore hp
  · intro hdefect
    cases hdefect with
    | registered hold => exact .inl ⟨hold, rfl⟩
    | unreadable hnew hunreadable => exact .inr ⟨hnew, .inl hunreadable⟩
    | property hnew hreadable hsplit hbefore hp =>
      exact .inr ⟨hnew, .inr ⟨hreadable, _, _, _, hsplit, hbefore, hp⟩⟩

/-- **There is a catalogue of just the sound registrations.** -/
theorem exists_build_iff :
    (∃ c, (build folder registrations).outcome = .ok c) ↔ Sound folder registrations := by
  induction registrations using List.reverseRecOn with
  | nil => exact iff_of_true ⟨empty, rfl⟩ .nil
  | append_singleton earlier r ih =>
    simp only [outcome_build_concat, bind_eq_ok]
    constructor
    · rintro ⟨c', c, hc, hadd⟩
      exact (exists_outcome_add_iff (holds_of_build hc) (ih.1 ⟨c, hc⟩)).1 ⟨c', hadd⟩
    · intro hsound
      have hearlier := (Sound.concat_iff.1 hsound).1
      obtain ⟨c, hc⟩ := ih.2 hearlier
      obtain ⟨c', hadd⟩ := (exists_outcome_add_iff (holds_of_build hc) hearlier).2 hsound
      exact ⟨c', c, hc, hadd⟩

/-- **The first defect of registrations** is the error of their catalogue. -/
theorem build_eq_error : (build folder registrations).outcome = .error e ↔
    ∃ before r after, registrations = before ++ r :: after ∧ Sound folder before ∧
      r.Defect folder before e := by
  rw [build, Traced.outcome_foldlM, foldlM_eq_error]
  refine exists_congr fun before => exists_congr fun r => exists_congr fun after => ?_
  have hbefore : ∀ c, before.foldlM (fun c r => (add folder c r).outcome) empty = .ok c ↔
      (build folder before).outcome = .ok c := fun c => by rw [build, Traced.outcome_foldlM]
  simp only [hbefore]
  constructor
  · rintro ⟨c, hsplit, hc, hadd⟩
    have hsound := exists_build_iff.1 ⟨c, hc⟩
    exact ⟨hsplit, hsound, (outcome_add_eq_error (holds_of_build hc) hsound).1 hadd⟩
  · rintro ⟨hsplit, hsound, hdefect⟩
    obtain ⟨c, hc⟩ := exists_build_iff.2 hsound
    exact ⟨c, hsplit, hc, (outcome_add_eq_error (holds_of_build hc) hsound).2 hdefect⟩

end Building

end Catalogue

/-! ## What a catalogue finds -/

namespace Table

/-- The table has these properties, and finds each of them by its name and by its column in any
letter case, and nothing else.  Positions that are collected while the properties are checked lead to
the same properties. -/
structure Indexes (t : Table) (properties : List Property) : Prop where
  properties_eq : t.properties = properties
  names : ∀ name p, t.property? name = some p ↔ p ∈ properties ∧ p.name = name
  columns : ∀ label p, t.propertyOf? label = some p ↔
    p ∈ properties ∧ Text.lower p.column = Text.lower label
  positions : ∃ index, Positions.collect t.typeName .empty 0 properties = .ok index ∧
    index.Marks properties ∧
    (∀ name, (index.byName.get? name).bind (properties[·]?) = t.property? name) ∧
    ∀ label, (index.byColumn.get? (Text.lower label)).bind (properties[·]?) = t.propertyOf? label

/-- **A table of a declaration indexes the declared properties.** -/
theorem indexes_of_ofDeclaration {folder : Folder} {typeName : String} {d : Declaration} {t : Table}
    (h : ofDeclaration folder typeName d = .ok t) : t.Indexes d.properties := by
  obtain ⟨base, -, hconsistent, rfl⟩ := ofDeclaration_eq_ok.1 h
  refine ⟨rfl, fun _ _ => property?_eq_some_iff hconsistent,
    fun _ _ => propertyOf?_eq_some_iff hconsistent, ?_⟩
  have hchecks : checkProperties typeName [] d.properties = .ok () :=
    (checkProperties_eq_ok .nil).2 hconsistent
  have hagree : Agree (fun index _ => Positions.Marks index d.properties)
      (Positions.collect typeName .empty 0 d.properties)
      (checkProperties typeName [] d.properties) := Positions.agree_collect Positions.marks_empty
  rw [hchecks] at hagree
  obtain ⟨e, -, herror⟩ | ⟨index, _, hindex, -, hmarks⟩ := hagree.ends
  · cases herror
  · exact ⟨index, hindex, hmarks,
      Positions.Marks.property?_eq (t := ⟨typeName, base, d.properties⟩) hmarks hconsistent,
      Positions.Marks.propertyOf?_eq (t := ⟨typeName, base, d.properties⟩) hmarks hconsistent⟩

end Table

namespace Catalogue

/-- **Which registrations make a catalogue, and what it finds.**  There is a catalogue just if the
registrations are sound, and the error is the first defect otherwise.  A catalogue has the tables of
the registered types and no others, each table indexes what was declared, and the column of a
property leads back to the property in any letter case. -/
theorem registrations_decided (folder : Folder) (registrations : List Registration) :
    ((∃ c, (build folder registrations).outcome = .ok c) ↔ Sound folder registrations) ∧
    (∀ e, (build folder registrations).outcome = .error e ↔ ∃ before r after,
      registrations = before ++ r :: after ∧ Sound folder before ∧ r.Defect folder before e) ∧
    ∀ c, (build folder registrations).outcome = .ok c →
      (∀ type, c.isRegistered type = true ↔
        type ∈ registrations.map Registration.type) ∧
      ∀ r ∈ registrations,
        (∃ t, c.table r.type = .ok t ∧ t.Indexes r.declaration.properties) ∧
        ∀ p ∈ r.declaration.properties, c.column? r.type p.name = some p.column ∧
          ∀ label, Text.lower label = Text.lower p.column →
            c.propertyOf? r.type label = some p := by
  refine ⟨exists_build_iff, fun _ => build_eq_error, fun c hc => ?_⟩
  have hholds := holds_of_build hc
  have hsound := exists_build_iff.1 ⟨c, hc⟩
  refine ⟨fun _ => isRegistered_eq_true_iff hholds hsound, fun r hr => ?_⟩
  obtain ⟨t, ht⟩ := Table.exists_ofDeclaration_iff.2 ⟨hsound.readable r hr, hsound.consistent r hr⟩
  have htable := (hholds r.type t).2 ⟨r, hr, rfl, ht⟩
  have hindexes := Table.indexes_of_ofDeclaration ht
  refine ⟨⟨t, htable, hindexes⟩, fun p hp => ?_⟩
  rw [column?, table_eq_ok.1 htable, Option.bind_some, (hindexes.names _ _).2 ⟨hp, rfl⟩]
  refine ⟨rfl, fun label hlabel => ?_⟩
  rw [propertyOf?, table_eq_ok.1 htable, Option.bind_some]
  exact (hindexes.columns _ _).2 ⟨hp, hlabel.symm⟩

/-- Two types of one name, the query file of one of them in a directory that is written with a slash.
In the directory without a name the file is missing, which comes before a name that is no identifier;
a type that stands twice comes before its file. -/
theorem registrations_decided_mixed :
    ∃ (disk : Disk) (sale item broken : Registration) (c : Catalogue),
      disk = ⟨[(["queries", "Sales.SQL"], .file "SELECT 1".toUTF8)], []⟩ ∧
      sale = ⟨"Sale", ⟨some " Sales.SQL\n", [⟨"id", "id", .integer⟩, ⟨"name", "full_name", .text⟩]⟩⟩ ∧
      item = ⟨⟨"Sale", 1⟩, ⟨some "SELECT 2", [⟨"name", "ID", .text⟩]⟩⟩ ∧
      broken = ⟨"Order", ⟨some "Sales.SQL", [⟨"9", "id", .integer⟩]⟩⟩ ∧
      Sound ⟨"queries/", disk⟩ [sale, item] ∧
      (build ⟨"queries/", disk⟩ [sale, item]).outcome = .ok c ∧
      c.column? "Sale" "name" = some "full_name" ∧
      c.propertyOf? "Sale" "Full_NAME" = some ⟨"name", "full_name", .text⟩ ∧
      c.column? ⟨"Sale", 1⟩ "name" = some "ID" ∧
      (build ⟨"", disk⟩ [item, broken]).outcome
        = .error (.unreadableQueryFile "Sales.SQL" "No such file or directory (os error 2)") ∧
      (build ⟨"queries", disk⟩ [sale, item, broken]).outcome = .error (.invalidIdentifier "9") ∧
      (build ⟨"queries/", disk⟩ [sale, item, ⟨"Sale", ⟨some "missing.sql", []⟩⟩]).outcome
        = .error (.duplicateTable "Sale") := by
  let disk : Disk := ⟨[(["queries", "Sales.SQL"], .file "SELECT 1".toUTF8)], []⟩
  let sale : Registration :=
    ⟨"Sale", ⟨some " Sales.SQL\n", [⟨"id", "id", .integer⟩, ⟨"name", "full_name", .text⟩]⟩⟩
  let item : Registration := ⟨⟨"Sale", 1⟩, ⟨some "SELECT 2", [⟨"name", "ID", .text⟩]⟩⟩
  let broken : Registration := ⟨"Order", ⟨some "Sales.SQL", [⟨"9", "id", .integer⟩]⟩⟩
  have htext {directory : String} (h : Joined directory "Sales.SQL" "queries/Sales.SQL") :
      Folder.HasText ⟨directory, disk⟩ "Sales.SQL" "SELECT 1" :=
    ⟨_, .here ["queries", "Sales.SQL"], _, h, rfl, rfl, by decide +kernel⟩
  have hnames {d : Declaration} (hd : d.dataTable.map Text.trim = some "Sales.SQL") :
      ∀ file, d.NamesFile file → file = "Sales.SQL" := by
    rintro _ ⟨reference, hreference, rfl, -⟩
    rw [hreference] at hd
    exact Option.some.inj hd
  have hitem : ∀ file, ¬item.declaration.NamesFile file := by
    rintro _ ⟨reference, hreference, rfl, hsql⟩
    obtain rfl := Option.some.inj hreference
    exact absurd (namesFile_eq_true_iff.2 hsql) (by decide)
  have hbroken : broken.declaration.NamesFile "Sales.SQL" :=
    ⟨"Sales.SQL", rfl, rfl, "Sales".toList, ".SQL".toList, rfl, rfl⟩
  have hother (folder : Folder) : Sound folder [item] :=
    { distinct := List.nodup_singleton _
      readable := List.forall_mem_singleton.2 fun file hfile => absurd hfile (hitem file)
      consistent := List.forall_mem_singleton.2 ⟨by decide, by decide, by decide, by decide⟩ }
  have hsound {directory : String} (h : Joined directory "Sales.SQL" "queries/Sales.SQL") :
      Sound ⟨directory, disk⟩ [sale, item] :=
    { distinct := by decide
      readable := List.forall_mem_cons.2
        ⟨fun file hfile => ⟨_, hnames rfl file hfile ▸ htext h⟩, (hother _).readable⟩
      consistent := List.forall_mem_cons.2
        ⟨⟨by decide, by decide, by decide, by decide⟩, (hother ⟨directory, disk⟩).consistent⟩ }
  have hslash : Joined "queries/" "Sales.SQL" "queries/Sales.SQL" := .closed (by decide) (by decide)
  have hplain : Joined "queries" "Sales.SQL" "queries/Sales.SQL" :=
    .plain (by decide) (by decide) (by decide)
  obtain ⟨hbuild, -, hfinds⟩ := registrations_decided ⟨"queries/", disk⟩ [sale, item]
  obtain ⟨c, hc⟩ := hbuild.2 (hsound hslash)
  obtain ⟨-, htables⟩ := hfinds c hc
  obtain ⟨-, hcolumns⟩ := htables sale List.mem_cons_self
  obtain ⟨-, hcolumns'⟩ := htables item (List.mem_cons_of_mem _ List.mem_cons_self)
  obtain ⟨hname, hlabel⟩ := hcolumns ⟨"name", "full_name", .text⟩ (by decide)
  refine ⟨disk, sale, item, broken, c, rfl, rfl, rfl, rfl, hsound hslash, hc, hname,
    hlabel "Full_NAME" (by decide), (hcolumns' ⟨"name", "ID", .text⟩ (by decide)).1,
    ?missing, ?name, ?twice⟩
  case missing =>
    refine ((registrations_decided ⟨"", disk⟩ [item, broken]).2.1 _).2
      ⟨[item], broken, [], rfl, hother _, .unreadable (by decide) ?_⟩
    exact @Declaration.Unreadable.mk ⟨"", disk⟩ _ _ _ .notFound hbroken
      (.nameless (by decide) rfl) rfl
  case name =>
    refine ((registrations_decided ⟨"queries", disk⟩ [sale, item, broken]).2.1 _).2
      ⟨[sale, item], broken, [], rfl, hsound hplain, ?_⟩
    exact .property (by decide) (fun file hfile => ⟨_, hnames rfl file hfile ▸ htext hplain⟩) rfl
      .nil (.name rfl)
  case twice =>
    exact ((registrations_decided ⟨"queries/", disk⟩ [sale, item, _]).2.1 _).2
      ⟨[sale, item], _, [], rfl, hsound hslash, .registered (by decide)⟩

end Catalogue

end TableQuery
