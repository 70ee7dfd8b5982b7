import TableQuery.Proofs.Outcome
import TableQuery.Proofs.Text.Split
import TableQuery.Table

/-!
# Query files

The reference of a declaration is a query, or it names the file of one.  Which references name a
file, which path the file has, and when there is a text at the end of this path, is said here in
characters; the readers of the program are shown to agree.

* `EndsInSql`, `namesFile_eq_true_iff` — the references that name a file;
* `Joined`, `Folder.pathOf_eq_iff` — the path of a reference in a directory;
* `Folder.HasText`, `Folder.readText_eq_ok` — the text of a file;
* `Declaration.NamesFile`, `Declaration.Readable` — the query file of a declaration;
* `Declaration.base_eq_error`, `Declaration.exists_base_iff` — what is wrong with a base query.
-/

namespace TableQuery

open Outcome

/-! ## References that name a file -/

/-- The last four characters of a reference are `.sql`, in any letter case. -/
def EndsInSql (reference : String) : Prop :=
  ∃ front suffix, reference.toList = front ++ suffix ∧
    suffix.map Char.toLower = ['.', 's', 'q', 'l']

theorem namesFile_eq_true_iff {reference : String} :
    namesFile reference = true ↔ EndsInSql reference := by
  rw [namesFile, Text.endsWith, Option.isSome_iff_exists]
  simp only [Text.after?_eq_some, Text.lower, String.toList_ofList]
  constructor
  · rintro ⟨rest, hrest⟩
    have hmap : reference.toList.map Char.toLower = rest.reverse ++ ".sql".toList := by
      rw [← List.reverse_reverse (reference.toList.map Char.toLower), hrest, List.reverse_append,
        List.reverse_reverse]
    obtain ⟨front, suffix, htext, -, hsuffix⟩ := List.map_eq_append_iff.1 hmap
    exact ⟨front, suffix, htext, hsuffix⟩
  · rintro ⟨front, suffix, htext, hsuffix⟩
    refine ⟨(front.map Char.toLower).reverse, ?_⟩
    rw [htext, List.map_append, hsuffix, List.reverse_append]
    rfl

/-! ## Paths -/

/-- The path of a reference in a directory, as it is written.  A reference that starts with a slash
stands alone, and so does one in a directory without a name; a directory that ends with a slash gets
no other one. -/
inductive Joined (directory reference : String) : String → Prop where
  | absolute (h : reference.toList.head? = some '/') : Joined directory reference reference
  | nameless (h : reference.toList.head? ≠ some '/') (hname : directory = "") :
    Joined directory reference reference
  | closed (h : reference.toList.head? ≠ some '/') (hname : directory.toList.getLast? = some '/') :
    Joined directory reference (directory ++ reference)
  | plain (h : reference.toList.head? ≠ some '/') (hne : directory ≠ "")
    (hname : directory.toList.getLast? ≠ some '/') :
    Joined directory reference (directory ++ "/" ++ reference)

namespace Folder

variable {folder : Folder} {reference path text : String}

theorem joined_pathOf (folder : Folder) (reference : String) :
    Joined folder.name reference (folder.pathOf reference) := by
  rw [pathOf]
  split
  next h => exact .absolute (Text.startsWith_slash_iff.1 h)
  next h =>
    rw [Text.startsWith_slash_iff] at h
    split
    next hname =>
      rcases hname with hname | hname
      · rw [hname, String.empty_append]
        exact .nameless h rfl
      · exact .closed h (Text.endsWith_slash_iff.1 hname)
    next hname =>
      rw [not_or, Text.endsWith_slash_iff] at hname
      exact .plain h hname.1 hname.2

/-- **A reference has one path in a directory.** -/
theorem pathOf_eq_iff : folder.pathOf reference = path ↔ Joined folder.name reference path := by
  constructor
  · rintro rfl
    exact joined_pathOf folder reference
  · intro h
    rw [pathOf]
    cases h with
    | absolute h => rw [if_pos (Text.startsWith_slash_iff.2 h)]
    | nameless h hname =>
      rw [if_neg (mt Text.startsWith_slash_iff.1 h), if_pos (.inl hname), hname,
        String.empty_append]
    | closed h hname =>
      rw [if_neg (mt Text.startsWith_slash_iff.1 h),
        if_pos (.inr (Text.endsWith_slash_iff.2 hname))]
    | plain h hne hname =>
      rw [if_neg (mt Text.startsWith_slash_iff.1 h),
        if_neg (not_or.2 ⟨hne, mt Text.endsWith_slash_iff.1 hname⟩)]

/-- At the path of the reference there is a file with this text. -/
def HasText (folder : Folder) (reference text : String) : Prop :=
  ∃ path place content, Joined folder.name reference path ∧ folder.disk.find path = .ok place ∧
    folder.disk.entry? place = some (.file content) ∧ String.fromUTF8? content = some text

theorem readText_eq_ok : folder.readText reference = .ok text ↔ folder.HasText reference text := by
  have hbytes : ∀ content, folder.disk.readBytes (folder.pathOf reference) = .ok content ↔
      ∃ place, folder.disk.find (folder.pathOf reference) = .ok place ∧
        folder.disk.entry? place = some (.file content) := by
    intro content
    rw [Disk.readBytes, bind_eq_ok]
    refine exists_congr fun place => and_congr_right fun _ => ?_
    split <;> simp_all
  rw [readText, Disk.readText, bind_eq_ok, HasText]
  simp only [hbytes, ← pathOf_eq_iff]
  constructor
  · rintro ⟨content, ⟨place, hplace, hcontent⟩, htext⟩
    refine ⟨_, place, content, rfl, hplace, hcontent, ?_⟩
    split at htext <;> simp_all
  · rintro ⟨_, place, content, rfl, hplace, hcontent, htext⟩
    exact ⟨content, ⟨place, hplace, hcontent⟩, by rw [htext]⟩

end Folder

/-! ## The file of a declaration -/

namespace Declaration

variable {folder : Folder} {d : Declaration} {file : String} {e : ConfigurationError}

/-- The declaration names this file: without the blanks around it, its reference ends in `.sql`. -/
def NamesFile (d : Declaration) (file : String) : Prop :=
  ∃ reference, d.dataTable = some reference ∧ file = Text.trim reference ∧ EndsInSql file

/-- The file that the declaration names, if it names one, has a text. -/
def Readable (folder : Folder) (d : Declaration) : Prop :=
  ∀ file, d.NamesFile file → ∃ text, folder.HasText file text

/-- What is wrong with the query file of a declaration. -/
inductive Unreadable (folder : Folder) (d : Declaration) : ConfigurationError → Prop where
  | mk {file path obstacle} (hfile : d.NamesFile file) (hpath : Joined folder.name file path)
    (h : folder.disk.readText path = .error obstacle) :
    Unreadable folder d (.unreadableQueryFile path obstacle.message)

/-- A base query is missing just because its file cannot be read. -/
theorem base_eq_error :
    d.dataTable.mapM (baseQuery folder) = .error e ↔ d.Unreadable folder e := by
  have hreference : ∀ reference, baseQuery folder reference = .error e ↔
      EndsInSql (Text.trim reference) ∧ ∃ obstacle,
        folder.disk.readText (folder.pathOf (Text.trim reference)) = .error obstacle ∧
          e = .unreadableQueryFile (folder.pathOf (Text.trim reference)) obstacle.message := by
    intro reference
    rw [baseQuery, ← namesFile_eq_true_iff, Folder.readText]
    cases namesFile (Text.trim reference) with
    | false => simp
    | true =>
      cases folder.disk.readText (folder.pathOf (Text.trim reference)) with
      | error obstacle => simp [eq_comm]
      | ok text => simp
  cases hd : d.dataTable with
  | none =>
    refine iff_of_false (fun h => by cases h) ?_
    rintro ⟨⟨reference, hreference, -⟩, -, -⟩
    rw [hd] at hreference
    cases hreference
  | some reference =>
    have hmap : (some reference).mapM (baseQuery folder) = (baseQuery folder reference).map some := by
      rw [Option.mapM_some]
      rfl
    rw [hmap, map_eq_error, hreference]
    constructor
    · rintro ⟨hsql, obstacle, hread, rfl⟩
      exact .mk ⟨reference, hd, rfl, hsql⟩ (Folder.joined_pathOf folder _) hread
    · rintro ⟨⟨reference', hreference', rfl, hsql⟩, hpath, hread⟩
      obtain rfl := Option.some.inj (hd.symm.trans hreference')
      obtain rfl := Folder.pathOf_eq_iff.2 hpath
      exact ⟨hsql, _, hread, rfl⟩

/-- There is a base query, or none is asked for, just if the query file can be read. -/
theorem exists_base_iff :
    (∃ base, d.dataTable.mapM (baseQuery folder) = .ok base) ↔ d.Readable folder := by
  constructor
  · rintro ⟨base, hbase⟩ file hfile
    cases hread : folder.readText file with
    | ok text => exact ⟨text, Folder.readText_eq_ok.1 hread⟩
    | error obstacle =>
      have herror := base_eq_error.2 (.mk hfile (Folder.joined_pathOf folder file) hread)
      rw [hbase] at herror
      cases herror
  · intro h
    cases hbase : d.dataTable.mapM (baseQuery folder) with
    | ok base => exact ⟨base, rfl⟩
    | error e =>
      obtain ⟨hfile, hpath, hread⟩ := base_eq_error.1 hbase
      obtain ⟨text, htext⟩ := h _ hfile
      rw [← Folder.pathOf_eq_iff] at hpath
      rw [← Folder.readText_eq_ok, Folder.readText, hpath, hread] at htext
      cases htext

end Declaration

end TableQuery
