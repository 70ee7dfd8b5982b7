import TableQuery.Proofs.Outcome
import TableQuery.Proofs.Text.Split
import TableQuery.Settings.Loading

/-!
# Files of settings

A search leads from a path to a file.  What a loading relies on is little: a file at the end of a
path is what is found, a path from the root leads nowhere else, and any other path leads at most to a
file at its end in a directory above.  The search itself stays open here, and `nearest` is one of
this kind.

The loading of several paths looks only for those with something at their end, while that of a
single file looks for it in any case.  So the two agree, except where nothing is at the end of a path
and the search finds a file above; then the single file is the layer of the path from there.

* `Settings.taken?`, `Settings.loadFiles_outcome` — the layers that a loading takes from its paths;
* `Settings.Documented`, `Settings.nearest_documented` — what is relied on of a search;
* `Settings.SingleFile`, `Settings.Documented.singleFile` — a single file and the layers of paths.
-/

namespace TableQuery.Settings

/-! ## Layers of paths -/

/-- The layer that a loading takes from a path: what the search finds, if there is something at the
end of the path. -/
def taken? (find : Finder) (d : Disk) (path : String) : Option (Option String) :=
  if isThere d path then fileText? find d path else none

/-- **A loading reads the layers of its paths**, the lowest one first, and then the variables. -/
theorem loadFiles_outcome (find : Finder) (d : Disk) (paths : List String)
    (environment : List (String × String)) :
    (loadFiles find d paths environment).outcome =
      ofLayers (paths.filterMap (taken? find d)).reverse environment := by
  show ofLayers ((paths.reverse.filter (isThere d)).filterMap (fileText? find d)) environment = _
  rw [List.filterMap_filter, List.filterMap_reverse]
  rfl

/-! ## The search -/

/-- A path from so many directories above the working directory. -/
def above : Nat → String → String
  | 0, path => path
  | n + 1, path => "../" ++ above n path

/-- What is relied on of the search for a file. -/
structure Documented (find : Finder) : Prop where
  /-- A path from the root leads to the file at its end. -/
  absolute {d path} (h : path.toList.head? = some '/') : find d path = fileAt? d path
  /-- Any path leads to the file at its end, if there is one. -/
  first {d path content} (h : fileAt? d path = some content) : find d path = some content
  /-- It leads at most to a file at its end in a directory above. -/
  among {d path content} (h : find d path = some content) :
    ∃ n, fileAt? d (above n path) = some content

theorem nearest_documented : Documented nearest where
  absolute h := if_pos (Text.startsWith_slash_iff.2 h)
  first {d path content} h := by
    rw [nearest]
    split
    next => exact h
    next => rw [h, Option.some_or]
  among {d path content} h := by
    rw [nearest] at h
    split at h
    next => exact ⟨0, h⟩
    next =>
      rcases Option.or_eq_some_iff.1 h with hhere | ⟨-, habove⟩
      · exact ⟨0, hhere⟩
      · exact ⟨1, habove⟩

/-! ## A single file -/

variable {find : Finder} {d : Disk} {path : String} {content : ByteArray}

/-- A file is something. -/
theorem isThere_of_fileAt? (h : fileAt? d path = some content) : isThere d path = true := by
  rw [fileAt?, Disk.readBytes] at h
  rw [isThere]
  cases hfind : d.find path with
  | error e => rw [hfind] at h; cases h
  | ok place => rfl

/-- How the loading of a single file and the layers of paths agree. -/
structure SingleFile (find : Finder) : Prop where
  /-- A file at the end of a path is the layer of the path. -/
  file : ∀ d path content, fileAt? d path = some content →
    taken? find d path = some (String.fromUTF8? content)
  /-- Where nothing is at the end of a path there is no layer. -/
  nothing : ∀ d path, isThere d path = false → taken? find d path = none
  /-- A single file is loaded as several paths are of which it is the only layer. -/
  only : ∀ d d' path paths environment,
    paths.filterMap (taken? find d') = (fileText? find d path).toList →
    loadFile find d path environment = (loadFiles find d' paths environment).outcome
  /-- It is loaded as its path alone is, if something is at the end of the path, or the path is one
  from the root, or the search finds nothing. -/
  alone : ∀ d path environment,
    isThere d path = true ∨ path.toList.head? = some '/' ∨ find d path = none →
    loadFile find d path environment = (loadFiles find d [path] environment).outcome
  /-- Otherwise the search finds a file in a directory above, which is taken for the single file and
  left out for the path.  The single file is then loaded as the path from that directory alone is. -/
  elsewhere : ∀ d path content environment, isThere d path = false → find d path = some content →
    path.toList.head? ≠ some '/' ∧
    (∃ n, fileAt? d (above (n + 1) path) = some content ∧ loadFile find d path environment
      = (loadFiles find d [above (n + 1) path] environment).outcome) ∧
    loadFile find d path environment = ofLayers [String.fromUTF8? content] environment ∧
    (loadFiles find d [path] environment).outcome = ofLayers [] environment

theorem loadFile_of_layers {d' : Disk} {paths : List String}
    (h : paths.filterMap (taken? find d') = (fileText? find d path).toList)
    (environment : List (String × String)) :
    loadFile find d path environment = (loadFiles find d' paths environment).outcome := by
  rw [loadFiles_outcome, h, loadFile]
  cases fileText? find d path <;> rfl

theorem taken?_of_isThere (h : isThere d path = true) :
    taken? find d path = fileText? find d path := if_pos h

theorem taken?_of_not_isThere (h : isThere d path = false) : taken? find d path = none :=
  if_neg (Bool.eq_false_iff.1 h)

/-- A file at the end of a path is the layer of the path. -/
theorem Documented.taken?_of_fileAt? (hfind : Documented find) (h : fileAt? d path = some content) :
    taken? find d path = some (String.fromUTF8? content) := by
  rw [taken?_of_isThere (isThere_of_fileAt? h), fileText?, hfind.first h]
  rfl

/-- **A single file** is loaded as the layer of its path, or of the path from the directory above
where the search finds it. -/
theorem Documented.singleFile (hfind : Documented find) : SingleFile find where
  file _ _ _ h := hfind.taken?_of_fileAt? h
  nothing d path h := taken?_of_not_isThere h
  only d d' path paths environment h := loadFile_of_layers h environment
  alone d path environment h := by
    refine loadFile_of_layers ?_ environment
    have htaken : taken? find d path = fileText? find d path := by
      cases hthere : isThere d path with
      | true => exact taken?_of_isThere hthere
      | false =>
        -- where nothing is, the search finds nothing either: a path from the root has no other place
        have hnone : find d path = none := by
          rcases h with h | h | h
          · rw [hthere] at h
            cases h
          · rw [hfind.absolute h, Option.eq_none_iff_forall_ne_some]
            intro content hcontent
            rw [isThere_of_fileAt? hcontent] at hthere
            cases hthere
          · exact h
        rw [taken?_of_not_isThere hthere, fileText?, hnone]
        rfl
    rw [← htaken]
    cases htext : taken? find d path <;> simp [htext]
  elsewhere d path content environment hthere hcontent := by
    have hnot : fileAt? d path ≠ some content := fun h => by
      rw [isThere_of_fileAt? h] at hthere
      cases hthere
    refine ⟨fun hroot => hnot ((hfind.absolute hroot).symm.trans hcontent), ?_, ?_, ?_⟩
    · obtain ⟨n, hn⟩ := hfind.among hcontent
      cases n with
      | zero => exact absurd hn hnot
      | succ n =>
        refine ⟨n, hn, loadFile_of_layers ?_ environment⟩
        rw [List.filterMap_cons_some (hfind.taken?_of_fileAt? hn), fileText?, hcontent]
        rfl
    · rw [loadFile, fileText?, hcontent]
      rfl
    · rw [loadFiles_outcome, List.filterMap_cons_none (taken?_of_not_isThere hthere)]
      rfl

end TableQuery.Settings
