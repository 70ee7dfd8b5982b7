import TableQuery.Proofs.Plan.Placement
import TableQuery.Proofs.Plan.Refusal
import TableQuery.Proofs.Text.Blank

/-!
# Semicolons behind base queries

A plan takes blanks, then semicolons, then blanks again from the end of its base query.  That is one
run of semicolons: where two runs stand apart, with nothing but blanks between them, only the last
one goes, and the bracket closes behind the other.

* `endRuns` — the runs of semicolons at the end of a text;
* `endRuns_bareBase` — of these a plan takes one;
* `bareBase_append_iff` — the blanks and semicolons that make no difference to a base query;
* `Plan.build_eq_build_iff` — the base queries that have the same plans;
* `Plan.suffix_decided` — when a suffix of blanks and semicolons makes no difference to a plan, and
  what the text in the brackets ends with.
-/

namespace TableQuery

/-! ## Runs of semicolons -/

/-- A blank or a semicolon. -/
def isClosing (c : Char) : Bool := c == ';' || Text.isBlank c

theorem isClosing_iff {c : Char} : isClosing c = true ↔ c = ';' ∨ Text.isBlank c = true := by
  rw [isClosing, Bool.or_eq_true, beq_iff_eq]

/-- The runs of semicolons that a text begins with, with nothing but blanks around them. -/
def startRuns : List Char → Nat
  | [] => 0
  | c :: cs =>
    if c = ';' then (if cs.head? = some ';' then 0 else 1) + startRuns cs
    else if Text.isBlank c then startRuns cs
    else 0

/-- The runs of semicolons that a text ends with, with nothing but blanks around them. -/
def endRuns (s : String) : Nat := startRuns s.toList.reverse

/-- A text without the first run of semicolons that it begins with, and without the blanks around
it. -/
def dropRun (cs : List Char) : List Char :=
  ((cs.dropWhile Text.isBlank).dropWhile (· == ';')).dropWhile Text.isBlank

theorem startRuns_blank {c : Char} (hc : Text.isBlank c = true) (cs : List Char) :
    startRuns (c :: cs) = startRuns cs := by
  have hne : c ≠ ';' := by
    rintro rfl
    cases hc
  rw [startRuns, if_neg hne, if_pos hc]

theorem startRuns_other {c : Char} (hne : c ≠ ';') (hc : Text.isBlank c = false) (cs : List Char) :
    startRuns (c :: cs) = 0 := by
  rw [startRuns, if_neg hne, hc, if_neg Bool.false_ne_true]

theorem startRuns_semicolon (cs : List Char) :
    startRuns (';' :: cs) = startRuns (cs.dropWhile (· == ';')) + 1 := by
  induction cs with
  | nil => rfl
  | cons c cs ih =>
    rw [startRuns, if_pos rfl, List.head?_cons]
    by_cases hc : c = ';'
    · subst hc
      rw [if_pos rfl, ih, List.dropWhile_cons_of_pos rfl, Nat.zero_add]
    · rw [if_neg (fun h => hc (Option.some.inj h)), List.dropWhile_cons_of_neg (by simpa using hc),
        Nat.add_comm]

theorem startRuns_dropWhile_isBlank (cs : List Char) :
    startRuns (cs.dropWhile Text.isBlank) = startRuns cs := by
  induction cs with
  | nil => rfl
  | cons c cs ih =>
    cases hc : Text.isBlank c with
    | false => rw [List.dropWhile_cons_of_neg (Bool.eq_false_iff.1 hc)]
    | true => rw [List.dropWhile_cons_of_pos hc, ih, startRuns_blank hc]

/-- Blanks behind the runs are none. -/
theorem startRuns_append_blank (cs : List Char) {blanks : List Char}
    (h : ∀ c ∈ blanks, Text.isBlank c = true) : startRuns (cs ++ blanks) = startRuns cs := by
  induction cs with
  | nil =>
    rw [List.nil_append, ← startRuns_dropWhile_isBlank, List.dropWhile_eq_nil_iff.2 h]
  | cons c cs ih =>
    have hhead : (cs ++ blanks).head? = some ';' ↔ cs.head? = some ';' := by
      cases cs with
      | cons d cs => rfl
      | nil =>
        refine iff_of_false (fun hd => ?_) (fun hd => by cases hd)
        cases h ';' (List.mem_of_head? hd)
    rw [List.cons_append, startRuns, startRuns, ih]
    simp only [hhead]

/-- Where a text begins with no blank, it begins with a run of semicolons or has none. -/
theorem head?_eq_semicolon_iff {cs : List Char} (h : ∀ c ∈ cs.head?, Text.isBlank c = false) :
    cs.head? = some ';' ↔ 0 < startRuns cs := by
  cases cs with
  | nil => exact iff_of_false (fun h => by cases h) (Nat.lt_irrefl 0)
  | cons c cs =>
    rw [List.head?_cons]
    by_cases hc : c = ';'
    · subst hc
      rw [startRuns_semicolon]
      exact iff_of_true rfl (Nat.succ_pos _)
    · rw [startRuns_other hc (h c rfl)]
      exact iff_of_false (fun h => hc (Option.some.inj h)) (Nat.lt_irrefl 0)

/-- **One run is dropped.** -/
theorem startRuns_dropRun (cs : List Char) : startRuns (dropRun cs) = startRuns cs - 1 := by
  rw [dropRun, startRuns_dropWhile_isBlank, ← startRuns_dropWhile_isBlank cs]
  have hhead := Text.head?_dropWhile Text.isBlank cs
  cases hrest : cs.dropWhile Text.isBlank with
  | nil => rfl
  | cons c rest =>
    rw [hrest] at hhead
    by_cases hc : c = ';'
    · subst hc
      rw [startRuns_semicolon, List.dropWhile_cons_of_pos rfl, Nat.add_sub_cancel]
    · rw [List.dropWhile_cons_of_neg (by simpa using hc), startRuns_other hc (hhead c rfl)]

/-- Without a run of semicolons nothing but blanks is dropped. -/
theorem dropRun_of_startRuns_eq_zero {cs : List Char} (h : startRuns cs = 0) :
    dropRun cs = cs.dropWhile Text.isBlank := by
  have hblank := Text.head?_dropWhile Text.isBlank cs
  have hsemicolon : ∀ c ∈ (cs.dropWhile Text.isBlank).head?, (c == ';') = false := by
    intro c hc
    rw [beq_eq_false_iff_ne]
    rintro rfl
    have hpos := (head?_eq_semicolon_iff hblank).1 hc
    rw [startRuns_dropWhile_isBlank, h] at hpos
    cases hpos
  rw [dropRun, Text.dropWhile_of_head? hsemicolon, Text.dropWhile_of_head? hblank]

/-! ## Blanks and semicolons in front -/

theorem startRuns_le_append {front : List Char} (h : ∀ c ∈ front, isClosing c = true)
    (cs : List Char) : startRuns cs ≤ startRuns (front ++ cs) := by
  induction front with
  | nil => exact Nat.le_refl _
  | cons c front ih =>
    rw [List.forall_mem_cons] at h
    refine Nat.le_trans (ih h.2) ?_
    rcases isClosing_iff.1 h.1 with rfl | hblank
    · rw [List.cons_append, startRuns, if_pos rfl]
      exact Nat.le_add_left _ _
    · rw [List.cons_append, startRuns_blank hblank]

theorem dropRun_semicolon_semicolon (cs : List Char) :
    dropRun (';' :: ';' :: cs) = dropRun (';' :: cs) := rfl

/-- **What is dropped with blanks and semicolons in front** is dropped without them, if they bring no
run but the one that goes. -/
theorem dropRun_append {front : List Char} (h : ∀ c ∈ front, isClosing c = true) {cs : List Char}
    (hruns : startRuns (front ++ cs) - 1 = startRuns cs - 1) :
    dropRun (front ++ cs) = dropRun cs := by
  induction front with
  | nil => rfl
  | cons c front ih =>
    rw [List.forall_mem_cons] at h
    rw [List.cons_append] at hruns ⊢
    rcases isClosing_iff.1 h.1 with rfl | hblank
    · have hle := startRuns_le_append h.2 cs
      rw [startRuns, if_pos rfl] at hruns
      by_cases hhead : (front ++ cs).head? = some ';'
      · -- the semicolon is one more of a run
        rw [if_pos hhead, Nat.zero_add] at hruns
        rw [← ih h.2 hruns]
        obtain ⟨rest, hrest⟩ := List.head?_eq_some_iff.1 hhead
        rw [hrest, dropRun_semicolon_semicolon]
      · -- it is a run of its own, so there is no other one
        rw [if_neg hhead] at hruns
        have hnone : startRuns (front ++ cs) = 0 := by omega
        have hsemicolon : ∀ c ∈ (front ++ cs).head?, (c == ';') = false := by
          intro c hc
          rw [beq_eq_false_iff_ne]
          rintro rfl
          exact hhead hc
        rw [← ih h.2 (by omega), dropRun_of_startRuns_eq_zero hnone]
        show ((front ++ cs).dropWhile (· == ';')).dropWhile Text.isBlank = _
        rw [Text.dropWhile_of_head? hsemicolon]
    · rw [startRuns_blank hblank] at hruns
      rw [← ih h.2 hruns, dropRun, List.dropWhile_cons_of_pos hblank, dropRun]

/-! ## What stands in the brackets -/

theorem reverse_bareBase (base : String) :
    (bareBase base).toList.reverse = dropRun (Text.trimStart base.toList).reverse := by
  simp only [bareBase, String.toList_ofList, Text.trimEnd, Text.trimChars, Text.dropEndWhile,
    dropRun, List.reverse_reverse]

/-- The end of a base query is settled before its start is trimmed as well as after it. -/
theorem toList_bareBase (base : String) :
    (bareBase base).toList = Text.trimStart (dropRun base.toList.reverse).reverse := by
  have hdrop : (dropRun base.toList.reverse).reverse = Text.dropEndWhile Text.isBlank
      (Text.dropEndWhile (· == ';') (Text.dropEndWhile Text.isBlank base.toList)) := by
    simp only [Text.dropEndWhile, dropRun, List.reverse_reverse]
  rw [hdrop, bareBase, String.toList_ofList, Text.trimStart, Text.dropWhile_dropEndWhile,
    Text.dropWhile_dropEndWhile, Text.dropWhile_dropEndWhile]
  rfl

/-- **Of the runs of semicolons at the end of a base query one is taken.** -/
theorem endRuns_bareBase (base : String) : endRuns (bareBase base) = endRuns base - 1 := by
  have hblanks : ∀ c ∈ (base.toList.takeWhile Text.isBlank).reverse, Text.isBlank c = true :=
    fun c hc => List.mem_takeWhile_imp (List.mem_reverse.1 hc)
  have hbase : base.toList.reverse = (Text.trimStart base.toList).reverse
      ++ (base.toList.takeWhile Text.isBlank).reverse := by
    rw [← List.reverse_append, Text.trimStart, List.takeWhile_append_dropWhile]
  rw [endRuns, endRuns, reverse_bareBase, startRuns_dropRun, hbase, startRuns_append_blank _ hblanks]

/-- What stands in the brackets does not end with a blank. -/
theorem isBlank_getLast?_bareBase (base : String) :
    ∀ c ∈ (bareBase base).toList.getLast?, Text.isBlank c = false := by
  rw [← List.head?_reverse, reverse_bareBase]
  exact Text.head?_dropWhile _ _

/-- **It ends with a semicolon** just if the base query ends with two runs of them. -/
theorem getLast?_bareBase_iff (base : String) :
    (bareBase base).toList.getLast? = some ';' ↔ 2 ≤ endRuns base := by
  have hblank := isBlank_getLast?_bareBase base
  have hruns := endRuns_bareBase base
  rw [← List.head?_reverse] at hblank ⊢
  rw [head?_eq_semicolon_iff hblank, ← endRuns, hruns]
  omega

/-- **Blanks and semicolons behind a base query** make no difference to it just if they bring no run
of semicolons besides the first one. -/
theorem bareBase_append_iff {base w : String} (h : ∀ c ∈ w.toList, isClosing c = true) :
    bareBase (base ++ w) = bareBase base ↔ endRuns (base ++ w) ≤ max 1 (endRuns base) := by
  have hreverse : (base ++ w).toList.reverse = w.toList.reverse ++ base.toList.reverse := by
    rw [String.toList_append, List.reverse_append]
  have hw : ∀ c ∈ w.toList.reverse, isClosing c = true := fun c hc => h c (List.mem_reverse.1 hc)
  constructor
  · intro heq
    have hruns := endRuns_bareBase (base ++ w)
    rw [heq, endRuns_bareBase] at hruns
    omega
  · intro hruns
    have hle := startRuns_le_append hw base.toList.reverse
    have hsame : startRuns (w.toList.reverse ++ base.toList.reverse) - 1
        = startRuns base.toList.reverse - 1 := by
      rw [endRuns, endRuns, hreverse] at hruns
      omega
    rw [← String.toList_inj, toList_bareBase, toList_bareBase, hreverse, dropRun_append hw hsame]

/-! ## Plans -/

namespace Plan

variable {r : Registry} {cap : Option UInt64} {d : Descriptor} {base base' : String}
  {extra : Parameters}

/-- A plan sees of its base query what it puts in brackets. -/
theorem build_congr (h : bareBase base = bareBase base') :
    build r cap d base extra = build r cap d base' extra := by
  have hwrap : wrapBase base = wrapBase base' := by rw [wrapBase_eq, wrapBase_eq, h]
  rw [build_eq_map, build_eq_map, core, core, hwrap]

/-- The brackets of one plan are those of another one if the plans are the same. -/
theorem bareBase_of_build {plan : Plan} (h : build r cap d base extra = .ok plan)
    (h' : build r cap d base' extra = .ok plan) : bareBase base = bareBase base' := by
  obtain ⟨-, cs, hcs⟩ := exists_madeOf h
  obtain ⟨-, cs', hcs'⟩ := exists_madeOf h'
  obtain rfl : cs = cs' := by
    rw [hcs.toConditions.eq_filterMap, hcs'.toConditions.eq_filterMap]
  have hdata := hcs.data.symm.trans hcs'.data
  rw [String.append_left_inj, String.append_left_inj, String.append_left_inj, wrapBase_eq,
    wrapBase_eq, String.append_left_inj, String.append_right_inj] at hdata
  exact hdata

/-- **The base queries that have the same plans**: the same text comes in the brackets, unless there
is no plan for the other reasons that there may be. -/
theorem build_eq_build_iff :
    build r cap d base extra = build r cap d base' extra ↔
      bareBase base = bareBase base' ∨ ∃ e, Refused r d extra e := by
  constructor
  · intro h
    cases hplan : build r cap d base extra with
    | ok plan => exact .inl (bareBase_of_build hplan (h ▸ hplan))
    | error e => exact .inr ⟨e, build_eq_error.1 hplan⟩
  · rintro (h | ⟨e, he⟩)
    · exact build_congr h
    · rw [build_eq_error.2 he, build_eq_error.2 he]

/-- **When a suffix makes no difference.**  Blanks and semicolons behind a base query leave every
plan as it is just if they bring no run of semicolons besides the first one, or if there is no plan
anyway.  What stands in the brackets never ends with a blank, has one run of semicolons less at its
end than the base query, and so ends with a semicolon just if the base query has two of them. -/
theorem suffix_decided (base : String) {w : String} (h : ∀ c ∈ w.toList, isClosing c = true) :
    (∀ (r : Registry) (cap : Option UInt64) (d : Descriptor) (extra : Parameters),
      build r cap d (base ++ w) extra = build r cap d base extra ↔
        endRuns (base ++ w) ≤ max 1 (endRuns base) ∨ ∃ e, Refused r d extra e) ∧
    endRuns (bareBase base) = endRuns base - 1 ∧
    (∀ c ∈ (bareBase base).toList.getLast?, Text.isBlank c = false) ∧
    ((bareBase base).toList.getLast? = some ';' ↔ 2 ≤ endRuns base) := by
  refine ⟨fun r cap d extra => ?_, endRuns_bareBase base, isBlank_getLast?_bareBase base,
    getLast?_bareBase_iff base⟩
  rw [build_eq_build_iff, bareBase_append_iff h]

/-- More semicolons of the same run, and blanks behind them. -/
theorem suffix_decided_same_run :
    build .builtin none { filters := [⟨"quantity", "qty", "equals", .integer 1⟩] }
        ("SELECT * FROM sales ;" ++ ";;\n") .empty
      = build .builtin none { filters := [⟨"quantity", "qty", "equals", .integer 1⟩] }
        "SELECT * FROM sales ;" .empty ∧
    (bareBase "SELECT * FROM sales ;").toList.getLast? ≠ some ';' := by
  have hclosing : ∀ c ∈ ";;\n".toList, isClosing c = true := List.all_eq_true.1 rfl
  obtain ⟨hbuild, -, -, hlast⟩ := suffix_decided "SELECT * FROM sales ;" hclosing
  have hruns : endRuns "SELECT * FROM sales ;" = 1 := rfl
  refine ⟨(hbuild _ _ _ _).2 (.inl ?_), fun h => ?_⟩
  · decide
  · rw [hlast, hruns] at h
    omega

/-- A second run of semicolons makes another plan, whose bracket closes behind the first one. -/
theorem suffix_decided_two_runs :
    (∀ c ∈ "; ;".toList, isClosing c = true) ∧
    build .builtin none {} ("SELECT * FROM sales" ++ "; ;") .empty
      ≠ build .builtin none {} "SELECT * FROM sales" .empty ∧
    ∃ plan : Plan,
      build .builtin none {} ("SELECT * FROM sales" ++ "; ;") .empty = .ok plan ∧
      plan.data = "SELECT * FROM (SELECT * FROM sales;) AS scope WHERE 1 = 1" := by
  have hother : build .builtin none {} "SELECT * FROM sales" .empty = .ok _ := rfl
  have htwo : build .builtin none {} ("SELECT * FROM sales" ++ "; ;") .empty = .ok _ := rfl
  refine ⟨List.all_eq_true.1 rfl, fun h => ?_, _, htwo, rfl⟩
  rw [hother] at h
  exact absurd (congrArg Plan.data (Except.ok.inj (htwo.symm.trans h))) (by decide)

end Plan

end TableQuery
