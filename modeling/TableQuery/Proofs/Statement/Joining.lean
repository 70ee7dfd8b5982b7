import TableQuery.Proofs.Statement.Separators
import TableQuery.Proofs.Text.Blank
import TableQuery.Proofs.Text.Split
import TableQuery.Table

/-!
# Query files on one line

A query file is put on one line: blanks around its lines go away, and so do empty lines and lines
that begin with two dashes.  A line break and a blank separate alike, except that a line break also
ends a comment.  So the text on one line binds what the file binds, as long as no line that is kept
leaves a comment open; behind such a line nothing is live any more.

* `keptLines`, `placeholders_condense` — the lines of the text on one line;
* `StartsLine` — the states at the start of a line;
* `Joinable` — lines that come to the same on one line, `Joinable.sameJoined` that they do;
* `condense_binds_alike` — when a query file binds alike on one line.
-/

namespace TableQuery

open Lexical

/-! ## Lines -/

/-- A line without blanks around it is kept unless it is empty or begins with two dashes. -/
def isKept (line : List Char) : Bool := !line.isEmpty && (Text.after? ['-', '-'] line).isNone

/-- The lines of a file that are kept, without the blanks around them. -/
def keptLines (lines : List (List Char)) : List (List Char) :=
  (lines.map Text.trimChars).filter isKept

/-- Lines with a line break behind each of them. -/
def broken (lines : List (List Char)) : List Char := lines.flatMap fun line => line ++ ['\n']

/-- Lines with a blank behind each of them. -/
def spaced (lines : List (List Char)) : List Char := lines.flatMap fun line => line ++ [' ']

theorem broken_cons (line : List Char) (lines : List (List Char)) :
    broken (line :: lines) = line ++ ['\n'] ++ broken lines := List.flatMap_cons

theorem spaced_cons (line : List Char) (lines : List (List Char)) :
    spaced (line :: lines) = line ++ [' '] ++ spaced lines := List.flatMap_cons

theorem broken_append (lines lines' : List (List Char)) :
    broken (lines ++ lines') = broken lines ++ broken lines' := List.flatMap_append

theorem spaced_append (lines lines' : List (List Char)) :
    spaced (lines ++ lines') = spaced lines ++ spaced lines' := List.flatMap_append

theorem toList_condense (text : String) :
    (condense text).toList = [' '].intercalate (keptLines (Text.pieces '\n' text.toList)) := by
  have htrim : (Text.splitAll '\n' text).map Text.trim
      = ((Text.pieces '\n' text.toList).map Text.trimChars).map String.ofList := by
    simp [Text.splitAll, Text.trim]
  have hkept : (fun line : String => decide (line ≠ "") && !Text.startsWith "--" line)
      ∘ String.ofList = isKept := by
    funext line
    rw [isKept, ← Option.not_isSome, Function.comp_apply, Text.startsWith, String.toList_ofList]
    cases line <;> simp
  have hchars : (String.toList ∘ String.ofList) = (id : List Char → List Char) :=
    funext fun _ => String.toList_ofList
  rw [condense, htrim, List.filter_map, hkept, String.toList_intercalate, List.map_map, hchars,
    List.map_id, keptLines]
  rfl

theorem placeholders_eq_broken (text : List Char) :
    placeholders text = names .code (broken (Text.pieces '\n' text)) := by
  rw [broken, Text.flatMap_pieces]
  exact placeholders_eq_names (by decide) (by decide) text

theorem placeholders_condense (text : String) :
    placeholders (condense text).toList
      = names .code (spaced (keptLines (Text.pieces '\n' text.toList))) := by
  rw [toList_condense]
  cases hkept : keptLines (Text.pieces '\n' text.toList) with
  | nil => rfl
  | cons line lines =>
    rw [spaced, Text.flatMap_concat _ (List.cons_ne_nil _ _)]
    exact placeholders_eq_names (by decide) (by decide) _

/-! ## One line -/

/-- A state at the start of a line. -/
structure StartsLine (s : Lexical) : Prop where
  settled : settled s = s
  noComment : s ≠ .lineComment
  quote : remembersQuote s = true

theorem startsLine_code : StartsLine .code := ⟨rfl, by simp, rfl⟩

variable {s : Lexical}

theorem startsLine_settled (hs : remembersQuote s = true) (h : s ≠ .lineComment) :
    StartsLine (settled s) :=
  ⟨settled_settled s, fun heq => h (settled_eq_lineComment_iff.1 heq), remembersQuote_settled hs⟩

namespace StartsLine

theorem skip (hs : StartsLine s) {xs : List Char} (h : ∀ c ∈ xs, isSeparator c = true) :
    after s xs = s ∧ names s xs = [] :=
  skip_separators hs.settled hs.quote h fun heq => absurd heq hs.noComment

/-- An empty line. -/
theorem blank (hs : StartsLine s) {line : List Char} (h : Text.trimChars line = []) :
    after s (line ++ ['\n']) = s ∧ names s (line ++ ['\n']) = [] := by
  refine hs.skip fun c hc => ?_
  rcases List.mem_append.1 hc with hc | hc
  · exact isSeparator_of_isBlank (Text.trimChars_eq_nil_iff.1 h c hc)
  · rw [List.mem_singleton.1 hc]
    decide

/-- The blanks before the text of a line change nothing. -/
theorem exists_blanks (hs : StartsLine s) (line : List Char) : ∃ back,
    (∀ c ∈ back, isSeparator c = true) ∧ (∀ c ∈ back, c ∈ line) ∧
    after s (line ++ ['\n']) = after (after s (Text.trimChars line)) (back ++ ['\n']) ∧
    names s (line ++ ['\n'])
      = names s (Text.trimChars line) ++ names (after s (Text.trimChars line)) (back ++ ['\n']) := by
  obtain ⟨front, back, hline, hfront, hback⟩ := Text.exists_trimChars line
  obtain ⟨hafter, hnames⟩ := hs.skip fun c hc => isSeparator_of_isBlank (hfront c hc)
  have htext : line ++ ['\n'] = front ++ (Text.trimChars line ++ (back ++ ['\n'])) := by
    rw [← List.append_assoc (Text.trimChars line), ← List.append_assoc, ← hline]
  refine ⟨back, fun c hc => isSeparator_of_isBlank (hback c hc), fun c hc => ?_, ?_, ?_⟩
  · rw [hline]
    exact List.mem_append_right _ (List.mem_append_right _ hc)
  · rw [htext, after_append, hafter, after_append]
  · rw [htext, names_append, hnames, hafter, names_append, List.nil_append]

/-- **The text of a line** has the same placeholders before a line break and before a blank. -/
theorem names_line (hs : StartsLine s) (line : List Char) :
    names s (line ++ ['\n']) = names s (Text.trimChars line ++ [' ']) := by
  obtain ⟨back, hback, -, -, hnames⟩ := hs.exists_blanks line
  have hbreak : ∀ c ∈ back ++ ['\n'], isSeparator c = true :=
    List.forall_mem_append.2 ⟨hback, List.forall_mem_singleton.2 (by decide)⟩
  have hblank : ∀ c ∈ [' '], isSeparator c = true := List.forall_mem_singleton.2 (by decide)
  rw [hnames, names_append s (Text.trimChars line), names_separators hbreak (by simp),
    names_separators hblank (by simp)]

/-- A line that leaves no comment open. -/
theorem after_line (hs : StartsLine s) (line : List Char)
    (hopen : after s (Text.trimChars line) ≠ .lineComment) :
    after s (line ++ ['\n']) = after s (Text.trimChars line ++ [' ']) ∧
      StartsLine (after s (line ++ ['\n'])) := by
  obtain ⟨back, hback, -, hafter, -⟩ := hs.exists_blanks line
  have hbreak : ∀ c ∈ back ++ ['\n'], isSeparator c = true :=
    List.forall_mem_append.2 ⟨hback, List.forall_mem_singleton.2 (by decide)⟩
  have hquote : remembersQuote (after s (Text.trimChars line)) = true :=
    remembersQuote_after hs.quote _
  have hblank : ∀ c ∈ [' '], isSeparator c = true := List.forall_mem_singleton.2 (by decide)
  rw [hafter, after_append s (Text.trimChars line),
    after_separators hquote hbreak (fun h => absurd h hopen) (by simp),
    after_separators hquote hblank (fun h => absurd h hopen) (by simp)]
  exact ⟨rfl, startsLine_settled hquote hopen⟩

/-- A line that leaves a comment open: the line break ends it, and a blank does not. -/
theorem after_commented (hs : StartsLine s) {line : List Char} (hline : '\n' ∉ line)
    (hopen : after s (Text.trimChars line) = .lineComment) :
    after s (line ++ ['\n']) = .code ∧ after s (Text.trimChars line ++ [' ']) = .lineComment := by
  obtain ⟨back, -, hback, hafter, -⟩ := hs.exists_blanks line
  rw [hafter, hopen, after_append, after_append, hopen,
    (skip_lineComment fun hmem => hline (hback _ hmem)).1]
  exact ⟨rfl, rfl⟩

end StartsLine

/-- A line that begins with two dashes, outside quotes and comments. -/
theorem skip_dashes {line : List Char} (hline : '\n' ∉ line)
    (h : (Text.after? ['-', '-'] (Text.trimChars line)).isSome = true) :
    after .code (line ++ ['\n']) = .code ∧ names .code (line ++ ['\n']) = [] := by
  obtain ⟨rest, hrest⟩ := Option.isSome_iff_exists.1 h
  have htext : Text.trimChars line = ['-', '-'] ++ rest := Text.after?_eq_some.1 hrest
  have hsub : '\n' ∉ rest := by
    obtain ⟨front, back, hcut, -, -⟩ := Text.exists_trimChars line
    intro hmem
    refine hline ?_
    rw [hcut, htext]
    simp [hmem]
  obtain ⟨hafter, hnames⟩ := skip_lineComment hsub
  have hopen : after .code (Text.trimChars line) = .lineComment := by
    rw [htext, after_append]
    exact hafter
  refine ⟨(startsLine_code.after_commented hline hopen).1, ?_⟩
  rw [startsLine_code.names_line, htext, List.append_assoc, names_append, names_append]
  have hstate : after .code ['-', '-'] = .lineComment := rfl
  rw [hstate, hafter, hnames]
  rfl

/-! ## All lines -/

/-- **Lines that come to the same on one line**, read from a state on.  A line that is kept leaves
no comment open.  A line that begins with two dashes is a comment where nothing else is open;
inside quotes or another comment it ends nothing and has no placeholder. -/
inductive Joinable : Lexical → List (List Char) → Prop
  | nil {s : Lexical} : Joinable s []
  | blank {s : Lexical} {line lines} (h : Text.trimChars line = []) (hrest : Joinable s lines) :
      Joinable s (line :: lines)
  | dashes {line lines} (h : (Text.after? ['-', '-'] (Text.trimChars line)).isSome = true)
      (hrest : Joinable .code lines) : Joinable .code (line :: lines)
  | inside {s : Lexical} {line lines}
      (h : (Text.after? ['-', '-'] (Text.trimChars line)).isSome = true)
      (hstate : after s (line ++ ['\n']) = s) (hnames : names s (line ++ ['\n']) = [])
      (hrest : Joinable s lines) : Joinable s (line :: lines)
  | kept {s : Lexical} {line lines} (h : isKept (Text.trimChars line) = true)
      (hopen : after s (Text.trimChars line) ≠ .lineComment)
      (hrest : Joinable (after s (line ++ ['\n'])) lines) : Joinable s (line :: lines)

theorem keptLines_append (lines lines' : List (List Char)) :
    keptLines (lines ++ lines') = keptLines lines ++ keptLines lines' := by
  rw [keptLines, List.map_append, List.filter_append]
  rfl

theorem keptLines_cons_of_kept {line : List Char} (h : isKept (Text.trimChars line) = true)
    (lines : List (List Char)) :
    keptLines (line :: lines) = Text.trimChars line :: keptLines lines :=
  List.filter_cons_of_pos h

theorem keptLines_cons_of_not {line : List Char} (h : isKept (Text.trimChars line) = false)
    (lines : List (List Char)) : keptLines (line :: lines) = keptLines lines :=
  List.filter_cons_of_neg (Bool.eq_false_iff.1 h)

theorem isKept_of_dashes {line : List Char} (h : (Text.after? ['-', '-'] line).isSome = true) :
    isKept line = false := by
  rw [isKept, Option.isNone_eq_false_iff.2 h, Bool.and_false]

/-- Lines that come to the same on one line, read from a state on: they have the same placeholders
there, and leave the same open. -/
structure SameJoined (s : Lexical) (lines : List (List Char)) : Prop where
  names : names s (broken lines) = names s (spaced (keptLines lines))
  after : after s (broken lines) = after s (spaced (keptLines lines))
  starts : StartsLine (Lexical.after s (broken lines))

namespace SameJoined

/-- One more line that is left out. -/
theorem drop {line : List Char} {lines : List (List Char)} (h : SameJoined s lines)
    (hline : isKept (Text.trimChars line) = false)
    (hsame : Lexical.after s (line ++ ['\n']) = s ∧ Lexical.names s (line ++ ['\n']) = []) :
    SameJoined s (line :: lines) where
  names := by
    rw [keptLines_cons_of_not hline, broken_cons, names_append s (line ++ ['\n']), hsame.1, hsame.2]
    exact h.names
  after := by
    rw [keptLines_cons_of_not hline, broken_cons, after_append s (line ++ ['\n']), hsame.1]
    exact h.after
  starts := by
    rw [broken_cons, after_append s (line ++ ['\n']), hsame.1]
    exact h.starts

/-- One more line that is kept and leaves no comment open. -/
theorem keep {line : List Char} {lines : List (List Char)} (hs : StartsLine s)
    (hline : isKept (Text.trimChars line) = true)
    (hopen : Lexical.after s (Text.trimChars line) ≠ .lineComment)
    (h : SameJoined (Lexical.after s (line ++ ['\n'])) lines) : SameJoined s (line :: lines) := by
  have hstate := (hs.after_line line hopen).1
  refine ⟨?_, ?_, ?_⟩
  · rw [keptLines_cons_of_kept hline, broken_cons, spaced_cons, names_append s (line ++ ['\n']),
      names_append s (Text.trimChars line ++ [' ']), hs.names_line line, h.names, hstate]
  · rw [keptLines_cons_of_kept hline, broken_cons, spaced_cons, after_append s (line ++ ['\n']),
      after_append s (Text.trimChars line ++ [' ']), h.after, hstate]
  · rw [broken_cons, after_append s (line ++ ['\n'])]
    exact h.starts

end SameJoined

/-- **Joinable lines come to the same on one line**, by induction on them. -/
theorem Joinable.sameJoined {s : Lexical} {lines : List (List Char)} (h : Joinable s lines)
    (hs : StartsLine s) (hlines : ∀ line ∈ lines, '\n' ∉ line) : SameJoined s lines := by
  induction h with
  | nil => exact ⟨rfl, rfl, hs⟩
  | blank h _ ih =>
    rw [List.forall_mem_cons] at hlines
    exact (ih hs hlines.2).drop (by rw [h]; rfl) (hs.blank h)
  | dashes h _ ih =>
    rw [List.forall_mem_cons] at hlines
    exact (ih hs hlines.2).drop (isKept_of_dashes h) (skip_dashes hlines.1 h)
  | inside h hstate hnames _ ih =>
    rw [List.forall_mem_cons] at hlines
    exact (ih hs hlines.2).drop (isKept_of_dashes h) ⟨hstate, hnames⟩
  | kept h hopen _ ih =>
    rw [List.forall_mem_cons] at hlines
    exact .keep hs h hopen (ih (hs.after_line _ hopen).2 hlines.2)

/-! ## Lines behind a comment -/

/-- **What follows a comment on one line** is part of it: lines have no breaks any more that would
end it. -/
theorem skip_spaced {lines : List (List Char)} (h : ∀ line ∈ lines, '\n' ∉ line) :
    names .lineComment (spaced (keptLines lines)) = [] := by
  refine (skip_lineComment fun hmem => ?_).2
  obtain ⟨kept, hkept, hmem⟩ := List.mem_flatMap.1 hmem
  obtain ⟨line, hline, rfl⟩ := List.mem_map.1 (List.mem_filter.1 hkept).1
  obtain ⟨front, back, hcut, -, -⟩ := Text.exists_trimChars line
  have hnot : '\n' ∉ Text.trimChars line := fun hmem => h line hline <| by
    rw [hcut]
    exact List.mem_append_right _ (List.mem_append_left _ hmem)
  rcases List.mem_append.1 hmem with hmem | hmem
  · exact hnot hmem
  · exact absurd hmem (by decide)

/-- **A line that leaves a comment open**, behind lines that can be joined: on one line the
placeholders of the file end there. -/
theorem placeholders_commented {text : String} {front back : List (List Char)} {line : List Char}
    (hlines : Text.pieces '\n' text.toList = front ++ line :: back) (hfront : Joinable .code front)
    (hkept : isKept (Text.trimChars line) = true)
    (hopen : after (after .code (broken front)) (Text.trimChars line) = .lineComment) :
    placeholders text.toList
        = placeholders (condense text).toList ++ names .code (broken back) := by
  have hbreaks : ∀ l ∈ front ++ line :: back, '\n' ∉ l := fun l hl =>
    Text.not_mem_of_mem_pieces (hlines ▸ hl)
  obtain ⟨hbefore, hrest⟩ := List.forall_mem_append.1 hbreaks
  rw [List.forall_mem_cons] at hrest
  have hsame := hfront.sameJoined startsLine_code hbefore
  obtain ⟨hbreak, hblank⟩ := hsame.starts.after_commented hrest.1 hopen
  have hfile : names .code (broken (front ++ line :: back))
      = names .code (broken front) ++ (names (after .code (broken front)) (line ++ ['\n'])
        ++ names .code (broken back)) := by
    rw [broken_append, broken_cons, names_append, names_append _ (line ++ ['\n']), hbreak]
  have hloaded : names .code (spaced (keptLines (front ++ line :: back)))
      = names .code (broken front) ++ names (after .code (broken front)) (line ++ ['\n']) := by
    rw [keptLines_append, keptLines_cons_of_kept hkept, spaced_append, spaced_cons, names_append,
      names_append _ (Text.trimChars line ++ [' ']), ← hsame.names, ← hsame.after, hblank,
      skip_spaced hrest.2, List.append_nil, hsame.starts.names_line]
  rw [placeholders_eq_broken, placeholders_condense, hlines, hfile, hloaded, List.append_assoc]

/-- **When a query file binds alike on one line.**  A reference to a file stands for its text on one
line.  This binds what the file binds just if it has the same placeholders, and lines that can be
joined do.  Behind a line that leaves a comment open it has none: then it binds what the file binds
just if the file has no placeholder behind that line either. -/
theorem condense_binds_alike (text : String) :
    (∀ (folder : Folder) (reference : String), namesFile (Text.trim reference) = true →
      folder.readText (Text.trim reference) = .ok text →
      baseQuery folder reference = .ok (condense text)) ∧
    (BindAlike text (condense text) ↔
      placeholders text.toList = placeholders (condense text).toList) ∧
    (Joinable .code (Text.pieces '\n' text.toList) → BindAlike text (condense text)) ∧
    ∀ front line back, Text.pieces '\n' text.toList = front ++ line :: back →
      Joinable .code front → isKept (Text.trimChars line) = true →
      after (after .code (broken front)) (Text.trimChars line) = .lineComment →
      (placeholders text.toList
        = placeholders (condense text).toList ++ names .code (broken back)) ∧
      (BindAlike text (condense text) ↔ names .code (broken back) = []) := by
  refine ⟨fun folder reference hfile htext => ?_, bindAlike_iff, fun h => ?_,
    fun front line back hlines hfront hkept hopen => ?_⟩
  · rw [baseQuery]
    simp only [hfile, if_true, htext]
  · have hsame := h.sameJoined startsLine_code fun _ => Text.not_mem_of_mem_pieces
    rw [bindAlike_iff, placeholders_eq_broken, placeholders_condense, hsame.names]
  · have hnames := placeholders_commented hlines hfront hkept hopen
    rw [bindAlike_iff, hnames]
    exact ⟨rfl, List.append_right_eq_self⟩

/-- A comment behind a line swallows the line after it: the file has a placeholder there that must
have a value, and the text on one line has none. -/
theorem condense_binds_alike_comment :
    ∃ (folder : Folder) (text loaded : String),
      text = "SELECT id -- note\nFROM sales WHERE qty > :min" ∧
      folder.readText "sales.sql" = .ok text ∧ baseQuery folder "sales.sql" = .ok loaded ∧
      loaded = "SELECT id -- note FROM sales WHERE qty > :min" ∧
      Dialect.sqlite.bind text .empty = .error (.unboundParameter "min") ∧
      Dialect.sqlite.bind loaded .empty = .ok ⟨loaded, []⟩ :=
  ⟨⟨"queries", ⟨[(["queries", "sales.sql"],
      .file "SELECT id -- note\nFROM sales WHERE qty > :min".toUTF8)], []⟩⟩,
    _, _, rfl, rfl, rfl, rfl, rfl, rfl⟩

end TableQuery
