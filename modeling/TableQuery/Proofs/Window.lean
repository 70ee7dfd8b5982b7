import Mathlib.Data.List.Basic
import Mathlib.Data.UInt
import TableQuery.Descriptor

/-!
# Pages partition the rows

A page is a window of limit and offset.  Both numbers are kept small enough for a database, and
their product may not fit into sixty-four bits, yet no row is lost or shown twice: an offset that
was made smaller lies behind every row that a database can number.

* `Window.rows` — the rows of a window;
* `pageLength` — how many rows a page has in the end;
* `Window.toNat_limit_ofPage`, `Window.toNat_offset_ofPage` — the two numbers of a page;
* `Descriptor.pages_partition` — each row lies on one page, and the pages in order are the rows.
-/

namespace TableQuery

/-! ## Rows of a window -/

namespace Window

variable {α : Type}

def rows (w : Window) (xs : List α) : List α := (xs.drop w.offset.toNat).take w.limit.toNat

/-- Among numbered rows a window has those from its offset on, as many as its limit says. -/
theorem mem_rows_range {w : Window} {n i : Nat} :
    i ∈ w.rows (List.range n) ↔
      (w.offset.toNat ≤ i ∧ i < w.offset.toNat + w.limit.toNat) ∧ i < n := by
  simp only [rows, List.mem_take_iff_getElem, List.length_drop, List.length_range,
    List.getElem_drop, List.getElem_range, Nat.lt_min, exists_prop]
  constructor
  · rintro ⟨j, ⟨hlimit, hlength⟩, rfl⟩
    exact ⟨⟨by omega, by omega⟩, by omega⟩
  · rintro ⟨⟨hfrom, hto⟩, hi⟩
    exact ⟨i - w.offset.toNat, ⟨by omega, by omega⟩, by omega⟩

end Window

/-! ## The numbers of a page -/

/-- The number of rows on a page: the size that is asked for, at most the cap, which is one at
least, and at most what a database takes. -/
def pageLength (size : UInt64) : Option UInt64 → Nat
  | none => min size.toNat (2 ^ 63 - 1)
  | some cap => min (min size.toNat (max cap.toNat 1)) (2 ^ 63 - 1)

section

variable {size : UInt64} (cap : Option UInt64)

theorem pageLength_le_size : pageLength size cap ≤ size.toNat := by
  cases cap with
  | none => exact Nat.min_le_left _ _
  | some c => exact (Nat.min_le_left _ _).trans (Nat.min_le_left _ _)

theorem pageLength_lt : pageLength size cap < 2 ^ 63 := by
  cases cap <;> simp only [pageLength] <;> omega

/-- A page is never empty, whatever the cap. -/
theorem pageLength_pos (h : size ≠ 0) : 0 < pageLength size cap := by
  have hpos : 0 < size.toNat := UInt64.pos_iff_ne_zero.2 h
  cases cap <;> simp only [pageLength] <;> omega

end

namespace Window

theorem toNat_boundedProduct (a b : UInt64) :
    (boundedProduct a b).toNat = min (a.toNat * b.toNat) (2 ^ 64 - 1) := by
  have hsize : UInt64.size = 2 ^ 64 := rfl
  rw [boundedProduct]
  split
  next h =>
    rw [UInt64.toNat_mul, Nat.mod_eq_of_lt (by omega)]
    omega
  next h =>
    show 2 ^ 64 - 1 = _
    omega

theorem toNat_limit_ofPage (page size : UInt64) (cap : Option UInt64) :
    (ofPage page size cap).limit.toNat = pageLength size cap := by
  cases cap with
  | none => exact UInt64.toNat_min _ _
  | some c =>
    show (min (min size (max c 1)) greatest).toNat = _
    rw [UInt64.toNat_min, UInt64.toNat_min, UInt64.toNat_max]
    rfl

/-- The offset counts in pages as long as they are in the end, and not as they were asked for. -/
theorem toNat_offset_ofPage (page size : UInt64) (cap : Option UInt64) :
    (ofPage page size cap).offset.toNat
      = min (page.toNat * pageLength size cap) (2 ^ 63 - 1) := by
  have hoffset : (ofPage page size cap).offset
      = min (boundedProduct page (ofPage page size cap).limit) greatest := rfl
  have hgreatest : greatest.toNat = 2 ^ 63 - 1 := rfl
  rw [hoffset, UInt64.toNat_min, toNat_boundedProduct, toNat_limit_ofPage, hgreatest]
  omega

/-- **An offset that was made smaller skips all rows**, as the exact one would. -/
theorem rows_ofPage {α : Type} (page size : UInt64) (cap : Option UInt64) {xs : List α}
    (h : xs.length ≤ 2 ^ 63 - 1) :
    (ofPage page size cap).rows xs
      = (xs.drop (page.toNat * pageLength size cap)).take (pageLength size cap) := by
  rw [rows, toNat_limit_ofPage, toNat_offset_ofPage]
  by_cases hexact : page.toNat * pageLength size cap ≤ 2 ^ 63 - 1
  · rw [Nat.min_eq_left hexact]
  · rw [Nat.min_eq_right (by omega), List.drop_eq_nil_of_le (by omega),
      List.drop_eq_nil_of_le (by omega)]

/-- Row `i` lies on page number `i` divided by the length of a page, rounded down. -/
theorem mem_rows_ofPage {page size : UInt64} {cap : Option UInt64} (hsize : size ≠ 0) {n i : Nat}
    (hi : i < n) (hn : n ≤ 2 ^ 63 - 1) :
    i ∈ (ofPage page size cap).rows (List.range n) ↔ page.toNat = i / pageLength size cap := by
  have hpos := pageLength_pos cap hsize
  rw [mem_rows_range, toNat_limit_ofPage, toNat_offset_ofPage, eq_comm, Nat.div_eq_iff hpos]
  omega

end Window

/-! ## All pages -/

/-- Consecutive cuts of one length are the front of a list. -/
theorem flatMap_cuts {α : Type} (xs : List α) (length n : Nat) :
    (List.range n).flatMap (fun p => (xs.drop (p * length)).take length)
      = xs.take (n * length) := by
  induction n with
  | zero => rw [Nat.zero_mul, List.take_zero]; rfl
  | succ n ih =>
    rw [List.range_succ, List.flatMap_append, ih, Nat.succ_mul, List.take_add,
      List.flatMap_singleton]

theorem toNat_toUInt64 {n : Nat} (h : n < 2 ^ 64) : n.toUInt64.toNat = n :=
  UInt64.toNat_ofNat_of_lt' h

namespace Descriptor

theorem windowCapped_eq_none_iff (d : Descriptor) (cap : Option UInt64) :
    d.windowCapped cap = none ↔ d.page = none ∨ d.size = none ∨ d.size = some 0 := by
  rw [windowCapped]
  cases d.page with
  | none => simp
  | some page =>
    cases d.size with
    | none => simp
    | some size => by_cases h : size = 0 <;> simp [h]

theorem windowCapped_withPage {d : Descriptor} {size : UInt64} (hsize : d.size = some size)
    (h : size ≠ 0) (page : UInt64) (cap : Option UInt64) :
    (d.withPage page).windowCapped cap = some (.ofPage page size cap) := by
  simp only [windowCapped, withPage, hsize, if_neg h]

/-- **Pages partition the rows.**  A description has a window just if it has a page and a size other
than zero.  Then all its pages have one length `l`, which is the size as far as the cap and the
database admit, and page `p` begins at the exact product of `p` and `l`, or behind all rows that a
database can number.  So the pages in order are the rows in order, and each row lies on one of
them. -/
theorem pages_partition {α : Type} (d : Descriptor) (cap : Option UInt64) :
    (d.windowCapped cap = none ↔ d.page = none ∨ d.size = none ∨ d.size = some 0) ∧
    ∀ size l, d.size = some size → size ≠ 0 → l = pageLength size cap →
      (1 ≤ l ∧ l ≤ size.toNat ∧ l < 2 ^ 63) ∧
      ∃ window : UInt64 → Window,
        (∀ page, (d.withPage page).windowCapped cap = some (window page)) ∧
        (∀ page, (window page).limit.toNat = l ∧
          (window page).offset.toNat = min (page.toNat * l) (2 ^ 63 - 1)) ∧
        ∀ xs : List α, xs.length ≤ 2 ^ 63 - 1 →
          (∀ page, (window page).rows xs = (xs.drop (page.toNat * l)).take l) ∧
          (∀ n ≤ 2 ^ 64,
            (List.range n).flatMap (fun p => (window p.toUInt64).rows xs) = xs.take (n * l)) ∧
          ∀ i < xs.length, ∃! page, i ∈ (window page).rows (List.range xs.length) := by
  refine ⟨d.windowCapped_eq_none_iff cap, ?_⟩
  rintro size l hsize hne rfl
  have hpos := pageLength_pos cap hne
  refine ⟨⟨hpos, pageLength_le_size cap, pageLength_lt cap⟩, fun page => .ofPage page size cap,
    fun page => windowCapped_withPage hsize hne page cap,
    fun page => ⟨Window.toNat_limit_ofPage page size cap,
      Window.toNat_offset_ofPage page size cap⟩, ?_⟩
  intro xs hlength
  refine ⟨fun page => Window.rows_ofPage page size cap hlength, ?_, ?_⟩
  · intro n hn
    rw [← flatMap_cuts xs (pageLength size cap) n]
    refine List.flatMap_congr fun p hp => ?_
    have hp : p < 2 ^ 64 := (List.mem_range.1 hp).trans_le hn
    rw [Window.rows_ofPage _ size cap hlength, toNat_toUInt64 hp]
  · intro i hi
    -- pages are numbered with sixty-four bits, which is enough for every row
    have hpage : i / pageLength size cap < 2 ^ 64 :=
      (Nat.div_le_self _ _).trans_lt (by omega)
    refine ⟨(i / pageLength size cap).toUInt64, ?_, ?_⟩
    · exact (Window.mem_rows_ofPage hne hi hlength).2 (toNat_toUInt64 hpage)
    · intro page hmem
      refine UInt64.toNat.inj ?_
      rw [toNat_toUInt64 hpage]
      exact (Window.mem_rows_ofPage hne hi hlength).1 hmem

end Descriptor

end TableQuery
