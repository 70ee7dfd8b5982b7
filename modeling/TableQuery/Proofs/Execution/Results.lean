import TableQuery.Proofs.Execution.Questions

/-!
# What an execution gives

A prepared execution gives all rows of the page or none of them.  It reads the stream from its front
and stops at the first element that has no value; only a stream that is read to its end is counted.

* `Execution.readRows_eq_ok` — the values of a stream, which are those of its rows;
* `Execution.readTotal_eq_ok` — a count that is no negative number;
* `Executor.all_or_nothing` — all rows with their number, or one error.
-/

namespace TableQuery

open Outcome

namespace Execution

variable {α : Type} {target : Target α} {t : Table}

theorem readElement_eq_ok {element : Except DataSourceError Row} {v : α} :
    readElement target t element = .ok v ↔ ∃ r, element = .ok r ∧ mapRow target t r = .ok v := by
  cases element with
  | error e => simp [readElement]
  | ok r => simp [readElement, mapError_eq_ok]

/-- **A stream has values just if it is a list of rows that have values**, and these are its
values. -/
theorem readRows_eq_ok {stream : List (Except DataSourceError Row)} {values : List α} :
    readRows target t stream = .ok values ↔
      ∃ rows, stream = rows.map .ok ∧ mapRows target t rows = .ok values := by
  simp only [readRows_eq_mapM, mapRows, mapM_eq_ok]
  constructor
  · intro h
    induction h with
    | nil => exact ⟨[], rfl, .nil⟩
    | cons hv _ ih =>
      obtain ⟨r, rfl, hr⟩ := readElement_eq_ok.1 hv
      obtain ⟨rows, rfl, hrows⟩ := ih
      exact ⟨r :: rows, rfl, .cons hr hrows⟩
  · rintro ⟨rows, rfl, h⟩
    rw [List.forall₂_map_left_iff]
    exact h.imp fun r v hr => readElement_eq_ok.2 ⟨r, rfl, hr⟩

/-- Every element of a stream is a row that has a value. -/
def AllRead (target : Target α) (t : Table) (stream : List (Except DataSourceError Row)) : Prop :=
  ∀ element ∈ stream, ∃ r v, element = .ok r ∧ mapRow target t r = .ok v

theorem allRead_iff {stream : List (Except DataSourceError Row)} :
    AllRead target t stream ↔ ∃ values, readRows target t stream = .ok values := by
  simp only [readRows_eq_mapM, exists_mapM_eq_ok, readElement_eq_ok]
  exact forall₂_congr fun element _ => exists_comm

theorem readTotal_eq_ok {total : Except DataSourceError Int64} {n : Nat} :
    readTotal total = .ok n ↔ ∃ i, total = .ok i ∧ i.toInt = n := by
  cases total with
  | error e => simp [readTotal]
  | ok i =>
    simp only [readTotal, Except.ok.injEq, exists_eq_left']
    split
    · have hne : i.toInt ≠ n := by omega
      simp [hne]
    · rw [Except.ok.injEq]
      omega

end Execution

namespace Executor

variable {α : Type} {x : Executor} {target : Target α} {d : Descriptor} {extra : Parameters}
  {t : Table} {plan : Plan} {data count : BoundStatement}

theorem outcome_eq_ok (h : x.Prepared target.type d extra t plan data count) {page : Page α} :
    (x.execute target d extra).outcome = .ok page ↔
      Execution.readRows target t (x.source.rows data) = .ok page.data ∧
        Execution.readTotal (x.source.total count) = .ok page.total := by
  rw [outcome_execute, outcome_run h, bind_eq_ok]
  constructor
  · rintro ⟨values, hvalues, hpage⟩
    obtain ⟨total, htotal, hpage⟩ := bind_eq_ok.1 hpage
    obtain rfl := Except.ok.inj hpage
    exact ⟨hvalues, htotal⟩
  · rintro ⟨hvalues, htotal⟩
    exact ⟨_, hvalues, bind_eq_ok.2 ⟨_, htotal, rfl⟩⟩

/-- **The first element without a value ends the execution**, with its error and without a count. -/
theorem execute_of_firstError (h : x.Prepared target.type d extra t plan data count) {e : Error}
    (he : FirstError (Execution.readElement target t) (x.source.rows data) e) :
    (x.execute target d extra).outcome = .error e ∧
      questions (x.execute target d extra) = [.fetch data] := by
  have hrows : Execution.readRows target t (x.source.rows data) = .error e := by
    rw [Execution.readRows_eq_mapM]
    exact mapM_eq_error.2 he
  rw [outcome_execute, questions_execute, outcome_run h, questions_run h, hrows]
  exact ⟨rfl, rfl⟩

/-- Behind a stream that is read to its end the count decides. -/
theorem execute_of_values (h : x.Prepared target.type d extra t plan data count) {values : List α}
    (hvalues : Execution.readRows target t (x.source.rows data) = .ok values) :
    (x.execute target d extra).outcome
        = (Execution.readTotal (x.source.total count)).map (fun total => ⟨values, total⟩) ∧
      questions (x.execute target d extra) = [.fetch data, .count count] := by
  rw [outcome_execute, questions_execute, outcome_run h, questions_run h, hvalues]
  refine ⟨?_, rfl⟩
  cases Execution.readTotal (x.source.total count) <;> rfl

theorem convertAll_of_mapRows {c : Catalogue} (ht : c.find? target.type = some t)
    {rows : List Row} {values : List α} (h : mapRows target t rows = .ok values) :
    c.convertAll target rows = .ok values := by
  rw [Catalogue.convertAll, Catalogue.table_eq_ok.2 ht]
  exact mapError_eq_ok.2 h

/-- **All or nothing.**  A prepared execution succeeds just if every element of the stream is a row,
every row has a value and the count is no negative number; then it gives the values of all rows in
the order of the stream, as the batch conversion does, and the number counted.  Otherwise it fails
with the error of the first element without a value, and never counts; or it has read the stream to
its end and fails with the error of the count. -/
theorem all_or_nothing (h : x.Prepared target.type d extra t plan data count) :
    ((∃ page, (x.execute target d extra).outcome = .ok page) ↔
      Execution.AllRead target t (x.source.rows data) ∧
        ∃ n, x.source.total count = .ok n ∧ 0 ≤ n.toInt) ∧
    (∀ page, (x.execute target d extra).outcome = .ok page →
      ∃ rows n, x.source.rows data = rows.map .ok ∧
        List.Forall₂ (fun r v => mapRow target t r = .ok v) rows page.data ∧
        x.catalogue.convertAll target rows = .ok page.data ∧
        x.source.total count = .ok n ∧ n.toInt = page.total) ∧
    ((∃ e, FirstError (Execution.readElement target t) (x.source.rows data) e ∧
        (x.execute target d extra).outcome = .error e ∧
        questions (x.execute target d extra) = [.fetch data]) ∨
      Execution.AllRead target t (x.source.rows data) ∧
        questions (x.execute target d extra) = [.fetch data, .count count] ∧
        (∀ e, x.source.total count = .error e →
          (x.execute target d extra).outcome = .error (.dataSource e)) ∧
        ∀ n, x.source.total count = .ok n → n.toInt < 0 →
          (x.execute target d extra).outcome
            = .error (.dataSource
                ⟨.decode, "count statement returned " ++ toString n.toInt⟩)) := by
  refine ⟨⟨?_, ?_⟩, ?_, ?_⟩
  · rintro ⟨page, hpage⟩
    obtain ⟨hvalues, htotal⟩ := (outcome_eq_ok h).1 hpage
    obtain ⟨n, hn, hcount⟩ := Execution.readTotal_eq_ok.1 htotal
    exact ⟨Execution.allRead_iff.2 ⟨_, hvalues⟩, n, hn, by omega⟩
  · rintro ⟨hread, n, hn, hpos⟩
    obtain ⟨values, hvalues⟩ := Execution.allRead_iff.1 hread
    have htotal : Execution.readTotal (x.source.total count) = .ok n.toInt.toNat :=
      Execution.readTotal_eq_ok.2 ⟨n, hn, by omega⟩
    exact ⟨⟨values, n.toInt.toNat⟩, (outcome_eq_ok h).2 ⟨hvalues, htotal⟩⟩
  · intro page hpage
    obtain ⟨hvalues, htotal⟩ := (outcome_eq_ok h).1 hpage
    obtain ⟨rows, hrows, hmap⟩ := Execution.readRows_eq_ok.1 hvalues
    obtain ⟨n, hn, hcount⟩ := Execution.readTotal_eq_ok.1 htotal
    exact ⟨rows, n, hrows, mapM_eq_ok.1 hmap, convertAll_of_mapRows h.table hmap, hn, hcount⟩
  · cases hvalues : Execution.readRows target t (x.source.rows data) with
    | error e =>
      rw [Execution.readRows_eq_mapM] at hvalues
      have he := mapM_eq_error.1 hvalues
      exact .inl ⟨e, he, execute_of_firstError h he⟩
    | ok values =>
      obtain ⟨houtcome, hquestions⟩ := execute_of_values h hvalues
      refine .inr ⟨Execution.allRead_iff.2 ⟨values, hvalues⟩, hquestions, ?_, ?_⟩
      · intro e he
        rw [houtcome, he]
        rfl
      · intro n hn hneg
        rw [houtcome, hn, Execution.readTotal, if_pos hneg]
        rfl

set_option maxRecDepth 2000 in
/-- A row, then a timeout, then a row that does not fit, and a source that cannot count: the timeout
is what the execution fails with. -/
theorem all_or_nothing_timeout :
    ∃ (x : Executor) (t : Table) (plan : Plan) (data count : BoundStatement),
      x.Prepared "Item" .empty .empty t plan data count ∧
      x.source.rows data = [.ok ⟨[("NAME", .text "cap")]⟩, .error ⟨.timeout, "late"⟩,
        .ok ⟨[("name", .array [])]⟩] ∧
      x.source.total count = .error ⟨.connectionFailed, "gone"⟩ ∧
      (x.execute (⟨"Item", .ok⟩ : Target Json) .empty .empty).outcome
        = .error (.dataSource ⟨.timeout, "late"⟩) ∧
      questions (x.execute (⟨"Item", .ok⟩ : Target Json) .empty .empty) = [.fetch data] := by
  let t : Table := ⟨"Item", some "SELECT name FROM items", [⟨"name", "name", .text⟩]⟩
  let stream : List (Except DataSourceError Row) :=
    [.ok ⟨[("NAME", .text "cap")]⟩, .error ⟨.timeout, "late"⟩, .ok ⟨[("name", .array [])]⟩]
  let x : Executor :=
    { source := ⟨.sqlite, fun _ => stream, fun _ => .error ⟨.connectionFailed, "gone"⟩⟩
      registry := .builtin
      catalogue := Catalogue.empty.insert "Item" t }
  have hdata : Dialect.sqlite.bind
      "SELECT * FROM (SELECT name FROM items) AS scope WHERE 1 = 1" .empty
        = .ok ⟨"SELECT * FROM (SELECT name FROM items) AS scope WHERE 1 = 1", []⟩ := rfl
  have hcount := bind_countText .sqlite .empty
    "SELECT * FROM (SELECT name FROM items) AS scope WHERE 1 = 1"
  rw [hdata] at hcount
  have h : x.Prepared "Item" .empty .empty t
      ⟨"SELECT * FROM (SELECT name FROM items) AS scope WHERE 1 = 1",
        countText "SELECT * FROM (SELECT name FROM items) AS scope WHERE 1 = 1", .empty⟩ _ _ :=
    { operators := by simp [KnowsOperators, Descriptor.empty]
      table := rfl
      built := ⟨"SELECT name FROM items", rfl, rfl⟩
      data := hdata
      count := hcount }
  refine ⟨x, t, _, _, _, h, rfl, rfl, ?_⟩
  obtain ⟨-, -, hresult⟩ :=
    @all_or_nothing Json x ⟨"Item", .ok⟩ .empty .empty t _ _ _ h
  rcases hresult with ⟨e, he, houtcome, hquestions⟩ | ⟨hread, -⟩
  · have htimeout : stream.mapM (Execution.readElement (⟨"Item", .ok⟩ : Target Json) t)
        = .error (.dataSource ⟨.timeout, "late"⟩) := rfl
    rw [mapM_eq_error.2 he] at htimeout
    obtain rfl := Except.error.inj htimeout
    exact ⟨houtcome, hquestions⟩
  · obtain ⟨r, v, hr, -⟩ := hread (.error ⟨.timeout, "late"⟩) (by simp [x, stream])
    cases hr

end Executor

end TableQuery
