/-!
# Computations with a trace

A `Traced τ ε α` is what a computation did and how it ended: the entries that it wrote, in order,
and its value or error.  What was written before an error stays written.

* `Traced.emit`, `Traced.fail`, `Traced.ofExcept` — the steps;
* the `Monad` instance — one computation after another;
* `Traced.trace_bind`, `Traced.outcome_bind` — the two views of a sequence;
* `Traced.outcome_foldlM` — the outcome of a loop.
-/

namespace TableQuery

/-- What a computation wrote, and how it ended. -/
structure Traced (τ ε α : Type) where
  /-- The entries, the first one first. -/
  trace : List τ
  /-- The value, or the error that ended it. -/
  outcome : Except ε α

namespace Traced

variable {τ ε ε' α β : Type}

/-- Writes one entry. -/
def emit (entry : τ) : Traced τ ε Unit := ⟨[entry], .ok ()⟩

/-- Ends with an error. -/
def fail (e : ε) : Traced τ ε α := ⟨[], .error e⟩

/-- A computation that writes nothing. -/
def ofExcept (x : Except ε α) : Traced τ ε α := ⟨[], x⟩

/-- The same computation with other errors. -/
def mapError (f : ε → ε') (x : Traced τ ε α) : Traced τ ε' α :=
  ⟨x.trace, x.outcome.mapError f⟩

/-- One computation after another; an error of the first one leaves the second one out. -/
protected def bind (x : Traced τ ε α) (f : α → Traced τ ε β) : Traced τ ε β :=
  match x.outcome with
  | .error e => ⟨x.trace, .error e⟩
  | .ok a =>
    let next := f a
    ⟨x.trace ++ next.trace, next.outcome⟩

instance : Monad (Traced τ ε) where
  pure a := ⟨[], .ok a⟩
  bind := Traced.bind

/-! ## The two views of a step -/

@[simp] theorem trace_emit (entry : τ) : (emit entry : Traced τ ε Unit).trace = [entry] := rfl

@[simp] theorem outcome_emit (entry : τ) : (emit entry : Traced τ ε Unit).outcome = .ok () := rfl

@[simp] theorem trace_ofExcept (x : Except ε α) : (ofExcept x : Traced τ ε α).trace = [] := rfl

@[simp] theorem outcome_ofExcept (x : Except ε α) : (ofExcept x : Traced τ ε α).outcome = x := rfl

@[simp] theorem outcome_mapError (f : ε → ε') (x : Traced τ ε α) :
    (x.mapError f).outcome = x.outcome.mapError f := rfl

/-! ## The two views of a sequence -/

@[simp] theorem trace_pure (a : α) : (pure a : Traced τ ε α).trace = [] := rfl

@[simp] theorem outcome_pure (a : α) : (pure a : Traced τ ε α).outcome = .ok a := rfl

@[simp] theorem trace_bind (x : Traced τ ε α) (f : α → Traced τ ε β) :
    (x >>= f).trace = x.trace ++ (match x.outcome with
      | .error _ => []
      | .ok a => (f a).trace) := by
  change (Traced.bind x f).trace = _
  rw [Traced.bind]
  split <;> simp_all

@[simp] theorem outcome_bind (x : Traced τ ε α) (f : α → Traced τ ε β) :
    (x >>= f).outcome = x.outcome.bind fun a => (f a).outcome := by
  change (Traced.bind x f).outcome = _
  rw [Traced.bind, Except.bind.eq_def]
  split <;> simp_all

/-! ## The outcome of a loop -/

/-- A loop ends as the loop over the outcomes of its steps does. -/
theorem outcome_foldlM (f : β → α → Traced τ ε β) (as : List α) (b : β) :
    (as.foldlM f b).outcome = as.foldlM (fun b a => (f b a).outcome) b := by
  induction as generalizing b with
  | nil => rfl
  | cons a as ih =>
    rw [List.foldlM_cons, List.foldlM_cons, outcome_bind]
    simp only [ih]
    rfl

/-- Writing entries does not fail. -/
theorem outcome_forM_emit (entry : α → τ) (as : List α) :
    (as.forM fun a => (emit (entry a) : Traced τ ε Unit)).outcome = .ok () := by
  induction as with
  | nil => rfl
  | cons a as ih => exact ih

end Traced

end TableQuery
