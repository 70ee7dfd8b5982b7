import Mathlib.Data.List.Forall2

/-!
# Outcomes of computations

A computation ends with a value or with an error.  A sequence of steps succeeds when each step does,
which is how statements about one run are taken apart.  Two runs *agree up to a relation* when both
fail with the same error, or both succeed with related values, and agreement goes through sequences
and loops, so a statement about two runs is proved step by step.

* `bind_eq_ok`, `check_bind_eq_ok`, `map_eq_ok`, `elim_eq_ok`, `forM_eq_ok`, `mapM_eq_ok` — what a
  success says about the steps;
* `FirstError` — the first element of a list at which a loop fails; `forM_eq_error` and
  `mapM_eq_error` say that a loop fails there and nowhere else, and `foldlM_eq_error` says so of a
  loop that carries a state;
* `Agree` — agreement of two runs up to a relation;
* `Agree.bind`, `Agree.foldlM`, `Agree.forM` — one step after another, and loops over related lists.
-/

namespace TableQuery

/-! ## One run -/

namespace Outcome

variable {ε α β : Type}

theorem isOk_iff {x : Except ε α} : x.isOk = true ↔ ∃ a, x = .ok a := by
  cases x with
  | error e => simp [Except.toBool]
  | ok a => simp [Except.toBool]

theorem bind_eq_ok {x : Except ε α} {f : α → Except ε β} {b : β} :
    (x >>= f) = .ok b ↔ ∃ a, x = .ok a ∧ f a = .ok b := by
  cases x with
  | error e => simp [bind, Except.bind]
  | ok a => simp [bind, Except.bind]

/-- A check before other steps has to succeed as they have to. -/
theorem check_bind_eq_ok {x : Except ε Unit} {f : Unit → Except ε β} {b : β} :
    (x >>= f) = .ok b ↔ x = .ok () ∧ f () = .ok b := by
  rw [bind_eq_ok]
  constructor
  · rintro ⟨_, hx, hb⟩
    exact ⟨hx, hb⟩
  · rintro ⟨hx, hb⟩
    exact ⟨(), hx, hb⟩

theorem map_eq_ok {x : Except ε α} {f : α → β} {b : β} :
    x.map f = .ok b ↔ ∃ a, x = .ok a ∧ f a = b := by
  cases x with
  | error e => simp [Except.map]
  | ok a => simp [Except.map]

theorem map_eq_error {x : Except ε α} {f : α → β} {e : ε} :
    x.map f = .error e ↔ x = .error e := by
  cases x with
  | error e' => simp [Except.map]
  | ok a => simp [Except.map]

theorem mapError_eq_ok {ε' : Type} {x : Except ε α} {f : ε → ε'} {a : α} :
    x.mapError f = .ok a ↔ x = .ok a := by
  cases x with
  | error e => simp [Except.mapError]
  | ok a' => simp [Except.mapError]

theorem mapError_eq_error {ε' : Type} {x : Except ε α} {f : ε → ε'} {e' : ε'} :
    x.mapError f = .error e' ↔ ∃ e, x = .error e ∧ f e = e' := by
  cases x with
  | error e => simp [Except.mapError]
  | ok a => simp [Except.mapError]

/-- What is found is the value, and finding nothing is the error. -/
theorem elim_eq_ok {found : Option α} {f : α → β} {e : ε} {b : β} :
    (found.map f).elim (.error e) .ok = Except.ok b ↔ ∃ a, found = some a ∧ f a = b := by
  cases found with
  | none => simp
  | some a => simp

theorem elim_eq_error {found : Option α} {f : α → β} {e e' : ε} :
    (found.map f).elim (.error e) .ok = (Except.error e' : Except ε β) ↔
      found = none ∧ e = e' := by
  cases found with
  | none => simp
  | some a => simp

/-- A loop of checks succeeds when each check does. -/
theorem forM_eq_ok {f : α → Except ε Unit} {as : List α} :
    as.forM f = .ok () ↔ ∀ a ∈ as, f a = .ok () := by
  induction as with
  | nil =>
    constructor
    · intro _ a ha
      exact absurd ha (by simp)
    · intro _
      rfl
  | cons a as ih =>
    show (f a >>= fun _ => as.forM f) = .ok () ↔ _
    rw [check_bind_eq_ok, List.forall_mem_cons, ih]

/-- A loop that collects values succeeds when each step does, with their values in order. -/
theorem mapM_eq_ok {f : α → Except ε β} {as : List α} {bs : List β} :
    as.mapM f = .ok bs ↔ List.Forall₂ (fun a b => f a = .ok b) as bs := by
  induction as generalizing bs with
  | nil =>
    rw [List.forall₂_nil_left_iff, List.mapM_nil]
    exact ⟨fun h => (Except.ok.inj h).symm, fun h => h ▸ rfl⟩
  | cons a as ih =>
    rw [List.mapM_cons, bind_eq_ok, List.forall₂_cons_left_iff]
    constructor
    · rintro ⟨b, hb, h⟩
      obtain ⟨bs', hbs', h⟩ := bind_eq_ok.1 h
      exact ⟨b, bs', hb, ih.1 hbs', (Except.ok.inj h).symm⟩
    · rintro ⟨b, bs', hb, hbs', rfl⟩
      exact ⟨b, hb, bind_eq_ok.2 ⟨bs', ih.2 hbs', rfl⟩⟩

/-- Each element of the first of two related lists has a partner in the second. -/
theorem exists_mem_of_forall₂ {R : α → β → Prop} {as : List α} {bs : List β}
    (h : List.Forall₂ R as bs) {a : α} (ha : a ∈ as) : ∃ b ∈ bs, R a b := by
  induction h with
  | nil => cases ha
  | cons hab _ ih =>
    rcases List.mem_cons.1 ha with rfl | ha
    · exact ⟨_, List.mem_cons_self, hab⟩
    · obtain ⟨b, hb, hR⟩ := ih ha
      exact ⟨b, List.mem_cons_of_mem _ hb, hR⟩

theorem exists_of_forall₂ {R : α → β → Prop} {as : List α} {bs : List β}
    (h : List.Forall₂ R as bs) {a : α} (ha : a ∈ as) : ∃ b, R a b := by
  obtain ⟨b, -, hab⟩ := exists_mem_of_forall₂ h ha
  exact ⟨b, hab⟩

/-- The partners of a list in two parts are those of its parts. -/
theorem forall₂_append_left_iff {R : α → β → Prop} {as as' : List α} {cs : List β} :
    List.Forall₂ R (as ++ as') cs ↔
      ∃ bs bs', List.Forall₂ R as bs ∧ List.Forall₂ R as' bs' ∧ cs = bs ++ bs' := by
  constructor
  · intro h
    induction as generalizing cs with
    | nil => exact ⟨[], cs, .nil, h, rfl⟩
    | cons a as ih =>
      obtain ⟨b, cs', hab, hrest, rfl⟩ := List.forall₂_cons_left_iff.1 h
      obtain ⟨bs, bs', hbs, hbs', rfl⟩ := ih hrest
      exact ⟨b :: bs, bs', .cons hab hbs, hbs', rfl⟩
  · rintro ⟨bs, bs', hbs, hbs', rfl⟩
    exact List.rel_append hbs hbs'

/-- Relations that are the same on the elements of a list relate it to the same lists. -/
theorem forall₂_congr_of_mem {R S : α → β → Prop} {as : List α} {bs : List β}
    (h : ∀ a ∈ as, ∀ b, R a b ↔ S a b) : List.Forall₂ R as bs ↔ List.Forall₂ S as bs := by
  induction as generalizing bs with
  | nil => rw [List.forall₂_nil_left_iff, List.forall₂_nil_left_iff]
  | cons a as ih =>
    rw [List.forall_mem_cons] at h
    simp only [List.forall₂_cons_left_iff, h.1, ih h.2]

/-- A value that a loop collected is the value of a step. -/
theorem exists_of_mem_mapM {f : α → Except ε β} {as : List α} {bs : List β}
    (h : as.mapM f = .ok bs) {b : β} (hb : b ∈ bs) : ∃ a ∈ as, f a = .ok b := by
  induction mapM_eq_ok.1 h with
  | nil => exact absurd hb (by simp)
  | @cons a _ as _ ha hrest ih =>
    rcases List.mem_cons.1 hb with rfl | hb
    · exact ⟨a, List.mem_cons_self, ha⟩
    · obtain ⟨a', hmem, ha'⟩ := ih (mapM_eq_ok.2 hrest) hb
      exact ⟨a', List.mem_cons_of_mem _ hmem, ha'⟩

theorem exists_mapM_eq_ok {f : α → Except ε β} {as : List α} :
    (∃ bs, as.mapM f = .ok bs) ↔ ∀ a ∈ as, ∃ b, f a = .ok b := by
  simp only [mapM_eq_ok]
  induction as with
  | nil => simp
  | cons a as ih =>
    rw [List.forall_mem_cons, ← ih]
    constructor
    · rintro ⟨_, hbs⟩
      obtain ⟨b, bs, hb, hbs, -⟩ := List.forall₂_cons_left_iff.1 hbs
      exact ⟨⟨b, hb⟩, bs, hbs⟩
    · rintro ⟨⟨b, hb⟩, bs, hbs⟩
      exact ⟨b :: bs, .cons hb hbs⟩

theorem bind_eq_error {x : Except ε α} {f : α → Except ε β} {e : ε} :
    (x >>= f) = .error e ↔ x = .error e ∨ ∃ a, x = .ok a ∧ f a = .error e := by
  cases x with
  | error e' => simp [bind, Except.bind]
  | ok a => simp [bind, Except.bind]

/-- The first element that fails, fails with this error. -/
def FirstError (f : α → Except ε β) (as : List α) (e : ε) : Prop :=
  ∃ before a after, as = before ++ a :: after ∧ (∀ b ∈ before, ∃ v, f b = .ok v) ∧ f a = .error e

theorem not_firstError_nil {f : α → Except ε β} {e : ε} : ¬FirstError f [] e := by
  rintro ⟨before, a, after, h, -⟩
  simp at h

theorem firstError_cons {f : α → Except ε β} {a : α} {as : List α} {e : ε} :
    FirstError f (a :: as) e ↔ f a = .error e ∨ (∃ v, f a = .ok v) ∧ FirstError f as e := by
  constructor
  · rintro ⟨before, b, after, h, hbefore, hb⟩
    cases before with
    | nil =>
      obtain ⟨rfl, -⟩ := List.cons.inj h
      exact .inl hb
    | cons c before =>
      obtain ⟨rfl, rfl⟩ := List.cons.inj h
      rw [List.forall_mem_cons] at hbefore
      exact .inr ⟨hbefore.1, before, b, after, rfl, hbefore.2, hb⟩
  · rintro (ha | ⟨ha, before, b, after, rfl, hbefore, hb⟩)
    · exact ⟨[], a, as, rfl, by simp, ha⟩
    · exact ⟨a :: before, b, after, rfl, List.forall_mem_cons.2 ⟨ha, hbefore⟩, hb⟩

/-- The first error is among the elements that can fail. -/
theorem firstError_filter {f : α → Except ε β} {keep : α → Bool} {as : List α} {e : ε}
    (hdrop : ∀ a ∈ as, keep a = false → ∃ b, f a = .ok b) :
    FirstError f (as.filter keep) e ↔ FirstError f as e := by
  induction as with
  | nil => rfl
  | cons a as ih =>
    rw [List.forall_mem_cons] at hdrop
    cases ha : keep a with
    | false =>
      obtain ⟨b, hb⟩ := hdrop.1 ha
      rw [List.filter_cons_of_neg (Bool.eq_false_iff.1 ha), ih hdrop.2, firstError_cons, hb]
      simp
    | true => rw [List.filter_cons_of_pos ha, firstError_cons, firstError_cons, ih hdrop.2]

theorem firstError_map {γ : Type} {f : α → Except ε β} {g : γ → α} {cs : List γ} {e : ε} :
    FirstError f (cs.map g) e ↔ FirstError (fun c => f (g c)) cs e := by
  induction cs with
  | nil => exact iff_of_false not_firstError_nil not_firstError_nil
  | cons c cs ih => rw [List.map_cons, firstError_cons, firstError_cons, ih]

/-- A loop of checks fails at the first element that does not pass. -/
theorem forM_eq_error {f : α → Except ε Unit} {as : List α} {e : ε} :
    as.forM f = .error e ↔ ∃ before a after, as = before ++ a :: after ∧
      (∀ b ∈ before, f b = .ok ()) ∧ f a = .error e := by
  have hpassed : ∀ b, (∃ v, f b = .ok v) ↔ f b = .ok () :=
    fun b => ⟨fun ⟨_, h⟩ => h, fun h => ⟨(), h⟩⟩
  have hfirst : as.forM f = .error e ↔ FirstError f as e := by
    induction as with
    | nil => exact ⟨fun h => (by cases h), fun h => absurd h not_firstError_nil⟩
    | cons a as ih =>
      show (f a >>= fun _ => as.forM f) = .error e ↔ _
      rw [bind_eq_error, firstError_cons, ih, exists_and_right]
  rw [hfirst, FirstError]
  simp only [hpassed]

theorem mapM_eq_error {f : α → Except ε β} {as : List α} {e : ε} :
    as.mapM f = .error e ↔ FirstError f as e := by
  induction as with
  | nil => exact ⟨fun h => (by cases h), fun h => absurd h not_firstError_nil⟩
  | cons a as ih =>
    have hrest : ∀ b, (as.mapM f >>= fun bs => pure (b :: bs)) = .error e ↔ FirstError f as e := by
      intro b
      rw [← ih, bind_eq_error]
      exact or_iff_left fun ⟨_, _, h⟩ => by cases h
    rw [List.mapM_cons, bind_eq_error, firstError_cons]
    simp only [hrest, exists_and_right]

/-- A loop that carries a state fails at the first element whose step fails, in the state that the
elements before it have left. -/
theorem foldlM_eq_error {f : β → α → Except ε β} {as : List α} {b : β} {e : ε} :
    as.foldlM f b = .error e ↔ ∃ before a after c, as = before ++ a :: after ∧
      before.foldlM f b = .ok c ∧ f c a = .error e := by
  induction as generalizing b with
  | nil =>
    constructor
    · intro h
      cases h
    · rintro ⟨before, a, after, c, h, -⟩
      simp at h
  | cons a as ih =>
    rw [List.foldlM_cons, bind_eq_error]
    constructor
    · rintro (ha | ⟨b', hb', h⟩)
      · exact ⟨[], a, as, b, rfl, rfl, ha⟩
      · obtain ⟨before, a', after, c, rfl, hbefore, ha'⟩ := ih.1 h
        refine ⟨a :: before, a', after, c, rfl, ?_, ha'⟩
        rw [List.foldlM_cons, hb']
        exact hbefore
    · rintro ⟨before, a', after, c, has, hbefore, ha'⟩
      cases before with
      | nil =>
        obtain ⟨rfl, rfl⟩ := List.cons.inj has
        obtain rfl := Except.ok.inj hbefore
        exact .inl ha'
      | cons a'' before =>
        obtain ⟨rfl, rfl⟩ := List.cons.inj has
        rw [List.foldlM_cons] at hbefore
        obtain ⟨b', hb', hbefore⟩ := bind_eq_ok.1 hbefore
        exact .inr ⟨b', hb', ih.2 ⟨before, a', after, c, rfl, hbefore, ha'⟩⟩

end Outcome

/-! ## Two runs -/

/-- Both fail with one error, or both succeed with related values. -/
inductive Agree {ε α β : Type} (R : α → β → Prop) : Except ε α → Except ε β → Prop where
  | error (e : ε) : Agree R (.error e) (.error e)
  | ok {a : α} {b : β} (h : R a b) : Agree R (.ok a) (.ok b)

namespace Agree

variable {ε α β γ δ : Type} {R : α → β → Prop} {S : γ → δ → Prop}

/-- How two runs that agree have ended. -/
theorem ends {x : Except ε α} {y : Except ε β} (h : Agree R x y) :
    (∃ e, x = .error e ∧ y = .error e) ∨ ∃ a b, x = .ok a ∧ y = .ok b ∧ R a b := by
  cases h with
  | error e => exact .inl ⟨e, rfl, rfl⟩
  | ok h => exact .inr ⟨_, _, rfl, rfl, h⟩

/-- A computation agrees with itself. -/
theorem refl (x : Except ε α) : Agree Eq x x := by
  cases x with
  | error e => exact .error e
  | ok a => exact .ok rfl

/-- Agreement goes through functions of the values. -/
theorem map {f : α → γ} {g : β → δ} {x : Except ε α} {y : Except ε β} (hxy : Agree R x y)
    (h : ∀ a b, R a b → S (f a) (g b)) : Agree S (x.map f) (y.map g) := by
  cases hxy with
  | error e => exact .error e
  | ok hab => exact .ok (h _ _ hab)

/-- **Agreement goes through sequences**: steps that agree on related values agree after
computations that agree. -/
theorem bind {f : α → Except ε γ} {g : β → Except ε δ} {x : Except ε α} {y : Except ε β}
    (hxy : Agree R x y) (h : ∀ a b, R a b → Agree S (f a) (g b)) :
    Agree S (x >>= f) (y >>= g) := by
  cases hxy with
  | error e => exact .error e
  | ok hab => exact h _ _ hab

/-- **Agreement goes through loops** over lists that are related element by element. -/
theorem foldlM {f : α → γ → Except ε α} {g : β → δ → Except ε β}
    (hstep : ∀ a b c d, R a b → S c d → Agree R (f a c) (g b d)) {cs : List γ} {ds : List δ}
    (hcs : List.Forall₂ S cs ds) {a : α} {b : β} (hab : R a b) :
    Agree R (cs.foldlM f a) (ds.foldlM g b) := by
  induction hcs generalizing a b with
  | nil => exact .ok hab
  | cons hcd _ ih =>
    rw [List.foldlM_cons, List.foldlM_cons]
    exact (hstep a b _ _ hab hcd).bind fun a' b' hab' => ih hab'

/-- Loops of checks over related lists agree if related elements are checked alike. -/
theorem forM {f : γ → Except ε Unit} {g : δ → Except ε Unit} (hstep : ∀ c d, S c d → f c = g d)
    {cs : List γ} {ds : List δ} (hcs : List.Forall₂ S cs ds) :
    Agree Eq (cs.forM f) (ds.forM g) := by
  induction hcs with
  | nil => exact .ok rfl
  | @cons c d cs ds hcd _ ih =>
    show Agree Eq (f c >>= fun _ => cs.forM f) (g d >>= fun _ => ds.forM g)
    rw [hstep c d hcd]
    exact (refl (g d)).bind fun _ _ _ => ih

end Agree

/-- Two runs agree on what functions say about their values just if they are alike through them. -/
theorem agree_map_iff {ε α β γ : Type} {f : α → γ} {g : β → γ} {x : Except ε α}
    {y : Except ε β} : Agree (fun a b => f a = g b) x y ↔ x.map f = y.map g := by
  constructor
  · intro h
    cases h with
    | error e => rfl
    | ok h => exact congrArg Except.ok h
  · intro h
    cases x with
    | error e =>
      cases y with
      | error e' =>
        cases h
        exact .error e
      | ok b => cases h
    | ok a =>
      cases y with
      | error e => cases h
      | ok b => exact .ok (Except.ok.inj h)

end TableQuery
