/-!
# Outcomes side by side

Two computations that may fail run side by side: both fail for the same reason, or both succeed with
related results.

* `ok_bind`, `bind_eq_ok`, `map_eq_ok`, `mapError_eq_ok` — steps that succeed;
* `bind_eq_error`, `map_eq_error` — steps that fail;
* `SameOutcome` — the relation of two outcomes;
* `SameOutcome.bind`, `SameOutcome.map` — further steps;
* `SameOutcome.of_common` — outcomes that are related to a third one.
-/

namespace Crontab

variable {ε α β γ δ : Type}

/-- A step that succeeds passes its result on. -/
theorem ok_bind (a : α) (f : α → Except ε β) : (Except.ok a >>= f) = f a := rfl

/-- A computation in steps succeeds if both steps do. -/
theorem bind_eq_ok {x : Except ε α} {f : α → Except ε β} {b : β} :
    (x >>= f) = .ok b ↔ ∃ a, x = .ok a ∧ f a = .ok b := by
  cases x with
  | error cause =>
    constructor
    · rintro ⟨⟩
    · rintro ⟨_, ⟨⟩, _⟩
  | ok a =>
    rw [ok_bind]
    refine ⟨fun h => ⟨a, rfl, h⟩, ?_⟩
    rintro ⟨_, ⟨⟩, h⟩
    exact h

/-- A mapped outcome is a result exactly if it is the image of one. -/
theorem map_eq_ok {x : Except ε α} {f : α → β} {b : β} :
    x.map f = .ok b ↔ ∃ a, x = .ok a ∧ f a = b := by
  cases x with
  | error cause =>
    constructor
    · rintro ⟨⟩
    · rintro ⟨_, ⟨⟩, _⟩
  | ok a =>
    refine ⟨fun h => ⟨a, rfl, Except.ok.inj h⟩, ?_⟩
    rintro ⟨_, ⟨⟩, rfl⟩
    rfl

/-- The results stay as they are when the failures are mapped. -/
theorem mapError_eq_ok {x : Except ε α} {f : ε → γ} {a : α} :
    x.mapError f = .ok a ↔ x = .ok a := by
  cases x with
  | error cause => exact ⟨nofun, nofun⟩
  | ok own =>
    exact ⟨fun h => congrArg Except.ok (Except.ok.inj h),
      fun h => congrArg Except.ok (Except.ok.inj h)⟩

/-- A computation in steps fails if one of the two steps does. -/
theorem bind_eq_error {x : Except ε α} {f : α → Except ε β} {cause : ε} :
    (x >>= f) = .error cause ↔ x = .error cause ∨ ∃ a, x = .ok a ∧ f a = .error cause := by
  cases x with
  | error own =>
    refine ⟨fun h => .inl (congrArg Except.error (Except.error.inj h)), ?_⟩
    rintro (h | ⟨_, ⟨⟩, _⟩)
    exact congrArg Except.error (Except.error.inj h)
  | ok a =>
    rw [ok_bind]
    refine ⟨fun h => .inr ⟨a, rfl, h⟩, ?_⟩
    rintro (⟨⟨⟩⟩ | ⟨_, ⟨⟩, h⟩)
    exact h

/-- The failures stay as they are when the results are mapped. -/
theorem map_eq_error {x : Except ε α} {f : α → β} {cause : ε} :
    x.map f = .error cause ↔ x = .error cause := by
  cases x with
  | error own =>
    exact ⟨fun h => congrArg Except.error (Except.error.inj h),
      fun h => congrArg Except.error (Except.error.inj h)⟩
  | ok a => exact ⟨nofun, nofun⟩

/-- Both outcomes are the same failure, or results that are related. -/
inductive SameOutcome (R : α → β → Prop) : Except ε α → Except ε β → Prop
  | ok {a : α} {b : β} (h : R a b) : SameOutcome R (.ok a) (.ok b)
  | error (cause : ε) : SameOutcome R (.error cause) (.error cause)

namespace SameOutcome

variable {R : α → β → Prop} {S : γ → δ → Prop} {x : Except ε α} {y : Except ε β}

/-- An outcome is the same as itself if its result is related to itself. -/
theorem refl {R : α → α → Prop} {x : Except ε α} (h : ∀ a, x = .ok a → R a a) :
    SameOutcome R x x := by
  cases x with
  | ok a => exact .ok (h a rfl)
  | error cause => exact .error cause

/-- Same outcomes stay the same in a further step that keeps results related. -/
theorem bind (h : SameOutcome R x y) {f : α → Except ε γ} {g : β → Except ε δ}
    (hNext : ∀ a b, R a b → SameOutcome S (f a) (g b)) : SameOutcome S (x >>= f) (y >>= g) := by
  cases h with
  | ok hResult => exact hNext _ _ hResult
  | error cause => exact .error cause

/-- Same outcomes are the same under a weaker relation of their results. -/
theorem mono {R' : α → β → Prop} (h : SameOutcome R x y)
    (hNext : ∀ a b, x = .ok a → y = .ok b → R a b → R' a b) : SameOutcome R' x y := by
  cases h with
  | ok hResult => exact .ok (hNext _ _ rfl rfl hResult)
  | error cause => exact .error cause

/-- Same outcomes stay the same when their failures are mapped. -/
theorem mapError {ε' : Type} (h : SameOutcome R x y) (f : ε → ε') :
    SameOutcome R (x.mapError f) (y.mapError f) := by
  cases h with
  | ok hResult => exact .ok hResult
  | error cause => exact .error (f cause)

/-- Same outcomes stay the same when related results are mapped to related ones. -/
theorem map (h : SameOutcome R x y) {f : α → γ} {g : β → δ} (hNext : ∀ a b, R a b → S (f a) (g b)) :
    SameOutcome S (x.map f) (y.map g) := by
  cases h with
  | ok hResult => exact .ok (hNext _ _ hResult)
  | error cause => exact .error cause

/-- Outcomes that are related to a third one are related, if results are. -/
theorem of_common {R : α → α → Prop} (hR : ∀ c a b : α, R c a → R c b → R a b)
    {x y z : Except ε α} (h : SameOutcome R z x) (h' : SameOutcome R z y) : SameOutcome R x y := by
  cases h with
  | ok hFirst =>
    cases h' with
    | ok hSecond => exact .ok (hR _ _ _ hFirst hSecond)
  | error cause =>
    cases h' with
    | error _ => exact .error cause

end SameOutcome

end Crontab
