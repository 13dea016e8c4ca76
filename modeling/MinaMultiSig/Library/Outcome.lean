/-!
# Results of functions that may panic

A function returns a value, returns an error or panics. The three outcomes are
values of `Except`, so that its monad runs the functions.
-/

/-- Why there is no value: an error the function returned, or a panic. -/
inductive Failure (ε : Type)
  | error (reason : ε)
  | panic
  deriving DecidableEq

/-- A value, or why there is none. -/
abbrev Outcome (ε α : Type) : Type :=
  Except (Failure ε) α

namespace Outcome

variable {ε δ α β : Type}

/-- The result of a function that does not panic. -/
def ofExcept : Except ε α → Outcome ε α
  | .ok value => .ok value
  | .error reason => .error (.error reason)

/-- The result of a function that panics instead of returning an error. -/
def ofOption : Option α → Outcome ε α
  | some value => .ok value
  | none => .error .panic

/-- The result of a function that returns an error without a value. -/
def okOr (reason : ε) : Option α → Outcome ε α
  | some value => .ok value
  | none => .error (.error reason)

/-- Take the value and panic without one. -/
def unwrap : Outcome ε α → Outcome δ α
  | .ok value => .ok value
  | .error _ => .error .panic

/-- Take the value, or another one in place of an error; a panic stays. -/
def unwrapOr (result : Outcome ε α) (fallback : α) : Outcome δ α :=
  match result with
  | .ok value => .ok value
  | .error (.error _) => .ok fallback
  | .error .panic => .error .panic

/-- Go on with the value, or with the error; a panic stays. -/
def handle
    (result : Outcome ε α)
    (onValue : α → Outcome δ β)
    (onError : ε → Outcome δ β) : Outcome δ β :=
  match result with
  | .ok value => onValue value
  | .error (.error reason) => onError reason
  | .error .panic => .error .panic

/-- Change the error; a panic stays. -/
def mapError (function : ε → δ) : Outcome ε α → Outcome δ α
  | .ok value => .ok value
  | .error (.error reason) => .error (.error (function reason))
  | .error .panic => .error .panic

theorem mapError_eq_ok
    {function : ε → δ}
    {result : Outcome ε α}
    {value : α} :
    result.mapError function = .ok value ↔ result = .ok value := by
  rcases result with (reason | _) | inner
  · simp [mapError]
  · simp [mapError]
  · simp [mapError]

theorem mapError_eq_panic
    {function : ε → δ}
    {result : Outcome ε α} :
    result.mapError function = .error .panic ↔ result = .error .panic := by
  rcases result with (reason | _) | inner
  · simp [mapError]
  · simp [mapError]
  · simp [mapError]

theorem handle_eq_ok
    {result : Outcome ε α}
    {onValue : α → Outcome δ β}
    {onError : ε → Outcome δ β}
    {value : β} :
    result.handle onValue onError = .ok value ↔
      (∃ inner, result = .ok inner ∧ onValue inner = .ok value) ∨
        ∃ reason, result = .error (.error reason) ∧
          onError reason = .ok value := by
  rcases result with (reason | _) | inner
  · simp [handle]
  · simp [handle]
  · simp [handle]

/-- A computation in two parts succeeds if both parts do. -/
theorem bind_eq_ok
    {first : Outcome ε α}
    {rest : α → Outcome ε β}
    {result : β} :
    first >>= rest = .ok result ↔
      ∃ value, first = .ok value ∧ rest value = .ok result := by
  cases first with
  | ok value =>
      constructor
      · intro same
        exact ⟨value, rfl, same⟩
      · rintro ⟨other, same, succeeds⟩
        rw [Except.ok.inj same]
        exact succeeds
  | error failure =>
      constructor
      · intro same
        exact absurd same (by simp [bind, Except.bind])
      · rintro ⟨other, same, -⟩
        exact absurd same (by simp)

theorem ok_bind
    (value : α)
    (rest : α → Outcome ε β) :
    (Except.ok value : Outcome ε α) >>= rest = rest value :=
  rfl

/-- A computation in two parts panics if one of the parts does. -/
theorem bind_eq_panic
    {first : Outcome ε α}
    {rest : α → Outcome ε β} :
    first >>= rest = .error .panic ↔
      first = .error .panic ∨
        ∃ value, first = .ok value ∧ rest value = .error .panic := by
  cases first with
  | ok value => simp [bind, Except.bind]
  | error failure => simp [bind, Except.bind]

/-- The panic is behind a first part that does not panic. -/
theorem panic_behind
    {first : Outcome ε α}
    {rest : α → Outcome ε β}
    (safe : first ≠ .error .panic)
    (panics : first >>= rest = .error .panic) :
    ∃ value, first = .ok value ∧ rest value = .error .panic :=
  (bind_eq_panic.mp panics).resolve_left safe

theorem map_eq_panic
    {function : α → β}
    {result : Outcome ε α} :
    result.map function = .error .panic ↔ result = .error .panic := by
  cases result with
  | ok value => simp [Except.map]
  | error failure => simp [Except.map]

/-- A list is processed without a panic if each element is. -/
theorem mapM_ne_panic
    {function : α → Outcome ε β}
    {items : List α}
    (safe : ∀ item ∈ items, function item ≠ .error .panic) :
    items.mapM function ≠ .error .panic := by
  induction items with
  | nil => simp [pure, Except.pure]
  | cons first rest ih =>
      intro panics
      rw [List.mapM_cons, bind_eq_panic] at panics
      rcases panics with firstPanics | ⟨firstResult, -, restPanics⟩
      · exact safe first List.mem_cons_self firstPanics
      · rcases bind_eq_panic.mp restPanics with others | ⟨_, -, returned⟩
        · exact ih (fun item member =>
            safe item (List.mem_cons_of_mem first member)) others
        · exact absurd returned (by simp [pure, Except.pure])

theorem throw_ne_ok (failure : Failure ε) (value : α) :
    (throw failure : Outcome ε α) ≠ .ok value := by
  intro succeeds
  cases succeeds

/-- What comes behind a failure is not reached. -/
theorem throw_bind_ne_ok
    (failure : Failure ε)
    (next : α → Outcome ε β)
    (value : β) :
    ((throw failure : Outcome ε α) >>= next) ≠ .ok value := by
  intro succeeds
  cases succeeds

/-- An error that is thrown is no panic, whatever would come behind it. -/
theorem throw_bind_ne_panic
    (reason : ε)
    (next : α → Outcome ε β) :
    ((throw (.error reason) : Outcome ε α) >>= next) ≠ .error .panic := by
  intro panics
  cases panics

theorem throw_ne_panic (reason : ε) :
    (throw (.error reason) : Outcome ε α) ≠ .error .panic := by
  intro panics
  cases panics

theorem ofExcept_eq_ok
    {result : Except ε α}
    {value : α} :
    ofExcept result = .ok value ↔ result = .ok value := by
  cases result with
  | ok other => simp [ofExcept]
  | error reason => simp [ofExcept]

theorem ofOption_eq_ok
    {result : Option α}
    {value : α} :
    (ofOption result : Outcome ε α) = .ok value ↔ result = some value := by
  cases result with
  | some other => simp [ofOption]
  | none => simp [ofOption]

theorem okOr_eq_ok
    {reason : ε}
    {option : Option α}
    {value : α} :
    okOr reason option = .ok value ↔ option = some value := by
  cases option with
  | none => simp [okOr]
  | some content => simp [okOr]

theorem ofExcept_ne_panic (result : Except ε α) :
    ofExcept result ≠ .error .panic := by
  cases result with
  | ok value => simp [ofExcept]
  | error reason => simp [ofExcept]

theorem unwrap_eq_ok
    {result : Outcome ε α}
    {value : α} :
    (result.unwrap : Outcome δ α) = .ok value ↔ result = .ok value := by
  cases result with
  | ok other => simp [unwrap]
  | error failure => simp [unwrap]

/-- Each element of a processed list has its result among the results. -/
theorem exists_mem_of_mapM_eq_ok
    {function : α → Outcome ε β}
    {items : List α}
    {results : List β}
    (succeeds : items.mapM function = .ok results) :
    ∀ item ∈ items, ∃ result ∈ results, function item = .ok result := by
  induction items generalizing results with
  | nil =>
      intro item member
      exact absurd member List.not_mem_nil
  | cons first rest ih =>
      rw [List.mapM_cons, bind_eq_ok] at succeeds
      obtain ⟨firstResult, firstSucceeds, restSucceeds⟩ := succeeds
      rw [bind_eq_ok] at restSucceeds
      obtain ⟨restResults, restEq, same⟩ := restSucceeds
      rw [← Except.ok.inj same]
      intro item member
      cases List.mem_cons.mp member with
      | inl isFirst =>
          exact ⟨firstResult, List.mem_cons_self, isFirst ▸ firstSucceeds⟩
      | inr inRest =>
          obtain ⟨result, inResults, isResult⟩ := ih restEq item inRest
          exact ⟨result, List.mem_cons_of_mem _ inResults, isResult⟩

/-- Each element of a list is processed if all of them are. -/
theorem exists_of_mapM_eq_ok
    {function : α → Outcome ε β}
    {items : List α}
    {results : List β}
    (succeeds : items.mapM function = .ok results) :
    ∀ item ∈ items, ∃ result, function item = .ok result := by
  intro item member
  obtain ⟨result, -, isResult⟩ := exists_mem_of_mapM_eq_ok succeeds item member
  exact ⟨result, isResult⟩

/-- Each result of a processed list is the result of an element. -/
theorem mem_of_mapM_eq_ok
    {function : α → Outcome ε β}
    {items : List α}
    {results : List β}
    (succeeds : items.mapM function = .ok results) :
    ∀ result ∈ results, ∃ item ∈ items, function item = .ok result := by
  induction items generalizing results with
  | nil =>
      intro result member
      rw [← Except.ok.inj succeeds] at member
      exact absurd member List.not_mem_nil
  | cons first rest ih =>
      rw [List.mapM_cons, bind_eq_ok] at succeeds
      obtain ⟨firstResult, firstSucceeds, restSucceeds⟩ := succeeds
      rw [bind_eq_ok] at restSucceeds
      obtain ⟨restResults, restEq, same⟩ := restSucceeds
      intro result member
      rw [← Except.ok.inj same] at member
      cases List.mem_cons.mp member with
      | inl isFirst =>
          exact ⟨first, List.mem_cons_self, isFirst ▸ firstSucceeds⟩
      | inr inRest =>
          obtain ⟨item, itemMember, itemSucceeds⟩ := ih restEq result inRest
          exact ⟨item, List.mem_cons_of_mem first itemMember, itemSucceeds⟩

/-- A list is processed if and only if each of its elements is. -/
theorem exists_mapM_eq_ok_iff
    {function : α → Outcome ε β}
    {items : List α} :
    (∃ results, items.mapM function = .ok results) ↔
      ∀ item ∈ items, ∃ result, function item = .ok result := by
  constructor
  · rintro ⟨results, succeeds⟩
    exact exists_of_mapM_eq_ok succeeds
  · intro each
    induction items with
    | nil => exact ⟨[], rfl⟩
    | cons first rest ih =>
        obtain ⟨firstResult, isFirst⟩ := each first List.mem_cons_self
        obtain ⟨restResults, isRest⟩ := ih fun item member =>
          each item (List.mem_cons_of_mem first member)
        refine ⟨firstResult :: restResults, ?_⟩
        rw [List.mapM_cons, isFirst, isRest]
        rfl

/-- A list of elements with known results is processed to the list of these. -/
theorem mapM_eq_ok
    {function : α → Outcome ε β}
    {value : α → β}
    {items : List α}
    (succeeds : ∀ item ∈ items, function item = .ok (value item)) :
    items.mapM function = .ok (items.map value) := by
  induction items with
  | nil => rfl
  | cons first rest ih =>
      have restEq := ih fun item member =>
        succeeds item (List.mem_cons_of_mem first member)
      rw [List.mapM_cons, succeeds first List.mem_cons_self, restEq]
      rfl

/-- Processing the images of a list, one by one the same. -/
theorem mapM_map_congr
    {γ : Type}
    {image : α → β}
    {function : β → Outcome ε γ}
    {composed : α → Outcome ε γ}
    {items : List α}
    (same : ∀ item ∈ items, function (image item) = composed item) :
    (items.map image).mapM function = items.mapM composed := by
  induction items with
  | nil => rfl
  | cons first rest ih =>
      rw [List.map_cons, List.mapM_cons, List.mapM_cons,
        same first List.mem_cons_self, ih fun item member =>
          same item (List.mem_cons_of_mem first member)]

end Outcome
