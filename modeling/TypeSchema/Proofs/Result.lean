/-
**Computations that succeed.**

When a computation in steps succeeds, and over a list, when it succeeds for every item.
-/

import Mathlib.Data.List.Forall2

namespace TypeSchema

theorem ok_bind {ε α β : Type} (value : α) (next : α → Except ε β) :
    (Except.ok value >>= next) = next value := rfl

theorem bind_eq_ok_iff {ε α β : Type} {first : Except ε α} {next : α → Except ε β} {result : β} :
    first >>= next = .ok result ↔ ∃ value, first = .ok value ∧ next value = .ok result := by
  cases first with
  | error error => simp [bind, Except.bind]
  | ok value => simp [bind, Except.bind]

theorem pure_eq_ok_iff {ε α : Type} {value result : α} :
    (pure value : Except ε α) = .ok result ↔ result = value := by
  simp [pure, Except.pure, eq_comm]

theorem map_eq_ok_iff {ε α β : Type} {first : Except ε α} {make : α → β} {result : β} :
    make <$> first = .ok result ↔ ∃ value, first = .ok value ∧ result = make value := by
  cases first with
  | error error => simp [Functor.map, Except.map]
  | ok value => simp [Functor.map, Except.map, eq_comm]

theorem eq_ok_of_toOption {ε α : Type} {result : Except ε α} {value : α}
    (known : result.toOption = some value) : result = .ok value := by
  cases result with
  | error => cases known
  | ok => exact congrArg _ (Option.some.inj known)

theorem exists_eq_ok {ε α : Type} {result : Except ε α}
    (known : result.toOption.isSome = true) : ∃ value, result = .ok value := by
  obtain ⟨value, same⟩ := Option.isSome_iff_exists.mp known
  exact ⟨value, eq_ok_of_toOption same⟩

theorem mapM_eq_ok_iff {ε α β : Type} {f : α → Except ε β} {items : List α} {results : List β} :
    items.mapM f = .ok results ↔
      List.Forall₂ (fun item result => f item = .ok result) items results := by
  induction items generalizing results with
  | nil =>
    rw [List.mapM_nil, pure_eq_ok_iff, List.forall₂_nil_left_iff]
  | cons item items ih =>
    rw [List.mapM_cons, bind_eq_ok_iff, List.forall₂_cons_left_iff]
    constructor
    · rintro ⟨result, first, others⟩
      obtain ⟨more, rest, same⟩ := bind_eq_ok_iff.mp others
      exact ⟨result, more, first, ih.mp rest, pure_eq_ok_iff.mp same⟩
    · rintro ⟨result, more, first, rest, same⟩
      exact ⟨result, first, bind_eq_ok_iff.mpr ⟨more, ih.mpr rest, pure_eq_ok_iff.mpr same⟩⟩

end TypeSchema
