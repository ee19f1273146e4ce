import Mathlib.Data.List.Nodup

/-!
# Loops that visit a key at most once

Each turn of a loop is done with a result, or visits a key and then has a
result or another state. A key that has been visited before ends the loop.
-/

namespace Telekio.Visits

variable {σ κ ρ : Type*}

inductive Turn (σ κ ρ : Type*) where
  | done (result : ρ)
  | visit (key : κ) (next : ρ ⊕ σ)

/-- A loop from a state on, after some keys; there is no result if the fuel is
used up, and `again` is the result where a key comes again. -/
def run [DecidableEq κ] (turn : σ → Turn σ κ ρ) (again : ρ) :
    Nat → List κ → σ → Option ρ
  | 0, _, _ => none
  | fuel + 1, visited, state =>
      match turn state with
      | .done result => some result
      | .visit key next =>
          if key ∈ visited then
            some again
          else
            match next with
            | .inl result => some result
            | .inr state => run turn again fuel (visited ++ [key]) state

/-- A loop comes from one state to another, with the keys that it visits. -/
inductive Reaches (turn : σ → Turn σ κ ρ) (start : σ) :
    List κ → σ → Prop where
  | start : Reaches turn start [] start
  | visit {visited : List κ} {state next : σ} {key : κ}
      (reaches : Reaches turn start visited state)
      (turns : turn state = .visit key (.inr next))
      (fresh : key ∉ visited) :
      Reaches turn start (visited ++ [key]) next

/-- A state in which the loop has a result, after some keys. -/
inductive Ends (turn : σ → Turn σ κ ρ) (again : ρ) (visited : List κ)
    (state : σ) : ρ → Prop where
  | done {result : ρ} (turns : turn state = .done result) :
      Ends turn again visited state result
  | stopped {result : ρ} {key : κ} (turns : turn state =
      .visit key (.inl result)) (fresh : key ∉ visited) :
      Ends turn again visited state result
  | again {key : κ} {next : ρ ⊕ σ} (turns : turn state = .visit key next)
      (seen : key ∈ visited) : Ends turn again visited state again

variable {turn : σ → Turn σ κ ρ} {again result : ρ} {start state : σ}
variable {visited keys : List κ}

theorem Reaches.nodup (reaches : Reaches turn start visited state) :
    visited.Nodup := by
  induction reaches with
  | start => exact List.nodup_nil
  | visit _ _ fresh ih =>
      refine List.nodup_append.mpr ⟨ih, List.nodup_singleton _, ?_⟩
      intro old member other new same
      rw [List.mem_singleton.mp new] at same
      exact fresh (same ▸ member)

/-- The keys that are visited are keys of a turn. -/
theorem Reaches.subset (reaches : Reaches turn start visited state)
    (finite : ∀ state key next, turn state = .visit key next → key ∈ keys) :
    visited ⊆ keys := by
  induction reaches with
  | start => exact List.nil_subset _
  | visit _ turns _ ih =>
      refine List.append_subset.mpr ⟨ih, ?_⟩
      intro key member
      rw [List.mem_singleton.mp member]
      exact finite _ _ _ turns

variable [DecidableEq κ] {fuel more : Nat}

theorem run_mono (returned : run turn again fuel visited state = some result)
    (enough : fuel ≤ more) :
    run turn again more visited state = some result := by
  induction fuel generalizing visited state more with
  | zero => cases returned
  | succ fuel ih =>
      obtain ⟨more, rfl⟩ : ∃ less, more = less + 1 := ⟨more - 1, by omega⟩
      unfold run at returned ⊢
      cases turns : turn state with
      | done other => simpa [turns] using returned
      | visit key next =>
          simp only [turns] at returned ⊢
          split
          · rename_i seen
            simpa [seen] using returned
          · rename_i fresh
            rw [if_neg fresh] at returned
            cases next with
            | inl other => exact returned
            | inr next => exact ih returned (by omega)

/-- A result is that of an end that is reached. -/
theorem ends_of_run (reaches : Reaches turn start visited state)
    (returned : run turn again fuel visited state = some result) :
    ∃ visited state, Reaches turn start visited state ∧
      Ends turn again visited state result := by
  induction fuel generalizing visited state with
  | zero => cases returned
  | succ fuel ih =>
      unfold run at returned
      cases turns : turn state with
      | done other =>
          simp only [turns, Option.some.injEq] at returned
          subst returned
          exact ⟨visited, state, reaches, .done turns⟩
      | visit key next =>
          simp only [turns] at returned
          split at returned
          · rename_i seen
            cases returned
            exact ⟨visited, state, reaches, .again turns seen⟩
          · rename_i fresh
            cases next with
            | inl other =>
                cases returned
                exact ⟨visited, state, reaches, .stopped turns fresh⟩
            | inr next => exact ih (reaches.visit turns fresh) returned

/-- An end that is reached gives the result. -/
theorem run_of_ends (reaches : Reaches turn start visited state)
    (ends : Ends turn again visited state result) :
    ∃ fuel, run turn again fuel [] start = some result := by
  have last : run turn again 1 visited state = some result := by
    unfold run
    cases ends with
    | done turns => rw [turns]
    | stopped turns fresh => simp only [turns, if_neg fresh]
    | again turns seen => simp only [turns, if_pos seen]
  clear ends
  generalize 1 = fuel at last
  induction reaches generalizing fuel with
  | start => exact ⟨fuel, last⟩
  | visit _ turns fresh ih =>
      refine ih (fuel + 1) ?_
      rw [run, turns]
      simp only [if_neg fresh]
      exact last

/-- If there are finitely many keys, the loop ends. -/
theorem run_of_finite (reaches : Reaches turn start visited state)
    (finite : ∀ state key next, turn state = .visit key next → key ∈ keys)
    (enough : keys.length < visited.length + fuel) :
    ∃ result, run turn again fuel visited state = some result := by
  induction fuel generalizing visited state with
  | zero =>
      have few :=
        reaches.nodup.length_le_of_subset (reaches.subset finite)
      omega
  | succ fuel ih =>
      unfold run
      cases turns : turn state with
      | done other => exact ⟨other, rfl⟩
      | visit key next =>
          dsimp only
          split
          · exact ⟨again, rfl⟩
          · rename_i fresh
            cases next with
            | inl other => exact ⟨other, rfl⟩
            | inr next =>
                refine ih (reaches.visit turns fresh) ?_
                rw [List.length_append, List.length_singleton]
                omega

/-- The outcome of a loop with finitely many keys: it has one, an end that is
reached, and any end that is reached is its outcome. -/
theorem exists_outcome (again : ρ) (start : σ)
    (finite : ∀ state key next, turn state = .visit key next → key ∈ keys) :
    ∃ outcome, (∀ fuel, keys.length < fuel →
        run turn again fuel [] start = some outcome) ∧
      (∃ visited state, Reaches turn start visited state ∧
        Ends turn again visited state outcome) ∧
      ∀ visited state result, Reaches turn start visited state →
        Ends turn again visited state result → result = outcome := by
  obtain ⟨outcome, returned⟩ := @run_of_finite _ _ _ turn again start start []
    keys _ (keys.length + 1) .start finite (by simp)
  refine ⟨outcome, ?_, ends_of_run .start returned, ?_⟩
  · exact fun fuel enough => run_mono returned enough
  · intro visited state result reaches ends
    obtain ⟨fuel, ran⟩ := run_of_ends reaches ends
    have first := run_mono ran (Nat.le_max_left fuel (keys.length + 1))
    have second := run_mono returned
      (Nat.le_max_right fuel (keys.length + 1))
    exact Option.some.inj (first.symm.trans second)

end Telekio.Visits
