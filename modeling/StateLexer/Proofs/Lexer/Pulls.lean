import Mathlib.Data.List.Induction
import StateLexer.Lexer

/-! # Pulls and the states they run

Every step of a pull but the last runs one state to its end. So the number of steps that a pull
takes tells how many states it runs, and a consumer that pulls again and again sees a list of
outcomes and a number of runs.
-/

namespace StateLexer.Lexer

variable {K σ μ : Type} [TokenKind K] {g : Grammar K σ μ} {l l' m : Lexer K σ μ} {o : Outcome K}
  {n : ℕ}

/-- A pull that runs exactly `n` states and then has the outcome `o`. -/
structure Pulls (g : Grammar K σ μ) (l : Lexer K σ μ) (o : Outcome K) (n : ℕ) (l' : Lexer K σ μ) :
    Prop where
  settled : o ≠ .unsettled
  pull_eq : l.pull g (n + 1) = (o, l')
  pull_unsettled : (l.pull g n).1 = .unsettled

theorem pull_succ_of_unsettled (h : l.step g = (.unsettled, m)) (fuel : ℕ) :
    l.pull g (fuel + 1) = m.pull g fuel := by
  rw [pull, h]

theorem pull_succ_of_settled (h : l.step g = (o, l')) (ho : o ≠ .unsettled) (fuel : ℕ) :
    l.pull g (fuel + 1) = (o, l') := by
  rw [pull, h]
  split
  · rename_i heq
    exact absurd (Prod.mk.inj heq).1 ho
  · rfl

theorem pull_add {k : ℕ} (h : l.pull g k = (.unsettled, m)) (j : ℕ) :
    l.pull g (k + j) = m.pull g j := by
  induction k generalizing l with
  | zero =>
    cases h
    rw [Nat.zero_add]
  | succ k ih =>
    cases hs : l.step g with
    | mk o m' =>
      by_cases ho : o = .unsettled
      · subst ho
        rw [pull_succ_of_unsettled hs] at h
        rw [Nat.add_right_comm, pull_succ_of_unsettled hs, ih h]
      · rw [pull_succ_of_settled hs ho] at h
        exact absurd (Prod.mk.inj h).1 ho

theorem pull_one (g : Grammar K σ μ) (l : Lexer K σ μ) : l.pull g 1 = l.step g := by
  rw [pull]
  split
  · rename_i hs
    exact hs.symm
  · rfl

theorem step_closed_again (h : l.step g = (.closed, l')) : l'.step g = (.closed, l') := by
  unfold step at h
  split at h
  · cases h
  · rename_i hqueue
    split at h
    · rename_i state hstate
      unfold runState at h
      split at h <;> cases h
    · rename_i hstate
      cases h
      by_cases hclosed : l.closed = true
      · simp [step, close, hclosed, hqueue, hstate]
      · simp [step, close, hclosed, Scanner.note, hqueue, hstate]

namespace Pulls

theorem settle (h : l.step g = (o, l')) (ho : o ≠ .unsettled) : Pulls g l o 0 l' :=
  ⟨ho, pull_succ_of_settled h ho 0, rfl⟩

theorem run (h : l.step g = (.unsettled, m)) (hrest : Pulls g m o n l') : Pulls g l o (n + 1) l' :=
  ⟨hrest.settled, by rw [pull_succ_of_unsettled h, hrest.pull_eq],
    by rw [pull_succ_of_unsettled h, hrest.pull_unsettled]⟩

theorem resume {k : ℕ} (h : l.pull g k = (.unsettled, m)) (hstep : m.step g = (o, l'))
    (ho : o ≠ .unsettled) : Pulls g l o k l' :=
  ⟨ho, by rw [pull_add h, pull_one, hstep], by rw [h]⟩

theorem step_eq (h : Pulls g l o 0 l') : l.step g = (o, l') := by
  rw [← pull_one, h.pull_eq]

theorem of_succ (h : Pulls g l o (n + 1) l') :
    ∃ m, l.step g = (.unsettled, m) ∧ Pulls g m o n l' := by
  cases hs : l.step g with
  | mk o' m =>
    by_cases ho : o' = .unsettled
    · subst ho
      refine ⟨m, rfl, h.settled, ?_, ?_⟩
      · rw [← pull_succ_of_unsettled hs, h.pull_eq]
      · rw [← pull_succ_of_unsettled hs, h.pull_unsettled]
    · have hun := h.pull_unsettled
      rw [pull_succ_of_settled hs ho] at hun
      exact absurd hun ho

/-- The outcome of a pull does not depend on how many steps it may take, once they suffice. -/
theorem pull_of_lt (h : Pulls g l o n l') {fuel : ℕ} (hf : n < fuel) :
    l.pull g fuel = (o, l') := by
  induction n generalizing l fuel with
  | zero =>
    obtain ⟨f, rfl⟩ := Nat.exists_eq_succ_of_ne_zero (Nat.ne_zero_of_lt hf)
    exact pull_succ_of_settled h.step_eq h.settled f
  | succ n ih =>
    obtain ⟨f, rfl⟩ := Nat.exists_eq_succ_of_ne_zero (Nat.ne_zero_of_lt hf)
    obtain ⟨m, hs, hrest⟩ := h.of_succ
    rw [Nat.succ_eq_add_one, pull_succ_of_unsettled hs]
    exact ih hrest (by omega)

theorem unique {o' : Outcome K} {n' : ℕ} (h : Pulls g l o n l') (h' : Pulls g l o' n' m) :
    o = o' ∧ n = n' ∧ l' = m := by
  rcases Nat.lt_trichotomy n n' with hlt | rfl | hgt
  · have hun := h'.pull_unsettled
    rw [h.pull_of_lt hlt] at hun
    exact absurd hun h.settled
  · obtain ⟨rfl, rfl⟩ := Prod.mk.inj (h.pull_eq.symm.trans h'.pull_eq)
    exact ⟨rfl, rfl, rfl⟩
  · have hun := h.pull_unsettled
    rw [h'.pull_of_lt hgt] at hun
    exact absurd hun h'.settled

theorem closed_again (h : Pulls g l .closed n l') : Pulls g l' .closed 0 l' := by
  induction n generalizing l with
  | zero => exact settle (step_closed_again h.step_eq) nofun
  | succ n ih =>
    obtain ⟨m, -, hrest⟩ := h.of_succ
    exact ih hrest

end Pulls

/-- Pulling again and again from `l`: the outcomes in order, the number of states run for them, and
the lexer after them. -/
inductive Delivers (g : Grammar K σ μ) (l : Lexer K σ μ) : List (Outcome K) → ℕ → Lexer K σ μ → Prop
  | nil : Delivers g l [] 0 l
  | pull {os : List (Outcome K)} {n k : ℕ} {m l' : Lexer K σ μ} {o : Outcome K}
      (h : Delivers g l os n m) (hp : Pulls g m o k l') : Delivers g l (os ++ [o]) (n + k) l'

theorem Delivers.unique {os os' : List (Outcome K)} {n' : ℕ} (h : Delivers g l os n m)
    (h' : Delivers g l os' n' l') (hlen : os.length = os'.length) :
    os = os' ∧ n = n' ∧ m = l' := by
  induction h generalizing os' n' l' with
  | nil =>
    cases h' with
    | nil => exact ⟨rfl, rfl, rfl⟩
    | pull => simp at hlen
  | pull _ hp ih =>
    cases h' with
    | nil => simp at hlen
    | pull h' hp' =>
      obtain ⟨rfl, rfl, rfl⟩ := ih h' (by simpa using hlen)
      obtain ⟨rfl, rfl, rfl⟩ := hp.unique hp'
      exact ⟨rfl, rfl, rfl⟩

theorem Delivers.of_concat {os : List (Outcome K)} (h : Delivers g l (os ++ [o]) n l') :
    ∃ d k m, Delivers g l os d m ∧ Pulls g m o k l' := by
  generalize hos : os ++ [o] = all at h
  cases h with
  | nil => simp at hos
  | pull hrest hp =>
    obtain ⟨rfl, hlast⟩ := List.append_inj' hos rfl
    cases hlast
    exact ⟨_, _, _, hrest, hp⟩

theorem Delivers.closed_again {os : List (Outcome K)} (h : Delivers g l (os ++ [.closed]) n l')
    (j : ℕ) :
    Delivers g l (os ++ List.replicate (j + 1) .closed) n l' ∧ Pulls g l' .closed 0 l' := by
  induction j with
  | zero =>
    obtain ⟨d, k, m, -, hp⟩ := h.of_concat
    exact ⟨h, hp.closed_again⟩
  | succ j ih =>
    obtain ⟨hdelivers, hagain⟩ := ih
    refine ⟨?_, hagain⟩
    rw [List.replicate_succ', ← List.append_assoc]
    exact hdelivers.pull hagain

theorem Delivers.of_append {os os' : List (Outcome K)} (h : Delivers g l (os ++ os') n l') :
    ∃ k m, Delivers g l os k m := by
  induction os' using List.reverseRecOn generalizing n l' with
  | nil => exact ⟨n, l', by simpa using h⟩
  | append_singleton os' o ih =>
    rw [← List.append_assoc] at h
    obtain ⟨d, k, m, hrest, -⟩ := h.of_concat
    exact ih hrest

end StateLexer.Lexer
