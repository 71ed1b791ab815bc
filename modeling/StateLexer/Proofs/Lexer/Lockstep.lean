import Mathlib.Data.List.Forall2
import StateLexer.Proofs.Lexer.Steps
import StateLexer.Proofs.Program.Respects

/-! # Two lexers in lockstep

Two lexers whose grammars have the same states stand side by side. Their scanners differ in a way
that no state can tell, because each request ends alike on both. Then the lexers run the same states
and tell the same, up to that difference, step by step and pull by pull.
-/

namespace StateLexer

variable {K σ μ : Type}

/-- A way in which two scanners may differ, with the differences that follow from it: in answers, in
tokens and in their positions. -/
structure Likeness (K μ : Type) where
  alike : Alike K μ
  scanner : Scanner K μ → Scanner K μ → Prop
  token : Token K → Token K → Prop
  position : Position → Position → Prop
  plain : alike.Plain
  position_of_token : ∀ {t t'}, token t t' → position t.position t'.position
  halted_eq : ∀ {s s'}, scanner s s' → s.halted = s'.halted
  queue : ∀ {s s'}, scanner s s' → List.Forall₂ token s.queue s'.queue
  deliver : ∀ {s s' t t' rest rest'}, scanner s s' → s.queue = t :: rest → s'.queue = t' :: rest' →
    scanner { s with queue := rest } { s' with queue := rest' }
  close : ∀ {s s'}, scanner s s' →
    scanner (s.note (.closed s.cursor.pos s.halted)) (s'.note (.closed s'.cursor.pos s'.halted))

namespace Lexer

inductive Outcome.Alike (R : Token K → Token K → Prop) : Outcome K → Outcome K → Prop
  | token {t t' : Token K} (h : R t t') : Alike R (.token t) (.token t')
  | closed : Alike R .closed .closed
  | faulted {f : Fault} : Alike R (.faulted f) (.faulted f)
  | unsettled : Alike R .unsettled .unsettled

/-- The two runs go through the same states and tell the same up to `Told`, step by step and pull by
pull, and the lexers are the same up to `Same` all along. -/
structure RunsAlike [TokenKind K] (Told : Outcome K → Outcome K → Prop)
    (Same : Lexer K σ μ → Lexer K σ μ → Prop) (g g' : Grammar K σ μ) (l l' : Lexer K σ μ) : Prop where
  steps : ∀ n, l.ran g n = l'.ran g' n ∧ List.Forall₂ Told (l.outcomes g n) (l'.outcomes g' n) ∧
    Same (l.after g n) (l'.after g' n)
  pulls : ∀ os n m, l.Delivers g os n m →
    ∃ os' m', l'.Delivers g' os' n m' ∧ List.Forall₂ Told os os' ∧ Same m m'

variable [TokenKind K] {L : Likeness K μ} {g g' : Grammar K σ μ} {l l' m : Lexer K σ μ} {n : ℕ}
  {o : Outcome K} {os : List (Outcome K)}

/-- The lexers differ as their scanners may. -/
structure Like (L : Likeness K μ) (l l' : Lexer K σ μ) : Prop where
  scanner : L.scanner l.scanner l'.scanner
  state_eq : l.state = l'.state
  lastPosition : Option.Rel L.position l.lastPosition l'.lastPosition
  closed_eq : l.closed = l'.closed

/-- The lexers are alike and run the same states, and no call of the first tells the difference. -/
structure Lockstep (L : Likeness K μ) (g g' : Grammar K σ μ) (l l' : Lexer K σ μ) : Prop where
  like : Like L l l'
  program_eq : ∀ state, g.program state = g'.program state
  respects : g.Respects L.alike
  agrees : ∀ n, ∀ c ∈ l.calls g n, c.Agrees L.alike L.scanner

omit [TokenKind K] in
theorem Outcome.Alike.settled? {R : Token K → Token K → Prop} {o o' : Outcome K}
    (h : o.Alike R o') :
    List.Forall₂ (Outcome.Alike R) o.settled?.toList o'.settled?.toList := by
  cases h with
  | unsettled => exact .nil
  | token ht => exact .cons (.token ht) .nil
  | closed => exact .cons .closed .nil
  | faulted => exact .cons .faulted .nil

omit [TokenKind K] in
theorem Outcome.Alike.ne_unsettled {R : Token K → Token K → Prop} {o o' : Outcome K}
    (h : o.Alike R o') (ho : o ≠ .unsettled) : o' ≠ .unsettled := by
  cases h with
  | unsettled => exact absurd rfl ho
  | token | closed | faulted => nofun

omit [TokenKind K] in
theorem Outcome.Alike.eq {o o' : Outcome K} (h : o.Alike Eq o') : o = o' := by
  cases h with
  | token ht => rw [ht]
  | closed | faulted | unsettled => rfl

namespace Like

omit [TokenKind K] in
theorem current?_eq (h : Like L l l') : l.current? = l'.current? := by
  have hqueue := L.queue h.scanner
  cases hq : l.scanner.queue with
  | cons t rest =>
    rw [hq] at hqueue
    obtain ⟨t', rest', -, -, hq'⟩ := List.forall₂_cons_left_iff.mp hqueue
    simp only [current?, hq, hq']
  | nil =>
    rw [hq] at hqueue
    simp only [current?, hq, List.forall₂_nil_left_iff.mp hqueue, h.state_eq]

omit [TokenKind K] in
theorem close (h : Like L l l') : Like L l.close l'.close := by
  unfold Lexer.close
  rw [← h.closed_eq]
  split
  · exact h
  · exact ⟨L.close h.scanner, h.state_eq, h.lastPosition, rfl⟩

end Like

namespace Lockstep

theorem runState (h : Lockstep L g g' l l') {state : State K σ}
    (hcalls : ∀ c ∈ (g.program state).calls l.scanner, c.Agrees L.alike L.scanner) :
    (l.runState g state).1.Alike L.token (l'.runState g' state).1 ∧
      Like L (l.runState g state).2 (l'.runState g' state).2 := by
  obtain ⟨hresult, hscanner⟩ :=
    (h.respects.program L.plain state).exec h.like.scanner hcalls
  unfold Lexer.runState
  rw [← h.program_eq]
  cases hr : (g.program state).exec l.scanner with
  | mk r s =>
    cases hr' : (g.program state).exec l'.scanner with
    | mk r' s' =>
      rw [hr, hr'] at hresult hscanner
      obtain rfl : r = r' := hresult
      have hhalted : s.halted = s'.halted := L.halted_eq hscanner
      cases r with
      | ok next =>
        refine ⟨.unsettled, hscanner, ?_, h.like.lastPosition, h.like.closed_eq⟩
        change (if s.halted then none else next) = if s'.halted then none else next
        rw [hhalted]
      | error f => exact ⟨.faulted, hscanner, rfl, h.like.lastPosition, h.like.closed_eq⟩

/-- One step of each lexer tells the same, and leaves them alike. -/
theorem step_like (h : Lockstep L g g' l l') :
    (l.step g).1.Alike L.token (l'.step g').1 ∧ Like L (l.step g).2 (l'.step g').2 := by
  have hqueue := L.queue h.like.scanner
  have hcurrent := h.like.current?_eq
  rcases step_cases g l with ⟨t, rest, hq, -, hs⟩ | ⟨state, hq, hcur, hs⟩ | ⟨hq, -, hstate, hs⟩ <;>
    rw [hq] at hqueue
  · obtain ⟨t', rest', ht, -, hq'⟩ := List.forall₂_cons_left_iff.mp hqueue
    have hs' : l'.step g' =
        (.token t',
          { l' with
            scanner := { l'.scanner with queue := rest' }
            lastPosition := some t'.position }) := by
      simp only [Lexer.step, hq']
    rw [hs, hs']
    exact ⟨.token ht, L.deliver h.like.scanner hq hq', h.like.state_eq,
      .some (L.position_of_token ht), h.like.closed_eq⟩
  · rw [hs, step_of_current? (hcurrent.symm.trans hcur)]
    apply h.runState
    intro c hc
    apply h.agrees 1 c
    rw [calls_succ, requests, after, Function.iterate_zero, id, hcur]
    exact List.mem_append_right _ hc
  · have hq' := List.forall₂_nil_left_iff.mp hqueue
    have hs' : l'.step g' = (.closed, l'.close) := by
      simp only [Lexer.step, hq', ← h.like.state_eq, hstate]
    rw [hs, hs']
    exact ⟨.closed, h.like.close⟩

theorem step (h : Lockstep L g g' l l') : Lockstep L g g' (l.step g).2 (l'.step g').2 where
  like := h.step_like.2
  program_eq := h.program_eq
  respects := h.respects
  agrees n c hc := by
    apply h.agrees (1 + n) c
    rw [calls_add, after_one]
    exact List.mem_append_right _ hc

theorem after (h : Lockstep L g g' l l') (n : ℕ) :
    Lockstep L g g' (l.after g n) (l'.after g' n) := by
  induction n with
  | zero => exact h
  | succ n ih =>
    rw [after_succ, after_succ]
    exact ih.step

theorem ran_eq (h : Lockstep L g g' l l') (n : ℕ) : l.ran g n = l'.ran g' n := by
  induction n with
  | zero => rfl
  | succ n ih => rw [ran_succ, ran_succ, ih, (h.after n).like.current?_eq]

theorem outcomes (h : Lockstep L g g' l l') (n : ℕ) :
    List.Forall₂ (Outcome.Alike L.token) (l.outcomes g n) (l'.outcomes g' n) := by
  induction n with
  | zero => exact .nil
  | succ n ih =>
    rw [outcomes_succ, outcomes_succ]
    exact List.rel_append ih (h.after n).step_like.1.settled?

theorem pulls (h : Lockstep L g g' l l') (hp : Pulls g l o n m) :
    ∃ o' m', Pulls g' l' o' n m' ∧ o.Alike L.token o' ∧ Lockstep L g g' m m' := by
  induction n generalizing l l' with
  | zero =>
    have hs := hp.step_eq
    obtain ⟨halike, -⟩ := h.step_like
    have hnext := h.step
    rw [hs] at halike hnext
    exact ⟨_, _, .settle rfl (halike.ne_unsettled hp.settled), halike, hnext⟩
  | succ n ih =>
    obtain ⟨k, hs, hrest⟩ := hp.of_succ
    obtain ⟨halike, -⟩ := h.step_like
    have hnext := h.step
    cases hs' : l'.step g' with
    | mk o' k' =>
      rw [hs, hs'] at halike hnext
      cases halike
      obtain ⟨o', m', hp', hout, hlast⟩ := ih hnext hrest
      exact ⟨o', m', hp'.run hs', hout, hlast⟩

theorem delivers (h : Lockstep L g g' l l') (hd : l.Delivers g os n m) :
    ∃ os' m', l'.Delivers g' os' n m' ∧ List.Forall₂ (Outcome.Alike L.token) os os' ∧
      Lockstep L g g' m m' := by
  induction hd with
  | nil => exact ⟨[], l', .nil, .nil, h⟩
  | pull _ hp ih =>
    obtain ⟨os', m', hd', hos, hm⟩ := ih
    obtain ⟨o', last, hp', ho, hlast⟩ := hm.pulls hp
    exact ⟨_, last, hd'.pull hp', List.rel_append hos (.cons ho .nil), hlast⟩

theorem runsAlike (h : Lockstep L g g' l l') :
    RunsAlike (Outcome.Alike L.token) (Like L) g g' l l' where
  steps n := ⟨h.ran_eq n, h.outcomes n, (h.after n).like⟩
  pulls os n m hd := by
    obtain ⟨os', m', hd', hos, hm⟩ := h.delivers hd
    exact ⟨os', m', hd', hos, hm.like⟩

end Lockstep

theorem RunsAlike.mono {Told Told' : Outcome K → Outcome K → Prop}
    {Same Same' : Lexer K σ μ → Lexer K σ μ → Prop} (h : RunsAlike Told Same g g' l l')
    (htold : ∀ o o', Told o o' → Told' o o') (hsame : ∀ m m', Same m m' → Same' m m') :
    RunsAlike Told' Same' g g' l l' where
  steps n := by
    obtain ⟨hran, hout, hafter⟩ := h.steps n
    exact ⟨hran, hout.imp htold, hsame _ _ hafter⟩
  pulls os n m hd := by
    obtain ⟨os', m', hd', hos, hm⟩ := h.pulls os n m hd
    exact ⟨os', m', hd', hos.imp htold, hsame _ _ hm⟩

end Lexer

end StateLexer
