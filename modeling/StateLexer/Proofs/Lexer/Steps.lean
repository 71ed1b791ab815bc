import Mathlib.Logic.Function.Iterate
import StateLexer.Proofs.Lexer.Pulls
import StateLexer.Proofs.Program.Calls

/-! # Steps of a lexer

A pull takes steps until one of them settles it. Here the steps of pull after pull stand in one row,
with the states that they run, the calls of these states and the outcomes that settle the pulls. So
what a step keeps, any number of pulls keeps, and the tokens delivered and those still queued are
the tokens published by the calls, in the same order.
-/

namespace StateLexer.Lexer

variable {K σ μ : Type}

/-- What a step tells who pulls. -/
def Outcome.settled? : Outcome K → Option (Outcome K)
  | .unsettled => none
  | o => some o

def Outcome.token? : Outcome K → Option (Token K)
  | .token t => some t
  | _ => none

def current? (l : Lexer K σ μ) : Option (State K σ) :=
  match l.scanner.queue with
  | [] => l.state
  | _ :: _ => none

variable [TokenKind K] {g : Grammar K σ μ} {l l' m : Lexer K σ μ} {o : Outcome K} {n k : ℕ}
  {os : List (Outcome K)}

/-- The calls of the state that the next step runs. -/
def requests (g : Grammar K σ μ) (l : Lexer K σ μ) : List (Call K μ) :=
  match l.current? with
  | some state => (g.program state).calls l.scanner
  | none => []

def after (g : Grammar K σ μ) (n : ℕ) (l : Lexer K σ μ) : Lexer K σ μ :=
  (fun m => (m.step g).2)^[n] l

/-- The lexer at each of its first `n` steps. -/
def path (g : Grammar K σ μ) (n : ℕ) (l : Lexer K σ μ) : List (Lexer K σ μ) :=
  (List.range n).map fun i => l.after g i

def ran (g : Grammar K σ μ) (n : ℕ) (l : Lexer K σ μ) : List (State K σ) :=
  (l.path g n).filterMap current?

def calls (g : Grammar K σ μ) (n : ℕ) (l : Lexer K σ μ) : List (Call K μ) :=
  (l.path g n).flatMap (requests g)

def outcomes (g : Grammar K σ μ) (n : ℕ) (l : Lexer K σ μ) : List (Outcome K) :=
  (l.path g n).filterMap fun m => (m.step g).1.settled?

theorem after_succ (g : Grammar K σ μ) (n : ℕ) (l : Lexer K σ μ) :
    l.after g (n + 1) = ((l.after g n).step g).2 :=
  Function.iterate_succ_apply' _ n l

theorem after_add (g : Grammar K σ μ) (n k : ℕ) (l : Lexer K σ μ) :
    l.after g (n + k) = (l.after g n).after g k := by
  rw [Nat.add_comm]
  exact Function.iterate_add_apply _ k n l

theorem after_one (g : Grammar K σ μ) (l : Lexer K σ μ) : l.after g 1 = (l.step g).2 := rfl

theorem mem_path : m ∈ l.path g n ↔ ∃ i < n, l.after g i = m := by simp [path]

theorem path_succ (g : Grammar K σ μ) (n : ℕ) (l : Lexer K σ μ) :
    l.path g (n + 1) = l.path g n ++ [l.after g n] := by
  rw [path, List.range_succ, List.map_append]
  rfl

theorem path_add (g : Grammar K σ μ) (n k : ℕ) (l : Lexer K σ μ) :
    l.path g (n + k) = l.path g n ++ (l.after g n).path g k := by
  induction k with
  | zero => simp [path]
  | succ k ih => rw [← Nat.add_assoc, path_succ, path_succ, ih, after_add, List.append_assoc]

theorem calls_succ (g : Grammar K σ μ) (n : ℕ) (l : Lexer K σ μ) :
    l.calls g (n + 1) = l.calls g n ++ (l.after g n).requests g := by
  simp [calls, path_succ]

theorem calls_add (g : Grammar K σ μ) (n k : ℕ) (l : Lexer K σ μ) :
    l.calls g (n + k) = l.calls g n ++ (l.after g n).calls g k := by
  simp [calls, path_add]

theorem ran_add (g : Grammar K σ μ) (n k : ℕ) (l : Lexer K σ μ) :
    l.ran g (n + k) = l.ran g n ++ (l.after g n).ran g k := by
  simp [ran, path_add]

theorem ran_succ (g : Grammar K σ μ) (n : ℕ) (l : Lexer K σ μ) :
    l.ran g (n + 1) = l.ran g n ++ (l.after g n).current?.toList := by
  rw [ran, path_succ, List.filterMap_append, List.filterMap_cons, List.filterMap_nil]
  cases (l.after g n).current? <;> rfl

theorem outcomes_succ (g : Grammar K σ μ) (n : ℕ) (l : Lexer K σ μ) :
    l.outcomes g (n + 1) =
      l.outcomes g n ++ ((l.after g n).step g).1.settled?.toList := by
  rw [outcomes, path_succ, List.filterMap_append, List.filterMap_cons, List.filterMap_nil]
  cases ((l.after g n).step g).1.settled? <;> rfl

theorem outcomes_one (g : Grammar K σ μ) (l : Lexer K σ μ) :
    l.outcomes g 1 = (l.step g).1.settled?.toList := outcomes_succ g 0 l

theorem outcomes_add (g : Grammar K σ μ) (n k : ℕ) (l : Lexer K σ μ) :
    l.outcomes g (n + k) = l.outcomes g n ++ (l.after g n).outcomes g k := by
  simp [outcomes, path_add]

omit [TokenKind K] in
theorem Outcome.settled?_eq_some (h : o ≠ .unsettled) : o.settled? = some o := by
  cases o with
  | unsettled => exact absurd rfl h
  | token t => rfl
  | closed => rfl
  | faulted f => rfl

/-- A step delivers the oldest token of the queue, or runs the current state, or closes. -/
theorem step_cases (g : Grammar K σ μ) (l : Lexer K σ μ) :
    (∃ t rest, l.scanner.queue = t :: rest ∧ l.current? = none ∧
      l.step g =
        (.token t,
          { l with scanner := { l.scanner with queue := rest }, lastPosition := some t.position })) ∨
    (∃ state, l.scanner.queue = [] ∧ l.current? = some state ∧ l.step g = l.runState g state) ∨
    (l.scanner.queue = [] ∧ l.current? = none ∧ l.state = none ∧ l.step g = (.closed, l.close)) := by
  cases hq : l.scanner.queue with
  | cons t rest => exact .inl ⟨t, rest, rfl, by simp [current?, hq], by simp [step, hq]⟩
  | nil =>
    cases hs : l.state with
    | none => exact .inr (.inr ⟨rfl, by simp [current?, hq, hs], rfl, by simp [step, hq, hs]⟩)
    | some state =>
      exact .inr (.inl ⟨state, rfl, by simp [current?, hq, hs], by simp [step, hq, hs]⟩)

theorem step_of_current? {state : State K σ} (h : l.current? = some state) :
    l.step g = l.runState g state := by
  rcases step_cases g l with ⟨t, rest, -, hcur, -⟩ | ⟨state', -, hcur, hs⟩ | ⟨-, hcur, -⟩
  · cases h.symm.trans hcur
  · cases h.symm.trans hcur
    exact hs
  · cases h.symm.trans hcur

theorem step_of_running {state : State K σ} {next : Option (State K σ)} {s : Scanner K μ}
    (hqueue : l.scanner.queue = []) (hstate : l.state = some state)
    (hexec : (g.program state).exec l.scanner = (.ok next, s)) (hrunning : s.halted = false) :
    l.step g = (.unsettled, { l with scanner := s, state := next }) := by
  simp [step, hqueue, hstate, runState, hexec, hrunning]

theorem of_step_closed (h : l.step g = (.closed, m)) :
    l.scanner.queue = [] ∧ l.state = none ∧ l.close = m := by
  rcases step_cases g l with ⟨t, rest, -, -, hs⟩ | ⟨state, -, -, hs⟩ | ⟨hqueue, -, hstate, hs⟩
  · rw [h] at hs
    cases hs
  · rw [h, runState] at hs
    split at hs <;> cases hs
  · rw [h] at hs
    exact ⟨hqueue, hstate, (Prod.mk.inj hs).2.symm⟩

theorem scanner_runState (g : Grammar K σ μ) (state : State K σ) (l : Lexer K σ μ) :
    (l.runState g state).2.scanner = ((g.program state).exec l.scanner).2 := by
  unfold runState
  split <;> simp_all

omit [TokenKind K] in
theorem scanner_close (l : Lexer K σ μ) :
    l.close.scanner = l.scanner ∨
      l.close.scanner = l.scanner.note (.closed l.scanner.cursor.pos l.scanner.halted) := by
  unfold close
  split
  · exact .inl rfl
  · exact .inr rfl

omit [TokenKind K] in
theorem stream_close (l : Lexer K σ μ) : l.close.scanner.stream = l.scanner.stream := by
  unfold close
  split <;> rfl

/-- What requests, deliveries and the closing of the stream keep holds at every call of the first
steps and after them. -/
theorem keeps (Kept : Scanner K μ → Prop)
    (request : ∀ o s, Kept s → Kept (Op.perform o s).2)
    (deliver : ∀ s t rest, s.queue = t :: rest → Kept s → Kept { s with queue := rest })
    (close : ∀ s, Kept s → Kept (s.note (.closed s.cursor.pos s.halted))) (h : Kept l.scanner)
    (n : ℕ) :
    (∀ c ∈ l.calls g n, Kept c.scanner) ∧ Kept (l.after g n).scanner := by
  induction n with
  | zero => exact ⟨by simp [calls, path], h⟩
  | succ n ih =>
    obtain ⟨hcalls, hend⟩ := ih
    rw [calls_succ, after_succ]
    generalize l.after g n = m at hend
    have hstep : (∀ c ∈ m.requests g, Kept c.scanner) ∧ Kept (m.step g).2.scanner := by
      rcases step_cases g m with ⟨t, rest, hq, hcur, hs⟩ | ⟨state, -, hcur, hs⟩ | ⟨-, hcur, -, hs⟩
      · rw [requests, hcur, hs]
        exact ⟨by simp, deliver _ t rest hq hend⟩
      · rw [requests, hcur, hs, scanner_runState]
        exact ((g.program state).leads_calls m.scanner).keeps Kept request hend
      · rw [requests, hcur, hs]
        refine ⟨by simp, ?_⟩
        rcases scanner_close m with heq | heq <;> rw [heq]
        · exact hend
        · exact close _ hend
    refine ⟨?_, hstep.2⟩
    intro c hc
    rcases List.mem_append.mp hc with hc | hc
    · exact hcalls c hc
    · exact hstep.1 c hc

/-- What is delivered and what waits is what was published, in the order of publication. -/
theorem tokens_append_queue (g : Grammar K σ μ) (n : ℕ) (l : Lexer K σ μ) :
    (l.outcomes g n).filterMap Outcome.token? ++ (l.after g n).scanner.queue =
      l.scanner.queue ++ (l.calls g n).filterMap Call.token? := by
  induction n with
  | zero => simp [outcomes, calls, path, after]
  | succ n ih =>
    rw [outcomes_succ, after_succ, calls_succ]
    generalize l.after g n = m at ih
    have hstep : ((m.step g).1.settled?.toList).filterMap Outcome.token? ++ (m.step g).2.scanner.queue =
        m.scanner.queue ++ (m.requests g).filterMap Call.token? := by
      rcases step_cases g m with ⟨t, rest, hq, hcur, hs⟩ | ⟨state, hq, hcur, hs⟩ | ⟨hq, hcur, -, hs⟩
      · simp [requests, hcur, hs, hq, Outcome.settled?, Outcome.token?]
      · have hleads := (g.program state).leads_calls m.scanner
        have hnone : ((m.runState g state).1.settled?.toList).filterMap Outcome.token? = [] := by
          unfold runState
          split <;> rfl
        rw [hs, hnone, requests, hcur, scanner_runState, hleads.queue_eq]
        rfl
      · have hclose := congrArg Stream.queue (stream_close m)
        simp only [Scanner.stream] at hclose
        simp [requests, hcur, hs, hclose, hq, Outcome.settled?, Outcome.token?]
    rw [List.filterMap_append, List.append_assoc, hstep, ← List.append_assoc, ih,
      List.filterMap_append, List.append_assoc]

/-- After any number of steps, some pulls are finished and one is under way. -/
theorem delivers_outcomes (g : Grammar K σ μ) (n : ℕ) (l : Lexer K σ μ) :
    ∃ d k last, l.Delivers g (l.outcomes g n) d last ∧
      last.pull g k = (.unsettled, l.after g n) ∧ n = d + (l.outcomes g n).length + k := by
  induction n with
  | zero => exact ⟨0, 0, l, .nil, rfl, rfl⟩
  | succ n ih =>
    obtain ⟨d, k, last, hdelivers, hpull, hn⟩ := ih
    rw [after_succ, outcomes_succ]
    cases hs : (l.after g n).step g with
    | mk o m =>
      by_cases ho : o = .unsettled
      · subst ho
        refine ⟨d, k + 1, last, ?_, ?_, ?_⟩
        · simpa [Outcome.settled?] using hdelivers
        · rw [pull_add hpull, pull_one, hs]
        · simp only [Outcome.settled?, Option.toList_none, List.append_nil]
          omega
      · rw [Outcome.settled?_eq_some ho, Option.toList_some]
        refine ⟨d + k, 0, m, hdelivers.pull (.resume hpull hs ho), rfl, ?_⟩
        rw [List.length_append, List.length_singleton]
        omega

theorem delivers_of_settled (h : (l.after g n).step g = (o, m)) (ho : o ≠ .unsettled) :
    ∃ d, l.Delivers g (l.outcomes g n ++ [o]) d m ∧ n = d + (l.outcomes g n).length := by
  obtain ⟨d, k, last, hdelivers, hpull, hn⟩ := delivers_outcomes g n l
  exact ⟨d + k, hdelivers.pull (.resume hpull h ho), by omega⟩

theorem Pulls.steps (h : Pulls g l o n l') :
    l.outcomes g (n + 1) = [o] ∧ l.after g (n + 1) = l' := by
  induction n generalizing l with
  | zero =>
    rw [Nat.zero_add, outcomes_one, after_one, h.step_eq, Outcome.settled?_eq_some h.settled]
    exact ⟨rfl, rfl⟩
  | succ n ih =>
    obtain ⟨m, hs, hrest⟩ := h.of_succ
    obtain ⟨hout, hafter⟩ := ih hrest
    rw [Nat.add_comm (n + 1) 1, outcomes_add, after_add, after_one, outcomes_one, hs, hout, hafter]
    exact ⟨rfl, rfl⟩

theorem Delivers.steps (h : l.Delivers g os n l') :
    l.outcomes g (n + os.length) = os ∧ l.after g (n + os.length) = l' := by
  induction h with
  | nil => exact ⟨rfl, rfl⟩
  | @pull os n k m l' o _ hp ih =>
    obtain ⟨hout, hafter⟩ := ih
    obtain ⟨hout', hafter'⟩ := hp.steps
    have hlen : n + k + (os ++ [o]).length = (n + os.length) + (k + 1) := by
      rw [List.length_append, List.length_singleton]
      omega
    rw [hlen, outcomes_add, after_add g (n + os.length), hout, hafter, hout', hafter']
    exact ⟨rfl, rfl⟩

/-- Some steps lead from `l` to `l'`, and tell `os`. -/
def Takes (g : Grammar K σ μ) (l : Lexer K σ μ) (os : List (Outcome K)) (l' : Lexer K σ μ) : Prop :=
  ∃ n, l.outcomes g n = os ∧ l.after g n = l'

namespace Takes

theorem refl (g : Grammar K σ μ) (l : Lexer K σ μ) : l.Takes g [] l := ⟨0, rfl, rfl⟩

theorem trans {os' : List (Outcome K)} (h : l.Takes g os m) (h' : m.Takes g os' l') :
    l.Takes g (os ++ os') l' := by
  obtain ⟨n, hout, hafter⟩ := h
  obtain ⟨k, hout', hafter'⟩ := h'
  refine ⟨n + k, ?_, ?_⟩
  · rw [outcomes_add, hafter, hout, hout']
  · rw [after_add, hafter, hafter']

theorem of_step (h : l.step g = (o, m)) : l.Takes g o.settled?.toList m :=
  ⟨1, by rw [outcomes_one, h], by rw [after_one, h]⟩

theorem delivers (h : l.Takes g os m) (hend : m.step g = (.closed, l')) (j : ℕ) :
    ∃ n, l.Delivers g (os ++ List.replicate (j + 1) .closed) n l' := by
  obtain ⟨n, rfl, rfl⟩ := h
  obtain ⟨d, hdelivers, -⟩ := delivers_of_settled hend nofun
  exact ⟨d, (hdelivers.closed_again j).1⟩

end Takes

theorem drain_of_token {t : Token K} (h : l.step g = (.token t, m)) (fuel : ℕ) :
    l.drain g (fuel + 1) = (t :: (m.drain g fuel).1, (m.drain g fuel).2) := by
  rw [drain, h]

theorem drain_of_unsettled (h : l.step g = (.unsettled, m)) (fuel : ℕ) :
    l.drain g (fuel + 1) = m.drain g fuel := by
  rw [drain, h]

theorem drain_of_end (h : l.step g = (o, m)) (ho : o.token? = none) (hs : o ≠ .unsettled)
    (fuel : ℕ) : l.drain g (fuel + 1) = ([], o, m) := by
  rw [drain, h]
  cases o with
  | token t => cases ho
  | unsettled => exact absurd rfl hs
  | closed => rfl
  | faulted f => rfl

theorem takes_of_drain {ts : List (Token K)} {fuel : ℕ} (h : l.drain g fuel = (ts, o, l'))
    (ho : o ≠ .unsettled) :
    o.token? = none ∧ ∃ m, l.Takes g (ts.map .token) m ∧ m.step g = (o, l') := by
  induction fuel generalizing l ts with
  | zero =>
    cases h
    exact absurd rfl ho
  | succ fuel ih =>
    cases hstep : l.step g with
    | mk o₁ m₁ =>
      cases o₁ with
      | token t =>
        rw [drain_of_token hstep] at h
        obtain ⟨rfl, hrest⟩ := Prod.mk.inj h
        obtain ⟨hend, m, htakes, hlast⟩ := ih (Prod.ext rfl hrest)
        exact ⟨hend, m, (Takes.of_step hstep).trans htakes, hlast⟩
      | unsettled =>
        rw [drain_of_unsettled hstep] at h
        obtain ⟨hend, m, htakes, hlast⟩ := ih h
        exact ⟨hend, m, (Takes.of_step hstep).trans htakes, hlast⟩
      | closed =>
        rw [drain_of_end hstep rfl nofun] at h
        cases h
        exact ⟨rfl, l, .refl g l, hstep⟩
      | faulted f =>
        rw [drain_of_end hstep rfl nofun] at h
        cases h
        exact ⟨rfl, l, .refl g l, hstep⟩

theorem Pulls.drain_eq (h : Pulls g l o n l') (ho : o.token? = none) :
    l.drain g (n + 1) = ([], o, l') := by
  induction n generalizing l with
  | zero => exact drain_of_end h.step_eq ho h.settled 0
  | succ n ih =>
    obtain ⟨m, hstep, hrest⟩ := h.of_succ
    rw [drain_of_unsettled hstep, ih hrest]

theorem drain_add {ts : List (Token K)} (h : l.outcomes g n = ts.map .token) (fuel : ℕ) :
    l.drain g (n + fuel) =
      (ts ++ ((l.after g n).drain g fuel).1, ((l.after g n).drain g fuel).2) := by
  induction n generalizing l ts with
  | zero =>
    obtain rfl : ts = [] := List.map_eq_nil_iff.mp h.symm
    rw [Nat.zero_add]
    rfl
  | succ n ih =>
    rw [Nat.add_comm n 1, outcomes_add, outcomes_one, after_one] at h
    rw [Nat.add_right_comm, Nat.add_comm n 1, after_add, after_one]
    cases hstep : l.step g with
    | mk o m =>
      rw [hstep] at h
      cases o with
      | unsettled => rw [drain_of_unsettled hstep, ih h]
      | token t =>
        obtain ⟨t', rest, rfl, ht, hrest⟩ := List.map_eq_cons_iff.mp h.symm
        cases ht
        rw [drain_of_token hstep, ih hrest.symm]
        rfl
      | closed =>
        obtain ⟨t', rest, -, ht, -⟩ := List.map_eq_cons_iff.mp h.symm
        cases ht
      | faulted f =>
        obtain ⟨t', rest, -, ht, -⟩ := List.map_eq_cons_iff.mp h.symm
        cases ht

/-- To drain a lexer with enough fuel is to pull it until there is no token: the tokens come in the
same order, then the same outcome, and the lexer is left as it is then. -/
theorem drain_eq_iff {ts : List (Token K)} (ho : o ≠ .unsettled) :
    (∃ fuel, l.drain g fuel = (ts, o, l')) ↔
      o.token? = none ∧ ∃ n, l.Delivers g (ts.map .token ++ [o]) n l' := by
  constructor
  · rintro ⟨fuel, h⟩
    obtain ⟨hend, m, ⟨n, hout, hafter⟩, hstep⟩ := takes_of_drain h ho
    rw [← hafter] at hstep
    obtain ⟨d, hdelivers, -⟩ := delivers_of_settled hstep ho
    rw [hout] at hdelivers
    exact ⟨hend, d, hdelivers⟩
  · rintro ⟨hend, n, h⟩
    obtain ⟨d, k, m, hrest, hlast⟩ := h.of_concat
    obtain ⟨hout, hafter⟩ := hrest.steps
    exact ⟨_, by rw [drain_add hout, hafter, hlast.drain_eq hend, List.append_nil]⟩

/-- Every pull comes to its end, whatever was pulled before. -/
def Settles (g : Grammar K σ μ) (l : Lexer K σ μ) : Prop :=
  ∀ os n m, l.Delivers g os n m → ∃ o k m', Pulls g m o k m'

theorem Settles.pulls_after (h : l.Settles g) (n : ℕ) :
    ∃ o k l', Pulls g (l.after g n) o k l' := by
  obtain ⟨d, k, last, hdelivers, hpull, -⟩ := delivers_outcomes g n l
  obtain ⟨o, k', l', hp⟩ := h _ _ _ hdelivers
  have hle : k ≤ k' := by
    by_contra hlt
    have hsettled := hp.pull_of_lt (Nat.lt_of_not_le hlt)
    rw [hpull] at hsettled
    exact hp.settled (Prod.mk.inj hsettled).1.symm
  obtain ⟨j, rfl⟩ := Nat.exists_eq_add_of_le hle
  refine ⟨o, j, l', hp.settled, ?_, ?_⟩
  · rw [← pull_add hpull]
    exact hp.pull_eq
  · rw [← pull_add hpull]
    exact hp.pull_unsettled

theorem pulls_of_settled {j : ℕ} (h : ((l.after g j).step g).1 ≠ .unsettled) :
    ∃ o k l', Pulls g l o k l' := by
  induction j generalizing l with
  | zero => exact ⟨_, 0, _, .settle rfl h⟩
  | succ j ih =>
    cases hs : l.step g with
    | mk o m =>
      by_cases ho : o = .unsettled
      · subst ho
        rw [Nat.add_comm, after_add, after_one, hs] at h
        obtain ⟨o, k, l', hp⟩ := ih h
        exact ⟨o, k + 1, l', hp.run hs⟩
      · exact ⟨o, 0, m, .settle hs ho⟩

/-- A lexer that closes at last settles every pull: it cannot be stuck before, and stays closed. -/
theorem settles_of_closed (h : ((l.after g k).step g).1 = .closed) : l.Settles g := by
  intro os n m hdelivers
  obtain ⟨-, rfl⟩ := hdelivers.steps
  rcases Nat.le_total (n + os.length) k with hle | hle
  · obtain ⟨j, rfl⟩ := Nat.exists_eq_add_of_le hle
    rw [after_add] at h
    exact pulls_of_settled (by rw [h]; nofun)
  · obtain ⟨j, hj⟩ := Nat.exists_eq_add_of_le hle
    rw [hj, after_add]
    generalize l.after g k = m at h
    cases hs : m.step g with
    | mk o c =>
      obtain rfl : o = .closed := by rw [← h, hs]
      cases j with
      | zero => exact ⟨_, 0, c, .settle hs nofun⟩
      | succ j =>
        have hagain := step_closed_again hs
        have hstays : c.after g j = c := Function.iterate_fixed (congrArg Prod.snd hagain) j
        rw [Nat.add_comm, after_add, after_one, hs, hstays]
        exact ⟨_, 0, c, .settle hagain nofun⟩

end StateLexer.Lexer
