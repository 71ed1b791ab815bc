import StateLexer.Proofs.Lexer.Steps
import StateLexer.Proofs.Program.Uses
import StateLexer.Proofs.Scanner.Tiling

/-! # A failure ends the stream

A scan fails when a state asks for it while the scanner has not halted. Whatever that state goes on
to do, it publishes no more, and no state is run after it. So the tokens published before and the
one of the failure are delivered, and then the stream is closed.
-/

namespace StateLexer

variable {K σ μ : Type} [TokenKind K] {g : Grammar K σ μ} {l l' : Lexer K σ μ} {n : ℕ}
  {before later : List (Call K μ)} {c : Call K μ} {message : String} {os : List (Lexer.Outcome K)}

namespace Lexer

theorem exists_step_of_calls (h : l.calls g n = before ++ c :: later) :
    ∃ i j a b, n = i + 1 + j ∧ (l.after g i).requests g = a ++ c :: b ∧
      before = l.calls g i ++ a ∧ later = b ++ (l.after g (i + 1)).calls g j := by
  induction n generalizing later with
  | zero => simp [calls, path] at h
  | succ n ih =>
    rw [calls_succ] at h
    rcases List.append_eq_append_iff.mp h with ⟨a, rfl, hreq⟩ | ⟨b, hcalls, hrest⟩
    · exact ⟨n, 0, a, later, rfl, hreq, rfl, (List.append_nil _).symm⟩
    · cases b with
      | nil =>
        rw [List.append_nil] at hcalls
        exact ⟨n, 0, [], later, rfl, hrest.symm, by rw [hcalls, List.append_nil],
          (List.append_nil _).symm⟩
      | cons d b =>
        obtain ⟨rfl, rfl⟩ : c = d ∧ later = b ++ (l.after g n).requests g := List.cons.inj hrest
        obtain ⟨i, j, a, b', rfl, hreq, hbefore, rfl⟩ := ih hcalls
        refine ⟨i, j + 1, a, b', rfl, hreq, hbefore, ?_⟩
        rw [calls_succ, ← after_add, List.append_assoc]

omit [TokenKind K] in
theorem current?_of_state (h : l.state = none) : l.current? = none := by
  unfold current?
  cases l.scanner.queue <;> simp [h]

theorem requests_of_state (h : l.state = none) : l.requests g = [] := by
  rw [requests, current?_of_state h]

/-- No state is left in `m`, which tells as much of the last token and of a failure as `l`. -/
structure Spent (l m : Lexer K σ μ) : Prop where
  state_eq : m.state = none
  lastKind_eq : m.scanner.lastKind = l.scanner.lastKind
  lastSignificant_eq : m.scanner.lastSignificant = l.scanner.lastSignificant
  halted_eq : m.scanner.halted = l.scanner.halted

theorem spent_step (h : l.state = none) : l.Spent (l.step g).2 := by
  have hcur := current?_of_state h
  rcases step_cases g l with ⟨t, rest, -, -, hs⟩ | ⟨state, -, hstate, -⟩ | ⟨-, -, -, hs⟩
  · rw [hs]
    exact ⟨h, rfl, rfl, rfl⟩
  · rw [hcur] at hstate
    cases hstate
  · have hclose : l.close.state = none := by
      rw [close]
      split <;> exact h
    have hstream := stream_close l
    rw [hs]
    exact ⟨hclose, congrArg Stream.lastKind hstream, congrArg Stream.lastSignificant hstream,
      congrArg Stream.halted hstream⟩

theorem spent_after (h : l.state = none) (n : ℕ) : l.Spent (l.after g n) := by
  induction n with
  | zero => exact ⟨h, rfl, rfl, rfl⟩
  | succ n ih =>
    have hstep := spent_step (g := g) ih.state_eq
    rw [after_succ]
    exact ⟨hstep.state_eq, hstep.lastKind_eq.trans ih.lastKind_eq,
      hstep.lastSignificant_eq.trans ih.lastSignificant_eq, hstep.halted_eq.trans ih.halted_eq⟩

theorem ran_of_state (h : l.state = none) (n : ℕ) : l.ran g n = [] ∧ l.calls g n = [] := by
  constructor
  · rw [ran, List.filterMap_eq_nil_iff]
    intro m hm
    obtain ⟨i, -, rfl⟩ := mem_path.mp hm
    exact current?_of_state (spent_after h i).state_eq
  · rw [calls, List.flatMap_eq_nil_iff]
    intro m hm
    obtain ⟨i, -, rfl⟩ := mem_path.mp hm
    exact requests_of_state (spent_after h i).state_eq

theorem mem_calls_of_state {k : ℕ} (h : (l.after g k).state = none) (hc : c ∈ l.calls g n) :
    c ∈ l.calls g k := by
  rcases Nat.le_total n k with hle | hle
  · obtain ⟨j, rfl⟩ := Nat.exists_eq_add_of_le hle
    rw [calls_add]
    exact List.mem_append_left _ hc
  · obtain ⟨j, rfl⟩ := Nat.exists_eq_add_of_le hle
    rwa [calls_add, (ran_of_state h j).2, List.append_nil] at hc

theorem outcomes_of_closed (h : l.step g = (.closed, l)) (j : ℕ) :
    l.outcomes g j = List.replicate j .closed ∧ l.after g j = l := by
  induction j with
  | zero => exact ⟨rfl, rfl⟩
  | succ j ih =>
    rw [outcomes_succ, after_succ, ih.1, ih.2, h, List.replicate_succ']
    exact ⟨rfl, rfl⟩

theorem outcomes_of_state {ts : List (Token K)} (h : l.state = none) (hq : l.scanner.queue = ts)
    (j : ℕ) :
    l.outcomes g (ts.length + j) = ts.map .token ++ List.replicate j .closed := by
  induction ts generalizing l with
  | nil =>
    have hs : l.step g = (.closed, l.close) := by simp [step, hq, h]
    cases j with
    | zero => rfl
    | succ j =>
      rw [List.length_nil, Nat.zero_add, Nat.add_comm, outcomes_add, outcomes_one, after_one, hs,
        (outcomes_of_closed (step_closed_again hs) j).1, Nat.add_comm, List.replicate_succ]
      rfl
  | cons t ts ih =>
    rw [List.length_cons, Nat.add_right_comm, Nat.add_comm _ 1, outcomes_add, outcomes_one, after_one]
    have hs : (l.step g).1 = .token t := by simp [step, hq]
    have hrest : (l.step g).2.scanner.queue = ts := by simp [step, hq]
    rw [ih (spent_step h).state_eq hrest, hs]
    rfl

omit [TokenKind K] in
theorem filterMap_token? (ts : List (Token K)) :
    (ts.map Outcome.token).filterMap Outcome.token? = ts := by
  rw [List.filterMap_map]
  exact List.filterMap_some

theorem outcomes_eq_tokens (h : (l.after g n).state ≠ none) :
    ∃ ts : List (Token K), l.outcomes g n = ts.map .token := by
  induction n with
  | zero => exact ⟨[], rfl⟩
  | succ n ih =>
    rw [after_succ] at h
    rw [outcomes_succ]
    have hbefore : (l.after g n).state ≠ none := fun hnone => h (spent_step hnone).state_eq
    obtain ⟨ts, hts⟩ := ih hbefore
    rw [hts]
    rcases step_cases g (l.after g n) with
      ⟨t, rest, -, -, hs⟩ | ⟨state, -, -, hs⟩ | ⟨-, -, hnone, -⟩
    · exact ⟨ts ++ [t], by rw [hs, List.map_append]; rfl⟩
    · refine ⟨ts, ?_⟩
      rw [hs] at h ⊢
      unfold runState at h ⊢
      split
      · exact List.append_nil _
      · rename_i hexec
        rw [hexec] at h
        exact absurd rfl h
    · exact absurd hnone hbefore

theorem runState_of_halted {state : State K σ}
    (h : ((g.program state).exec l.scanner).2.halted = true) :
    (l.runState g state).2.state = none ∧
      ((l.runState g state).1 = .unsettled ∨ ∃ f, (l.runState g state).1 = .faulted f) := by
  unfold runState
  split
  · rename_i hexec
    rw [hexec] at h
    exact ⟨if_pos h, .inl rfl⟩
  · exact ⟨rfl, .inr ⟨_, rfl⟩⟩

/-- The step of `l` that runs a failing state makes the calls `a` before the failing call `c`, and `b`
behind it. It leaves no state and nothing but what was published up to the failure. -/
structure StepFails (g : Grammar K σ μ) (l : Lexer K σ μ) (a : List (Call K μ)) (c : Call K μ)
    (b : List (Call K μ)) (message : String) : Prop where
  queue_empty : l.scanner.queue = []
  state_ne : l.state ≠ none
  queue_eq : c.scanner.queue = a.filterMap Call.token?
  stream_later : ∀ d ∈ b, d.scanner.stream = c.scanner.failed message
  stream_after : (l.step g).2.scanner.stream = c.scanner.failed message
  state_after : (l.step g).2.state = none
  outcome : (l.step g).1 = .unsettled ∨ ∃ f, (l.step g).1 = .faulted f

theorem stepFails {a b : List (Call K μ)} (h : l.requests g = a ++ c :: b)
    (hop : c.op = .fail message) (hc : c.scanner.halted = false) :
    l.StepFails g a c b message := by
  rcases step_cases g l with ⟨t, rest, -, hcur, -⟩ | ⟨state, hq, hcur, hs⟩ | ⟨-, hcur, -, -⟩
  · simp [requests, hcur] at h
  · have hleads := (g.program state).leads_calls l.scanner
    have hcalls : (g.program state).calls l.scanner = a ++ c :: b := by rwa [requests, hcur] at h
    rw [hcalls] at hleads
    obtain ⟨hqueue, hlater, hstream⟩ := hleads.of_fail hop hc
    rw [hq, List.nil_append] at hqueue
    have hstate : l.state ≠ none := by
      intro hnone
      rw [current?_of_state hnone] at hcur
      cases hcur
    obtain ⟨hnone, houtcome⟩ := runState_of_halted (congrArg Stream.halted hstream)
    exact
      { queue_empty := hq, state_ne := hstate, queue_eq := hqueue, stream_later := hlater
        stream_after := by rw [hs, scanner_runState, hstream]
        state_after := by rw [hs, hnone]
        outcome := by rwa [hs] }
  · simp [requests, hcur] at h

theorem stream_after_failing (h : l.calls g n = before ++ c :: later)
    (hop : c.op = .fail message) (hc : c.scanner.halted = false) :
    ∀ d ∈ later, d.scanner.stream = c.scanner.failed message := by
  obtain ⟨i, j, a, b, -, hreq, -, rfl⟩ := exists_step_of_calls h
  have hfails := stepFails hreq hop hc
  have hstate := hfails.state_after
  rw [← after_succ] at hstate
  intro d hd
  rw [(ran_of_state hstate j).2, List.append_nil] at hd
  exact hfails.stream_later d hd

theorem delivers_failing (hq : l.scanner.queue = []) (h : l.calls g n = before ++ c :: later)
    (hop : c.op = .fail message) (hc : c.scanner.halted = false) {tokens : List (Token K)}
    (ht : tokens = before.filterMap Call.token? ++ [c.scanner.failure message]) :
    ∃ os, os.filterMap Outcome.token? = tokens ∧
      (os = tokens.map .token ∨
        ∃ i f, os = (tokens.take i).map .token ++ .faulted f :: (tokens.drop i).map .token) ∧
      ∀ j, ∃ d l', l.Delivers g (os ++ List.replicate j .closed) d l' := by
  obtain ⟨i, -, a, b, -, hreq, rfl, -⟩ := exists_step_of_calls h
  have hfails := stepFails hreq hop hc
  have hstate := hfails.state_after
  have hrest := congrArg Stream.queue hfails.stream_after
  rw [← after_succ] at hstate hrest
  obtain ⟨ts, hts⟩ := outcomes_eq_tokens hfails.state_ne
  have hdelivered := tokens_append_queue g i l
  rw [hfails.queue_empty, hq, List.append_nil, List.nil_append, hts, filterMap_token?] at hdelivered
  have htokens : tokens = ts ++ (c.scanner.failed message).queue := by
    rw [ht, List.filterMap_append, ← hdelivered, ← hfails.queue_eq, List.append_assoc]
    rfl
  -- the steps up to the failing one, that step, and the steps that empty the queue
  refine ⟨ts.map .token ++ ((l.after g i).step g).1.settled?.toList ++
    (c.scanner.failed message).queue.map .token, ?_, ?_, ?_⟩
  · have hsettled : ((l.after g i).step g).1.settled?.toList.filterMap Outcome.token? = [] := by
      rcases hfails.outcome with ho | ⟨f, ho⟩ <;> rw [ho] <;> rfl
    rw [List.filterMap_append, List.filterMap_append, hsettled, filterMap_token?, filterMap_token?,
      List.append_nil, htokens]
  · rcases hfails.outcome with ho | ⟨f, ho⟩
    · left
      rw [ho, htokens, List.map_append]
      simp [Outcome.settled?]
    · right
      refine ⟨ts.length, f, ?_⟩
      rw [ho, htokens, List.take_left, List.drop_left]
      simp [Outcome.settled?]
  · intro j
    obtain ⟨d, k, l', hdelivers, -, -⟩ :=
      delivers_outcomes g (i + 1 + ((c.scanner.failed message).queue.length + j)) l
    rw [outcomes_add, outcomes_of_state hstate hrest, outcomes_succ, hts,
      ← List.append_assoc] at hdelivers
    exact ⟨d, l', hdelivers⟩

theorem no_token_after_failing (h : l.calls g n = before ++ c :: later)
    (hop : c.op = .fail message) (hc : c.scanner.halted = false) :
    later.filterMap Call.token? = [] := by
  rw [List.filterMap_eq_nil_iff]
  intro d hd
  exact Call.token?_of_halted (congrArg Stream.halted (stream_after_failing h hop hc d hd))

theorem of_delivers_closed (hq : l.scanner.queue = []) (h : l.Delivers g (os ++ [.closed]) n l') :
    ∃ k, os.filterMap Outcome.token? = (l.calls g k).filterMap Call.token? ∧
      ∀ j, ∀ d ∈ l.calls g j, d ∈ l.calls g k := by
  obtain ⟨hout, hafter⟩ := h.steps
  obtain ⟨hqueue, hstate, -⟩ := of_step_closed (h.closed_again 0).2.step_eq
  refine ⟨n + (os ++ [Outcome.closed]).length, ?_, ?_⟩
  · have htokens := tokens_append_queue g (n + (os ++ [Outcome.closed]).length) l
    rw [hout, hafter, hqueue, hq, List.filterMap_append, List.append_nil, List.nil_append] at htokens
    exact (List.append_nil _).symm.trans htokens
  · intro j d hd
    rcases Nat.le_total j (n + (os ++ [Outcome.closed]).length) with hle | hle
    · obtain ⟨k, hk⟩ := Nat.exists_eq_add_of_le hle
      rw [hk, calls_add]
      exact List.mem_append_left _ hd
    · obtain ⟨k, rfl⟩ := Nat.exists_eq_add_of_le hle
      rwa [calls_add, hafter, (ran_of_state hstate k).2, List.append_nil] at hd

end Lexer

theorem Call.isError_token?_iff [DecidableEq K] {t : Token K} (ht : c.token? = some t)
    (hc : ¬ c.op.Emits TokenKind.error) : t.isError = true ↔ c.Fails := by
  unfold token? at ht
  split at ht
  · cases ht
  · rename_i hhalted
    obtain ⟨o, s⟩ := c
    cases o with
    | fail message =>
      cases ht
      simpa [Call.Fails, Token.isError, Scanner.failure] using hhalted
    | publish kind text =>
      cases ht
      have hkind : kind ≠ TokenKind.error := fun hk => hc (.inr ⟨text, by rw [hk]⟩)
      simp [Call.Fails, Token.isError, hkind]
    | publishSpan kind =>
      obtain ⟨text, -, rfl⟩ := Option.map_eq_some_iff.mp ht
      have hkind : kind ≠ TokenKind.error := fun hk => hc (.inl (by rw [hk]))
      simp [Call.Fails, Token.isError, hkind]
    | _ => cases ht

namespace Lexer

theorem error_is_last [DecidableEq K] (honly : ∀ d ∈ l.calls g n, ¬ d.op.Emits TokenKind.error)
    (hmem : c ∈ l.calls g n) (hc : c.Fails) :
    ∃ front t, (l.calls g n).filterMap Call.token? = front ++ [t] ∧ t.isError = true ∧
      ∀ u ∈ front, u.isError = false := by
  obtain ⟨hhalted, message, hop⟩ := hc
  obtain ⟨before, later, hsplit⟩ := List.append_of_mem hmem
  have htoken := Call.token?_of_fail hop hhalted
  refine ⟨before.filterMap Call.token?, c.scanner.failure message, ?_, ?_, ?_⟩
  · rw [hsplit, List.filterMap_append, List.filterMap_cons_some htoken,
      no_token_after_failing hsplit hop hhalted]
  · exact (Call.isError_token?_iff htoken (honly c hmem)).mpr ⟨hhalted, message, hop⟩
  · intro u hu
    obtain ⟨d, hd, hdu⟩ := List.mem_filterMap.mp hu
    have hdmem : d ∈ l.calls g n := by
      rw [hsplit]
      exact List.mem_append_left _ hd
    by_contra herror
    -- an earlier failure would have halted the scanner that `c` finds running
    obtain ⟨hdhalted, m, hdop⟩ :=
      (Call.isError_token?_iff hdu (honly d hdmem)).mp (by simpa using herror)
    obtain ⟨a, b, rfl⟩ := List.append_of_mem hd
    have hsplit' : l.calls g n = a ++ d :: (b ++ c :: later) := by
      rw [hsplit, List.append_assoc, List.cons_append]
    have hstream := stream_after_failing hsplit' hdop hdhalted c (by simp)
    have hcontra : c.scanner.halted = true := congrArg Stream.halted hstream
    rw [hhalted] at hcontra
    cases hcontra

end Lexer

namespace Command

theorem stream_of_halted (command : Command K σ μ) {s : Scanner K μ} (h : s.halted = true) :
    (command.program.exec s).2.stream = s.stream :=
  ((command.program.leads_calls s).stream_of_halted h).2

theorem cursor_exec (command : Command K σ μ) {s s' : Scanner K μ} (h : s.ReadsLike s') :
    (command.program.exec s).2.cursor = (command.program.exec s').2.cursor := by
  cases command with
  | op o =>
    have hexec : ∀ u : Scanner K μ,
        ((Command.op o : Command K σ μ).program.exec u).2 = (o.perform u).2 := by
      intro u
      simp only [program, Program.request, Program.bind, Program.exec]
      cases ho : o.perform u with
      | mk r v => cases r <;> rfl
    rw [hexec, hexec]
    exact (h.perform o).1.cursor
  | number kind =>
    refine (h.exec (p := (Command.number kind : Command K σ μ).program) ?_).2.cursor
    exact (Program.publishNumber_uses (by simp [Op.AsksBack]) (by simp [Op.AsksBack])
      (by simp [Op.AsksBack]) (by simp [Op.AsksBack])).bind fun _ => trivial
  | run kind test resume =>
    refine (h.exec (p := (Command.run kind test resume).program) ?_).2.cursor
    exact (Program.publishRun_uses (by simp [Op.AsksBack]) (by simp [Op.AsksBack])
      (by simp [Op.AsksBack])).bind fun _ => trivial

end Command

namespace Lexer

/-- The call `c` among those of the first `n` steps fails with the token `error`. Nothing is
published after it and no state is run after its own, which may break off at that. -/
structure FailsWith (g : Grammar K σ μ) (l : Lexer K σ μ) (n : ℕ) (before : List (Call K μ))
    (c : Call K μ) (later : List (Call K μ)) (error : Token K) : Prop where
  delivers :
    let tokens := before.filterMap Call.token? ++ [error]
    ∃ os, os.filterMap Outcome.token? = tokens ∧
      (os = tokens.map .token ∨
        ∃ i f, os = (tokens.take i).map .token ++ .faulted f :: (tokens.drop i).map .token) ∧
      ∀ j, ∃ d l', l.Delivers g (os ++ List.replicate j .closed) d l'
  stream_eq : ∀ d ∈ later, d.scanner.stream =
    ⟨c.scanner.queue ++ [error], some TokenKind.error, c.scanner.lastSignificant, true⟩
  halted : ∀ k, (l.after g (n + k)).scanner.halted = true
  lastKind : ∀ k, (l.after g (n + k)).scanner.lastKind = some TokenKind.error
  lastSignificant : ∀ k, (l.after g (n + k)).scanner.lastSignificant = c.scanner.lastSignificant
  ran_eq : ∀ k, l.ran g (n + k) = l.ran g n
  calls_eq : ∀ k, l.calls g (n + k) = l.calls g n

theorem failsWith (hq : l.scanner.queue = []) (h : l.calls g n = before ++ c :: later)
    (hop : c.op = .fail message) (hc : c.scanner.halted = false) :
    l.FailsWith g n before c later (c.scanner.failure message) := by
  obtain ⟨i, j, a, b, hn, hreq, -, -⟩ := exists_step_of_calls h
  have hstream := (stepFails hreq hop hc).stream_after
  have hstate := (stepFails hreq hop hc).state_after
  rw [← after_succ] at hstream hstate
  have hafter : ∀ k, l.after g (n + k) = (l.after g (i + 1)).after g (j + k) := by
    intro k
    rw [hn, Nat.add_assoc, after_add]
  have hran : ∀ k, l.ran g (i + 1 + k) = l.ran g (i + 1) := by
    intro k
    rw [ran_add, (ran_of_state hstate k).1, List.append_nil]
  have hcalls : ∀ k, l.calls g (i + 1 + k) = l.calls g (i + 1) := by
    intro k
    rw [calls_add, (ran_of_state hstate k).2, List.append_nil]
  refine
    { delivers := delivers_failing hq h hop hc rfl
      stream_eq := stream_after_failing h hop hc
      halted := ?halted, lastKind := ?kind, lastSignificant := ?significant
      ran_eq := ?ran, calls_eq := ?calls }
  case halted =>
    intro k
    rw [hafter, (spent_after hstate (j + k)).halted_eq]
    exact congrArg Stream.halted hstream
  case kind =>
    intro k
    rw [hafter, (spent_after hstate (j + k)).lastKind_eq]
    exact congrArg Stream.lastKind hstream
  case significant =>
    intro k
    rw [hafter, (spent_after hstate (j + k)).lastSignificant_eq]
    exact congrArg Stream.lastSignificant hstream
  case ran =>
    intro k
    rw [hn, Nat.add_assoc, hran, hran]
  case calls =>
    intro k
    rw [hn, Nat.add_assoc, hcalls, hcalls]

/-- A failure ends the stream. From then on nothing that any state asks for changes what is still to
be delivered, though the cursor moves as before. If no state publishes error tokens itself, the
tokens of a finished stream contain one exactly if a state failed, and then it is the last one. -/
structure FailureFinal [DecidableEq K] (g : Grammar K σ μ) (l : Lexer K σ μ) : Prop where
  failing : ∀ n before c later message, l.calls g n = before ++ c :: later →
    c.op = .fail message → c.scanner.halted = false →
    l.FailsWith g n before c later ⟨TokenKind.error, c.scanner.cursor.startPosition, message⟩
  stream_exec : ∀ (command : Command K σ μ) (s : Scanner K μ), s.halted = true →
    (command.program.exec s).2.stream = s.stream
  cursor_exec : ∀ (command : Command K σ μ) (s : Scanner K μ), s.halted = true →
    (command.program.exec s).2.cursor = (command.program.exec { s with halted := false }).2.cursor
  error_iff : ∀ os d l', l.Delivers g (os ++ [.closed]) d l' →
    (∀ n, ∀ c ∈ l.calls g n, ¬ c.op.Emits TokenKind.error) →
    ((∃ t ∈ os.filterMap Outcome.token?, t.isError = true) ↔ ∃ n, ∃ c ∈ l.calls g n, c.Fails)
  error_last : ∀ os d l', l.Delivers g (os ++ [.closed]) d l' →
    (∀ n, ∀ c ∈ l.calls g n, ¬ c.op.Emits TokenKind.error) →
    (∃ t ∈ os.filterMap Outcome.token?, t.isError = true) →
    ∃ front t, os.filterMap Outcome.token? = front ++ [t] ∧ t.isError = true ∧
      ∀ u ∈ front, u.isError = false

theorem exists_fails_of_isError [DecidableEq K] {t : Token K}
    (honly : ∀ d ∈ l.calls g n, ¬ d.op.Emits TokenKind.error)
    (ht : t ∈ (l.calls g n).filterMap Call.token?) (herror : t.isError = true) :
    ∃ c ∈ l.calls g n, c.Fails := by
  obtain ⟨c, hc, hct⟩ := List.mem_filterMap.mp ht
  exact ⟨c, hc, (Call.isError_token?_iff hct (honly c hc)).mp herror⟩

theorem failure_final [DecidableEq K] (g : Grammar K σ μ) (input : String) (config : Config)
    (memory : μ) : (Lexer.ofInput g input config memory).FailureFinal g where
  failing _ _ _ _ _ hcalls hop hc := failsWith rfl hcalls hop hc
  stream_exec command _ hs := command.stream_of_halted hs
  cursor_exec command _ _ := command.cursor_exec ⟨rfl, rfl, rfl⟩
  error_iff os d l' hdelivers honly := by
    obtain ⟨k, htokens, hall⟩ := of_delivers_closed rfl hdelivers
    rw [htokens]
    constructor
    · rintro ⟨t, ht, herror⟩
      exact ⟨k, exists_fails_of_isError (honly k) ht herror⟩
    · rintro ⟨n, c, hc, hfails⟩
      obtain ⟨front, t, hsplit, herror, -⟩ := error_is_last (honly k) (hall n c hc) hfails
      exact ⟨t, by rw [hsplit]; simp, herror⟩
  error_last os d l' hdelivers honly := by
    obtain ⟨k, htokens, -⟩ := of_delivers_closed rfl hdelivers
    rw [htokens]
    rintro ⟨t, ht, herror⟩
    obtain ⟨c, hc, hfails⟩ := exists_fails_of_isError (honly k) ht herror
    exact error_is_last (honly k) hc hfails

/-- A number that runs into a letter ends the tokens of `+1x`. -/
theorem failure_final_sum :
    let g := Arithmetic.grammar
    let l := Lexer.ofInput g "+1x" {} ()
    let halted := { l.scanner with halted := true }
    (∃ before c later message os, l.calls g 3 = before ++ c :: later ∧ c.op = .fail message ∧
      c.scanner.halted = false ∧
      os.filterMap Outcome.token? =
        [⟨.punct, ⟨0, 1⟩, "+"⟩, ⟨.error, ⟨1, 1⟩, "bad number syntax: \"1x\""⟩] ∧
      (∀ j, ∃ d l', l.Delivers g (os ++ List.replicate j .closed) d l') ∧
      ∃ front t, os.filterMap Outcome.token? = front ++ [t] ∧ t.isError = true ∧
        ∀ u ∈ front, u.isError = false) ∧
    ((Command.number .number : Command _ Unit _).program.exec halted).2.stream = halted.stream := by
  intro g l halted
  have hfinal := failure_final g "+1x" {} ()
  have htokens : (l.calls g 3).filterMap Call.token? =
      [⟨.punct, ⟨0, 1⟩, "+"⟩, ⟨.error, ⟨1, 1⟩, "bad number syntax: \"1x\""⟩] := by decide +kernel
  have hquiet : ∀ d ∈ l.calls g 3, ¬ d.op.Emits TokenKind.error := by decide +kernel
  refine ⟨?_, hfinal.stream_exec _ halted rfl⟩
  obtain ⟨c, hmem, hfails⟩ : ∃ c ∈ l.calls g 3, c.Fails := by decide +kernel
  obtain ⟨hrunning, message, hop⟩ := hfails
  obtain ⟨before, later, hsplit⟩ := List.append_of_mem hmem
  have hfailing := hfinal.failing 3 before c later message hsplit hop hrunning
  obtain ⟨os, hos, -, hdelivers⟩ := hfailing.delivers
  have honly : ∀ n, ∀ d ∈ l.calls g n, ¬ d.op.Emits TokenKind.error := by
    intro n d hd
    apply hquiet d
    rw [← hfailing.calls_eq n, Nat.add_comm, calls_add]
    exact List.mem_append_left _ hd
  rw [hsplit, List.filterMap_append, List.filterMap_cons_some (Call.token?_of_fail hop hrunning),
    no_token_after_failing hsplit hop hrunning] at htokens
  obtain ⟨d, l', hclosed⟩ := hdelivers 1
  have herror := (hfinal.error_iff os d l' hclosed honly).mpr ⟨3, c, hmem, hrunning, message, hop⟩
  exact ⟨before, c, later, message, os, hsplit, hop, hrunning, hos.trans htokens, hdelivers,
    hfinal.error_last os d l' hclosed honly herror⟩

end Lexer

end StateLexer
