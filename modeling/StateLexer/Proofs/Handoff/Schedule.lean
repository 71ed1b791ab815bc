import StateLexer.Handoff

/-! # Schedules of a handoff

A schedule says whose turn it is, move after move. A party that has no move when its turn comes
waits, so every interleaving of producer and consumer is the play of some schedule. The play keeps
what the consumer hears, which the run itself forgets.
-/

namespace StateLexer.Handoff

variable {K σ μ ρ : Type} [TokenKind K] {g : Grammar K σ μ} {h h' : Handoff K σ μ ρ}
  {p : Party}

/-- What the consumer hears if this party moves: the answer to its call for a token. -/
def answers (h : Handoff K σ μ ρ) : Party → List (Option (Token K))
  | .producer => []
  | .consumer =>
    match h.reader with
    | .asking (.next _) => (h.nextToken?.map Prod.fst).toList
    | _ => []

/-- All that the consumer hears in the course of a schedule, and the run after it. -/
def play (g : Grammar K σ μ) :
    List Party → Handoff K σ μ ρ → List (Option (Token K)) × Handoff K σ μ ρ
  | [], h => ([], h)
  | p :: schedule, h =>
    match h.step g p with
    | some h' =>
      let (later, last) := play g schedule h'
      (h.answers p ++ later, last)
    | none => play g schedule h

/-- The lexer, if this party moves and takes a step with it. -/
def scans (h : Handoff K σ μ ρ) : Party → List (Lexer K σ μ)
  | .producer =>
    match h.producer with
    | .scanning => [h.lexer]
    | _ => []
  | .consumer => []

def scanned (g : Grammar K σ μ) : List Party → Handoff K σ μ ρ → List (Lexer K σ μ)
  | [], _ => []
  | p :: schedule, h =>
    match h.step g p with
    | some h' => h.scans p ++ scanned g schedule h'
    | none => scanned g schedule h

/-- What a move of a party can be, with what the consumer hears at it. -/
inductive Move (g : Grammar K σ μ) (h : Handoff K σ μ ρ) :
    Party → List (Option (Token K)) → Handoff K σ μ ρ → Prop
  | run {l : Lexer K σ μ} (hp : h.producer = .scanning) (hl : h.lexer.step g = (.unsettled, l)) :
      Move g h .producer [] { h with lexer := l }
  | pull {t : Token K} {l : Lexer K σ μ} (hp : h.producer = .scanning)
      (hl : h.lexer.step g = (.token t, l)) :
      Move g h .producer [] { h with lexer := l, producer := .offering t }
  | close {l : Lexer K σ μ} (hp : h.producer = .scanning) (hl : h.lexer.step g = (.closed, l)) :
      Move g h .producer [] { h with lexer := l, producer := .exited .closed }
  | breakOff {f : Fault} {l : Lexer K σ μ} (hp : h.producer = .scanning)
      (hl : h.lexer.step g = (.faulted f, l)) :
      Move g h .producer [] { h with lexer := l, producer := .exited (.faulted f) }
  | handOver {t : Token K} {c : Consumer K ρ} (hp : h.producer = .offering t)
      (hr : h.reader = .asking c) (hroom : h.buffer.length < h.capacity) :
      Move g h .producer [] { h with buffer := h.buffer ++ [t], producer := .scanning }
  | refuse {t : Token K} {r : Except String ρ} (hp : h.producer = .offering t)
      (hr : h.reader = .left r) :
      Move g h .producer []
        { h with
          lexer := { h.lexer with scanner := h.lexer.scanner.note .consumerGone }
          producer := .exited (.refused t) }
  | take {t : Token K} {rest : List (Token K)} {go : Option (Token K) → Consumer K ρ}
      (hr : h.reader = .asking (.next go)) (hb : h.buffer = t :: rest) :
      Move g h .consumer [some t]
        { h with
          buffer := rest
          lastPosition := some t.position
          reader := .asking (go (some t)) }
  | meet {t : Token K} {go : Option (Token K) → Consumer K ρ}
      (hr : h.reader = .asking (.next go)) (hb : h.buffer = []) (hp : h.producer = .offering t)
      (hc : h.capacity = 0) :
      Move g h .consumer [some t]
        { h with
          producer := .scanning
          lastPosition := some t.position
          reader := .asking (go (some t)) }
  | hearEnd {how : Exit K} {go : Option (Token K) → Consumer K ρ}
      (hr : h.reader = .asking (.next go)) (hb : h.buffer = []) (hp : h.producer = .exited how) :
      Move g h .consumer [none] { h with reader := .asking (go none) }
  | lookUp {go : Option Position → Consumer K ρ} (hr : h.reader = .asking (.lastPosition go)) :
      Move g h .consumer [] { h with reader := .asking (go h.lastPosition) }
  | finish {result : ρ} (hr : h.reader = .asking (.finish result)) :
      Move g h .consumer [] { h with reader := .left (.ok result) }
  | giveUp {message : String} (hr : h.reader = .asking (.giveUp message)) :
      Move g h .consumer [] { h with reader := .left (.error message) }

theorem Move.of_produce (hs : h.produce g = some h') : Move g h .producer [] h' := by
  unfold produce at hs
  split at hs
  · cases hs
  · rename_i hp
    cases hl : h.lexer.step g with
    | mk o l =>
      rw [hl] at hs
      cases o with
      | token t => cases hs; exact .pull hp hl
      | closed => cases hs; exact .close hp hl
      | faulted f => cases hs; exact .breakOff hp hl
      | unsettled =>
        cases hs
        have hrun := Move.run hp hl
        rwa [← hp]
  · rename_i t hp
    split at hs
    · rename_i hr
      cases hs
      exact .refuse hp hr
    · rename_i c hr
      split at hs
      · rename_i hroom
        cases hs
        exact .handOver hp hr hroom
      · cases hs

omit [TokenKind K] in
theorem nextToken?_eq_some {answer : Option (Token K)}
    (hs : h.nextToken? = some (answer, h')) :
    (∃ t rest, answer = some t ∧ h.buffer = t :: rest ∧
      h' = { h with buffer := rest, lastPosition := some t.position }) ∨
    (∃ t, answer = some t ∧ h.buffer = [] ∧ h.producer = .offering t ∧ h.capacity = 0 ∧
      h' = { h with producer := .scanning, lastPosition := some t.position }) ∨
    (∃ how, answer = none ∧ h.buffer = [] ∧ h.producer = .exited how ∧ h' = h) := by
  unfold nextToken? receive? at hs
  cases hb : h.buffer with
  | cons t rest =>
    simp only [hb, Option.some.injEq, Prod.mk.injEq] at hs
    obtain ⟨rfl, rfl⟩ := hs
    exact .inl ⟨t, rest, rfl, rfl, rfl⟩
  | nil =>
    right
    cases hp : h.producer with
    | scanning => simp [hb, hp] at hs
    | offering t =>
      by_cases hc : h.capacity = 0
      · simp only [hb, hp, hc, if_true, Option.some.injEq, Prod.mk.injEq] at hs
        obtain ⟨rfl, rfl⟩ := hs
        exact .inl ⟨t, rfl, rfl, rfl, hc, by rw [hc]⟩
      · simp [hb, hp, hc] at hs
    | exited how =>
      simp only [hb, hp, Option.some.injEq, Prod.mk.injEq] at hs
      obtain ⟨rfl, rfl⟩ := hs
      exact .inr ⟨how, rfl, rfl, rfl, rfl⟩

theorem Move.of_consume (hs : h.consume = some h') :
    Move g h .consumer (h.answers .consumer) h' := by
  unfold consume at hs
  simp only [answers]
  split at hs
  · cases hs
  · rename_i hr
    rw [hr]
    cases hs
    exact .finish hr
  · rename_i hr
    rw [hr]
    cases hs
    exact .giveUp hr
  · rename_i hr
    rw [hr]
    cases hs
    exact .lookUp hr
  · rename_i go hr
    rw [hr]
    split at hs
    · rename_i answer m hm
      simp only [hm, Option.map_some, Option.toList_some]
      cases hs
      rcases nextToken?_eq_some hm with
        ⟨t, rest, rfl, hb, rfl⟩ | ⟨t, rfl, hb, hp, hc, rfl⟩ | ⟨how, rfl, hb, hp, rfl⟩
      · exact .take hr hb
      · exact .meet hr hb hp hc
      · exact .hearEnd hr hb hp
    · cases hs

theorem Move.of_step (hs : h.step g p = some h') : Move g h p (h.answers p) h' := by
  cases p with
  | producer => exact of_produce hs
  | consumer => exact of_consume hs

/-- What every move keeps, with all that has been heard so far, every play keeps. -/
theorem play_keeps {Kept : List (Option (Token K)) → Handoff K σ μ ρ → Prop}
    (move : ∀ {before p heard h h'},
      Kept before h → Move g h p heard h' → Kept (before ++ heard) h')
    (schedule : List Party) {before : List (Option (Token K))} (hk : Kept before h) :
    Kept (before ++ (h.play g schedule).1) (h.play g schedule).2 := by
  induction schedule generalizing h before with
  | nil => simpa [play] using hk
  | cons p schedule ih =>
    rw [play]
    split
    · rename_i h' hs
      have hnext := ih (move hk (Move.of_step hs))
      rwa [List.append_assoc] at hnext
    · exact ih hk

theorem scanned_keeps
    (Kept : List (Option (Token K)) → List (Lexer K σ μ) → Handoff K σ μ ρ → Prop)
    (move : ∀ {before path p heard h h'},
      Kept before path h → Move g h p heard h' → Kept (before ++ heard) (path ++ h.scans p) h')
    (schedule : List Party) {before : List (Option (Token K))} {path : List (Lexer K σ μ)}
    (hk : Kept before path h) :
    Kept (before ++ (h.play g schedule).1) (path ++ h.scanned g schedule) (h.play g schedule).2 := by
  induction schedule generalizing h before path with
  | nil => simpa [play, scanned] using hk
  | cons p schedule ih =>
    rw [play, scanned]
    split
    · rename_i h' hs
      have hnext := ih (move hk (Move.of_step hs))
      rwa [List.append_assoc, List.append_assoc] at hnext
    · exact ih hk

/-- A run that leaves it to each party to move as long as it can is the play of a schedule. When it
stops short of its fuel, nobody can move. -/
theorem exists_play_eq_settle (g : Grammar K σ μ) (fuel : Nat) (turn : Party)
    (h : Handoff K σ μ ρ) :
    ∃ schedule, schedule.length ≤ fuel ∧ (h.play g schedule).2 = h.settle g fuel turn ∧
      (schedule.length < fuel → ∀ p, (h.settle g fuel turn).step g p = none) := by
  induction fuel generalizing turn h with
  | zero => exact ⟨[], Nat.le_refl 0, rfl, fun hlt => absurd hlt (Nat.lt_irrefl 0)⟩
  | succ fuel ih =>
    have moved : ∀ p h', h.step g p = some h' → ∃ schedule,
        schedule.length ≤ fuel + 1 ∧ (h.play g schedule).2 = h'.settle g fuel p ∧
          (schedule.length < fuel + 1 → ∀ q, (h'.settle g fuel p).step g q = none) := by
      intro p h' hs
      obtain ⟨schedule, hle, hplay, hstuck⟩ := ih p h'
      refine ⟨p :: schedule, Nat.succ_le_succ hle, ?_, fun hlt => hstuck (Nat.lt_of_succ_lt_succ hlt)⟩
      rw [play, hs]
      exact hplay
    rw [settle]
    cases hs : h.step g turn with
    | some h' => exact moved turn h' hs
    | none =>
      cases hother : h.step g turn.other with
      | some h' => exact moved turn.other h' hother
      | none =>
        refine ⟨[], Nat.zero_le _, rfl, fun _ p => ?_⟩
        cases turn <;> cases p <;> assumption

omit [TokenKind K]

theorem consumerGaveUp_of_outcome {message : String}
    (ho : h.outcome = some (.consumerGaveUp message)) : h.reader = .left (.error message) := by
  unfold outcome at ho
  split at ho <;> cases ho
  assumption

theorem producerFaulted_of_outcome {f : Fault} (ho : h.outcome = some (.producerFaulted f)) :
    (∃ result, h.reader = .left (.ok result)) ∧ h.producer = .exited (.faulted f) := by
  unfold outcome at ho
  split at ho <;> cases ho
  rename_i result hr hp
  exact ⟨⟨result, hr⟩, hp⟩

theorem returned_of_outcome {result : ρ} (ho : h.outcome = some (.returned result)) :
    h.reader = .left (.ok result) ∧ ∀ f, h.producer ≠ .exited (.faulted f) := by
  unfold outcome at ho
  split at ho <;> cases ho
  rename_i how hne hp hr
  refine ⟨hr, ?_⟩
  intro f hf
  rw [hp] at hf
  cases hf
  exact hne f rfl

end StateLexer.Handoff
