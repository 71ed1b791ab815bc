import Mathlib.Order.WellFounded
import StateLexer.Proofs.Handoff.RunAhead

/-! # A handoff comes to its end

While one of the parties is left, one of them can move: a producer waits only for room, which every
receipt makes and nobody needs once the consumer has left, and a consumer waits only for a token or
for the producer's end. When every pull of the lexer comes to its end, the moves do too. A move of
the consumer leaves less of its program; between two of these the producer comes to the end of a
pull, and it ends no more pulls than there is room for.
-/

namespace StateLexer.Handoff

variable {K σ μ ρ : Type} [TokenKind K] {g : Grammar K σ μ} {h h' : Handoff K σ μ ρ}
  {start l : Lexer K σ μ} {heard answer : List (Option (Token K))} {n : ℕ} {p : Party}

/-- There is an answer to a call for a token. -/
def Ready (h : Handoff K σ μ ρ) : Prop :=
  h.buffer ≠ [] ∨ (h.capacity = 0 ∧ ∃ t, h.producer = .offering t) ∨ ∃ how, h.producer = .exited how

omit [TokenKind K] in
theorem Ready.nextToken? (hready : h.Ready) : ∃ answer h', h.nextToken? = some (answer, h') := by
  unfold Handoff.nextToken? receive?
  cases hb : h.buffer with
  | cons t rest => exact ⟨_, _, rfl⟩
  | nil =>
    rcases hready with hne | ⟨hc, t, hp⟩ | ⟨how, hp⟩
    · exact absurd hb hne
    · simp [hp, hc]
    · simp [hp]

omit [TokenKind K] in
theorem Ready.consume {c : Consumer K ρ} (hready : h.Ready) (hr : h.reader = .asking c) :
    ∃ h', h.consume = some h' := by
  unfold Handoff.consume
  rw [hr]
  cases c with
  | finish result => exact ⟨_, rfl⟩
  | giveUp message => exact ⟨_, rfl⟩
  | lastPosition go => exact ⟨_, rfl⟩
  | next go =>
    obtain ⟨answer, m, hm⟩ := hready.nextToken?
    dsimp only
    rw [hm]
    exact ⟨_, rfl⟩

theorem produce_of_scanning (g : Grammar K σ μ) (hp : h.producer = .scanning) :
    ∃ h', h.produce g = some h' := by
  unfold produce
  rw [hp]
  exact ⟨_, rfl⟩

theorem produce_of_offering (g : Grammar K σ μ) {t : Token K} (hp : h.producer = .offering t)
    (hfree : h.buffer.length < h.capacity ∨ ∃ r, h.reader = .left r) :
    ∃ h', h.produce g = some h' := by
  unfold produce
  rw [hp]
  cases hr : h.reader with
  | left r => exact ⟨_, rfl⟩
  | asking c =>
    rcases hfree with hroom | ⟨r, hleft⟩
    · dsimp only
      rw [if_pos hroom]
      exact ⟨_, rfl⟩
    · rw [hr] at hleft
      cases hleft

/-- While the run has no outcome, somebody can move. -/
theorem exists_step (g : Grammar K σ μ) (ho : h.outcome = none) : ∃ p h', h.step g p = some h' := by
  cases hp : h.producer with
  | scanning => exact ⟨.producer, produce_of_scanning g hp⟩
  | offering t =>
    cases hr : h.reader with
    | left r => exact ⟨.producer, produce_of_offering g hp (.inr ⟨r, hr⟩)⟩
    | asking c =>
      by_cases hroom : h.buffer.length < h.capacity
      · exact ⟨.producer, produce_of_offering g hp (.inl hroom)⟩
      · -- no room: the buffer is full, or there is none and the token is on offer itself
        have hready : h.Ready := by
          by_cases hb : h.buffer = []
          · rw [hb] at hroom
            exact .inr (.inl ⟨Nat.le_zero.mp (Nat.le_of_not_lt hroom), t, hp⟩)
          · exact .inl hb
        exact ⟨.consumer, hready.consume hr⟩
  | exited how =>
    cases hr : h.reader with
    | asking c => exact ⟨.consumer, Ready.consume (.inr (.inr ⟨how, hp⟩)) hr⟩
    | left r =>
      exfalso
      unfold outcome at ho
      rw [hr, hp] at ho
      cases r <;> cases how <;> cases ho

theorem Move.releases {t : Token K} (hm : Move g h .consumer answer h')
    (hp : h.producer = .offering t) (hroom : h.buffer.length ≤ h.capacity)
    (hfree : (∃ u, answer = [some u]) ∨ ∃ r, h'.reader = .left r) :
    ∃ h'', h'.produce g = some h'' := by
  cases hm with
  | take hr hb =>
    rw [hb, List.length_cons] at hroom
    exact produce_of_offering g hp (.inl hroom)
  | meet hr hb hp' hc => exact produce_of_scanning g rfl
  | hearEnd hr hb hp' =>
    rw [hp] at hp'
    cases hp'
  | lookUp hr =>
    rcases hfree with ⟨u, hu⟩ | ⟨r, hleft⟩
    · cases hu
    · cases hleft
  | finish hr => exact produce_of_offering g hp (.inr ⟨_, rfl⟩)
  | giveUp hr => exact produce_of_offering g hp (.inr ⟨_, rfl⟩)

/-! ### No run goes on for ever -/

def Next (g : Grammar K σ μ) (h' h : Handoff K σ μ ρ) : Prop := ∃ p, h.step g p = some h'

def Produced (g : Grammar K σ μ) (h' h : Handoff K σ μ ρ) : Prop := h.produce g = some h'

def room (h : Handoff K σ μ ρ) : ℕ := h.capacity - h.buffer.length

/-- The books of the run can be kept. -/
def Reached (g : Grammar K σ μ) (start : Lexer K σ μ) (h : Handoff K σ μ ρ) : Prop :=
  ∃ heard n, Accounted g start heard n h

theorem Reached.move (ha : Reached g start h) (hm : Move g h p answer h') : Reached g start h' := by
  obtain ⟨heard, n, ha⟩ := ha
  obtain ⟨k, -, hnext⟩ := ha.move hm
  exact ⟨_, _, hnext⟩

theorem Reached.pulls (ha : Reached g start h) (hsettles : start.Settles g)
    (hp : h.producer = .scanning) : ∃ o k l, Lexer.Pulls g h.lexer o k l := by
  obtain ⟨heard, n, ha⟩ := ha
  rw [ha.lexer_of_scanning hp]
  exact hsettles.pulls_after n

theorem acc_produced_of_exited {how : Exit K} (hp : h.producer = .exited how) :
    Acc (Produced g) h := by
  refine Acc.intro h ?_
  intro h' hs
  simp [Produced, produce, hp] at hs

theorem acc_produced_of_offering {t : Token K} (hp : h.producer = .offering t)
    (hnext : ∀ h', Move g h .producer [] h' → h'.room < h.room → Acc (Produced g) h') :
    Acc (Produced g) h := by
  refine Acc.intro h ?_
  intro h' hs
  have hm : Move g h .producer [] h' := Move.of_produce hs
  -- it exits, or scans again with less room
  cases hm with
  | run hp' _ | pull hp' _ | close hp' _ | breakOff hp' _ =>
    rw [hp] at hp'
    cases hp'
  | refuse hp' hr => exact acc_produced_of_exited rfl
  | handOver hp' hr hroom =>
    refine hnext _ (.handOver hp' hr hroom) ?_
    rw [room, room, List.length_append, List.length_singleton]
    exact Nat.sub_succ_lt_self _ _ hroom

theorem acc_produced_of_scanning {o : Lexer.Outcome K} {k : ℕ} (ha : Reached g start h)
    (hp : h.producer = .scanning) (hpull : Lexer.Pulls g h.lexer o k l)
    (hnext : ∀ (h' : Handoff K σ μ ρ) (t : Token K), Reached g start h' → h'.room = h.room →
      h'.producer = .offering t → Acc (Produced g) h') :
    Acc (Produced g) h := by
  -- by induction on the number of states that are still to be run for the pull
  induction k generalizing h with
  | zero =>
    refine Acc.intro h ?_
    intro h' hs
    have hm : Move g h .producer [] h' := Move.of_produce hs
    have hreached := ha.move hm
    cases hm with
    | run hp' hl =>
      rw [hpull.step_eq] at hl
      exact absurd (Prod.mk.inj hl).1 hpull.settled
    | pull hp' hl => exact hnext _ _ hreached rfl rfl
    | close hp' hl => exact acc_produced_of_exited rfl
    | breakOff hp' hl => exact acc_produced_of_exited rfl
    | handOver hp' _ _ | refuse hp' _ =>
      rw [hp] at hp'
      cases hp'
  | succ k ih =>
    obtain ⟨m, hstep, hrest⟩ := hpull.of_succ
    refine Acc.intro h ?_
    intro h' hs
    have hreached := ha.move (Move.of_produce hs)
    obtain rfl : { h with lexer := m } = h' := by
      simpa [Produced, produce, hp, hstep] using hs
    exact ih hreached hp hrest hnext

theorem acc_produced (hsettles : start.Settles g) (ha : Reached g start h) :
    Acc (Produced g) h := by
  generalize hroom : h.room = r
  induction r using Nat.strong_induction_on generalizing h with
  | _ r ih =>
    have hoffering : ∀ (m : Handoff K σ μ ρ) (t : Token K), Reached g start m → m.room = r →
        m.producer = .offering t → Acc (Produced g) m := by
      intro m t hm hmroom hp
      refine acc_produced_of_offering hp ?_
      intro m' hmove hless
      exact ih _ (hmroom ▸ hless) (hm.move hmove) rfl
    cases hp : h.producer with
    | exited how => exact acc_produced_of_exited hp
    | offering t => exact hoffering h t ha hroom hp
    | scanning =>
      obtain ⟨o, k, l, hpull⟩ := ha.pulls hsettles hp
      refine acc_produced_of_scanning ha hp hpull ?_
      intro h' t hreached hsame hp'
      exact hoffering h' t hreached (hsame.trans hroom) hp'

theorem acc_next_of_consume (hsettles : start.Settles g) (ha : Reached g start h)
    (hconsume : ∀ m m', m.reader = h.reader → Reached g start m → m.consume = some m' →
      Reached g start m' → Acc (Next g) m') :
    Acc (Next g) h := by
  -- the producer alone comes to a halt, so it is enough to look at the moves of the consumer
  induction acc_produced hsettles ha with
  | intro h _ ih =>
    refine Acc.intro h ?_
    rintro h' ⟨p, hs⟩
    have hnext := ha.move (Move.of_step hs)
    cases p with
    | consumer => exact hconsume h h' rfl ha hs hnext
    | producer =>
      have hreader : h'.reader = h.reader := by
        cases Move.of_produce hs <;> rfl
      exact ih h' hs hnext fun m m' hm => hconsume m m' (hm.trans hreader)

theorem acc_next_of_left (hsettles : start.Settles g) (ha : Reached g start h)
    {r : Except String ρ} (hr : h.reader = .left r) : Acc (Next g) h := by
  refine acc_next_of_consume hsettles ha ?_
  intro m m' hm _ hs _
  simp [consume, hm, hr] at hs

theorem acc_next_of_asking (hsettles : start.Settles g) (c : Consumer K ρ)
    (ha : Reached g start h) (hr : h.reader = .asking c) : Acc (Next g) h := by
  -- by induction on what the consumer still has to do
  induction c generalizing h with
  | next go ih =>
    refine acc_next_of_consume hsettles ha ?_
    intro m m' hm _ hs hreached
    unfold consume at hs
    rw [hm, hr] at hs
    dsimp only at hs
    split at hs
    · cases hs
      exact ih _ hreached rfl
    · cases hs
  | lastPosition go ih =>
    refine acc_next_of_consume hsettles ha ?_
    intro m m' hm _ hs hreached
    unfold consume at hs
    rw [hm, hr] at hs
    cases hs
    exact ih _ hreached rfl
  | finish _ | giveUp _ =>
    refine acc_next_of_consume hsettles ha ?_
    intro m m' hm _ hs hreached
    unfold consume at hs
    rw [hm, hr] at hs
    cases hs
    exact acc_next_of_left hsettles hreached rfl

theorem acc_next (hsettles : start.Settles g) (ha : Reached g start h) : Acc (Next g) h := by
  cases hr : h.reader with
  | asking c => exact acc_next_of_asking hsettles c ha hr
  | left r => exact acc_next_of_left hsettles ha hr

theorem settle_of_stuck (hstuck : ∀ p, h.step g p = none) (turn : Party) (fuel : ℕ) :
    h.settle g fuel turn = h := by
  cases fuel with
  | zero => rfl
  | succ fuel => rw [settle, hstuck, hstuck]

/-- With enough fuel the run comes to an outcome, whoever begins, and more fuel changes nothing. -/
theorem settle_finishes (hsettles : start.Settles g) (ha : Reached g start h) (turn : Party) :
    ∃ fuel last o, last.outcome = some o ∧ ∀ n, fuel ≤ n → h.settle g n turn = last := by
  induction acc_next hsettles ha generalizing turn with
  | intro h _ ih =>
    have moved : ∀ p h', h.step g p = some h' →
        (∀ n, h.settle g (n + 1) turn = h'.settle g n p) →
        ∃ fuel last o, last.outcome = some o ∧ ∀ n, fuel ≤ n → h.settle g n turn = last := by
      intro p h' hs hturn
      obtain ⟨fuel, last, o, ho, hlast⟩ := ih h' ⟨p, hs⟩ (ha.move (Move.of_step hs)) p
      refine ⟨fuel + 1, last, o, ho, ?_⟩
      intro n hn
      obtain ⟨n, rfl⟩ := Nat.exists_eq_succ_of_ne_zero (Nat.ne_zero_of_lt hn)
      rw [Nat.succ_eq_add_one, hturn]
      exact hlast n (Nat.le_of_succ_le_succ hn)
    cases hs : h.step g turn with
    | some h' => exact moved turn h' hs fun n => by rw [settle, hs]
    | none =>
      cases hother : h.step g turn.other with
      | some h' => exact moved turn.other h' hother fun n => by rw [settle, hs, hother]
      | none =>
        have hstuck : ∀ p, h.step g p = none := by
          intro p
          cases turn <;> cases p <;> assumption
        obtain ⟨o, ho⟩ : ∃ o, h.outcome = some o := by
          rw [← Option.ne_none_iff_exists']
          intro hnone
          obtain ⟨p, h', hs'⟩ := exists_step g hnone
          rw [hstuck p] at hs'
          cases hs'
        exact ⟨0, h, o, ho, fun n _ => settle_of_stuck hstuck turn n⟩

end StateLexer.Handoff

namespace StateLexer

variable {K σ μ ρ : Type} [TokenKind K]

/-- What a consumer comes to that is answered with these tokens and ends, if they are enough for it
to leave. -/
def Consumer.ending : Consumer K ρ → Option Position → List (Option (Token K)) →
    Option (Except String ρ)
  | .finish result, _, _ => some (.ok result)
  | .giveUp message, _, _ => some (.error message)
  | .lastPosition go, last, answers => (go last).ending last answers
  | .next _, _, [] => none
  | .next go, _, some t :: answers => (go (some t)).ending (some t.position) answers
  | .next go, last, none :: answers => (go none).ending last answers

namespace Handoff

variable {g : Grammar K σ μ} {h h' : Handoff K σ μ ρ} {answer : List (Option (Token K))} {p : Party}

def Reader.ending : Reader K ρ → Option Position → List (Option (Token K)) →
    Option (Except String ρ)
  | .asking c, last, answers => c.ending last answers
  | .left r, _, _ => some r

theorem Move.ending_eq (hm : Move g h p answer h') (later : List (Option (Token K))) :
    h.reader.ending h.lastPosition (answer ++ later) = h'.reader.ending h'.lastPosition later := by
  cases hm with
  | take hr _ | meet hr _ _ _ | hearEnd hr _ _ | lookUp hr | finish hr | giveUp hr =>
    rw [hr]
    rfl
  | run _ _ | pull _ _ | close _ _ | breakOff _ _ | handOver _ _ _ | refuse _ _ => rfl

theorem play_ending (g : Grammar K σ μ) (schedule : List Party) (h : Handoff K σ μ ρ) :
    h.reader.ending h.lastPosition (h.play g schedule).1 =
      (h.play g schedule).2.reader.ending (h.play g schedule).2.lastPosition [] := by
  induction schedule generalizing h with
  | nil => rfl
  | cons p schedule ih =>
    rw [play]
    split
    · rename_i h' hs
      rw [← ih h']
      exact (Move.of_step hs).ending_eq _
    · exact ih h

/-- A run never stands still: while it has no outcome a party can move, a producer that waits is
released when the consumer takes a token or leaves, and a consumer that waits is released when a
token is there for it or the producer has exited. No run goes on for ever either. A consumer that
gave up decides the outcome, next a producer that broke off, as pulling the lexer does, and else the
result of the consumer counts, made of what it has heard. -/
structure Finishes (g : Grammar K σ μ) (consumer : Consumer K ρ) (first : Handoff K σ μ ρ)
    (schedule : List Party) : Prop where
  step : (first.play g schedule).2.outcome = none →
    ∃ p h, (first.play g schedule).2.step g p = some h
  producer_released : ∀ t h, (first.play g schedule).2.producer = .offering t →
    (first.play g schedule).2.consume = some h →
    (∃ u, (first.play g schedule).2.answers .consumer = [some u]) ∨ (∃ r, h.reader = .left r) →
    ∃ h', h.produce g = some h'
  consumer_released : ∀ c h, (first.play g schedule).2.reader = .asking c →
    (first.play g schedule).2.produce g = some h →
    h.buffer ≠ [] ∨ (first.capacity = 0 ∧ ∃ t, h.producer = .offering t) ∨
      (∃ how, h.producer = .exited how) →
    ∃ h', h.consume = some h'
  finite : ¬ ∃ runs : ℕ → Handoff K σ μ ρ,
    runs 0 = (first.play g schedule).2 ∧ ∀ i, ∃ p, (runs i).step g p = some (runs (i + 1))
  consumerGaveUp : ∀ message, (first.play g schedule).2.outcome = some (.consumerGaveUp message) →
    consumer.ending none (first.play g schedule).1 = some (.error message)
  producerFaulted : ∀ f, (first.play g schedule).2.outcome = some (.producerFaulted f) →
    (∃ result, consumer.ending none (first.play g schedule).1 = some (.ok result)) ∧
      (first.play g schedule).2.producer = .exited (.faulted f) ∧
      ∃ n, first.lexer.Delivers g ((first.taken g schedule).map .token ++ [.faulted f]) n
        (first.play g schedule).2.lexer
  returned : ∀ result, (first.play g schedule).2.outcome = some (.returned result) →
    consumer.ending none (first.play g schedule).1 = some (.ok result) ∧
      ∀ f, (first.play g schedule).2.producer ≠ .exited (.faulted f)

/-- A handoff comes to its end if every pull of its lexer does. -/
theorem play_finishes (g : Grammar K σ μ) (input : String) (config : Config) (memory : μ)
    (consumer : Consumer K ρ) (schedule : List Party)
    (hsettles : (Lexer.ofInput g input config memory).Settles g) :
    let first := Handoff.ofInput g input config memory consumer
    Finishes g consumer first schedule := by
  intro first
  obtain ⟨n, hscanned, ha⟩ := (Accounted.fresh g input config memory consumer).play schedule
  have hending : ∀ r, (first.play g schedule).2.reader = .left r →
      consumer.ending none (first.play g schedule).1 = some r := by
    intro r hr
    have hplayed := play_ending g schedule first
    rw [hr] at hplayed
    exact hplayed
  refine
    { step := exists_step g
      producer_released := fun _ _ hp hs hfree =>
        (Move.of_consume hs).releases hp ha.buffer_le hfree
      consumer_released := ?released
      finite := ?finite
      consumerGaveUp := fun _ ho => hending _ (consumerGaveUp_of_outcome ho)
      producerFaulted := ?faulted
      returned := ?returned }
  case released =>
    intro c h hr hs hready
    rw [← capacity_play g schedule] at hready
    generalize (first.play g schedule).2 = m at hr hs hready
    have hkept : h.capacity = m.capacity ∧ h.reader = m.reader := by
      cases Move.of_produce hs <;> exact ⟨rfl, rfl⟩
    rw [← hkept.1] at hready
    exact Ready.consume hready (hkept.2.trans hr)
  case finite =>
    rintro ⟨runs, hzero, hruns⟩
    exact not_acc_iff_exists_descending_chain.mpr ⟨runs, hzero, hruns⟩
      (acc_next hsettles ⟨_, n, ha⟩)
  case faulted =>
    intro f ho
    obtain ⟨⟨result, hr⟩, hp⟩ := producerFaulted_of_outcome ho
    exact ⟨⟨result, hending _ hr⟩, hp,
      ha.delivers_of_exited hscanned hp rfl (fun _ => rfl) rfl⟩
  case returned =>
    intro result ho
    obtain ⟨hr, hp⟩ := returned_of_outcome ho
    exact ⟨hending _ hr, hp⟩

/-- The producer waits with `-` when the consumer, which has taken `+`, is about to leave. -/
theorem play_finishes_symbols :
    let g := Arithmetic.grammar
    let consumer : Consumer Arithmetic.Kind Position :=
      .next fun _ => .lastPosition fun last => .finish (last.getD ⟨0, 0⟩)
    let first := Handoff.ofInput g "+-" {} () consumer
    let waiting := (first.play g [.producer, .producer, .consumer, .producer, .producer]).2
    (Lexer.ofInput g "+-" {} ()).Settles g ∧
      waiting.producer = .offering ⟨.punct, ⟨1, 1⟩, "-"⟩ ∧ waiting.outcome = none ∧
      (∃ p h, waiting.step g p = some h) ∧
      ¬ ∃ runs : ℕ → Handoff Arithmetic.Kind Unit Unit Position,
        runs 0 = waiting ∧ ∀ i, ∃ p, (runs i).step g p = some (runs (i + 1)) := by
  intro g consumer first waiting
  have hsettles : (Lexer.ofInput g "+-" {} ()).Settles g := by
    have hclosed : (((Lexer.ofInput g "+-" {} ()).after g 5).step g).1 = .closed := by
      decide +kernel
    exact Lexer.settles_of_closed hclosed
  have hunfinished : waiting.outcome = none := by decide +kernel
  have hfinishes := play_finishes g "+-" {} () consumer
    [.producer, .producer, .consumer, .producer, .producer] hsettles
  exact ⟨hsettles, by decide +kernel, hunfinished, hfinishes.step hunfinished, hfinishes.finite⟩

end Handoff

end StateLexer
