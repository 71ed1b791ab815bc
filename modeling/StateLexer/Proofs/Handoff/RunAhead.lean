import Mathlib.Data.List.ReduceOption
import StateLexer.Arithmetic
import StateLexer.Proofs.Handoff.Schedule
import StateLexer.Proofs.Lexer.Steps

/-! # How far the producer runs ahead

Every token that the producer has taken from its lexer has been received, waits in the buffer, or is
in the producer's hand, so the capacity bounds how many the consumer still lacks. Without a buffer
the number of tokens received tells with which pull the producer ended, and hence all that it did,
whoever moved when.
-/

namespace StateLexer.Handoff

variable {K σ μ ρ : Type} [TokenKind K] {g : Grammar K σ μ} {h h' : Handoff K σ μ ρ}
  {start l : Lexer K σ μ} {heard answer : List (Option (Token K))} {n : ℕ} {p : Party}

/-- The tokens that the producer takes from its lexer in the course of a schedule. -/
def taken (g : Grammar K σ μ) (schedule : List Party) (h : Handoff K σ μ ρ) : List (Token K) :=
  (h.scanned g schedule).filterMap fun l => (l.step g).1.token?

/-- What the last pull came to, until it is passed on. -/
def Producer.held : Producer K → List (Lexer.Outcome K)
  | .scanning => []
  | .offering t | .exited (.refused t) => [.token t]
  | .exited .closed => [.closed]
  | .exited (.faulted f) => [.faulted f]

/-- What the producer itself does to its lexer: it notes that nobody took its token. -/
def Producer.marks : Producer K → Lexer K σ μ → Lexer K σ μ
  | .exited (.refused _), l => { l with scanner := l.scanner.note .consumerGone }
  | _, l => l

omit [TokenKind K] in
theorem scans_of_scanning (hp : h.producer = .scanning) : h.scans .producer = [h.lexer] := by
  rw [scans, hp]

omit [TokenKind K] in
theorem scans_of_offering {t : Token K} (hp : h.producer = .offering t) :
    h.scans .producer = [] := by
  rw [scans, hp]

/-- The books of a run: the producer has taken `n` steps with the lexer `start`, and what these
delivered has been received, waits in the buffer, or is held. -/
structure Accounted (g : Grammar K σ μ) (start : Lexer K σ μ) (heard : List (Option (Token K)))
    (n : ℕ) (h : Handoff K σ μ ρ) : Prop where
  lexer_eq : h.lexer = h.producer.marks (start.after g n)
  outcomes_eq : start.outcomes g n =
    (heard.reduceOption ++ h.buffer).map .token ++ h.producer.held
  settled : h.producer ≠ .scanning → ∃ d,
    start.Delivers g (start.outcomes g n) d (start.after g n) ∧
      n = d + (start.outcomes g n).length
  buffer_le : h.buffer.length ≤ h.capacity

namespace Accounted

theorem fresh (g : Grammar K σ μ) (input : String) (config : Config) (memory : μ)
    (consumer : Consumer K ρ) :
    Accounted g (.ofInput g input config memory) [] 0 (.ofInput g input config memory consumer) where
  lexer_eq := rfl
  outcomes_eq := rfl
  settled hne := absurd rfl hne
  buffer_le := Nat.zero_le _

theorem lexer_of_scanning (ha : Accounted g start heard n h) (hp : h.producer = .scanning) :
    h.lexer = start.after g n := by
  have hlexer := ha.lexer_eq
  rwa [hp] at hlexer

theorem outcomes_of_scanning (ha : Accounted g start heard n h) (hp : h.producer = .scanning) :
    start.outcomes g n = (heard.reduceOption ++ h.buffer).map .token := by
  have houtcomes := ha.outcomes_eq
  rwa [hp, Producer.held, List.append_nil] at houtcomes

theorem run (ha : Accounted g start heard n h) (hp : h.producer = .scanning)
    (hl : h.lexer.step g = (.unsettled, l)) :
    Accounted g start heard (n + 1) { h with lexer := l } where
  lexer_eq := by
    rw [Lexer.after_succ, ← ha.lexer_of_scanning hp, hl, hp]
    rfl
  outcomes_eq := by
    rw [Lexer.outcomes_succ, ← ha.lexer_of_scanning hp, hl, ha.outcomes_eq]
    exact List.append_nil _
  settled hne := absurd hp hne
  buffer_le := ha.buffer_le

theorem settle (ha : Accounted g start heard n h) (hp : h.producer = .scanning)
    {o : Lexer.Outcome K} {next : Producer K} (hl : h.lexer.step g = (o, l)) (ho : o ≠ .unsettled)
    (hheld : next.held = [o]) (hmarks : next.marks l = l) :
    Accounted g start heard (n + 1) { h with lexer := l, producer := next } := by
  have hstep : (start.after g n).step g = (o, l) := by rw [← ha.lexer_of_scanning hp, hl]
  have hafter : start.after g (n + 1) = l := by rw [Lexer.after_succ, hstep]
  have houtcomes : start.outcomes g (n + 1) = start.outcomes g n ++ [o] := by
    rw [Lexer.outcomes_succ, hstep, Lexer.Outcome.settled?_eq_some ho, Option.toList_some]
  refine ⟨?_, ?_, fun _ => ?_, ha.buffer_le⟩
  · rw [hafter]
    exact hmarks.symm
  · rw [houtcomes, ha.outcomes_of_scanning hp]
    exact congrArg _ hheld.symm
  · obtain ⟨d, hdelivers, hn⟩ := Lexer.delivers_of_settled hstep ho
    rw [houtcomes, hafter]
    refine ⟨d, hdelivers, ?_⟩
    rw [List.length_append, List.length_singleton]
    omega

theorem pass (ha : Accounted g start heard n h) {t : Token K} (hp : h.producer = .offering t)
    {buffer : List (Token K)} (reader : Reader K ρ) (lastPosition : Option Position)
    (hpassed : (heard ++ answer).reduceOption ++ buffer = heard.reduceOption ++ h.buffer ++ [t])
    (hroom : buffer.length ≤ h.capacity) :
    Accounted g start (heard ++ answer) n
      { h with producer := .scanning, buffer, reader, lastPosition } where
  lexer_eq := by
    rw [ha.lexer_eq, hp]
    rfl
  outcomes_eq := by
    have hmap : (heard.reduceOption ++ h.buffer ++ [t]).map Lexer.Outcome.token =
        (heard.reduceOption ++ h.buffer).map .token ++ [.token t] := List.map_append
    rw [ha.outcomes_eq, hp, hpassed, hmap]
    exact (List.append_nil _).symm
  settled hne := absurd rfl hne
  buffer_le := hroom

theorem refuse (ha : Accounted g start heard n h) {t : Token K} (hp : h.producer = .offering t) :
    Accounted g start heard n
      { h with
        lexer := { h.lexer with scanner := h.lexer.scanner.note .consumerGone }
        producer := .exited (.refused t) } where
  lexer_eq := by
    rw [ha.lexer_eq, hp]
    rfl
  outcomes_eq := by
    rw [ha.outcomes_eq, hp]
    rfl
  settled _ := ha.settled (by rw [hp]; nofun)
  buffer_le := ha.buffer_le

theorem turn (ha : Accounted g start heard n h) {buffer : List (Token K)} (reader : Reader K ρ)
    (lastPosition : Option Position)
    (hmoved : (heard ++ answer).reduceOption ++ buffer = heard.reduceOption ++ h.buffer)
    (hroom : buffer.length ≤ h.buffer.length) :
    Accounted g start (heard ++ answer) n { h with buffer, reader, lastPosition } where
  lexer_eq := ha.lexer_eq
  outcomes_eq := by rw [ha.outcomes_eq, hmoved]
  settled := ha.settled
  buffer_le := Nat.le_trans hroom ha.buffer_le

/-- A move of the producer while it scans is one more step, and every other move is none. -/
theorem move (ha : Accounted g start heard n h) (hm : Move g h p answer h') :
    ∃ k, h.scans p = (start.after g n).path g k ∧ Accounted g start (heard ++ answer) (n + k) h' := by
  have hscans : h.producer = .scanning → h.scans .producer = (start.after g n).path g 1 := by
    intro hp
    rw [scans_of_scanning hp, ha.lexer_of_scanning hp]
    rfl
  cases hm with
  | run hp hl => exact ⟨1, hscans hp, by simpa using ha.run hp hl⟩
  | pull hp hl => exact ⟨1, hscans hp, by simpa using ha.settle hp hl nofun rfl rfl⟩
  | close hp hl => exact ⟨1, hscans hp, by simpa using ha.settle hp hl nofun rfl rfl⟩
  | breakOff hp hl => exact ⟨1, hscans hp, by simpa using ha.settle hp hl nofun rfl rfl⟩
  | handOver hp hr hroom =>
    refine ⟨0, scans_of_offering hp, ?_⟩
    refine ha.pass hp h.reader h.lastPosition ?_ ?_
    · rw [List.append_nil, List.append_assoc]
    · rw [List.length_append, List.length_singleton]
      omega
  | refuse hp hr =>
    refine ⟨0, scans_of_offering hp, ?_⟩
    rw [List.append_nil]
    exact ha.refuse hp
  | take hr hb =>
    refine ⟨0, rfl, ha.turn _ _ ?_ ?_⟩
    · rw [List.reduceOption_append, List.reduceOption_singleton, hb, List.append_assoc]
      rfl
    · rw [hb]
      exact Nat.le_succ _
  | meet hr hb hp hc =>
    refine ⟨0, rfl, ha.pass hp _ _ ?_ ha.buffer_le⟩
    rw [List.reduceOption_append, List.reduceOption_singleton, hb, List.append_nil, List.append_nil]
    rfl
  | hearEnd hr hb hp =>
    refine ⟨0, rfl, ha.turn _ _ ?_ Nat.le.refl⟩
    rw [List.reduceOption_append]
    simp
  | lookUp hr => exact ⟨0, rfl, ha.turn _ _ (by rw [List.append_nil]) Nat.le.refl⟩
  | finish hr => exact ⟨0, rfl, ha.turn _ _ (by rw [List.append_nil]) Nat.le.refl⟩
  | giveUp hr => exact ⟨0, rfl, ha.turn _ _ (by rw [List.append_nil]) Nat.le.refl⟩

theorem play (ha : Accounted g start [] 0 h) (schedule : List Party) :
    ∃ n, h.scanned g schedule = start.path g n ∧
      Accounted g start (h.play g schedule).1 n (h.play g schedule).2 := by
  refine scanned_keeps (fun heard path h => ∃ n, path = start.path g n ∧ Accounted g start heard n h)
    ?_ schedule ⟨0, rfl, ha⟩
  rintro heard _ p answer h h' ⟨n, rfl, ha⟩ hm
  obtain ⟨k, hscans, hnext⟩ := ha.move hm
  exact ⟨n + k, by rw [hscans, Lexer.path_add], hnext⟩

end Accounted

theorem Accounted.taken_eq {schedule : List Party} (ha : Accounted g start heard n h')
    (hscanned : h.scanned g schedule = start.path g n) :
    h.taken g schedule =
      heard.reduceOption ++ h'.buffer ++ h'.producer.held.filterMap Lexer.Outcome.token? := by
  have hpath : h.taken g schedule = (start.outcomes g n).filterMap Lexer.Outcome.token? := by
    rw [taken, hscanned, Lexer.outcomes, List.filterMap_filterMap]
    congr 1
    funext m
    cases (m.step g).1 <;> rfl
  rw [hpath, ha.outcomes_eq, List.filterMap_append, List.filterMap_map]
  congr 1
  exact List.filterMap_some

theorem Accounted.delivers_of_exited {schedule : List Party} {how : Exit K} {o : Lexer.Outcome K}
    (ha : Accounted g start heard n h') (hscanned : h.scanned g schedule = start.path g n)
    (hp : h'.producer = .exited how) (hheld : (Producer.exited how).held = [o])
    (hmarks : ∀ m : Lexer K σ μ, (Producer.exited how).marks m = m) (ho : o.token? = none) :
    ∃ d, start.Delivers g ((h.taken g schedule).map .token ++ [o]) d h'.lexer := by
  obtain ⟨d, hdelivers, -⟩ := ha.settled (by rw [hp]; nofun)
  have hlexer := ha.lexer_eq
  have houtcomes := ha.outcomes_eq
  have htaken := ha.taken_eq hscanned
  rw [hp, hmarks] at hlexer
  rw [hp, hheld] at houtcomes htaken
  rw [List.filterMap_cons, ho, List.filterMap_nil, List.append_nil] at htaken
  rw [houtcomes, ← hlexer, ← htaken] at hdelivers
  exact ⟨d, hdelivers⟩

omit [TokenKind K] in
theorem Producer.length_held_le (p : Producer K) : p.held.length ≤ 1 := by
  rcases p with _ | t | _ | t | f <;> simp [held]

theorem capacity_play (g : Grammar K σ μ) (schedule : List Party) (h : Handoff K σ μ ρ) :
    (h.play g schedule).2.capacity = h.capacity := by
  induction schedule generalizing h with
  | nil => rfl
  | cons p schedule ih =>
    rw [play]
    split
    · rename_i h' hs
      have hkept : h'.capacity = h.capacity := by
        have hm := Move.of_step hs
        generalize h.answers p = answer at hm
        cases hm <;> rfl
      exact (ih h').trans hkept
    · exact ih h

/-- How many tokens a producer still takes once the consumer has left. -/
def Producer.allowance : Producer K → ℕ
  | .scanning => 1
  | _ => 0

theorem filterMap_scans {o : Lexer.Outcome K} (hp : h.producer = .scanning)
    (hl : h.lexer.step g = (o, l)) :
    (h.scans .producer).filterMap (fun m => (m.step g).1.token?) = o.token?.toList := by
  rw [scans_of_scanning hp, List.filterMap_cons, List.filterMap_nil, hl]
  cases o.token? <;> rfl

theorem Move.allowance_le {r : Except String ρ} (hm : Move g h .producer answer h')
    (hr : h.reader = .left r) :
    h'.reader = .left r ∧
      ((h.scans .producer).filterMap fun l => (l.step g).1.token?).length + h'.producer.allowance ≤
        h.producer.allowance := by
  cases hm with
  | run hp hl =>
    rw [filterMap_scans hp hl]
    exact ⟨hr, Nat.le_of_eq (Nat.zero_add _)⟩
  | pull hp hl =>
    rw [filterMap_scans hp hl, hp]
    exact ⟨hr, Nat.le.refl⟩
  | close hp hl =>
    rw [filterMap_scans hp hl]
    exact ⟨hr, Nat.zero_le _⟩
  | breakOff hp hl =>
    rw [filterMap_scans hp hl]
    exact ⟨hr, Nat.zero_le _⟩
  | handOver hp hask hroom =>
    rw [hr] at hask
    cases hask
  | refuse hp hleft =>
    rw [scans_of_offering hp]
    exact ⟨hr, Nat.zero_le _⟩

theorem length_taken_le_of_left {r : Except String ρ} (hr : h.reader = .left r)
    (schedule : List Party) : (h.taken g schedule).length ≤ h.producer.allowance := by
  induction schedule generalizing h with
  | nil => exact Nat.zero_le _
  | cons p schedule ih =>
    rw [taken, scanned]
    split
    · rename_i h' hs
      cases p with
      | consumer => simp [step, consume, hr] at hs
      | producer =>
        obtain ⟨hleft, hle⟩ := (Move.of_produce hs).allowance_le hr
        have hlater := ih hleft
        rw [taken] at hlater
        rw [List.filterMap_append, List.length_append]
        omega
    · exact ih hr

theorem Accounted.outcomes_of_exited (ha : Accounted g start heard n h) (hc : h.capacity = 0)
    {how : Exit K} (hp : h.producer = .exited how) :
    start.outcomes g n = heard.reduceOption.map .token ++ (Producer.exited how).held := by
  have hbuffer : h.buffer = [] := List.eq_nil_of_length_eq_zero (Nat.le_zero.mp (hc ▸ ha.buffer_le))
  rw [ha.outcomes_eq, hbuffer, hp, List.append_nil]

omit [TokenKind K] in
theorem Producer.exited_eq_of_held {how how' : Exit K}
    (heq : (Producer.exited how).held = (Producer.exited how').held) : how = how' := by
  rcases how with _ | t | f <;> rcases how' with _ | t' | f' <;> simp_all [Producer.held]

/-- Without a buffer, how many tokens were received tells how far the producer came. -/
theorem Accounted.unique {ρ' : Type} {m : Handoff K σ μ ρ'} {heard' : List (Option (Token K))}
    {n' : ℕ} {how how' : Exit K} (ha : Accounted g start heard n h)
    (ha' : Accounted g start heard' n' m) (hc : h.capacity = 0) (hc' : m.capacity = 0)
    (hp : h.producer = .exited how) (hp' : m.producer = .exited how')
    (hlen : heard.reduceOption.length = heard'.reduceOption.length) :
    n = n' ∧ m.lexer = h.lexer ∧ m.producer = h.producer := by
  have hout := ha.outcomes_of_exited hc hp
  have hout' := ha'.outcomes_of_exited hc' hp'
  have hone : ∀ e : Exit K, (Producer.exited e).held.length = 1 := by
    rintro (_ | t | f) <;> rfl
  have hpulls : (start.outcomes g n).length = (start.outcomes g n').length := by
    rw [hout, hout', List.length_append, List.length_append, hone, hone, List.length_map,
      List.length_map, hlen]
  obtain ⟨d, hdelivers, hn⟩ := ha.settled (by rw [hp]; nofun)
  obtain ⟨d', hdelivers', hn'⟩ := ha'.settled (by rw [hp']; nofun)
  obtain ⟨hos, rfl, hafter⟩ := hdelivers.unique hdelivers' hpulls
  rw [hout, hout'] at hos
  obtain ⟨-, hheld⟩ := List.append_inj' hos (by rw [hone, hone])
  obtain rfl := Producer.exited_eq_of_held hheld
  refine ⟨by omega, ?_, by rw [hp, hp']⟩
  rw [ha.lexer_eq, ha'.lexer_eq, hp, hp', hafter]

def received (g : Grammar K σ μ) (schedule : List Party) (h : Handoff K σ μ ρ) : List (Token K) :=
  (h.play g schedule).1.reduceOption

/-- The producer takes at most `capacity + 1` tokens more than the consumer receives, and at most
one more once the consumer has left. It exits on the token that nobody took, or its lexer has
closed, or a state has broken off. -/
structure RunsAhead (g : Grammar K σ μ) (first : Handoff K σ μ ρ) (schedule : List Party) :
    Prop where
  length_le :
    (first.taken g schedule).length ≤ (first.received g schedule).length + first.capacity + 1
  left : ∀ r, (first.play g schedule).2.reader = .left r → ∀ later,
    ((first.play g schedule).2.taken g later).length ≤ 1
  refused : ∀ t, (first.play g schedule).2.producer = .exited (.refused t) →
    (first.taken g schedule).getLast? = some t
  length_refused : ∀ t, (first.play g schedule).2.producer = .exited (.refused t) →
    (first.received g schedule).length + 1 ≤ (first.taken g schedule).length ∧
      (first.taken g schedule).length ≤ (first.received g schedule).length + first.capacity + 1
  closed : (first.play g schedule).2.producer = .exited .closed →
    ∃ n, first.lexer.Delivers g ((first.taken g schedule).map .token ++ [.closed]) n
      (first.play g schedule).2.lexer
  length_closed : (first.play g schedule).2.producer = .exited .closed →
    (first.received g schedule).length ≤ (first.taken g schedule).length ∧
      (first.taken g schedule).length ≤ (first.received g schedule).length + first.capacity
  faulted : ∀ f, (first.play g schedule).2.producer = .exited (.faulted f) →
    ∃ n, first.lexer.Delivers g ((first.taken g schedule).map .token ++ [.faulted f]) n
      (first.play g schedule).2.lexer

/-- Two runs are one and the same for the producer: it takes the same steps with its lexer, leaves
it the same, its trace included, and exits in the same way. -/
structure SameProducer {ρ' : Type} (g : Grammar K σ μ) (first : Handoff K σ μ ρ)
    (schedule : List Party) (first' : Handoff K σ μ ρ') (schedule' : List Party) : Prop where
  scanned_eq : first'.scanned g schedule' = first.scanned g schedule
  lexer_eq : (first'.play g schedule').2.lexer = (first.play g schedule).2.lexer
  producer_eq : (first'.play g schedule').2.producer = (first.play g schedule).2.producer

theorem Accounted.runsAhead {first : Handoff K σ μ ρ} {schedule : List Party}
    (ha : Accounted g first.lexer (first.play g schedule).1 n (first.play g schedule).2)
    (hscanned : first.scanned g schedule = first.lexer.path g n) : first.RunsAhead g schedule := by
  have htaken : first.taken g schedule = first.received g schedule ++
      (first.play g schedule).2.buffer ++
        (first.play g schedule).2.producer.held.filterMap Lexer.Outcome.token? :=
    ha.taken_eq hscanned
  have hbuffer := ha.buffer_le
  rw [capacity_play] at hbuffer
  have hrefused : ∀ t, (first.play g schedule).2.producer = .exited (.refused t) →
      first.taken g schedule =
        first.received g schedule ++ (first.play g schedule).2.buffer ++ [t] := by
    intro t hp
    rw [hp] at htaken
    exact htaken
  have hclosed : (first.play g schedule).2.producer = .exited .closed →
      first.taken g schedule =
        first.received g schedule ++ (first.play g schedule).2.buffer := by
    intro hp
    rw [hp] at htaken
    exact htaken.trans (List.append_nil _)
  refine
    { length_le := ?length, left := ?left, refused := ?last, length_refused := ?refused
      closed := fun hp => ha.delivers_of_exited hscanned hp rfl (fun _ => rfl) rfl
      length_closed := ?closed
      faulted := fun _ hp => ha.delivers_of_exited hscanned hp rfl (fun _ => rfl) rfl }
  case length =>
    have hheld := Nat.le_trans
      (List.length_filterMap_le Lexer.Outcome.token? (first.play g schedule).2.producer.held)
      (first.play g schedule).2.producer.length_held_le
    rw [htaken, List.length_append, List.length_append]
    omega
  case left =>
    intro r hr later
    refine Nat.le_trans (length_taken_le_of_left hr later) ?_
    cases (first.play g schedule).2.producer with
    | scanning => exact Nat.le.refl
    | offering t => exact Nat.zero_le _
    | exited how => exact Nat.zero_le _
  case last =>
    intro t hp
    rw [hrefused t hp]
    exact List.getLast?_concat
  case refused =>
    intro t hp
    rw [hrefused t hp, List.length_append, List.length_append, List.length_singleton]
    omega
  case closed =>
    intro hp
    rw [hclosed hp, List.length_append]
    omega

/-- Under every schedule the producer runs little ahead. Without a buffer, runs in which the consumer
receives equally many tokens until the producer is gone are one and the same for the producer. -/
theorem play_runsAhead (g : Grammar K σ μ) (input : String) (config : Config) (memory : μ)
    (consumer : Consumer K ρ) (schedule : List Party) :
    let first := Handoff.ofInput g input config memory consumer
    first.RunsAhead g schedule ∧
      (config.handoffCapacity = 0 →
        ∀ (ρ' : Type) (consumer' : Consumer K ρ') (schedule' : List Party),
          let first' := Handoff.ofInput g input config memory consumer'
          (∃ how, (first.play g schedule).2.producer = .exited how) →
            (∃ how, (first'.play g schedule').2.producer = .exited how) →
              (first'.received g schedule').length = (first.received g schedule).length →
                first.SameProducer g schedule first' schedule') := by
  intro first
  obtain ⟨n, hscanned, ha⟩ := (Accounted.fresh g input config memory consumer).play schedule
  refine ⟨ha.runsAhead hscanned, ?_⟩
  rintro hzero ρ' consumer' schedule' first' ⟨how, hp⟩ ⟨how', hp'⟩ hlen
  obtain ⟨n', hscanned', ha'⟩ := (Accounted.fresh g input config memory consumer').play schedule'
  obtain ⟨rfl, hlexer, hproducer⟩ := ha.unique ha' ((capacity_play g schedule first).trans hzero)
    ((capacity_play g schedule' first').trans hzero) hp hp' hlen.symm
  exact ⟨hscanned'.trans hscanned.symm, hlexer, hproducer⟩

theorem play_runsAhead_symbols :
    let consumer : Consumer Arithmetic.Kind Unit := .next fun _ => .finish ()
    let first := Handoff.ofInput Arithmetic.grammar "+-" {} () consumer
    let early : List Party :=
      [.producer, .producer, .consumer, .consumer, .producer, .producer, .producer]
    let late : List Party :=
      [.consumer, .producer, .producer, .consumer, .producer, .producer, .consumer, .producer]
    (first.play Arithmetic.grammar early).2.producer =
        .exited (.refused ⟨.punct, ⟨1, 1⟩, "-"⟩) ∧
      (first.taken Arithmetic.grammar early).length = 2 ∧
      first.scanned Arithmetic.grammar late = first.scanned Arithmetic.grammar early := by
  intro consumer first early late
  have hearly : first.received Arithmetic.grammar early = [⟨.punct, ⟨0, 1⟩, "+"⟩] := by
    decide +kernel
  have hlate : first.received Arithmetic.grammar late = [⟨.punct, ⟨0, 1⟩, "+"⟩] := by
    decide +kernel
  have hrefused : (first.play Arithmetic.grammar early).2.producer =
      .exited (.refused ⟨.punct, ⟨1, 1⟩, "-"⟩) := by
    decide +kernel
  have hrefused' : (first.play Arithmetic.grammar late).2.producer =
      .exited (.refused ⟨.punct, ⟨1, 1⟩, "-"⟩) := by
    decide +kernel
  obtain ⟨hahead, hsame⟩ := play_runsAhead Arithmetic.grammar "+-" {} () consumer early
  have hlength := hahead.length_refused _ hrefused
  have hproducer := hsame rfl Unit consumer late ⟨_, hrefused⟩ ⟨_, hrefused'⟩ (by rw [hearly, hlate])
  rw [hearly] at hlength
  exact ⟨hrefused, Nat.le_antisymm hlength.2 hlength.1, hproducer.scanned_eq⟩

end StateLexer.Handoff
