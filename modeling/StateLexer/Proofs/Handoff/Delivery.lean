import StateLexer.Arithmetic
import StateLexer.Proofs.Handoff.Schedule
import StateLexer.Proofs.Lexer.Pulls

/-! # A handoff delivers what its lexer delivers

The tokens that the consumer has taken, those in the buffer and the one on offer are the tokens that
pulling the lexer delivers, in this order. This holds whoever moves when. An answer `none` means
that the producer is gone for good with nothing left to take: its lexer has closed or has broken
off. The consumer cannot tell which, but the outcome of the run does.
-/

namespace StateLexer.Handoff

variable {K σ μ ρ : Type} [TokenKind K] {g : Grammar K σ μ} {h h' : Handoff K σ μ ρ}
  {start m m' : Lexer K σ μ} {sent tokens : List (Token K)} {heard : List (Option (Token K))}

/-- How a producer stands to the lexer `start` that it began with: it has handed over the tokens
`sent`, and its lexer is now `m`. -/
def Producer.Sent (g : Grammar K σ μ) (start : Lexer K σ μ) (sent : List (Token K))
    (m : Lexer K σ μ) : Producer K → Prop
  | .scanning =>
    ∃ n last k, start.Delivers g (sent.map .token) n last ∧ last.pull g k = (.unsettled, m)
  | .offering t => ∃ n, start.Delivers g ((sent ++ [t]).map .token) n m
  | .exited (.refused t) => ∃ n last, start.Delivers g ((sent ++ [t]).map .token) n last
  | .exited .closed => ∃ n, start.Delivers g (sent.map .token ++ [.closed]) n m
  | .exited (.faulted f) => ∃ n, start.Delivers g (sent.map .token ++ [.faulted f]) n m

namespace Producer.Sent

theorem fresh (g : Grammar K σ μ) (start : Lexer K σ μ) :
    Producer.Sent g start [] start .scanning :=
  ⟨0, start, 0, .nil, rfl⟩

theorem run (hs : Producer.Sent g start sent m .scanning) (hl : m.step g = (.unsettled, m')) :
    Producer.Sent g start sent m' .scanning := by
  obtain ⟨n, last, k, hdelivers, hpull⟩ := hs
  refine ⟨n, last, k + 1, hdelivers, ?_⟩
  rw [Lexer.pull_add hpull, Lexer.pull_one, hl]

theorem settle {o : Lexer.Outcome K} (hs : Producer.Sent g start sent m .scanning)
    (hl : m.step g = (o, m')) (ho : o ≠ .unsettled) :
    ∃ n, start.Delivers g (sent.map .token ++ [o]) n m' := by
  obtain ⟨n, last, k, hdelivers, hpull⟩ := hs
  exact ⟨n + k, hdelivers.pull (.resume hpull hl ho)⟩

theorem pull {t : Token K} (hs : Producer.Sent g start sent m .scanning)
    (hl : m.step g = (.token t, m')) : Producer.Sent g start sent m' (.offering t) := by
  obtain ⟨n, hdelivers⟩ := hs.settle hl nofun
  exact ⟨n, by rwa [List.map_append]⟩

theorem handOver {t : Token K} (hs : Producer.Sent g start sent m (.offering t)) :
    Producer.Sent g start (sent ++ [t]) m .scanning := by
  obtain ⟨n, hdelivers⟩ := hs
  exact ⟨n, m, 0, hdelivers, rfl⟩

theorem delivers {p : Producer K} (hs : p.Sent g start sent m) :
    ∃ n last, start.Delivers g (sent.map .token) n last := by
  cases p with
  | scanning =>
    obtain ⟨n, last, -, hdelivers, -⟩ := hs
    exact ⟨n, last, hdelivers⟩
  | offering t =>
    obtain ⟨n, hdelivers⟩ := hs
    rw [List.map_append] at hdelivers
    exact hdelivers.of_append
  | exited how =>
    cases how with
    | closed =>
      obtain ⟨n, hdelivers⟩ := hs
      exact hdelivers.of_append
    | refused t =>
      obtain ⟨n, last, hdelivers⟩ := hs
      rw [List.map_append] at hdelivers
      exact hdelivers.of_append
    | faulted f =>
      obtain ⟨n, hdelivers⟩ := hs
      exact hdelivers.of_append

end Producer.Sent

/-- Nothing is left to take and nothing more will come, though the consumer has not left. -/
def Over (h : Handoff K σ μ ρ) : Prop :=
  h.buffer = [] ∧ (h.producer = .exited .closed ∨ ∃ f, h.producer = .exited (.faulted f))

omit [TokenKind K] in
theorem Over.exited (ho : h.Over) : ∃ how, h.producer = .exited how := by
  rcases ho.2 with hp | ⟨f, hp⟩
  · exact ⟨_, hp⟩
  · exact ⟨_, hp⟩

omit [TokenKind K] in
theorem not_over_of_busy (hbusy : ∀ how, h.producer ≠ .exited how) : ¬ h.Over := by
  intro ho
  obtain ⟨how, hp⟩ := ho.exited
  exact hbusy how hp

/-- What a consumer has heard that has taken `tokens` and then met the end `ended` times. -/
def hearing (tokens : List (Token K)) (ended : ℕ) : List (Option (Token K)) :=
  tokens.map some ++ List.replicate ended none

omit [TokenKind K] in
theorem hearing_token (tokens : List (Token K)) (t : Token K) :
    hearing tokens 0 ++ [some t] = hearing (tokens ++ [t]) 0 := by
  simp [hearing]

omit [TokenKind K] in
theorem hearing_end (tokens : List (Token K)) (ended : ℕ) :
    hearing tokens ended ++ [none] = hearing tokens (ended + 1) := by
  rw [hearing, List.append_assoc, ← List.replicate_succ', hearing]

/-- What holds of a run whose consumer has taken `tokens` and then met the end `ended` times. -/
structure Faithful (g : Grammar K σ μ) (start : Lexer K σ μ) (tokens : List (Token K)) (ended : ℕ)
    (h : Handoff K σ μ ρ) : Prop where
  sent : h.producer.Sent g start (tokens ++ h.buffer) h.lexer
  position : h.lastPosition = tokens.getLast?.map Token.position
  left_of_refused : ∀ t, h.producer = .exited (.refused t) → ∃ r, h.reader = .left r
  finished : 0 < ended → h.Over

namespace Faithful

variable {ended : ℕ}

theorem fresh (g : Grammar K σ μ) (input : String) (config : Config) (memory : μ)
    (consumer : Consumer K ρ) :
    Faithful g (.ofInput g input config memory) [] 0 (.ofInput g input config memory consumer) where
  sent := Producer.Sent.fresh g _
  position := rfl
  left_of_refused := nofun
  finished := nofun

theorem ended_eq_zero (hf : Faithful g start tokens ended h) (hover : ¬ h.Over) : ended = 0 := by
  by_contra hne
  have hended : 0 < ended := Nat.pos_of_ne_zero hne
  exact hover (hf.finished hended)

theorem not_refused (hf : Faithful g start tokens ended h) {c : Consumer K ρ}
    (hr : h.reader = .asking c) (t : Token K) : h.producer ≠ .exited (.refused t) := by
  intro hp
  obtain ⟨r, hleft⟩ := hf.left_of_refused t hp
  rw [hr] at hleft
  cases hleft

theorem produce (hf : Faithful g start tokens ended h) (hbusy : ∀ how, h.producer ≠ .exited how)
    {p : Producer K} {buffer : List (Token K)} (hsent : p.Sent g start (tokens ++ buffer) m)
    (hleft : ∀ t, p = .exited (.refused t) → ∃ r, h.reader = .left r) :
    Faithful g start tokens ended { h with buffer, lexer := m, producer := p } where
  sent := hsent
  position := hf.position
  left_of_refused := hleft
  finished hended := absurd (hf.finished hended) (not_over_of_busy hbusy)

theorem take (reader : Reader K ρ) {t : Token K} {p : Producer K} {rest : List (Token K)}
    (hsent : p.Sent g start (tokens ++ t :: rest) h.lexer)
    (hrefused : ∀ u, p ≠ .exited (.refused u)) :
    Faithful g start (tokens ++ [t]) 0
      { h with producer := p, buffer := rest, lastPosition := some t.position, reader } where
  sent := by rwa [List.append_assoc]
  position := by rw [List.getLast?_concat]; rfl
  left_of_refused u hu := absurd hu (hrefused u)
  finished := nofun

theorem turn (hf : Faithful g start tokens ended h) {c : Consumer K ρ}
    (hr : h.reader = .asking c) (reader : Reader K ρ) :
    Faithful g start tokens ended { h with reader } where
  sent := hf.sent
  position := hf.position
  left_of_refused t ht := absurd ht (hf.not_refused hr t)
  finished := hf.finished

end Faithful

/-- The run is faithful to all that the consumer has heard. -/
def Tracks (g : Grammar K σ μ) (start : Lexer K σ μ) (heard : List (Option (Token K)))
    (h : Handoff K σ μ ρ) : Prop :=
  ∃ tokens ended, heard = hearing tokens ended ∧ Faithful g start tokens ended h

theorem Faithful.tracks {ended : ℕ} (hf : Faithful g start tokens ended h) :
    Tracks g start (hearing tokens ended ++ []) h :=
  ⟨tokens, ended, List.append_nil _, hf⟩

/-- A move of the producer says nothing to the consumer, which takes tokens in the order in which
they were sent, and meets the end only when there is nothing left and nobody was refused. -/
theorem Tracks.move (ht : Tracks g start heard h) {p : Party} {answer : List (Option (Token K))}
    (hm : Move g h p answer h') : Tracks g start (heard ++ answer) h' := by
  obtain ⟨tokens, ended, rfl, hf⟩ := ht
  have hsent := hf.sent
  cases hm with
  | run hp hl =>
    rw [hp] at hsent
    have hnext := hf.produce (by rw [hp]; nofun) (hsent.run hl) nofun
    rw [← hp] at hnext
    exact hnext.tracks
  | pull hp hl =>
    rw [hp] at hsent
    have hnext := hf.produce (by rw [hp]; nofun) (hsent.pull hl) nofun
    exact hnext.tracks
  | close hp hl =>
    rw [hp] at hsent
    have hclosed := hsent.settle hl nofun
    have hnext := hf.produce (p := .exited .closed) (by rw [hp]; nofun) hclosed nofun
    exact hnext.tracks
  | breakOff hp hl =>
    rw [hp] at hsent
    have hfaulted := hsent.settle hl nofun
    have hnext := hf.produce (p := .exited (.faulted _)) (by rw [hp]; nofun) hfaulted nofun
    exact hnext.tracks
  | handOver hp hr hroom =>
    rw [hp] at hsent
    have hbuffered := hsent.handOver
    rw [List.append_assoc] at hbuffered
    have hnext := hf.produce (by rw [hp]; nofun) hbuffered nofun
    exact hnext.tracks
  | @refuse t r hp hr =>
    rw [hp] at hsent
    obtain ⟨n, hdelivers⟩ := hsent
    have hnext := hf.produce (m := { h.lexer with scanner := h.lexer.scanner.note .consumerGone })
      (p := .exited (.refused t)) (by rw [hp]; nofun) ⟨n, _, hdelivers⟩ fun _ _ => ⟨r, hr⟩
    exact hnext.tracks
  | @take t rest go hr hb =>
    have hover : ¬ h.Over := by
      rintro ⟨hnil, -⟩
      rw [hb] at hnil
      cases hnil
    obtain rfl := hf.ended_eq_zero hover
    rw [hb] at hsent
    exact ⟨tokens ++ [t], 0, hearing_token tokens t, .take _ hsent (hf.not_refused hr)⟩
  | @meet t go hr hb hp hc =>
    obtain rfl := hf.ended_eq_zero (not_over_of_busy (by rw [hp]; nofun))
    rw [hp, hb, List.append_nil] at hsent
    have hnext : Producer.Sent g start (tokens ++ t :: h.buffer) h.lexer .scanning := by
      rw [hb]
      exact hsent.handOver
    exact ⟨tokens ++ [t], 0, hearing_token tokens t, .take _ hnext nofun⟩
  | @hearEnd how go hr hb hp =>
    -- a refusal is out of the question while the consumer still asks
    have hover : h.Over := by
      refine ⟨hb, ?_⟩
      cases how with
      | closed => exact .inl hp
      | refused t => exact absurd hp (hf.not_refused hr t)
      | faulted f => exact .inr ⟨f, hp⟩
    have hturn := hf.turn hr (.asking (go none))
    exact ⟨tokens, ended + 1, hearing_end tokens ended, { hturn with finished := fun _ => hover }⟩
  | lookUp hr => exact (hf.turn hr _).tracks
  | finish hr => exact (hf.turn hr _).tracks
  | giveUp hr => exact (hf.turn hr _).tracks

theorem Tracks.play (ht : Tracks g start [] h) (schedule : List Party) :
    Tracks g start (h.play g schedule).1 (h.play g schedule).2 :=
  play_keeps (fun ht hm => ht.move hm) schedule ht

/-- The consumer is answered with the tokens that pulling the lexer delivers first, and then only
with `none`. When it has met `none`, the outcome of the run tells whether these were all tokens:
after a normal return, pulling delivers no more of them, and otherwise the next pull meets the
fault. -/
structure Delivered (g : Grammar K σ μ) (start : Lexer K σ μ)
    (run : List (Option (Token K)) × Handoff K σ μ ρ) (tokens : List (Token K)) (ended : ℕ) :
    Prop where
  heard : run.1 = tokens.map some ++ List.replicate ended none
  delivers : ∃ n l, start.Delivers g (tokens.map .token) n l
  lastPosition : run.2.lastPosition = tokens.getLast?.map Token.position
  returned : 0 < ended → ∀ result, run.2.outcome = some (.returned result) →
    ∃ n l, ∀ j, start.Delivers g (tokens.map .token ++ List.replicate (j + 1) .closed) n l
  faulted : 0 < ended → ∀ f, run.2.outcome = some (.producerFaulted f) →
    ∃ n l, start.Delivers g (tokens.map .token ++ [.faulted f]) n l

/-- Every schedule delivers to the consumer what pulling the lexer delivers. -/
theorem play_delivered (g : Grammar K σ μ) (input : String) (config : Config) (memory : μ)
    (consumer : Consumer K ρ) (schedule : List Party) :
    ∃ tokens ended, Delivered g (.ofInput g input config memory)
      ((Handoff.ofInput g input config memory consumer).play g schedule) tokens ended := by
  obtain ⟨tokens, ended, hheard, hf⟩ :=
    Tracks.play ⟨[], 0, rfl, Faithful.fresh g input config memory consumer⟩ schedule
  have hsent := hf.sent
  refine ⟨tokens, ended, ?_⟩
  refine
    { heard := hheard, delivers := ?delivers, lastPosition := hf.position
      returned := ?returned, faulted := ?faulted }
  case delivers =>
    obtain ⟨n, last, hdelivers⟩ := hsent.delivers
    rw [List.map_append] at hdelivers
    exact hdelivers.of_append
  case returned =>
    intro hended result ho
    obtain ⟨hb, hp | ⟨f, hp⟩⟩ := hf.finished hended
    · rw [hp, hb, List.append_nil] at hsent
      obtain ⟨n, hdelivers⟩ := hsent
      exact ⟨n, _, fun j => (hdelivers.closed_again j).1⟩
    · exact absurd hp ((returned_of_outcome ho).2 f)
  case faulted =>
    intro hended f ho
    obtain ⟨hb, -⟩ := hf.finished hended
    rw [(producerFaulted_of_outcome ho).2, hb, List.append_nil] at hsent
    obtain ⟨n, hdelivers⟩ := hsent
    exact ⟨n, _, hdelivers⟩

theorem play_delivered_symbol :
    let start := Lexer.ofInput Arithmetic.grammar "+" {} ()
    let consumer : Consumer Arithmetic.Kind Unit := .next fun _ => .next fun _ => .finish ()
    let schedule : List Party :=
      [.consumer, .producer, .producer, .consumer, .producer, .producer, .consumer, .consumer]
    let run := (Handoff.ofInput Arithmetic.grammar "+" {} () consumer).play Arithmetic.grammar schedule
    run.1 = [some ⟨.punct, ⟨0, 1⟩, "+"⟩, none] ∧
      ∃ (tokens : List (Token Arithmetic.Kind)) (ended n : ℕ) (l : Lexer Arithmetic.Kind Unit Unit),
        run.1 = tokens.map some ++ List.replicate ended none ∧
        start.Delivers Arithmetic.grammar (tokens.map .token ++ [.closed]) n l := by
  intro start consumer schedule run
  have hheard : run.1 = [some ⟨.punct, ⟨0, 1⟩, "+"⟩, none] := by decide +kernel
  have houtcome : run.2.outcome = some (.returned ()) := by decide +kernel
  obtain ⟨tokens, ended, hrun⟩ := play_delivered Arithmetic.grammar "+" {} () consumer schedule
  have hended : 0 < ended := by
    have hnone : none ∈ tokens.map some ++ List.replicate ended none := by
      rw [← hrun.heard, hheard]
      decide
    rcases List.mem_append.mp hnone with htoken | hend
    · obtain ⟨t, -, ht⟩ := List.mem_map.mp htoken
      cases ht
    · exact Nat.pos_of_ne_zero (List.mem_replicate.mp hend).1
  obtain ⟨n, l, hdelivers⟩ := hrun.returned hended () houtcome
  exact ⟨hheard, tokens, ended, n, l, hrun.heard, hdelivers 0⟩

end StateLexer.Handoff
