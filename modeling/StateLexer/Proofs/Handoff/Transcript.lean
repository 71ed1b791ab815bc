import StateLexer.Arithmetic
import StateLexer.Proofs.Handoff.RunAhead
import StateLexer.Proofs.Lexer.Transcript

/-! # The trace tells the run

Whoever reads the trace of a lexer reads what its states announced, in order, and the end. A lexer
at work for a handoff leaves the same events, and after them either the end of the stream or that
nobody took its token.
-/

namespace StateLexer

variable {K σ μ ρ : Type} [TokenKind K] {g : Grammar K σ μ}

namespace Lexer

variable {l l' : Lexer K σ μ} {n : ℕ} {os : List (Outcome K)}

theorem reports_events (hq : l.scanner.queue = []) (n : ℕ) :
    List.Forall₂ Event.Reports ((l.events g n).filter (·.token?.isSome))
      ((l.outcomes g n).filterMap Outcome.token? ++ (l.after g n).scanner.queue) := by
  have htokens := tokens_append_queue g n l
  have hevents : (l.events g n).filterMap Event.token? =
      (l.calls g n).filterMap Call.token? := by
    rw [events, List.filterMap_filterMap]
    exact List.filterMap_congr fun c _ => c.bind_token?_event?
  rw [hq, List.nil_append] at htokens
  rw [htokens, ← hevents]
  exact Event.forall₂_reports _

/-- After `n` steps the trace consists of the events of the calls made, one for each call that
announces something and is not broken off, in their order, and of the end, which stands there only if
a pull has met it. The events that tell of tokens tell of the tokens published, one by one. Nothing
is dropped before the failure, and after it nothing but that occurs. -/
structure Traced (g : Grammar K σ μ) (l : Lexer K σ μ) (n : ℕ) : Prop where
  trace_eq : (l.after g n).scanner.trace.toList = l.events g n ++ (l.after g n).closing
  closed_mem : (l.after g n).closed = true → .closed ∈ l.outcomes g n
  isSome_event? : ∀ c ∈ l.calls g n, c.event?.isSome = true ↔
    c.op.Announces ∧ ∀ f, (c.op.perform c.scanner).1 ≠ .error f
  reports : List.Forall₂ Event.Reports ((l.events g n).filter (·.token?.isSome))
    ((l.outcomes g n).filterMap Outcome.token? ++ (l.after g n).scanner.queue)
  ordered : (∀ e ∈ l.events g n, e.IsPublished) ∨
    ∃ front position message back, l.events g n = front ++ .failed position message :: back ∧
      (∀ e ∈ front, e.IsPublished) ∧ ∀ e ∈ back, e.IsDropped

theorem Tells.traced (h : l.Tells []) (hq : l.scanner.queue = []) (hopen : l.closed = false)
    (n : ℕ) : l.Traced g n where
  trace_eq := (h.after n).trace_eq
  closed_mem := closed_mem_outcomes hopen
  isSome_event? _ _ := Call.isSome_event?_iff
  reports := reports_events hq n
  ordered := by
    have horderly := (h.after (g := g) n).orderly
    cases hhalted : (l.after g n).scanner.halted with
    | false =>
      rw [hhalted] at horderly
      exact .inl horderly.isPublished
    | true =>
      rw [hhalted] at horderly
      exact .inr horderly.exists_failure

/-- The trace of a stream that has closed tells the end once, and with it whether there was a
failure. It stays as it is. -/
structure TracedToEnd (g : Grammar K σ μ) (l : Lexer K σ μ) (os : List (Outcome K)) (n : ℕ)
    (l' : Lexer K σ μ) : Prop where
  trace_eq : l'.scanner.trace.toList = l.events g (n + (os ++ [Outcome.closed]).length) ++
    [.closed l'.scanner.cursor.pos l'.scanner.halted]
  kinds : ∀ e ∈ l.events g (n + (os ++ [Outcome.closed]).length),
    e.IsPublished ∨ e.IsFailed ∨ e.IsDropped
  halted_iff : l'.scanner.halted = true ↔
    ∃ e ∈ l.events g (n + (os ++ [Outcome.closed]).length), e.IsFailed
  delivers : ∀ j, l.Delivers g (os ++ List.replicate (j + 1) .closed) n l'

theorem Delivers.tracedToEnd (ht : l.Tells []) (h : l.Delivers g (os ++ [.closed]) n l') :
    l.TracedToEnd g os n l' := by
  have htells := ht.after (g := g) (n + (os ++ [Outcome.closed]).length)
  rw [h.steps.2] at htells
  have htrace := htells.trace_eq
  rw [closing, if_pos h.closed] at htrace
  exact ⟨htrace, htells.orderly.kinds, htells.orderly.exists_failed_iff.symm,
    fun j => (h.closed_again j).1⟩

end Lexer

namespace Handoff

def events (g : Grammar K σ μ) (schedule : List Party) (h : Handoff K σ μ ρ) : List (Event K) :=
  ((h.scanned g schedule).flatMap (Lexer.requests g)).filterMap Call.event?

/-- A producer that exits leaves the events of its lexer's calls, and after them either the end or
that its consumer is gone, unless a state broke off. -/
structure Traced (g : Grammar K σ μ) (first : Handoff K σ μ ρ) (schedule : List Party)
    (how : Exit K) : Prop where
  kinds : ∀ e ∈ first.events g schedule, e.IsPublished ∨ e.IsFailed ∨ e.IsDropped
  closed : how = .closed → (first.play g schedule).2.lexer.scanner.trace.toList =
    first.events g schedule ++
      [.closed (first.play g schedule).2.lexer.scanner.cursor.pos
        (first.play g schedule).2.lexer.scanner.halted]
  refused : ∀ t, how = .refused t → (first.play g schedule).2.lexer.scanner.trace.toList =
    first.events g schedule ++ [.consumerGone]
  faulted : ∀ f, how = .faulted f → (first.play g schedule).2.lexer.scanner.trace.toList =
    first.events g schedule

namespace Accounted

variable {start : Lexer K σ μ} {heard : List (Option (Token K))} {n : ℕ} {h : Handoff K σ μ ρ}

theorem trace_of_closed (ha : Accounted g start heard n h) (ht : start.Tells [])
    (hp : h.producer = .exited .closed) :
    h.lexer.scanner.trace.toList =
      start.events g n ++ [.closed h.lexer.scanner.cursor.pos h.lexer.scanner.halted] := by
  have hlexer : h.lexer = start.after g n := by
    rw [ha.lexer_eq, hp]
    rfl
  have houtcomes := ha.outcomes_eq
  obtain ⟨d, hdelivers, -⟩ := ha.settled (by rw [hp]; nofun)
  rw [hp, Producer.held] at houtcomes
  rw [houtcomes] at hdelivers
  have htrace := (ht.after (g := g) n).trace_eq
  rwa [Lexer.closing, if_pos hdelivers.closed, ← hlexer] at htrace

theorem trace_of_open (ha : Accounted g start heard n h) (ht : start.Tells [])
    (hopen : start.closed = false) (hheld : .closed ∉ h.producer.held) :
    (start.after g n).scanner.trace.toList = start.events g n := by
  have htokens : .closed ∉ start.outcomes g n := by simp [ha.outcomes_eq, hheld]
  have hclosed : (start.after g n).closed = false := by
    by_contra hne
    exact htokens (Lexer.closed_mem_outcomes hopen (by simpa using hne))
  have htrace := (ht.after (g := g) n).trace_eq
  rwa [Lexer.Tells.closing_of_open hclosed, List.append_nil] at htrace

theorem trace_of_refused (ha : Accounted g start heard n h) (ht : start.Tells [])
    (hopen : start.closed = false) {t : Token K} (hp : h.producer = .exited (.refused t)) :
    h.lexer.scanner.trace.toList = start.events g n ++ [.consumerGone] := by
  rw [ha.lexer_eq, hp, ← ha.trace_of_open ht hopen (by rw [hp, Producer.held]; simp)]
  exact Array.toList_push

theorem trace_of_faulted (ha : Accounted g start heard n h) (ht : start.Tells [])
    (hopen : start.closed = false) {f : Fault} (hp : h.producer = .exited (.faulted f)) :
    h.lexer.scanner.trace.toList = start.events g n := by
  rw [ha.lexer_eq, hp, ← ha.trace_of_open ht hopen (by rw [hp, Producer.held]; simp)]
  rfl

theorem traced {first : Handoff K σ μ ρ} {schedule : List Party} {how : Exit K}
    (ha : Accounted g start heard n (first.play g schedule).2)
    (hscanned : first.scanned g schedule = start.path g n) (ht : start.Tells [])
    (hopen : start.closed = false) (hp : (first.play g schedule).2.producer = .exited how) :
    first.Traced g schedule how := by
  have hevents : first.events g schedule = start.events g n := by
    rw [events, hscanned]
    rfl
  refine ⟨?_, ?_, ?_, ?_⟩
  · rw [hevents]
    exact (ht.after n).orderly.kinds
  · rintro rfl
    rw [hevents]
    exact ha.trace_of_closed ht hp
  · rintro t rfl
    rw [hevents]
    exact ha.trace_of_refused ht hopen hp
  · rintro f rfl
    rw [hevents]
    exact ha.trace_of_faulted ht hopen hp

end Accounted

end Handoff

namespace Lexer

/-- The trace of a lexer tells its run, at every step and at the end of the stream, and so does the
trace that the producer of a handoff leaves. -/
theorem ofInput_traced (g : Grammar K σ μ) (input : String) (config : Config) (memory : μ) :
    let l := Lexer.ofInput g input config memory
    (∀ n, l.Traced g n) ∧
      (∀ os n l', l.Delivers g (os ++ [.closed]) n l' → l.TracedToEnd g os n l') ∧
      ∀ (ρ : Type) (consumer : Consumer K ρ) (schedule : List Handoff.Party) (how : Handoff.Exit K),
        let first := Handoff.ofInput g input config memory consumer
        (first.play g schedule).2.producer = .exited how → first.Traced g schedule how := by
  intro l
  have htells : l.Tells [] := tells_ofInput g input config memory
  refine ⟨htells.traced rfl rfl, fun os n l' h => h.tracedToEnd htells, ?_⟩
  intro ρ consumer schedule how first hp
  obtain ⟨n, hscanned, ha⟩ := (Handoff.Accounted.fresh g input config memory consumer).play schedule
  exact ha.traced hscanned htells rfl hp

/-- A symbol, a bad number and the end leave one event each. The consumer that goes after one token
leaves the second one to the trace. -/
theorem ofInput_traced_bad_number :
    let l := Arithmetic.lexer "+1x"
    let bad := "bad number syntax: \"1x\""
    let consumer : Consumer Arithmetic.Kind Unit := .next fun _ => .finish ()
    let first := Handoff.ofInput Arithmetic.grammar "+1x" {} () consumer
    let schedule : List Handoff.Party :=
      [.producer, .producer, .consumer, .consumer, .producer, .producer, .producer]
    (∃ d l', l.Delivers Arithmetic.grammar
        [.token ⟨.punct, ⟨0, 1⟩, "+"⟩, .token ⟨.error, ⟨1, 1⟩, bad⟩, .closed] d l' ∧
      l'.scanner.trace.toList =
        [.published ⟨.punct, ⟨0, 1⟩, "+"⟩, .failed ⟨1, 1⟩ bad, .closed 3 true]) ∧
      (first.play Arithmetic.grammar schedule).2.lexer.scanner.trace.toList =
        [.published ⟨.punct, ⟨0, 1⟩, "+"⟩, .failed ⟨1, 1⟩ bad, .consumerGone] := by
  intro l bad consumer first schedule
  obtain ⟨-, hpulls, hhandoff⟩ := ofInput_traced Arithmetic.grammar "+1x" {} ()
  have hstep : ((l.after Arithmetic.grammar 4).step Arithmetic.grammar).1 = .closed := by
    decide +kernel
  have houtcomes : l.outcomes Arithmetic.grammar 4 =
      [.token ⟨.punct, ⟨0, 1⟩, "+"⟩, .token ⟨.error, ⟨1, 1⟩, bad⟩] := by
    decide +kernel
  obtain ⟨d, hdelivers, hd⟩ := delivers_of_settled (Prod.ext hstep rfl) nofun
  rw [houtcomes] at hdelivers hd
  obtain rfl : d = 2 := by simpa using hd.symm
  have hend := hpulls _ 2 _ hdelivers
  have hgone := hhandoff Unit consumer schedule (.refused ⟨.error, ⟨1, 1⟩, bad⟩)
    (by decide +kernel)
  refine ⟨⟨2, _, hdelivers, ?_⟩, ?_⟩
  · rw [hend.trace_eq]
    decide +kernel
  · rw [hgone.refused _ rfl]
    decide +kernel

end Lexer

end StateLexer
