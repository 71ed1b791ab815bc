import StateLexer.Proofs.Lexer.Failure

/-! # The trace of a lexer

Every call that publishes, or would if the scan had not failed, leaves one event, and so does the
end of the stream. The events are those of the calls in their order: tokens as long as the scan goes
well, then the failure, and from there on refusals. The end comes last.
-/

namespace StateLexer

variable {K σ μ : Type} [TokenKind K]

namespace Event

def token? : Event K → Option (Token K)
  | published token => some token
  | failed position message => some ⟨TokenKind.error, position, message⟩
  | _ => none

/-- The event tells of the token, as a token published or as a failure, by the fields that are
reported. -/
def Reports (e : Event K) (t : Token K) : Prop :=
  e.fields =
      [("message", .text "emit"), ("kind", .text (TokenKind.name t.kind)),
        ("offset", .number t.position.offset), ("line", .number t.position.line.toNat),
        ("text", .text t.text)] ∨
    t.kind = TokenKind.error ∧ e.fields =
      [("message", .text "scan error"), ("offset", .number t.position.offset),
        ("line", .number t.position.line.toNat), ("message", .text t.text)]

def IsPublished (e : Event K) : Prop := ∃ token, e = published token

def IsFailed (e : Event K) : Prop := ∃ position message, e = failed position message

def IsDropped (e : Event K) : Prop :=
  (∃ kind offset, e = dropped kind offset) ∨ ∃ message, e = droppedFailure message

theorem reports_of_token? {e : Event K} {t : Token K} (h : e.token? = some t) : e.Reports t := by
  cases e with
  | published token =>
    obtain rfl := Option.some.inj h
    exact .inl rfl
  | failed position message =>
    obtain rfl := Option.some.inj h
    exact .inr ⟨rfl, rfl⟩
  | _ => cases h

theorem forall₂_reports (events : List (Event K)) :
    List.Forall₂ Reports (events.filter (·.token?.isSome)) (events.filterMap token?) := by
  induction events with
  | nil => exact .nil
  | cons e events ih =>
    cases h : e.token? with
    | none =>
      rw [List.filterMap_cons_none h, List.filter_cons_of_neg (by simp [h])]
      exact ih
    | some t =>
      rw [List.filterMap_cons_some h, List.filter_cons_of_pos (by simp [h])]
      exact .cons (reports_of_token? h) ih

/-- Tokens are published until the scan fails, and from there on everything is dropped. The flag
tells whether it has failed. -/
inductive Orderly : List (Event K) → Bool → Prop
  | nil : Orderly [] false
  | publish {events : List (Event K)} (h : Orderly events false) (token : Token K) :
      Orderly (events ++ [published token]) false
  | fail {events : List (Event K)} (h : Orderly events false) (position : Position)
      (message : String) : Orderly (events ++ [failed position message]) true
  | drop {events : List (Event K)} (h : Orderly events true) (kind : K) (offset : ℕ) :
      Orderly (events ++ [dropped kind offset]) true
  | dropFailure {events : List (Event K)} (h : Orderly events true) (message : String) :
      Orderly (events ++ [droppedFailure message]) true

namespace Orderly

variable {events : List (Event K)} {halted : Bool}

omit [TokenKind K] in
theorem isPublished (h : Orderly events false) : ∀ e ∈ events, e.IsPublished := by
  generalize hf : false = halted at h
  induction h with
  | nil => simp
  | publish h token ih =>
    intro e he
    rcases List.mem_append.mp he with he | he
    · exact ih rfl e he
    · exact ⟨token, List.mem_singleton.mp he⟩
  | fail | drop | dropFailure => cases hf

omit [TokenKind K] in
theorem exists_failure (h : Orderly events true) :
    ∃ front position message back, events = front ++ failed position message :: back ∧
      (∀ e ∈ front, e.IsPublished) ∧ ∀ e ∈ back, e.IsDropped := by
  generalize ht : true = halted at h
  induction h with
  | nil | publish => cases ht
  | @fail events h position message ih =>
    exact ⟨events, position, message, [], rfl, h.isPublished, by simp⟩
  | drop h kind offset ih =>
    obtain ⟨front, position, message, back, rfl, hfront, hback⟩ := ih rfl
    refine ⟨front, position, message, back ++ [dropped kind offset], by simp, hfront, ?_⟩
    intro e he
    rcases List.mem_append.mp he with he | he
    · exact hback e he
    · exact .inl ⟨kind, offset, List.mem_singleton.mp he⟩
  | dropFailure h text ih =>
    obtain ⟨front, position, message, back, rfl, hfront, hback⟩ := ih rfl
    refine ⟨front, position, message, back ++ [droppedFailure text], by simp, hfront, ?_⟩
    intro e he
    rcases List.mem_append.mp he with he | he
    · exact hback e he
    · exact .inr ⟨text, List.mem_singleton.mp he⟩

omit [TokenKind K] in
theorem exists_failed_iff (h : Orderly events halted) :
    (∃ e ∈ events, e.IsFailed) ↔ halted = true := by
  cases halted with
  | false =>
    refine ⟨?_, nofun⟩
    rintro ⟨e, he, position, message, rfl⟩
    obtain ⟨token, htoken⟩ := h.isPublished _ he
    cases htoken
  | true =>
    obtain ⟨front, position, message, back, rfl, -, -⟩ := h.exists_failure
    exact ⟨fun _ => rfl, fun _ => ⟨_, by simp, position, message, rfl⟩⟩

omit [TokenKind K] in
theorem kinds (h : Orderly events halted) :
    ∀ e ∈ events, e.IsPublished ∨ e.IsFailed ∨ e.IsDropped := by
  cases halted with
  | false => exact fun e he => .inl (h.isPublished e he)
  | true =>
    obtain ⟨front, position, message, back, rfl, hfront, hback⟩ := h.exists_failure
    intro e he
    rcases List.mem_append.mp he with he | he
    · exact .inl (hfront e he)
    · rcases List.mem_cons.mp he with rfl | he
      · exact .inr (.inl ⟨position, message, rfl⟩)
      · exact .inr (.inr (hback e he))

end Orderly

end Event

/-- The request is one of the three that leave an event. -/
def Op.Announces : Op K μ → Prop
  | .publishSpan _ | .publish _ _ | .fail _ => True
  | _ => False

namespace Call

/-- The event that a call leaves. -/
def event? (c : Call K μ) : Option (Event K) :=
  match c.op with
  | .fail message =>
    if c.scanner.halted then some (.droppedFailure message)
    else some (.failed c.scanner.cursor.startPosition message)
  | _ =>
    c.offer?.map fun token =>
      if c.scanner.halted then .dropped token.kind token.position.offset else .published token

variable {c : Call K μ}

theorem isSome_event?_iff :
    c.event?.isSome = true ↔ c.op.Announces ∧ ∀ f, (c.op.perform c.scanner).1 ≠ .error f := by
  obtain ⟨o, s⟩ := c
  cases o with
  | publishSpan kind =>
    simp only [event?, offer?, Op.perform, Scanner.publishSpan?, Op.Announces]
    cases s.cursor.pendingText? <;> simp
  | fail message => cases hh : s.halted <;> simp [event?, Op.perform, Op.Announces, hh]
  | _ => simp [event?, offer?, Op.perform, Op.Announces]

theorem bind_token?_event? (c : Call K μ) : c.event?.bind Event.token? = c.token? := by
  obtain ⟨o, s⟩ := c
  cases o with
  | publishSpan kind =>
    simp only [event?, offer?, token?]
    cases s.cursor.pendingText? <;> cases s.halted <;> rfl
  | publish kind text =>
    simp only [event?, offer?, token?]
    cases s.halted <;> rfl
  | fail message =>
    simp only [event?, offer?, token?]
    cases s.halted <;> rfl
  | _ => simp [event?, offer?, token?]

end Call

section
variable {s : Scanner K μ} {o : Op K μ}

omit [TokenKind K] in
theorem Scanner.trace_publish (kind : K) (text : String) (s : Scanner K μ) :
    (s.publish kind text).halted = s.halted ∧
      (s.publish kind text).trace = s.trace.push
        (if s.halted then .dropped kind s.cursor.start
          else .published ⟨kind, s.cursor.startPosition, text⟩) := by
  cases hh : s.halted <;> simp [Scanner.publish, Scanner.note, Cursor.startPosition, hh]

theorem Scanner.trace_fail (message : String) (s : Scanner K μ) :
    (s.fail message).halted = true ∧
      (s.fail message).trace = s.trace.push
        (if s.halted then .droppedFailure message
          else .failed s.cursor.startPosition message) := by
  cases hh : s.halted <;> simp [Scanner.fail, Scanner.note, hh]

end

namespace Call

variable {o : Op K μ} {s : Scanner K μ} {token : Token K}

theorem event?_of_offer? (hfail : ∀ message, o ≠ .fail message) :
    (Call.mk o s).event? = (Call.mk o s).offer?.map fun token =>
      if s.halted then .dropped token.kind token.position.offset else .published token := by
  cases o with
  | fail message => exact absurd rfl (hfail message)
  | _ => rfl

/-- A call adds its event to the trace, and that goes with what was announced before. -/
theorem trace_after (c : Call K μ) :
    c.after.trace.toList = c.scanner.trace.toList ++ c.event?.toList ∧
      ∀ events, Event.Orderly events c.scanner.halted →
        Event.Orderly (events ++ c.event?.toList) c.after.halted := by
  obtain ⟨o, s⟩ := c
  by_cases hfail : ∃ message, o = .fail message
  · obtain ⟨message, rfl⟩ := hfail
    obtain ⟨hhalted, htrace⟩ := s.trace_fail message
    simp only [after, Op.perform, event?, hhalted, htrace, Array.toList_push]
    cases s.halted with
    | true => exact ⟨rfl, fun events h => h.dropFailure message⟩
    | false => exact ⟨rfl, fun events h => h.fail _ message⟩
  rw [not_exists] at hfail
  rw [event?_of_offer? hfail]
  cases hoffer : (Call.mk o s).offer? with
  | none =>
    have hhalted : (Call.mk o s).after.halted = s.halted :=
      congrArg Stream.halted (Op.stream_of_offer?_eq_none hoffer)
    have htrace : (Call.mk o s).after.trace = s.trace := by
      obtain ⟨cursor, bookmarks, memory, hs⟩ := Op.perform_of_offer?_eq_none hoffer
      rw [after, hs]
    rw [hhalted, htrace]
    simp
  | some token =>
    obtain ⟨hposition, hafter⟩ := Op.perform_of_offer? hoffer hfail
    obtain ⟨hhalted, htrace⟩ := s.trace_publish token.kind token.text
    simp only [after, hafter, hhalted, htrace, Array.toList_push, Option.map_some,
      Option.toList_some]
    cases s.halted with
    | true =>
      rw [hposition]
      exact ⟨rfl, fun events h => h.drop _ _⟩
    | false =>
      rw [← hposition]
      exact ⟨rfl, fun events h => h.publish token⟩

end Call

theorem Leads.trace_eq {s t : Scanner K μ} {calls : List (Call K μ)} (h : Leads s calls t) :
    t.trace.toList = s.trace.toList ++ calls.filterMap Call.event? ∧
      ∀ events, Event.Orderly events s.halted →
        Event.Orderly (events ++ calls.filterMap Call.event?) t.halted := by
  induction h with
  | nil => simp
  | @cons c calls t hrest ih =>
    obtain ⟨htrace, horderly⟩ := c.trace_after
    have hsplit : (c :: calls).filterMap Call.event? =
        c.event?.toList ++ calls.filterMap Call.event? := by
      cases hc : c.event? with
      | none => rw [List.filterMap_cons_none hc]; rfl
      | some e => rw [List.filterMap_cons_some hc]; rfl
    rw [hsplit, ih.1, htrace, List.append_assoc]
    refine ⟨rfl, ?_⟩
    intro events hevents
    rw [← List.append_assoc]
    exact ih.2 _ (horderly _ hevents)

namespace Lexer

variable {g : Grammar K σ μ} {l m : Lexer K σ μ} {n : ℕ}

def events (g : Grammar K σ μ) (n : ℕ) (l : Lexer K σ μ) : List (Event K) :=
  (l.calls g n).filterMap Call.event?

/-- What the end of the stream leaves in the trace. -/
def closing (l : Lexer K σ μ) : List (Event K) :=
  if l.closed then [.closed l.scanner.cursor.pos l.scanner.halted] else []

/-- The trace of `m` tells the events, and the end if `m` has closed. -/
structure Tells (m : Lexer K σ μ) (events : List (Event K)) : Prop where
  trace_eq : m.scanner.trace.toList = events ++ m.closing
  orderly : Event.Orderly events m.scanner.halted
  ended : m.closed = true → m.scanner.queue = [] ∧ m.state = none

omit [TokenKind K] in
theorem tells_ofInput (g : Grammar K σ μ) (input : String) (config : Config) (memory : μ) :
    (Lexer.ofInput g input config memory).Tells [] :=
  ⟨rfl, .nil, nofun⟩

namespace Tells

omit [TokenKind K] in
theorem closing_of_open (h : m.closed = false) : m.closing = [] := by
  rw [closing, h, if_neg Bool.false_ne_true]

theorem step {events : List (Event K)} (h : m.Tells events) :
    (m.step g).2.Tells (events ++ (m.requests g).filterMap Call.event?) := by
  have htrace := h.trace_eq
  have hopen : m.scanner.queue ≠ [] ∨ m.state ≠ none → m.closed = false := by
    intro hne
    by_contra hclosed
    obtain ⟨hq, hstate⟩ := h.ended (by simpa using hclosed)
    simp [hq, hstate] at hne
  rcases step_cases g m with
    ⟨t, rest, hq, hcur, hs⟩ | ⟨state, hq, hcur, hs⟩ | ⟨hq, hcur, hstate, hs⟩
  · have hclosed := hopen (.inl (by simp [hq]))
    rw [requests, hcur, hs, List.filterMap_nil, List.append_nil]
    exact ⟨htrace, h.orderly, fun hc => absurd hc (by simp [hclosed])⟩
  · have hclosed := hopen (.inr fun hnone => by simp [current?_of_state hnone] at hcur)
    rw [closing_of_open hclosed, List.append_nil] at htrace
    obtain ⟨hcalls, horderly⟩ := ((g.program state).leads_calls m.scanner).trace_eq
    have hrun : (m.runState g state).2.closed = false := by
      unfold runState
      split <;> exact hclosed
    rw [requests, hcur, hs]
    refine ⟨?_, ?_, fun hc => absurd hc (by simp [hrun])⟩
    · rw [closing_of_open hrun, List.append_nil, scanner_runState, hcalls, htrace]
    · rw [scanner_runState]
      exact horderly events h.orderly
  · rw [requests, hcur, hs, List.filterMap_nil, List.append_nil]
    unfold close
    split
    · exact h
    · rename_i hclosed
      rw [closing_of_open (by simpa using hclosed), List.append_nil] at htrace
      refine ⟨?_, h.orderly, fun _ => ⟨hq, hstate⟩⟩
      simp [Scanner.note, closing, htrace]

theorem after (h : l.Tells []) (n : ℕ) : (l.after g n).Tells (l.events g n) := by
  induction n with
  | zero => exact h
  | succ n ih =>
    rw [after_succ, events, calls_succ, List.filterMap_append]
    exact ih.step

end Tells

theorem closed_mem_outcomes (hopen : l.closed = false) (h : (l.after g n).closed = true) :
    .closed ∈ l.outcomes g n := by
  induction n with
  | zero =>
    change l.closed = true at h
    rw [hopen] at h
    cases h
  | succ n ih =>
    rw [after_succ] at h
    rw [outcomes_succ]
    rcases step_cases g (l.after g n) with ⟨t, rest, -, -, hs⟩ | ⟨state, -, -, hs⟩ | ⟨-, -, -, hs⟩
    · rw [hs] at h
      exact List.mem_append_left _ (ih h)
    · have hrun : ((l.after g n).runState g state).2.closed = (l.after g n).closed := by
        unfold runState
        split <;> rfl
      rw [hs, hrun] at h
      exact List.mem_append_left _ (ih h)
    · rw [hs]
      exact List.mem_append_right _ (List.mem_singleton.mpr rfl)

omit [TokenKind K] in
theorem closed_close (l : Lexer K σ μ) : l.close.closed = true := by
  unfold close
  split
  · assumption
  · rfl

theorem Delivers.closed {os : List (Outcome K)} (h : l.Delivers g (os ++ [.closed]) n m) :
    m.closed = true := by
  obtain ⟨-, -, hclose⟩ := of_step_closed (h.closed_again 0).2.step_eq
  rw [← hclose]
  exact closed_close m

end Lexer

end StateLexer
