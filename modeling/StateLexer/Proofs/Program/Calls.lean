import StateLexer.Program

/-! # The calls of a run

To run a program is to make its requests one after the other. A call is a request together with the
scanner that it is made of. What every single request keeps, a whole run keeps. The tokens that a
run adds to the queue are those that its calls publish, and once the scanner has halted no call
publishes anything.
-/

namespace StateLexer

variable {K μ α : Type}

/-- What a scanner tells about the tokens published so far. -/
structure Stream (K : Type) where
  queue : List (Token K)
  lastKind : Option K
  lastSignificant : Option (Token K)
  halted : Bool

def Scanner.stream (s : Scanner K μ) : Stream K :=
  ⟨s.queue, s.lastKind, s.lastSignificant, s.halted⟩

structure Call (K μ : Type) where
  op : Op K μ
  scanner : Scanner K μ

variable [TokenKind K] {s t : Scanner K μ} {o : Op K μ} {c : Call K μ} {cs : List (Call K μ)}
  {kind : K} {text message : String}

def Scanner.failure (message : String) (s : Scanner K μ) : Token K :=
  ⟨TokenKind.error, s.cursor.startPosition, message⟩

/-- What the scanner tells after a failure. -/
def Scanner.failed (message : String) (s : Scanner K μ) : Stream K :=
  ⟨s.queue ++ [s.failure message], some TokenKind.error, s.lastSignificant, true⟩

def Scanner.published (kind : K) (text : String) (s : Scanner K μ) : Stream K :=
  let token : Token K := ⟨kind, s.cursor.startPosition, text⟩
  ⟨s.queue ++ [token], some kind, if s.isWhitespace kind then s.lastSignificant else some token,
    false⟩

namespace Call

def after (c : Call K μ) : Scanner K μ := (c.op.perform c.scanner).2

/-- The token that a request would publish if the scanner has not halted. -/
def offer? (c : Call K μ) : Option (Token K) :=
  match c.op with
  | .publishSpan kind => c.scanner.cursor.pendingText?.map (⟨kind, c.scanner.cursor.startPosition, ·⟩)
  | .publish kind text => some ⟨kind, c.scanner.cursor.startPosition, text⟩
  | .fail message => some (c.scanner.failure message)
  | _ => none

/-- The token that a request publishes. -/
def token? (c : Call K μ) : Option (Token K) := if c.scanner.halted then none else c.offer?

def Fails (c : Call K μ) : Prop := c.scanner.halted = false ∧ ∃ message, c.op = .fail message

theorem token?_of_halted (h : c.scanner.halted = true) : c.token? = none := by
  rw [token?, if_pos h]

theorem token?_of_fail (hop : c.op = .fail message) (h : c.scanner.halted = false) :
    c.token? = some (c.scanner.failure message) := by
  rw [token?, h, offer?, hop]
  rfl

end Call

omit [TokenKind K] in
theorem Scanner.stream_publish (h : s.halted = true) : (s.publish kind text).stream = s.stream := by
  simp [Scanner.publish, Scanner.stream, Scanner.note, h]

omit [TokenKind K] in
theorem Scanner.stream_publish_of_not_halted (h : s.halted = false) :
    (s.publish kind text).stream = s.published kind text := by
  simp [Scanner.publish, Scanner.stream, Scanner.note, Scanner.published, h]

theorem Scanner.stream_fail (h : s.halted = false) :
    (s.fail message).stream = s.failed message := by
  simp [Scanner.fail, Scanner.stream, Scanner.note, Scanner.failed, Scanner.failure, h]

theorem Scanner.stream_fail_of_halted (h : s.halted = true) : (s.fail message).stream = s.stream := by
  simp [Scanner.fail, Scanner.stream, Scanner.note, h]

theorem Op.perform_of_offer?_eq_none (h : (Call.mk o s).offer? = none) :
    ∃ cursor bookmarks memory, (o.perform s).2 = { s with cursor, bookmarks, memory } := by
  cases o with
  | publish kind text => cases h
  | fail message => cases h
  | publishSpan kind =>
    have hnone : s.cursor.pendingText? = none := Option.map_eq_none_iff.mp h
    simp only [Op.perform, Scanner.publishSpan?, hnone, Option.map_none]
    exact ⟨s.cursor, s.bookmarks, s.memory, rfl⟩
  | pendingText =>
    simp only [Op.perform]
    cases s.cursor.pendingText? <;> exact ⟨s.cursor, s.bookmarks, s.memory, rfl⟩
  | reset mark =>
    simp only [Op.perform, Scanner.reset]
    cases s.bookmarks[mark]? <;> exact ⟨_, s.bookmarks, s.memory, rfl⟩
  | cursor _ | bookmark | lastSignificant | lastKind | isHalted | inspect | memory | remember _
  | raise _ => exact ⟨_, _, _, rfl⟩

theorem Op.stream_of_offer?_eq_none (h : (Call.mk o s).offer? = none) :
    (o.perform s).2.stream = s.stream := by
  obtain ⟨cursor, bookmarks, memory, hs⟩ := perform_of_offer?_eq_none h
  rw [hs]
  rfl

theorem Op.perform_of_offer? {token : Token K} (h : (Call.mk o s).offer? = some token)
    (hfail : ∀ message, o ≠ .fail message) :
    token.position = s.cursor.startPosition ∧ (o.perform s).2 = s.publish token.kind token.text := by
  cases o with
  | publish kind text =>
    obtain rfl := Option.some.inj h
    exact ⟨rfl, rfl⟩
  | publishSpan kind =>
    obtain ⟨text, htext, rfl⟩ := Option.map_eq_some_iff.mp h
    simp only [Op.perform, Scanner.publishSpan?, htext, Option.map_some, and_self]
  | fail message => exact absurd rfl (hfail message)
  | _ => cases h

theorem Op.stream_of_halted (h : s.halted = true) : (o.perform s).2.stream = s.stream := by
  by_cases hfail : ∃ message, o = .fail message
  · obtain ⟨message, rfl⟩ := hfail
    exact Scanner.stream_fail_of_halted h
  rw [not_exists] at hfail
  cases hoffer : (Call.mk o s).offer? with
  | none => exact stream_of_offer?_eq_none hoffer
  | some token =>
    rw [(perform_of_offer? hoffer hfail).2]
    exact Scanner.stream_publish h

namespace Op

def fails : Op K μ → Bool
  | .fail _ => true
  | _ => false

/-- The request publishes a token of this kind, other than by failing. -/
def Emits (kind : K) (o : Op K μ) : Prop := o = .publishSpan kind ∨ ∃ text, o = .publish kind text

def spanKind? : Op K μ → Option K
  | .publishSpan kind => some kind
  | _ => none

def emittedKind? : Op K μ → Option K
  | .publishSpan kind | .publish kind _ => some kind
  | _ => none

omit [TokenKind K]

theorem fails_iff : o.fails = true ↔ ∃ message, o = .fail message := by
  cases o <;> simp [fails]

theorem spanKind?_eq_some : o.spanKind? = some kind ↔ o = .publishSpan kind := by
  cases o <;> simp [spanKind?]

theorem emittedKind?_eq_some : o.emittedKind? = some kind ↔ o.Emits kind := by
  cases o <;> simp [emittedKind?, Emits]

instance [DecidableEq K] : Decidable (o = .publishSpan kind) :=
  decidable_of_iff _ spanKind?_eq_some

instance [DecidableEq K] : Decidable (o.Emits kind) := decidable_of_iff _ emittedKind?_eq_some

end Op

namespace Call

omit [TokenKind K] in
theorem fails_iff : c.Fails ↔ c.scanner.halted = false ∧ c.op.fails = true := by
  rw [Fails, Op.fails_iff]

instance : Decidable c.Fails := decidable_of_iff _ fails_iff.symm

/-- All that a call can do to the stream. -/
theorem stream_cases (c : Call K μ) :
    (c.scanner.halted = true ∧ c.after.stream = c.scanner.stream) ∨
      (c.scanner.halted = false ∧ c.offer? = none ∧ c.op.fails = false ∧
        c.after.stream = c.scanner.stream) ∨
      (∃ message, c.scanner.halted = false ∧ c.offer? = some (c.scanner.failure message) ∧
        c.op.fails = true ∧ c.after.stream = c.scanner.failed message) ∨
      ∃ kind text, c.scanner.halted = false ∧
        c.offer? = some ⟨kind, c.scanner.cursor.startPosition, text⟩ ∧ c.op.fails = false ∧
        c.after.stream = c.scanner.published kind text := by
  obtain ⟨o, s⟩ := c
  cases hs : s.halted with
  | true => exact .inl ⟨rfl, Op.stream_of_halted hs⟩
  | false =>
    right
    by_cases hfail : ∃ message, o = .fail message
    · obtain ⟨message, rfl⟩ := hfail
      exact .inr (.inl ⟨message, rfl, rfl, rfl, Scanner.stream_fail hs⟩)
    have hfails : o.fails = false := by rwa [← Op.fails_iff, Bool.not_eq_true] at hfail
    rw [not_exists] at hfail
    cases hoffer : (Call.mk o s).offer? with
    | none => exact .inl ⟨rfl, rfl, hfails, Op.stream_of_offer?_eq_none hoffer⟩
    | some token =>
      obtain ⟨hposition, hafter⟩ := Op.perform_of_offer? hoffer hfail
      refine .inr (.inr ⟨token.kind, token.text, rfl, ?_, hfails, ?_⟩)
      · rw [← hposition]
      · rw [after, hafter]
        exact Scanner.stream_publish_of_not_halted hs

theorem queue_after (c : Call K μ) : c.after.queue = c.scanner.queue ++ c.token?.toList := by
  obtain ⟨hs, hstream⟩ | ⟨hs, hoffer, -, hstream⟩ | ⟨message, hs, hoffer, -, hstream⟩ |
    ⟨kind, text, hs, hoffer, -, hstream⟩ := c.stream_cases
  all_goals apply (congrArg Stream.queue hstream).trans
  · rw [token?_of_halted hs, Option.toList_none, List.append_nil]
    rfl
  all_goals rw [token?, hs, if_neg Bool.false_ne_true, hoffer]
  · rw [Option.toList_none, List.append_nil]
    rfl
  · rfl
  · rfl

end Call

def Program.calls : Program K μ α → Scanner K μ → List (Call K μ)
  | .done _, _ => []
  | .ask o next, s =>
    ⟨o, s⟩ ::
      match o.perform s with
      | (.ok answer, s) => (next answer).calls s
      | (.error _, _) => []

/-- The calls follow one another and lead from one scanner to another. -/
inductive Leads : Scanner K μ → List (Call K μ) → Scanner K μ → Prop
  | nil {s : Scanner K μ} : Leads s [] s
  | cons {c : Call K μ} {cs : List (Call K μ)} {t : Scanner K μ} (h : Leads c.after cs t) :
      Leads c.scanner (c :: cs) t

theorem Program.leads_calls (p : Program K μ α) (s : Scanner K μ) :
    Leads s (p.calls s) (p.exec s).2 := by
  induction p generalizing s with
  | done value => exact .nil
  | ask o next ih =>
    rw [calls, exec]
    cases ho : o.perform s with
    | mk r s' =>
      have hafter : (Call.mk o s).after = s' := congrArg Prod.snd ho
      cases r with
      | ok answer => exact .cons (c := ⟨o, s⟩) (hafter ▸ ih answer s')
      | error fault => exact .cons (c := ⟨o, s⟩) (hafter ▸ .nil)

namespace Leads

theorem of_append {cs₁ cs₂ : List (Call K μ)} (h : Leads s (cs₁ ++ cs₂) t) :
    ∃ m, Leads s cs₁ m ∧ Leads m cs₂ t := by
  induction cs₁ generalizing s with
  | nil => exact ⟨s, .nil, h⟩
  | cons c cs ih =>
    cases h with
    | cons hrest =>
      obtain ⟨m, h₁, h₂⟩ := ih hrest
      exact ⟨m, .cons h₁, h₂⟩

/-- What every request keeps holds at every call and at the end. -/
theorem keeps (Kept : Scanner K μ → Prop) (h : Leads s cs t)
    (request : ∀ o s, Kept s → Kept (Op.perform o s).2) (hs : Kept s) :
    (∀ c ∈ cs, Kept c.scanner) ∧ Kept t := by
  induction h with
  | nil => exact ⟨by simp, hs⟩
  | @cons c cs t hrest ih =>
    obtain ⟨hcalls, hend⟩ := ih (request c.op c.scanner hs)
    refine ⟨?_, hend⟩
    intro d hd
    rcases List.mem_cons.mp hd with rfl | hd
    · exact hs
    · exact hcalls d hd

theorem queue_eq (h : Leads s cs t) : t.queue = s.queue ++ cs.filterMap Call.token? := by
  induction h with
  | nil => simp
  | @cons c cs t hrest ih =>
    rw [ih, c.queue_after, List.append_assoc]
    cases hc : c.token? with
    | none => rw [List.filterMap_cons_none hc]; rfl
    | some token => rw [List.filterMap_cons_some hc]; rfl

theorem stream_of_halted (h : Leads s cs t) (hs : s.halted = true) :
    (∀ c ∈ cs, c.scanner.stream = s.stream) ∧ t.stream = s.stream := by
  refine h.keeps (fun u => u.stream = s.stream) ?_ rfl
  intro o u hu
  have hhalted : u.halted = true := (congrArg Stream.halted hu).trans hs
  exact (Op.stream_of_halted hhalted).trans hu

/-- A failure publishes its token behind those published before, and nothing is published after
it. -/
theorem of_fail {before later : List (Call K μ)} (h : Leads s (before ++ c :: later) t)
    (hop : c.op = .fail message) (hc : c.scanner.halted = false) :
    c.scanner.queue = s.queue ++ before.filterMap Call.token? ∧
      (∀ d ∈ later, d.scanner.stream = c.scanner.failed message) ∧
      t.stream = c.scanner.failed message := by
  obtain ⟨m, hfront, hback⟩ := h.of_append
  cases hback with
  | cons hrest =>
    have hafter : c.after.stream = c.scanner.failed message := by
      rw [Call.after, hop]
      exact Scanner.stream_fail hc
    have hhalted : c.after.halted = true := congrArg Stream.halted hafter
    obtain ⟨hlater, hend⟩ := hrest.stream_of_halted hhalted
    exact ⟨hfront.queue_eq, fun d hd => (hlater d hd).trans hafter, hend.trans hafter⟩

end Leads

end StateLexer
