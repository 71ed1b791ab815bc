import StateLexer.Grammar

/-! # What a program may ask for

A program knows the scanner by the operations it asks for. If none of them tells a part of the
scanner, the program does the same whatever that part is. First the part is the queue, which only
`inspect` tells anything about; then it is all that tells of the tokens published so far.
-/

namespace StateLexer

variable {K σ μ α β : Type}

namespace Program

/-- On no path does the program ask for an operation that is not allowed. -/
def Uses (allowed : Op K μ → Prop) : Program K μ α → Prop
  | .done _ => True
  | .ask o next => allowed o ∧ ∀ answer, (next answer).Uses allowed

variable {allowed : Op K μ → Prop}

theorem Uses.bind {p : Program K μ α} {f : α → Program K μ β} (hp : p.Uses allowed)
    (hf : ∀ value, (f value).Uses allowed) : (p.bind f).Uses allowed := by
  induction p with
  | done value => exact hf value
  | ask o next ih => exact ⟨hp.1, fun answer => ih answer (hp.2 answer)⟩

theorem Uses.mono {more : Op K μ → Prop} {p : Program K μ α} (hp : p.Uses allowed)
    (h : ∀ o, allowed o → more o) : p.Uses more := by
  induction p with
  | done value => trivial
  | ask o next ih => exact ⟨h o hp.1, fun answer => ih answer (hp.2 answer)⟩

theorem uses_request {o : Op K μ} (h : allowed o) : (request o).Uses allowed :=
  ⟨h, fun _ => trivial⟩

theorem publishNumber_uses {kind : K} (hread : allowed (.cursor .readNumber))
    (hpublish : allowed (.publishSpan kind)) (htext : allowed .pendingText)
    (hfail : ∀ message, allowed (.fail message)) :
    (publishNumber kind : Program K μ (Option (State K σ))).Uses allowed := by
  refine Uses.bind (uses_request hread) ?_
  intro b
  cases b with
  | true => exact Uses.bind (uses_request hpublish) fun _ => trivial
  | false =>
    refine Uses.bind (uses_request htext) ?_
    intro text
    exact Uses.bind (uses_request (hfail _)) fun _ => trivial

theorem publishRun_uses {kind : K} {test : Option Char → Except String Bool} {resume : State K σ}
    (hread : allowed (.cursor (.readRun test))) (hpublish : allowed (.publishSpan kind))
    (hfail : ∀ message, allowed (.fail message)) :
    (publishRun kind test resume : Program K μ (Option (State K σ))).Uses allowed := by
  refine Uses.bind (uses_request hread) ?_
  intro r
  cases r with
  | ok u => exact Uses.bind (uses_request hpublish) fun _ => trivial
  | error message => exact Uses.bind (uses_request (hfail _)) fun _ => trivial

end Program

def Grammar.NeverInspects (g : Grammar K σ μ) : Prop :=
  ∀ name, (g.body name).Uses (· ≠ .inspect)

theorem Grammar.NeverInspects.program {g : Grammar K σ μ} (h : g.NeverInspects)
    (state : State K σ) : (g.program state).Uses (· ≠ .inspect) := by
  cases state with
  | start => exact h g.start
  | plain name => exact h name
  | closure name => exact h name
  | number kind => exact Program.publishNumber_uses nofun nofun nofun nofun
  | run kind test resume => exact Program.publishRun_uses nofun nofun nofun

/-- The scanner with `tokens` waiting in front of its own. -/
def Scanner.waiting (tokens : List (Token K)) (s : Scanner K μ) : Scanner K μ :=
  { s with queue := tokens ++ s.queue }

variable [TokenKind K] {tokens : List (Token K)}

omit [TokenKind K] in
theorem Scanner.publish_waiting (kind : K) (text : String) (s : Scanner K μ) :
    (s.waiting tokens).publish kind text = (s.publish kind text).waiting tokens := by
  cases hh : s.halted <;>
    simp [Scanner.publish, Scanner.waiting, Scanner.note, hh, List.append_assoc]

theorem Scanner.fail_waiting (message : String) (s : Scanner K μ) :
    (s.waiting tokens).fail message = (s.fail message).waiting tokens := by
  cases hh : s.halted <;>
    simp [Scanner.fail, Scanner.waiting, Scanner.note, hh, List.append_assoc]

theorem Op.perform_waiting {o : Op K μ} (h : o ≠ .inspect) (s : Scanner K μ) :
    o.perform (s.waiting tokens) = ((o.perform s).1, (o.perform s).2.waiting tokens) := by
  cases o with
  | inspect => exact absurd rfl h
  | publish kind text => simp only [Op.perform, Scanner.publish_waiting]
  | fail message => simp only [Op.perform, Scanner.fail_waiting]
  | publishSpan kind =>
    simp only [Op.perform, Scanner.publishSpan?]
    rw [show (s.waiting tokens).cursor = s.cursor from rfl]
    cases s.cursor.pendingText? with
    | none => rfl
    | some text => simp only [Option.map_some, Scanner.publish_waiting]
  | pendingText =>
    simp only [Op.perform]
    rw [show (s.waiting tokens).cursor = s.cursor from rfl]
    cases s.cursor.pendingText? <;> rfl
  | reset mark =>
    simp only [Op.perform, Scanner.reset]
    rw [show (s.waiting tokens).bookmarks = s.bookmarks from rfl]
    cases s.bookmarks[mark]? <;> rfl
  | cursor _ | bookmark | lastSignificant | lastKind | isHalted | memory | remember _ | raise _ =>
    rfl

theorem Program.exec_waiting {p : Program K μ α} (h : p.Uses (· ≠ .inspect)) (s : Scanner K μ) :
    p.exec (s.waiting tokens) = ((p.exec s).1, (p.exec s).2.waiting tokens) := by
  induction p generalizing s with
  | done value => rfl
  | ask o next ih =>
    simp only [Program.exec, Op.perform_waiting h.1]
    cases ho : o.perform s with
    | mk r s' =>
      cases r with
      | ok answer => exact ih answer (h.2 answer) s'
      | error fault => rfl

/-- The request asks about the tokens published so far. -/
def Op.AsksBack : Op K μ → Prop
  | .lastSignificant | .lastKind | .isHalted | .inspect => True
  | _ => False

/-- Two scanners read alike, whatever they have published. -/
structure Scanner.ReadsLike (s s' : Scanner K μ) : Prop where
  cursor : s.cursor = s'.cursor
  bookmarks : s.bookmarks = s'.bookmarks
  memory : s.memory = s'.memory

section
variable {s s' t : Scanner K μ}

omit [TokenKind K] in
theorem Scanner.ReadsLike.symm (h : s.ReadsLike s') : s'.ReadsLike s :=
  ⟨h.cursor.symm, h.bookmarks.symm, h.memory.symm⟩

omit [TokenKind K] in
theorem Scanner.ReadsLike.trans (h : s.ReadsLike s') (h' : s'.ReadsLike t) : s.ReadsLike t :=
  ⟨h.cursor.trans h'.cursor, h.bookmarks.trans h'.bookmarks, h.memory.trans h'.memory⟩

omit [TokenKind K] in
theorem Scanner.readsLike_publish (kind : K) (text : String) (s : Scanner K μ) :
    (s.publish kind text).ReadsLike { s with cursor := s.cursor.markStart } := by
  cases hh : s.halted with
  | true =>
    simp only [Scanner.publish, hh, if_true]
    exact ⟨rfl, rfl, rfl⟩
  | false =>
    simp only [Scanner.publish, hh, Bool.false_eq_true, if_false]
    exact ⟨rfl, rfl, rfl⟩

theorem Scanner.readsLike_fail (message : String) (s : Scanner K μ) :
    (s.fail message).ReadsLike s := by
  cases hh : s.halted with
  | true =>
    simp only [Scanner.fail, hh, if_true]
    exact ⟨rfl, rfl, rfl⟩
  | false =>
    simp only [Scanner.fail, hh, Bool.false_eq_true, if_false]
    exact ⟨rfl, rfl, rfl⟩

omit [TokenKind K] in
theorem Scanner.ReadsLike.publish (h : s.ReadsLike s') (kind : K) (text : String) :
    (s.publish kind text).ReadsLike (s'.publish kind text) := by
  have hmark : Scanner.ReadsLike { s with cursor := s.cursor.markStart }
      { s' with cursor := s'.cursor.markStart } :=
    ⟨congrArg Cursor.markStart h.cursor, h.bookmarks, h.memory⟩
  exact (s.readsLike_publish kind text).trans (hmark.trans (s'.readsLike_publish kind text).symm)

theorem Scanner.ReadsLike.fail (h : s.ReadsLike s') (message : String) :
    (s.fail message).ReadsLike (s'.fail message) :=
  (s.readsLike_fail message).trans (h.trans (s'.readsLike_fail message).symm)

/-- What was published makes no difference to how a request reads on, nor to its answer unless it
asks about just that. -/
theorem Scanner.ReadsLike.perform (h : s.ReadsLike s') (o : Op K μ) :
    (o.perform s).2.ReadsLike (o.perform s').2 ∧
      (¬ o.AsksBack → (o.perform s).1 = (o.perform s').1) := by
  cases o with
  | cursor a => simp [Op.perform, h.cursor, h.bookmarks, h.memory, Scanner.ReadsLike.mk]
  | publish kind text => exact ⟨h.publish kind text, fun _ => rfl⟩
  | fail message => exact ⟨h.fail message, fun _ => rfl⟩
  | publishSpan kind =>
    simp only [Op.perform, Scanner.publishSpan?, h.cursor]
    cases s'.cursor.pendingText? with
    | none => exact ⟨h, fun _ => rfl⟩
    | some text => exact ⟨h.publish kind text, fun _ => rfl⟩
  | pendingText =>
    simp only [Op.perform, h.cursor]
    cases s'.cursor.pendingText? <;> exact ⟨h, fun _ => rfl⟩
  | bookmark =>
    simp only [Op.perform, Scanner.bookmark, h.cursor, h.bookmarks]
    exact ⟨⟨rfl, rfl, h.memory⟩, fun _ => trivial⟩
  | reset mark =>
    simp only [Op.perform, Scanner.reset, h.bookmarks]
    cases s'.bookmarks[mark]? with
    | none => exact ⟨h, fun _ => trivial⟩
    | some c => exact ⟨⟨rfl, rfl, h.memory⟩, fun _ => trivial⟩
  | memory => exact ⟨h, fun _ => congrArg Except.ok h.memory⟩
  | remember value => exact ⟨⟨h.cursor, h.bookmarks, rfl⟩, fun _ => rfl⟩
  | raise message => exact ⟨h, fun _ => rfl⟩
  | lastSignificant | lastKind | isHalted | inspect => exact ⟨h, fun hn => absurd trivial hn⟩

theorem Scanner.ReadsLike.exec {p : Program K μ α} (h : s.ReadsLike s')
    (hp : p.Uses (¬ ·.AsksBack)) :
    (p.exec s).1 = (p.exec s').1 ∧ (p.exec s).2.ReadsLike (p.exec s').2 := by
  induction p generalizing s s' with
  | done value => exact ⟨rfl, h⟩
  | ask o next ih =>
    obtain ⟨hreads, hanswer⟩ := h.perform o
    have hanswer := hanswer hp.1
    simp only [Program.exec]
    cases ho : o.perform s with
    | mk r t =>
      cases ho' : o.perform s' with
      | mk r' t' =>
        rw [ho, ho'] at hreads hanswer
        obtain rfl : r = r' := hanswer
        cases r with
        | ok answer => exact ih answer hreads (hp.2 answer)
        | error fault => exact ⟨rfl, hreads⟩

structure Scanner.Cursors (Holds : Cursor → Prop) (s : Scanner K μ) : Prop where
  cursor : Holds s.cursor
  bookmarks : ∀ c ∈ s.bookmarks, Holds c

namespace Scanner.Cursors

variable {Holds : Cursor → Prop}

omit [TokenKind K] in
theorem of_readsLike (h : s.Cursors Holds) (hs : s'.ReadsLike s) : s'.Cursors Holds :=
  ⟨hs.cursor ▸ h.cursor, hs.bookmarks ▸ h.bookmarks⟩

theorem perform (action : ∀ c a, Holds c → Holds (Cursor.Action.perform a c).2) (o : Op K μ)
    (s : Scanner K μ) (h : s.Cursors Holds) : (o.perform s).2.Cursors Holds := by
  have hpublish : ∀ kind text, (s.publish kind text).Cursors Holds := by
    intro kind text
    have hmark : Scanner.Cursors Holds { s with cursor := s.cursor.markStart } :=
      ⟨action _ .markStart h.cursor, h.bookmarks⟩
    exact hmark.of_readsLike (s.readsLike_publish kind text)
  cases o with
  | cursor a => exact ⟨action _ a h.cursor, h.bookmarks⟩
  | publish kind text => exact hpublish kind text
  | fail message => exact h.of_readsLike (s.readsLike_fail message)
  | publishSpan kind =>
    simp only [Op.perform, Scanner.publishSpan?]
    cases s.cursor.pendingText? with
    | none => exact h
    | some text => exact hpublish kind text
  | pendingText =>
    simp only [Op.perform]
    cases s.cursor.pendingText? <;> exact h
  | bookmark =>
    refine ⟨h.cursor, ?_⟩
    intro c hc
    rcases Array.mem_push.mp hc with hc | rfl
    · exact h.bookmarks c hc
    · exact h.cursor
  | reset mark =>
    simp only [Op.perform, Scanner.reset]
    cases hc : s.bookmarks[mark]? with
    | none => exact h
    | some c => exact ⟨h.bookmarks c (Array.mem_of_getElem? hc), h.bookmarks⟩
  | lastSignificant | lastKind | isHalted | inspect | memory | raise _ => exact h
  | remember value => exact ⟨h.cursor, h.bookmarks⟩

end Scanner.Cursors

end

end StateLexer
