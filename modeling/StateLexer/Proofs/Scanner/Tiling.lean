import StateLexer.Arithmetic
import StateLexer.Proofs.Scanner.Ledger

/-! # Spans tile the input

The ledger of a run is read off its operations. As long as no operation goes behind the start of the
pending span, the stretches of the ledger and the pending text make up the input so far, without gap
or overlap, and the queue holds the tokens that the ledger accounts for.
-/

namespace StateLexer
open Text

variable {K σ μ α β : Type} [TokenKind K]

def Op.entries (s : Scanner K μ) : Op K μ → List (Entry K)
  | .cursor .markStart => [.skipped (s.cursor.pendingText?.getD "")]
  | .publishSpan kind => [.published kind (s.cursor.pendingText?.getD "")]
  | .publish kind text => [.replaced kind (s.cursor.pendingText?.getD "") text]
  | .fail message => [.failed message]
  | _ => []

omit [TokenKind K] in
theorem Op.entries_cursor (s : Scanner K μ) {a : Cursor.Action} (h : a ≠ .markStart) :
    (Op.cursor a : Op K μ).entries s = [] := by
  cases a with
  | markStart => exact absurd rfl h
  | _ => rfl

/-- An operation that goes on from where the scanner is: it does not take the read position behind
the start of the pending span, it restores no cursor, and it does not break off by itself. -/
def Op.Tame (s : Scanner K μ) : Op K μ → Prop
  | .cursor .undo => s.cursor.start ≤ s.cursor.undo.pos
  | .reset _ | .raise _ => False
  | _ => True

namespace Program

def ledger : Program K μ α → Scanner K μ → List (Entry K)
  | .done _, _ => []
  | .ask o next, s =>
    match o.perform s with
    | (.ok answer, s') => o.entries s ++ (next answer).ledger s'
    | (.error _, _) => []

def Tame : Program K μ α → Scanner K μ → Prop
  | .done _, _ => True
  | .ask o next, s => o.Tame s ∧ ∀ answer s', o.perform s = (.ok answer, s') → (next answer).Tame s'

theorem Tame.bind {p : Program K μ α} {f : α → Program K μ β} {s : Scanner K μ} (h : p.Tame s)
    (hf : ∀ value s', p.exec s = (.ok value, s') → (f value).Tame s') : (p.bind f).Tame s := by
  induction p generalizing s with
  | done value => exact hf value s rfl
  | ask o next ih =>
    refine ⟨h.1, ?_⟩
    intro answer s' ho
    refine ih answer (h.2 answer s' ho) ?_
    intro value t hv
    refine hf value t ?_
    rw [exec, ho]
    exact hv

theorem tame_request {o : Op K μ} {s : Scanner K μ} (h : o.Tame s) : (request o).Tame s :=
  ⟨h, fun _ _ _ => trivial⟩

theorem publishNumber_tame (kind : K) (s : Scanner K μ) :
    (publishNumber kind : Program K μ (Option (State K σ))).Tame s := by
  refine Tame.bind (tame_request trivial) ?_
  intro b s' _
  cases b with
  | true => exact Tame.bind (tame_request trivial) fun _ _ _ => trivial
  | false =>
    refine Tame.bind (tame_request trivial) ?_
    intro text t _
    exact Tame.bind (tame_request trivial) fun _ _ _ => trivial

theorem publishRun_tame (kind : K) (test : Option Char → Except String Bool) (resume : State K σ)
    (s : Scanner K μ) : (publishRun kind test resume).Tame s := by
  refine Tame.bind (tame_request trivial) ?_
  intro r s' _
  cases r with
  | ok u => exact Tame.bind (tame_request trivial) fun _ _ _ => trivial
  | error message => exact Tame.bind (tame_request trivial) fun _ _ _ => trivial

end Program

variable {input : String} {first : UInt32} {entries : List (Entry K)} {z : Zipper}
  {s : Scanner K μ}

/-- The scanner stands where the ledger ends, and has published what the ledger accounts for. -/
structure Scanner.Tiled (input : String) (first : UInt32) (entries : List (Entry K)) (z : Zipper)
    (s : Scanner K μ) : Prop where
  cursor : s.cursor.Shows input first z
  start_le_index : z.start ≤ z.index
  covered_eq : Entry.covered entries = String.ofList (input.toList.take z.start)
  queue_eq : s.queue = (Account.ofEntries first "" entries).map Account.token
  halted_eq : s.halted = entries.any Entry.isFailure

namespace Scanner.Tiled

theorem pendingText?_eq (h : Tiled input first entries z s) :
    s.cursor.pendingText? =
      some (String.ofList ((input.toList.take z.index).drop z.start)) := by
  rw [h.cursor.pendingText?_eq, if_pos h.start_le_index]

theorem covered_append_pending (h : Tiled input first entries z s) :
    Entry.covered entries ++ String.ofList ((input.toList.take z.index).drop z.start) =
      String.ofList (input.toList.take z.index) := by
  rw [h.covered_eq, ← String.ofList_append, ← take_eq_append h.start_le_index]

theorem startPosition_eq (h : Tiled input first entries z s) :
    s.cursor.startPosition = .behind first (Entry.covered entries) := by
  rw [h.cursor.startPosition_eq, h.covered_eq]

theorem moved {c : Cursor} {z' : Zipper} (h : Tiled input first entries z s)
    (hc : c.Shows input first z') (hstart : z'.start = z.start) (hle : z.start ≤ z'.index) :
    Tiled input first entries z' { s with cursor := c } :=
  ⟨hc, hstart ▸ hle, hstart ▸ h.covered_eq, h.queue_eq, h.halted_eq⟩

theorem markStart_covered (h : Tiled input first entries z s) {e : Entry K}
    (he : e.span = s.cursor.pendingText?.getD "") :
    Entry.covered (entries ++ [e]) = String.ofList (input.toList.take z.markStart.start) := by
  rw [Entry.covered_append, Entry.covered_cons, Entry.covered_nil, String.append_empty, he,
    h.pendingText?_eq, Option.getD_some, h.covered_append_pending]
  rfl

theorem skipped (h : Tiled input first entries z s) :
    Tiled input first (entries ++ [.skipped (s.cursor.pendingText?.getD "")]) z.markStart
      { s with cursor := s.cursor.markStart } where
  cursor := h.cursor.markStart
  start_le_index := le_rfl
  covered_eq := h.markStart_covered rfl
  queue_eq := by simp [Account.ofEntries_append, Account.ofEntries, h.queue_eq]
  halted_eq := by simp [h.halted_eq, Entry.isFailure]

theorem publish {e : Entry K} {kind : K} {text : String} (h : Tiled input first entries z s)
    (he : e.span = s.cursor.pendingText?.getD "") (hfail : e.isFailure = false)
    (htoken : ∀ before, (Account.ofEntries first before [e]).map Account.token =
      [⟨kind, .behind first before, text⟩]) :
    Tiled input first (entries ++ [e]) z.markStart (s.publish kind text) := by
  have hqueue := h.queue_eq
  have hhalted := h.halted_eq
  cases hh : s.halted with
  | true =>
    rw [hh] at hhalted
    simp only [Scanner.publish, hh, if_true]
    refine ⟨h.cursor.markStart, le_rfl, h.markStart_covered he, ?_, ?_⟩
    · simp [Scanner.note, hqueue, Account.ofEntries_append, ← hhalted]
    · simp [Scanner.note, ← hhalted]
  | false =>
    rw [hh] at hhalted
    simp only [Scanner.publish, hh, Bool.false_eq_true, if_false]
    refine ⟨h.cursor.markStart, le_rfl, h.markStart_covered he, ?_, ?_⟩
    · simp [hqueue, Account.ofEntries_append, ← hhalted, htoken, h.startPosition_eq]
    · simp [Scanner.note, ← hhalted, hfail]

theorem publishSpan (h : Tiled input first entries z s) (kind : K) :
    Tiled input first (entries ++ [.published kind (s.cursor.pendingText?.getD "")]) z.markStart
      (s.publish kind (s.cursor.pendingText?.getD "")) := by
  refine h.publish rfl rfl ?_
  intro before
  rfl

theorem fail (h : Tiled input first entries z s) (message : String) :
    Tiled input first (entries ++ [.failed message]) z (s.fail message) := by
  have hqueue := h.queue_eq
  have hhalted := h.halted_eq
  have hcovered : Entry.covered (entries ++ [.failed message]) =
      String.ofList (input.toList.take z.start) := by
    rw [Entry.covered_append, Entry.covered_cons, Entry.covered_nil, h.covered_eq]
    simp [Entry.span]
  cases hh : s.halted with
  | true =>
    rw [hh] at hhalted
    simp only [Scanner.fail, hh, if_true]
    refine ⟨h.cursor, h.start_le_index, hcovered, ?_, ?_⟩
    · simp [Scanner.note, hqueue, Account.ofEntries_append, ← hhalted]
    · simp [Scanner.note, hh, Entry.isFailure]
  | false =>
    rw [hh] at hhalted
    simp only [Scanner.fail, hh, Bool.false_eq_true, if_false]
    refine ⟨h.cursor, h.start_le_index, hcovered, ?_, ?_⟩
    · simp [hqueue, Account.ofEntries_append, ← hhalted, Account.ofEntries, h.startPosition_eq]
    · simp [Entry.isFailure]

theorem undo (h : Tiled input first entries z s) (ht : s.cursor.start ≤ s.cursor.undo.pos) :
    Tiled input first entries z.undo { s with cursor := s.cursor.undo } := by
  have hc := h.cursor.undo
  rw [h.cursor.start_eq, hc.pos_eq, offset_le_iff h.cursor.start_le] at ht
  exact h.moved hc rfl ht

theorem readOn {c : Cursor} (h : Tiled input first entries z s) (hc : c.Onward input first z) :
    ∃ z', Tiled input first entries z' { s with cursor := c } := by
  obtain ⟨n, u, hs⟩ := hc
  have hle := h.start_le_index
  exact ⟨_, h.moved hs rfl (by simp only; omega)⟩

/-- A tame operation never breaks off, and the ledger follows it. -/
theorem perform {o : Op K μ} (h : Tiled input first entries z s) (ht : o.Tame s) :
    ∃ answer s' z', o.perform s = (.ok answer, s') ∧
      Tiled input first (entries ++ o.entries s) z' s' := by
  cases o with
  | cursor a =>
    by_cases hundo : a = .undo
    · subst hundo
      exact ⟨_, _, _, rfl, by simpa [Op.entries] using h.undo ht⟩
    by_cases hmark : a = .markStart
    · subst hmark
      exact ⟨_, _, _, rfl, h.skipped⟩
    obtain ⟨z', hz⟩ := h.readOn (h.cursor.perform_onward hundo hmark)
    refine ⟨_, _, z', rfl, ?_⟩
    rw [Op.entries_cursor s hmark, List.append_nil]
    exact hz
  | pendingText =>
    refine ⟨String.ofList ((input.toList.take z.index).drop z.start), s, z, ?_, ?_⟩
    · rw [Op.perform, h.pendingText?_eq]
    · simpa [Op.entries] using h
  | publishSpan kind =>
    have hpub := h.publishSpan kind
    refine ⟨(), _, z.markStart, ?_, hpub⟩
    rw [Op.perform, Scanner.publishSpan?, h.pendingText?_eq, Option.map_some, Option.getD_some]
  | publish kind text =>
    refine ⟨(), _, z.markStart, rfl, h.publish rfl rfl ?_⟩
    intro before
    rfl
  | fail message => exact ⟨(), _, _, rfl, h.fail message⟩
  | reset mark => exact ht.elim
  | raise message => exact ht.elim
  | bookmark | remember _ =>
    refine ⟨_, _, z, rfl, ?_⟩
    simp only [Op.entries, List.append_nil]
    exact ⟨h.cursor, h.start_le_index, h.covered_eq, h.queue_eq, h.halted_eq⟩
  | lastSignificant | lastKind | isHalted | inspect | memory =>
    refine ⟨_, _, z, rfl, ?_⟩
    simpa [Op.entries] using h

theorem exec {p : Program K μ α} (h : Tiled input first entries z s) (ht : p.Tame s) :
    ∃ value s' z', p.exec s = (.ok value, s') ∧
      Tiled input first (entries ++ p.ledger s) z' s' := by
  induction p generalizing entries z s with
  | done value => exact ⟨value, s, z, rfl, by simpa [Program.ledger] using h⟩
  | ask o next ih =>
    obtain ⟨answer, s', z', ho, hs⟩ := h.perform ht.1
    obtain ⟨value, t, zt, hp, hend⟩ := ih answer hs (ht.2 answer s' ho)
    refine ⟨value, t, zt, by rw [Program.exec, ho]; exact hp, ?_⟩
    rw [Program.ledger, ho]
    simpa [List.append_assoc] using hend

end Scanner.Tiled

/-- What is done next in a scan: one operation of the scanner, or a state built from data. -/
inductive Command (K σ μ : Type) where
  | op (o : Op K μ)
  | number (kind : K)
  | run (kind : K) (test : Option Char → Except String Bool) (resume : State K σ)

namespace Command

def program : Command K σ μ → Program K μ Unit
  | op o => (Program.request o).bind fun _ => .done ()
  | number kind =>
    (Program.publishNumber kind : Program K μ (Option (State K σ))).bind fun _ => .done ()
  | run kind test resume => (Program.publishRun kind test resume).bind fun _ => .done ()

def sequence : List (Command K σ μ) → Program K μ Unit
  | [] => .done ()
  | c :: cs => c.program.bind fun _ => sequence cs

def Tame (s : Scanner K μ) : Command K σ μ → Prop
  | op o => o.Tame s
  | number _ | run _ _ _ => True

/-- Each command is tame when its turn comes. -/
def AllTame : List (Command K σ μ) → Scanner K μ → Prop
  | [], _ => True
  | c :: cs, s => c.Tame s ∧ AllTame cs (c.program.exec s).2

theorem Tame.program {c : Command K σ μ} (h : c.Tame s) : c.program.Tame s := by
  cases c with
  | op o => exact (Program.tame_request h).bind fun _ _ _ => trivial
  | number kind => exact (Program.publishNumber_tame kind s).bind fun _ _ _ => trivial
  | run kind test resume =>
    exact (Program.publishRun_tame kind test resume s).bind fun _ _ _ => trivial

theorem AllTame.sequence {cs : List (Command K σ μ)} (h : AllTame cs s) : (sequence cs).Tame s := by
  induction cs generalizing s with
  | nil => trivial
  | cons c cs ih =>
    refine (Tame.program h.1).bind ?_
    intro value s' he
    have hrest := h.2
    rw [he] at hrest
    exact ih hrest

end Command

theorem Scanner.Tiled.fresh (g : Grammar K σ μ) (input : String) (config : Config) (memory : μ) :
    Tiled input config.firstLine [] {} (g.scanner input config memory) :=
  ⟨Cursor.Shows.ofInput input config.firstLine, le_rfl, rfl, rfl, rfl⟩

/-- The stretches of the ledger and the pending text are the input up to the read position, whatever
is read or taken back next stays inside the input, and the tokens are those that the stretches
account for, each behind the end of the one before it. -/
structure Scanner.Covers (input : String) (first : UInt32) (entries : List (Entry K))
    (s : Scanner K μ) (pending : String) : Prop where
  start_le_pos : s.cursor.start ≤ s.cursor.pos
  pendingText?_eq : s.cursor.pendingText? = some pending
  slice?_eq : slice? input 0 s.cursor.pos = some (Entry.covered entries ++ pending)
  startPosition_eq : s.cursor.startPosition = .behind first (Entry.covered entries)
  position_eq : s.cursor.position = .behind first (Entry.covered entries ++ pending)
  width_le_pos : s.cursor.width ≤ s.cursor.pos
  line_pos : s.cursor.crossedLine = true → 0 < s.cursor.line.toNat
  queue_eq : s.queue = (Account.ofEntries first "" entries).map Account.token
  halted_eq : s.halted = entries.any Entry.isFailure
  precedes : (Account.ofEntries first "" entries).Pairwise Account.Precedes
  join_texts : (∀ e ∈ entries, e.isPublished = true) →
    String.join (s.queue.map Token.text) = Entry.covered entries

theorem Scanner.Tiled.covers {entries : List (Entry K)} {z : Zipper}
    (h : Tiled input first entries z s) :
    s.Covers input first entries (String.ofList ((input.toList.take z.index).drop z.start)) where
  start_le_pos := by
    rw [h.cursor.start_eq, h.cursor.pos_eq]
    exact offset_mono h.start_le_index
  pendingText?_eq := h.pendingText?_eq
  slice?_eq := by
    rw [h.cursor.pos_eq, h.covered_append_pending]
    simpa using slice?_offset input (Nat.zero_le z.index)
  startPosition_eq := h.startPosition_eq
  position_eq := by
    rw [h.covered_append_pending]
    simp only [Cursor.position, Position.behind, Position.mk.injEq, String.toList_ofList,
      String.utf8ByteSize_ofList]
    exact ⟨h.cursor.pos_eq, by rw [← h.cursor.line_eq, UInt32.ofNat_toNat]⟩
  width_le_pos := h.cursor.width_le_pos
  line_pos := h.cursor.line_pos
  queue_eq := h.queue_eq
  halted_eq := h.halted_eq
  precedes := Account.pairwise_precedes "" entries
  join_texts hpublished := by
    rw [h.queue_eq, List.map_map]
    exact Account.join_texts "" entries hpublished

namespace Command

/-- No sequence of commands on a fresh scanner breaks off while it is tame, and at its end the ledger
covers the input up to the read position. -/
theorem sequence_covers (g : Grammar K σ μ) (input : String) (config : Config) (memory : μ)
    (commands : List (Command K σ μ)) (tame : AllTame commands (g.scanner input config memory)) :
    let fresh := g.scanner input config memory
    ∃ s pending, (sequence commands).exec fresh = (.ok (), s) ∧
      s.Covers input config.firstLine ((sequence commands).ledger fresh) pending := by
  intro fresh
  obtain ⟨value, s, z, hexec, htiled⟩ :=
    (Scanner.Tiled.fresh g input config memory).exec (AllTame.sequence tame)
  exact ⟨s, _, hexec, htiled.covers⟩

theorem sequence_covers_lines :
    let commands : List (Command Arithmetic.Kind Unit Unit) :=
      [.op (.cursor .read), .op (.cursor .undo), .op (.cursor .read), .op (.publishSpan .ident),
        .op (.cursor (.readMembers "\n")), .op (.cursor .markStart), .number .number,
        .op (.fail "no")]
    let fresh := Arithmetic.grammar.scanner "é\n12x" {} ()
    AllTame commands fresh ∧
      ∃ s pending,
        (sequence commands).exec fresh = (.ok (), s) ∧
        s.cursor.pendingText? = some pending ∧
        slice? "é\n12x" 0 s.cursor.pos =
          some (Entry.covered ((sequence commands).ledger fresh) ++ pending) := by
  intro commands fresh
  have tame : AllTame commands fresh := by
    refine ⟨trivial, ?_, trivial, trivial, trivial, trivial, trivial, trivial, trivial⟩
    change (_ : ℕ) ≤ _
    decide +kernel
  obtain ⟨s, pending, hexec, hcovers⟩ :=
    sequence_covers Arithmetic.grammar "é\n12x" {} () commands tame
  exact ⟨tame, s, pending, hexec, hcovers.pendingText?_eq, hcovers.slice?_eq⟩

end Command

end StateLexer
