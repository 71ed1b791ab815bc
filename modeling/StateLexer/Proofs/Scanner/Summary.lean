import Mathlib.Data.List.TakeWhile
import StateLexer.Proofs.Lexer.Classifier

/-! # The summaries of a stream

A scanner keeps its queue, the kind of the last token, the last significant token and whether it has
halted. Each of them is written on its own, and the queue is emptied from its other end. Here they are
read off what was asked of the scanner: the calls up to the first failure publish what they offer, and
nothing is published behind it.
-/

namespace StateLexer

variable {K σ μ : Type} [TokenKind K]

namespace Call

/-- The tokens that were published before the first failure. -/
def emitted (calls : List (Call K μ)) : List (Token K) :=
  (calls.takeWhile (!·.op.fails)).filterMap offer?

/-- The tokens that were published, that of the first failure included. -/
def published (calls : List (Call K μ)) : List (Token K) :=
  emitted calls ++ (calls.find? (·.op.fails)).toList.filterMap offer?

variable {calls : List (Call K μ)} {c : Call K μ}

theorem concat_of_failed (h : calls.any (·.op.fails) = true) (c : Call K μ) :
    emitted (calls ++ [c]) = emitted calls ∧ published (calls ++ [c]) = published calls := by
  have hemitted : emitted (calls ++ [c]) = emitted calls := by
    unfold emitted
    induction calls with
    | nil => simp at h
    | cons d calls ih =>
      cases hd : d.op.fails with
      | true => simp [hd]
      | false =>
        have hrest := ih (by simpa [hd] using h)
        cases hoffer : d.offer? <;> simp [hd, hoffer, hrest]
  refine ⟨hemitted, ?_⟩
  obtain ⟨d, hd, hfails⟩ := List.any_eq_true.mp h
  have hfound : (calls.find? (·.op.fails)).isSome = true := List.find?_isSome.mpr ⟨d, hd, hfails⟩
  rw [published, published, hemitted, List.find?_append, Option.or_of_isSome hfound]

theorem concat_of_not_failed (h : calls.any (·.op.fails) = false) (c : Call K μ) :
    emitted (calls ++ [c]) = emitted calls ++ (if c.op.fails then [] else c.offer?.toList) ∧
      published (calls ++ [c]) = published calls ++ c.offer?.toList := by
  have hnone : ∀ d ∈ calls, d.op.fails = false := by simpa using h
  have hall : calls.takeWhile (!·.op.fails) = calls :=
    List.takeWhile_eq_self_iff.mpr (by simpa using hnone)
  have htake : (calls ++ [c]).takeWhile (!·.op.fails) =
      calls ++ if c.op.fails then [] else [c] := by
    rw [List.takeWhile_append_of_pos (by simpa using hnone)]
    cases hc : c.op.fails <;> simp [hc]
  have hfind : calls.find? (·.op.fails) = none := List.find?_eq_none.mpr (by simpa using hnone)
  simp only [emitted, published, hall, htake, hfind, List.find?_append, List.filterMap_append]
  cases hc : c.op.fails <;> cases ho : c.offer? <;> simp [hc, ho]

end Call

/-- The stream sums up the calls. The classifier is `f`, and some tokens were delivered already. -/
structure Stream.Sums (f : K → Bool) (calls : List (Call K μ)) (delivered : List (Token K))
    (s : Stream K) : Prop where
  queue_eq : delivered ++ s.queue = Call.published calls
  lastKind_eq : s.lastKind = (Call.published calls).getLast?.map Token.kind
  lastSignificant_eq :
    s.lastSignificant = ((Call.emitted calls).filter (!f ·.kind)).getLast?
  halted_eq : s.halted = calls.any (·.op.fails)

namespace Stream.Sums

variable {calls : List (Call K μ)} {delivered : List (Token K)}

theorem congr {more : List (Call K μ)} {f : K → Bool} {s : Stream K} (h : s.Sums f calls delivered)
    (hemitted : Call.emitted more = Call.emitted calls)
    (hpublished : Call.published more = Call.published calls)
    (hfails : more.any (·.op.fails) = calls.any (·.op.fails)) : s.Sums f more delivered where
  queue_eq := hpublished ▸ h.queue_eq
  lastKind_eq := hpublished ▸ h.lastKind_eq
  lastSignificant_eq := hemitted ▸ h.lastSignificant_eq
  halted_eq := hfails ▸ h.halted_eq

/-- If the stream sums up the calls so far, it also sums up the next one. -/
theorem call {c : Call K μ}
    (h : c.scanner.stream.Sums c.scanner.isWhitespace calls delivered) :
    c.after.stream.Sums c.scanner.isWhitespace (calls ++ [c]) delivered := by
  have hhalted : c.scanner.halted = calls.any (·.op.fails) := h.halted_eq
  have hany : (calls ++ [c]).any (·.op.fails) = (c.scanner.halted || c.op.fails) := by
    rw [hhalted, List.any_append, List.any_cons, List.any_nil, Bool.or_false]
  obtain ⟨hs, hstream⟩ | ⟨hs, hoffer, hfails, hstream⟩ | ⟨message, hs, hoffer, hfails, hstream⟩ |
    ⟨kind, text, hs, hoffer, hfails, hstream⟩ := c.stream_cases
  all_goals rw [hstream]
  -- something has failed before, and whatever the call offers is dropped
  · obtain ⟨hemitted, hpublished⟩ := Call.concat_of_failed (hhalted.symm.trans hs) c
    apply h.congr hemitted hpublished
    rw [hany, ← hhalted, hs, Bool.true_or]
  all_goals obtain ⟨hemitted, hpublished⟩ := Call.concat_of_not_failed (hhalted.symm.trans hs) c
  all_goals simp only [hoffer, hfails, if_true, Bool.false_eq_true, if_false] at hemitted hpublished
  -- the call offers nothing
  · rw [Option.toList_none, List.append_nil] at hemitted hpublished
    apply h.congr hemitted hpublished
    rw [hany, hfails, hhalted, Bool.or_false]
  -- the call fails, which is no reason to look for a significant token
  · rw [List.append_nil] at hemitted
    constructor
    · rw [hpublished, ← h.queue_eq, List.append_assoc]
      rfl
    · rw [hpublished, Option.toList_some, List.getLast?_concat]
      rfl
    · rw [hemitted]
      exact h.lastSignificant_eq
    · rw [hany, hfails, Bool.or_true]
      rfl
  -- the call publishes a token, and the classifier tells whether it is significant
  · constructor
    · rw [hpublished, ← h.queue_eq, List.append_assoc]
      rfl
    · rw [hpublished, Option.toList_some, List.getLast?_concat]
      rfl
    · rw [hemitted, Option.toList_some, List.filter_append]
      have hlast : c.scanner.lastSignificant = _ := h.lastSignificant_eq
      cases hf : c.scanner.isWhitespace kind with
      | true => simp [Scanner.published, hf, hlast]
      | false => simp [Scanner.published, hf]
    · rw [hany, hs, hfails]
      rfl

end Stream.Sums

theorem Leads.sums {s t : Scanner K μ} {calls cs : List (Call K μ)} {delivered : List (Token K)}
    (h : Leads s cs t) (hs : s.stream.Sums s.isWhitespace calls delivered) :
    t.isWhitespace = s.isWhitespace ∧ t.stream.Sums s.isWhitespace (calls ++ cs) delivered := by
  induction h generalizing calls with
  | nil => exact ⟨rfl, by simpa using hs⟩
  | @cons c cs t hrest ih =>
    have hsame : c.after.isWhitespace = c.scanner.isWhitespace :=
      (c.op.significant_perform c.scanner).1
    have hafter := hs.call
    rw [← hsame] at hafter
    obtain ⟨hclassifier, hsums⟩ := ih hafter
    rw [hsame] at hclassifier hsums
    rw [List.append_assoc] at hsums
    exact ⟨hclassifier, hsums⟩

/-- What can happen to a scanner from outside: a command is carried out, or a token is delivered. -/
inductive Turn (K σ μ : Type) where
  | command (c : Command K σ μ)
  | deliver

/-- A scanner, with what has been asked of it and what it has delivered. -/
structure History (K μ : Type) where
  scanner : Scanner K μ
  calls : List (Call K μ) := []
  delivered : List (Token K) := []

namespace History

def turn (h : History K μ) : Turn K σ μ → History K μ
  | .command c =>
    { h with
      scanner := (c.program.exec h.scanner).2
      calls := h.calls ++ c.program.calls h.scanner }
  | .deliver =>
    { h with
      scanner := { h.scanner with queue := h.scanner.queue.tail }
      delivered := h.delivered ++ h.scanner.queue.head?.toList }

def play (h : History K μ) (turns : List (Turn K σ μ)) : History K μ := turns.foldl turn h

def Sums (f : K → Bool) (h : History K μ) : Prop :=
  h.scanner.isWhitespace = f ∧ h.scanner.stream.Sums f h.calls h.delivered

variable {f : K → Bool} {h : History K μ}

theorem Sums.turn (hs : h.Sums f) (t : Turn K σ μ) : (h.turn t).Sums f := by
  obtain ⟨rfl, hsums⟩ := hs
  cases t with
  | command c => exact (c.program.leads_calls h.scanner).sums hsums
  | deliver =>
    refine ⟨rfl, ?_, hsums.lastKind_eq, hsums.lastSignificant_eq, hsums.halted_eq⟩
    apply Eq.trans _ hsums.queue_eq
    simp only [History.turn, Scanner.stream, List.append_assoc]
    cases h.scanner.queue <;> rfl

theorem Sums.play (hs : h.Sums f) (turns : List (Turn K σ μ)) : (h.play turns).Sums f := by
  induction turns generalizing h with
  | nil => exact hs
  | cons t turns ih => exact ih (hs.turn t)

end History

theorem Op.lastSignificant_perform {o : Op K μ} {s : Scanner K μ}
    (h : ∀ kind, o.Emits kind → s.halted = true) :
    (o.perform s).2.lastSignificant = s.lastSignificant := by
  rw [(o.significant_perform s).2]
  cases o with
  | publish kind text =>
    have hs := h kind (.inr ⟨text, rfl⟩)
    simp only [Call.significant, Scanner.significant, hs, Bool.true_or, if_true]
  | publishSpan kind =>
    have hs := h kind (.inl rfl)
    simp only [Call.significant]
    cases s.cursor.pendingText? with
    | none => rfl
    | some text => simp only [Option.elim_some, Scanner.significant, hs, Bool.true_or, if_true]
  | _ => rfl

namespace History

/-- The scanner tells what was published: the tokens that were delivered and those in the queue, the
kind of the last one, and the last one that is significant and no failure. It has halted exactly if
something failed. The last significant token changes with a publication alone, and not with one that
is dropped. -/
structure Summary (σ : Type) (isWhitespace : K → Bool) (h : History K μ) : Prop where
  delivered_append_queue : h.delivered ++ h.scanner.queue = Call.published h.calls
  lastKind_eq : h.scanner.lastKind = (Call.published h.calls).getLast?.map Token.kind
  lastSignificant_eq :
    h.scanner.lastSignificant = ((Call.emitted h.calls).filter (!isWhitespace ·.kind)).getLast?
  halted_iff : h.scanner.halted = true ↔ ∃ call ∈ h.calls, ∃ message, call.op = .fail message
  lastSignificant_perform : ∀ o : Op K μ, (∀ kind, o.Emits kind → h.scanner.halted = true) →
    (o.perform h.scanner).2.lastSignificant = h.scanner.lastSignificant
  lastSignificant_deliver :
    (h.turn (.deliver : Turn K σ μ)).scanner.lastSignificant = h.scanner.lastSignificant

/-- Whatever is asked of a scanner and whenever its tokens are delivered, it sums up its history. -/
theorem play_summary (g : Grammar K σ μ) (input : String) (config : Config) (memory : μ)
    (turns : List (Turn K σ μ)) :
    (play { scanner := g.scanner input config memory } turns).Summary σ g.isWhitespace := by
  have hfresh : Sums g.isWhitespace { scanner := g.scanner input config memory } :=
    ⟨rfl, rfl, rfl, rfl, rfl⟩
  obtain ⟨-, hsums⟩ := hfresh.play turns
  generalize play { scanner := g.scanner input config memory } turns = h at hsums
  have hhalted : h.scanner.halted = h.calls.any (·.op.fails) := hsums.halted_eq
  exact
    { delivered_append_queue := hsums.queue_eq
      lastKind_eq := hsums.lastKind_eq
      lastSignificant_eq := hsums.lastSignificant_eq
      halted_iff := by simp only [hhalted, List.any_eq_true, Op.fails_iff]
      lastSignificant_perform := fun _ ho => Op.lastSignificant_perform ho
      lastSignificant_deliver := rfl }

end History

end StateLexer
