import Mathlib.Tactic.SplitIfs
import StateLexer.Arithmetic
import StateLexer.Proofs.Program.Calls
import StateLexer.Proofs.Program.Uses

/-! # Programs that do not tell answers apart

A relation on the answers of each operation says which of them are alike. A program respects it if
alike answers lead it on in the same way. Two scanners that answer every request alike then make
such a program do the same, request for request.
-/

namespace StateLexer

variable {K σ μ α : Type}

/-- Which answers to an operation are alike. -/
abbrev Alike (K μ : Type) : Type := (o : Op K μ) → o.Answer → o.Answer → Prop

variable {alike : Alike K μ}

namespace Program

/-- After each operation the program goes on in the same way with answers that are alike. -/
def Respects (alike : Alike K μ) : Program K μ α → Prop
  | .done _ => True
  | .ask o next =>
    (∀ a b, alike o a b → next a = next b) ∧ ∀ answer, (next answer).Respects alike

theorem Uses.respects {p : Program K μ α} (h : p.Uses fun o => ∀ a b, alike o a b → a = b) :
    p.Respects alike := by
  induction p with
  | done value => trivial
  | ask o next ih =>
    refine ⟨?_, fun answer => ih answer (h.2 answer)⟩
    intro a b hab
    exact congrArg next (h.1 a b hab)

theorem respects_eq (p : Program K μ α) : p.Respects fun _ a b => a = b := by
  induction p with
  | done value => trivial
  | ask o next ih => exact ⟨fun a b hab => congrArg next hab, ih⟩

end Program

/-- The answers that the states built from data ask for are alike only to themselves. -/
structure Alike.Plain (alike : Alike K μ) : Prop where
  readNumber : ∀ a b, alike (.cursor .readNumber) a b → a = b
  readRun : ∀ test a b, alike (.cursor (.readRun test)) a b → a = b
  publishSpan : ∀ kind a b, alike (.publishSpan kind) a b → a = b
  pendingText : ∀ a b, alike .pendingText a b → a = b
  fail : ∀ message a b, alike (.fail message) a b → a = b

theorem Alike.plain_eq : Alike.Plain fun (_ : Op K μ) a b => a = b where
  readNumber _ _ h := h
  readRun _ _ _ h := h
  publishSpan _ _ _ h := h
  pendingText _ _ h := h
  fail _ _ _ h := h

def Grammar.Respects (alike : Alike K μ) (g : Grammar K σ μ) : Prop :=
  ∀ name, (g.body name).Respects alike

theorem Grammar.Respects.program {g : Grammar K σ μ} (h : g.Respects alike) (hplain : alike.Plain)
    (state : State K σ) : (g.program state).Respects alike := by
  cases state with
  | start => exact h g.start
  | plain name => exact h name
  | closure name => exact h name
  | number kind =>
    exact Program.Uses.respects (Program.publishNumber_uses hplain.readNumber
      (hplain.publishSpan kind) hplain.pendingText hplain.fail)
  | run kind test resume =>
    exact Program.Uses.respects (Program.publishRun_uses (hplain.readRun test)
      (hplain.publishSpan kind) hplain.fail)

/-- Two requests of one operation end alike: with answers that are alike, or with the same fault,
and with scanners that are related. -/
inductive Agrees {A : Type} (alike : A → A → Prop) (R : Scanner K μ → Scanner K μ → Prop) :
    Except Fault A × Scanner K μ → Except Fault A × Scanner K μ → Prop
  | ok {a b : A} {s s' : Scanner K μ} (h : alike a b) (hs : R s s') :
      Agrees alike R (.ok a, s) (.ok b, s')
  | error {f : Fault} {s s' : Scanner K μ} (hs : R s s') : Agrees alike R (.error f, s) (.error f, s')

variable {R : Scanner K μ → Scanner K μ → Prop}

theorem Agrees.of_fst_eq {A : Type} {alike : A → A → Prop} (hrefl : ∀ a, alike a a)
    {x y : Except Fault A × Scanner K μ} (h : x.1 = y.1) (hs : R x.2 y.2) : Agrees alike R x y := by
  obtain ⟨r, s⟩ := x
  obtain ⟨r', s'⟩ := y
  obtain rfl : r = r' := h
  cases r with
  | ok a => exact .ok (hrefl a) hs
  | error f => exact .error hs

variable [TokenKind K]

/-- Made of a related scanner, the request would end alike. -/
def Call.Agrees (alike : Alike K μ) (R : Scanner K μ → Scanner K μ → Prop) (c : Call K μ) : Prop :=
  ∀ s', R c.scanner s' → StateLexer.Agrees (alike c.op) R (c.op.perform c.scanner) (c.op.perform s')

theorem Program.Respects.exec {p : Program K μ α} (hp : p.Respects alike) {s s' : Scanner K μ}
    (hs : R s s') (hcalls : ∀ c ∈ p.calls s, c.Agrees alike R) :
    (p.exec s).1 = (p.exec s').1 ∧ R (p.exec s).2 (p.exec s').2 := by
  induction p generalizing s s' with
  | done value => exact ⟨rfl, hs⟩
  | ask o next ih =>
    rw [Program.calls] at hcalls
    have hagrees := hcalls ⟨o, s⟩ List.mem_cons_self s' hs
    simp only [Program.exec]
    cases ho : o.perform s with
    | mk r t =>
      cases ho' : o.perform s' with
      | mk r' t' =>
        simp only [ho, ho'] at hagrees hcalls
        cases hagrees with
        | @ok a b _ _ hanswer ht =>
          have hrest : ∀ c ∈ (next a).calls t, c.Agrees alike R := fun c hc =>
            hcalls c (List.mem_cons_of_mem _ hc)
          change ((next a).exec t).1 = ((next b).exec t').1 ∧
            R ((next a).exec t).2 ((next b).exec t').2
          rw [← hp.1 a b hanswer]
          exact ih a (hp.2 a) ht hrest
        | error ht => exact ⟨rfl, ht⟩

namespace Arithmetic

def Requests : Op Kind Unit → Prop
  | .cursor .peek | .cursor .read | .cursor .markStart | .cursor (.readMembers _)
  | .cursor (.readWhile _) | .cursor .readNumber | .publishSpan _ | .pendingText | .fail _ => True
  | _ => False

theorem scan_uses : scan.Uses Requests := by
  have hpublish : ∀ kind, (do Program.publishSpan kind; return some .start :
      Program Kind Unit (Option (State Kind Unit))).Uses Requests :=
    fun kind => .bind (Program.uses_request trivial) fun _ => trivial
  have hfail : ∀ message, (Program.stopWith message :
      Program Kind Unit (Option (State Kind Unit))).Uses Requests :=
    fun message => .bind (Program.uses_request trivial) fun _ => trivial
  refine .bind (Program.uses_request trivial) ?_
  intro next
  cases next with
  | none => trivial
  | some ch =>
    dsimp only
    split_ifs
    · exact .bind (Program.uses_request trivial) fun _ => hpublish .whitespace
    · refine .bind (Program.uses_request trivial) fun _ => ?_
      exact .bind (Program.uses_request trivial) fun _ => trivial
    · exact .bind (Program.uses_request trivial) fun _ => hpublish .punct
    · exact Program.publishNumber_uses trivial trivial trivial fun _ => trivial
    · trivial
    · exact .bind (Program.uses_request trivial) fun _ => hfail _

end Arithmetic

end StateLexer
