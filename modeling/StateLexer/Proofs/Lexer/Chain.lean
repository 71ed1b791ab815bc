import Mathlib.Data.Nat.Find
import StateLexer.Arithmetic
import StateLexer.Proofs.Lexer.Pulls
import StateLexer.Proofs.Program.Respects

/-! # Pulling follows the chain of states

The chain runs one state after the other, asked by nobody, until there is no next state or the
scanner has halted. The tokens that a run leaves in the queue are gathered when it ends. The main
statement says that a lexer delivers what the chain gathers, and runs no state before it has to.

A state may look at the number of queued tokens, so a chain that leaves them all in the queue can go
another way. It does not if the grammar never inspects the scanner.
-/

namespace StateLexer

variable {K σ μ : Type} [TokenKind K] {g : Grammar K σ μ}

/-- A scan that nobody pulls. -/
structure Chain (K σ μ : Type) where
  scanner : Scanner K μ
  state : Option (State K σ) := some .start
  gathered : List (Token K) := []

namespace Chain

def ofInput (g : Grammar K σ μ) (input : String) (config : Config) (memory : μ) : Chain K σ μ :=
  { scanner := g.scanner input config memory }

/-- Run the current state to its end. There is no next link if there is no state or it breaks
off. -/
def next? (g : Grammar K σ μ) (c : Chain K σ μ) : Option (Chain K σ μ) :=
  match c.state with
  | none => none
  | some state =>
    match (g.program state).exec c.scanner with
    | (.ok next, s) => some { c with scanner := s, state := if s.halted then none else next }
    | (.error _, _) => none

def gather (c : Chain K σ μ) : Chain K σ μ :=
  { c with
    scanner := { c.scanner with queue := [] }
    gathered := c.gathered ++ c.scanner.queue }

/-- The chain after `n` runs, if the tokens are gathered after each of them. -/
def after (g : Grammar K σ μ) : ℕ → Chain K σ μ → Option (Chain K σ μ)
  | 0, c => some c
  | n + 1, c => (c.next? g).bind fun c' => after g n c'.gather

/-- The chain after `n` runs, if its tokens are left in the queue. -/
def keep (g : Grammar K σ μ) : ℕ → Chain K σ μ → Option (Chain K σ μ)
  | 0, c => some c
  | n + 1, c => (c.next? g).bind (keep g n)

def published (c : Chain K σ μ) : List (Token K) := c.gathered ++ c.scanner.queue

/-- The lexer that is as far as the chain and has delivered `k` of its tokens. -/
def lexer (c : Chain K σ μ) (k : ℕ) : Lexer K σ μ where
  scanner := { c.scanner with queue := c.published.drop k }
  state := c.state
  lastPosition := (c.published.take k).getLast?.map Token.position
  closed := false

variable {c c' c₀ : Chain K σ μ} {chain : ℕ → Option (Chain K σ μ)} {k n d : ℕ}

omit [TokenKind K] in
theorem published_gather (c : Chain K σ μ) : c.gather.published = c.published := by
  simp [published, gather]

omit [TokenKind K] in
theorem published_of_queue (hq : c.scanner.queue = []) : c.published = c.gathered := by
  rw [published, hq, List.append_nil]

theorem after_add (m n : ℕ) (c : Chain K σ μ) :
    c.after g (m + n) = (c.after g m).bind (after g n) := by
  induction m generalizing c with
  | zero => rw [Nat.zero_add]; rfl
  | succ m ih =>
    rw [Nat.add_right_comm]
    simp only [after]
    cases c.next? g with
    | none => rfl
    | some c' => exact ih c'.gather

theorem after_succ_eq_some (h : c.after g (n + 1) = some c') :
    ∃ m, c.next? g = some m ∧ m.gather.after g n = some c' := by
  obtain ⟨m, hm, hrest⟩ := Option.bind_eq_some_iff.mp h
  exact ⟨m, hm, hrest⟩

theorem gathered_next (h : c.next? g = some c') : c'.gathered = c.gathered := by
  unfold next? at h
  split at h
  · cases h
  · split at h
    · cases h; rfl
    · cases h

theorem published_next (hq : c.scanner.queue = []) (h : c.next? g = some c') :
    c.published <+: c'.gather.published := by
  rw [published_gather, published_of_queue hq, published, gathered_next h]
  exact List.prefix_append _ _

theorem published_grows (hq : c.scanner.queue = []) (h : c.after g n = some c') :
    c.published <+: c'.published := by
  induction n generalizing c with
  | zero => cases h; exact List.prefix_rfl
  | succ n ih =>
    obtain ⟨m, hm, hrest⟩ := after_succ_eq_some h
    exact (published_next hq hm).trans (ih rfl hrest)

theorem queue_after (hq : c.scanner.queue = []) (h : c.after g n = some c') :
    c'.scanner.queue = [] := by
  induction n generalizing c with
  | zero => cases h; exact hq
  | succ n ih =>
    obtain ⟨m, -, hrest⟩ := after_succ_eq_some h
    exact ih rfl hrest

theorem step_token (hk : k < c.published.length) :
    (c.lexer k).step g = (.token c.published[k], c.lexer (k + 1)) := by
  have hdrop : c.published.drop k = c.published[k] :: c.published.drop (k + 1) :=
    List.drop_eq_getElem_cons hk
  have hlast : (c.published.take (k + 1)).getLast? = some c.published[k] := by
    rw [List.take_succ_eq_append_getElem hk, List.getLast?_concat]
  simp only [Lexer.step, lexer, hdrop, hlast, Option.map_some]

/-- With nothing left to deliver, the lexer runs the state that the chain runs next. -/
theorem step_run (hq : c.scanner.queue = []) (hk : c.published.length = k)
    (h : c.next? g = some c') : (c.lexer k).step g = (.unsettled, c'.gather.lexer k) := by
  have hdrop : c.published.drop k = [] := List.drop_eq_nil_of_le (by omega)
  have hscanner : { c.scanner with queue := [] } = c.scanner := by rw [← hq]
  have hpublished : c'.gather.published = c.published ++ c'.scanner.queue := by
    rw [published_gather, published_of_queue hq, published, gathered_next h]
  have htake : c'.gather.published.take k = c.published.take k := by
    rw [hpublished, List.take_append_of_le_length (by omega)]
  have hrest : c'.gather.published.drop k = c'.scanner.queue := by
    rw [hpublished, List.drop_append_of_le_length (by omega), hdrop, List.nil_append]
  unfold next? at h
  split at h
  · cases h
  · rename_i state hstate
    split at h
    · rename_i next s hexec
      cases h
      simp only [Lexer.step, lexer, hdrop, hstate, Lexer.runState, hscanner, hexec, hrest, htake,
        hq]
      rfl
    · cases h

theorem step_close (hstate : c.state = none) (hk : c.published.length = k) :
    (c.lexer k).step g = (.closed, (c.lexer k).close) := by
  have hdrop : c.published.drop k = [] := List.drop_eq_nil_of_le (by omega)
  simp only [Lexer.step, lexer, hdrop, hstate]

theorem pulls_token (hq : c.scanner.queue = []) (hd : c.after g d = some c')
    (hle : k ≤ c.published.length) (hk : k < c'.published.length)
    (least : ∀ m < d, ∀ b, c.after g m = some b → b.published.length ≤ k) :
    Lexer.Pulls g (c.lexer k) (.token c'.published[k]) d (c'.lexer (k + 1)) := by
  induction d generalizing c with
  | zero =>
    cases hd
    exact Lexer.Pulls.settle (step_token hk) nofun
  | succ d ih =>
    obtain ⟨m, hm, hrest⟩ := after_succ_eq_some hd
    have hlen : c.published.length = k := by
      have := least 0 (Nat.succ_pos d) c rfl
      omega
    have hmono := (published_next hq hm).length_le
    refine Lexer.Pulls.run (step_run hq hlen hm) (ih rfl hrest (by omega) ?_)
    intro i hi b hb
    refine least (i + 1) (by omega) b ?_
    rw [after, hm]
    exact hb

theorem pulls_closed (hq : c.scanner.queue = []) (hd : c.after g d = some c')
    (hstate : c'.state = none) (hlen : c.published.length = c'.published.length) :
    Lexer.Pulls g (c.lexer c'.published.length) .closed d (c'.lexer c'.published.length).close := by
  induction d generalizing c with
  | zero =>
    cases hd
    exact Lexer.Pulls.settle (step_close hstate rfl) nofun
  | succ d ih =>
    obtain ⟨m, hm, hrest⟩ := after_succ_eq_some hd
    have hge := (published_next hq hm).length_le
    have hle := (published_grows rfl hrest).length_le
    exact Lexer.Pulls.run (step_run hq hlen hm) (ih rfl hrest (by omega))

/-- `n` is the least number of runs that publish at least `k` tokens, and `c` the chain after
them. -/
structure Reaches (chain : ℕ → Option (Chain K σ μ)) (k n : ℕ) (c : Chain K σ μ) : Prop where
  chain_eq : chain n = some c
  le_length : k ≤ c.published.length
  least : ∀ m < n, ∀ b, chain m = some b → b.published.length < k

theorem take_published (hq : c.scanner.queue = []) (h : c.after g n = some c')
    (hk : k ≤ c.published.length) : c.published.take k = c'.published.take k := by
  obtain ⟨more, hmore⟩ := published_grows hq h
  rw [← hmore, List.take_append_of_le_length hk]

theorem exists_reaches (h : c.after g n = some c') (hk : k ≤ c'.published.length) :
    ∃ m d b, n = m + d ∧ Reaches (c.after g ·) k m b ∧ b.after g d = some c' := by
  classical
  have hex : ∃ m b, c.after g m = some b ∧ k ≤ b.published.length := ⟨n, c', h, hk⟩
  obtain ⟨b, hb, hkb⟩ := Nat.find_spec hex
  obtain ⟨d, hd⟩ := Nat.exists_eq_add_of_le (Nat.find_min' hex ⟨c', h, hk⟩)
  refine ⟨Nat.find hex, d, b, hd, ⟨hb, hkb, ?_⟩, ?_⟩
  · intro m hm b' hb'
    by_contra hge
    exact Nat.find_min hex hm ⟨b', hb', not_lt.mp hge⟩
  · rwa [hd, after_add, hb, Option.bind_some] at h

/-- The first `k` pulls deliver the first `k` tokens of the chain, and run just the states that the
chain needs for them. -/
theorem delivers_tokens (hq : c₀.scanner.queue = []) (h : Reaches (c₀.after g ·) k n c) :
    Lexer.Delivers g (c₀.lexer 0) ((c.published.take k).map .token) n (c.lexer k) := by
  induction k generalizing n c with
  | zero =>
    have hn : n = 0 := by
      by_contra hne
      exact absurd (h.least 0 (by omega) c₀ rfl) (Nat.not_lt_zero _)
    subst hn
    obtain rfl : c₀ = c := by simpa [after] using h.chain_eq
    exact .nil
  | succ k ih =>
    -- the way to `k + 1` tokens leads over the first moment with `k` of them
    obtain ⟨m, d, b, rfl, hb, hrest⟩ := exists_reaches h.chain_eq (Nat.le_of_succ_le h.le_length)
    have hqueue := queue_after hq hb.chain_eq
    have hpull := pulls_token hqueue hrest hb.le_length h.le_length (by
      intro i hi b' hb'
      have := h.least (m + i) (by omega) b' (by
        rw [after_add, show c₀.after g m = some b from hb.chain_eq]
        exact hb')
      omega)
    have hall := (ih hb).pull hpull
    rw [take_published hqueue hrest hb.le_length] at hall
    rw [List.take_succ_eq_append_getElem h.le_length, List.map_append]
    exact hall

theorem delivers_closed (hq : c₀.scanner.queue = [])
    (h : c₀.after g n = some c) (hstate : c.state = none) :
    Lexer.Delivers g (c₀.lexer 0) (c.published.map .token ++ [.closed]) n
      (c.lexer c.published.length).close := by
  obtain ⟨m, d, b, rfl, hb, hrest⟩ := exists_reaches h le_rfl
  have hqueue := queue_after hq hb.chain_eq
  have hlen : b.published.length = c.published.length := by
    have hge := hb.le_length
    have hle := (published_grows hqueue hrest).length_le
    omega
  have htokens := delivers_tokens hq hb
  rw [take_published hqueue hrest hb.le_length, List.take_length] at htokens
  exact htokens.pull (pulls_closed hqueue hrest hstate hlen)

/-- The chain with all that it has gathered back in the queue. -/
def kept (c : Chain K σ μ) : Chain K σ μ :=
  { c with scanner := c.scanner.waiting c.gathered, gathered := [] }

theorem next?_kept (hg : g.NeverInspects) (c : Chain K σ μ) :
    c.kept.next? g = (c.next? g).map kept := by
  unfold next?
  have hstate : c.kept.state = c.state := rfl
  have hscanner : c.kept.scanner = c.scanner.waiting c.gathered := rfl
  rw [hstate, hscanner]
  cases c.state with
  | none => rfl
  | some state =>
    simp only [Program.exec_waiting (hg.program state)]
    cases he : (g.program state).exec c.scanner with
    | mk r s =>
      cases r with
      | ok next => rfl
      | error fault => rfl

omit [TokenKind K] in
theorem kept_gather (c : Chain K σ μ) : c.gather.kept = c.kept := by
  simp [kept, gather, Scanner.waiting]

theorem keep_kept (hg : g.NeverInspects) (n : ℕ) (c : Chain K σ μ) :
    c.kept.keep g n = (c.after g n).map kept := by
  induction n generalizing c with
  | zero => rfl
  | succ n ih =>
    simp only [keep, after, next?_kept hg]
    cases c.next? g with
    | none => rfl
    | some m =>
      simp only [Option.map_some, Option.bind_some]
      rw [← kept_gather, ih]

end Chain

namespace Lexer

variable {l l' : Lexer K σ μ} {chain chain' : ℕ → Option (Chain K σ μ)}

/-- As many tokens as a chain publishes, the lexer delivers them in their order, and runs the least
number of states that publish so many. Once the chain has stopped and all its tokens are delivered,
every pull says that the stream is closed, and the lexer stays as it is. -/
structure Follows (g : Grammar K σ μ) (l : Lexer K σ μ) (chain : ℕ → Option (Chain K σ μ)) :
    Prop where
  delivers : ∀ n c k, chain n = some c → k ≤ c.published.length →
    ∃ m b, Chain.Reaches chain k m b ∧
      l.Delivers g ((c.published.take k).map .token) m (b.lexer k) ∧
      (b.lexer k).lastPosition = (c.published.take k).getLast?.map Token.position ∧
      (b.lexer k).closed = false
  closes : ∀ n c j, chain n = some c → c.state = none →
    ∃ l', l.Delivers g (c.published.map .token ++ List.replicate (j + 1) .closed) n l' ∧
      l'.Pulls g .closed 0 l' ∧
      l'.closed = true ∧
      l'.lastPosition = c.published.getLast?.map Token.position

/-- A chain that differs in what waits in its queue is followed too. -/
theorem Follows.map_kept (h : l.Follows g chain)
    (hchain : ∀ n, chain' n = (chain n).map Chain.kept) : l.Follows g chain' where
  delivers n c k hc hk := by
    rw [hchain, Option.map_eq_some_iff] at hc
    obtain ⟨a, ha, rfl⟩ := hc
    obtain ⟨m, b, hb, hdelivers⟩ := h.delivers n a k ha hk
    -- the chain that keeps its tokens publishes the same, and its lexers are the same
    refine ⟨m, b.kept, ⟨?_, hb.le_length, ?_⟩, hdelivers⟩
    · rw [hchain, hb.chain_eq]
      rfl
    · intro i hi b' hb'
      rw [hchain, Option.map_eq_some_iff] at hb'
      obtain ⟨a', ha', rfl⟩ := hb'
      exact hb.least i hi a' ha'
  closes n c j hc hstate := by
    rw [hchain, Option.map_eq_some_iff] at hc
    obtain ⟨a, ha, rfl⟩ := hc
    exact h.closes n a j ha hstate

/-- A lexer follows the chain whose tokens are gathered after each run, and, if no state looks at
the queue, the one that leaves them all there too. -/
theorem ofInput_follows (g : Grammar K σ μ) (input : String) (config : Config) (memory : μ) :
    let start := Chain.ofInput g input config memory
    let l := Lexer.ofInput g input config memory
    l.Follows g (fun n => start.after g n) ∧
      (g.NeverInspects → l.Follows g fun n => start.keep g n) := by
  intro start l
  have hafter : l.Follows g fun n => start.after g n :=
    { delivers := by
        intro n c k hn hk
        obtain ⟨m, d, b, -, hb, hrest⟩ := Chain.exists_reaches hn hk
        have htake := Chain.take_published (Chain.queue_after rfl hb.chain_eq) hrest hb.le_length
        rw [← htake]
        exact ⟨m, b, hb, Chain.delivers_tokens rfl hb, rfl, rfl⟩
      closes := by
        intro n c j hn hstate
        obtain ⟨hdelivers, hagain⟩ := (Chain.delivers_closed rfl hn hstate).closed_again j
        exact ⟨_, hdelivers, hagain, rfl, by simp [Lexer.close, Chain.lexer]⟩ }
  exact ⟨hafter, fun hg => hafter.map_kept fun n => Chain.keep_kept hg n start⟩

/-- The chain of `+` stops after two runs with one token, and so does the lexer, gathered or not. -/
theorem ofInput_follows_symbol :
    let g := Arithmetic.grammar
    let start := Chain.ofInput g "+" {} ()
    let l := Lexer.ofInput g "+" {} ()
    ∃ c l', start.keep g 2 = some c ∧ c.scanner.queue = [⟨.punct, ⟨0, 1⟩, "+"⟩] ∧
      l.Delivers g [.token ⟨.punct, ⟨0, 1⟩, "+"⟩, .closed] 2 l' ∧ l'.lastPosition = some ⟨0, 1⟩ := by
  intro g start l
  have hlast : (start.keep g 2).map (fun c => (c.state.isNone, c.gathered, c.scanner.queue)) =
      some (true, [], [⟨.punct, ⟨0, 1⟩, "+"⟩]) := by decide +kernel
  obtain ⟨c, hc, hpair⟩ := Option.map_eq_some_iff.mp hlast
  simp only [Prod.mk.injEq] at hpair
  obtain ⟨hstate, hgathered, hqueue⟩ := hpair
  have hquiet : g.NeverInspects := fun _ => Arithmetic.scan_uses.mono (by rintro _ ho rfl; exact ho)
  have hfollows := (ofInput_follows g "+" {} ()).2 hquiet
  obtain ⟨l', hdelivers, -, -, hposition⟩ :=
    hfollows.closes 2 c 0 hc (Option.isNone_iff_eq_none.mp hstate)
  rw [Chain.published, hgathered, hqueue] at hdelivers hposition
  exact ⟨c, l', hc, hqueue, hdelivers, hposition⟩

end Lexer

end StateLexer
