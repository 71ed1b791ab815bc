import StateLexer.Arithmetic
import StateLexer.Proofs.Lexer.Failure
import StateLexer.Proofs.Lexer.Lockstep

/-! # The classifier never shows

The classifier of a grammar is asked in the middle of publishing a token, but its answer reaches one
place only: the last significant token. So two runs of one grammar under two classifiers are in
lockstep if no state looks at that token, and also if the classifiers agree on what is published.
-/

namespace StateLexer

variable {K σ μ : Type}

/-- Answers are the same, but for what is said of the last significant token. -/
def significanceAside : Alike K μ := fun o a b => o = .lastSignificant ∨ a = b

theorem Program.Uses.respects_significanceAside {α : Type} {p : Program K μ α}
    (h : p.Uses (· ≠ .lastSignificant)) : p.Respects significanceAside :=
  Uses.respects (h.mono fun _ ho _ _ hab => hab.resolve_left ho)

theorem significanceAside_plain : (significanceAside : Alike K μ).Plain where
  readNumber _ _ h := h.resolve_left nofun
  readRun _ _ _ h := h.resolve_left nofun
  publishSpan _ _ _ h := h.resolve_left nofun
  pendingText _ _ h := h.resolve_left nofun
  fail _ _ _ h := h.resolve_left nofun

/-- The scanner with another classifier and another significant token. -/
def Scanner.reclassified (f : K → Bool) (t : Option (Token K)) (s : Scanner K μ) : Scanner K μ :=
  { s with isWhitespace := f, lastSignificant := t }

def Lexer.reclassified (f : K → Bool) (t : Option (Token K)) (l : Lexer K σ μ) : Lexer K σ μ :=
  { l with scanner := l.scanner.reclassified f t }

def Grammar.classifiedBy (f : K → Bool) (g : Grammar K σ μ) : Grammar K σ μ :=
  { g with isWhitespace := f }

/-- The last significant token behind a publication, if it was `t` before and `f` classifies. -/
def Scanner.significant (f : K → Bool) (t : Option (Token K)) (kind : K) (s : Scanner K μ)
    (text : String) : Option (Token K) :=
  if s.halted || f kind then t else some ⟨kind, s.cursor.startPosition, text⟩

def Call.significant (f : K → Bool) (t : Option (Token K)) (c : Call K μ) : Option (Token K) :=
  match c.op with
  | .publish kind text => c.scanner.significant f t kind text
  | .publishSpan kind => c.scanner.cursor.pendingText?.elim t (c.scanner.significant f t kind)
  | _ => t

variable {f f' : K → Bool} {t : Option (Token K)} {s : Scanner K μ} {o : Op K μ}

theorem Scanner.publish_reclassified (kind : K) (text : String) (s : Scanner K μ) :
    (s.reclassified f t).publish kind text =
      (s.publish kind text).reclassified f (s.significant f t kind text) := by
  cases hh : s.halted <;>
    simp [Scanner.publish, Scanner.reclassified, Scanner.note, Scanner.significant, hh]

variable [TokenKind K]

theorem Scanner.fail_reclassified (message : String) (s : Scanner K μ) :
    (s.reclassified f t).fail message = (s.fail message).reclassified f t := by
  cases hh : s.halted <;> simp [Scanner.fail, Scanner.reclassified, Scanner.note, hh]

/-- Requests of differently classified scanners differ in the significant token alone. -/
theorem Op.perform_reclassified (f : K → Bool) (t : Option (Token K)) (s : Scanner K μ)
    (o : Op K μ) :
    (o ≠ .lastSignificant → (o.perform (s.reclassified f t)).1 = (o.perform s).1) ∧
      (o.perform (s.reclassified f t)).2 =
        (o.perform s).2.reclassified f ((Call.mk o s).significant f t) := by
  have hcursor : (s.reclassified f t).cursor = s.cursor := rfl
  have hbookmarks : (s.reclassified f t).bookmarks = s.bookmarks := rfl
  cases o with
  | publish kind text => exact ⟨fun _ => rfl, s.publish_reclassified kind text⟩
  | publishSpan kind =>
    simp only [Op.perform, Scanner.publishSpan?, hcursor, Call.significant]
    cases s.cursor.pendingText? with
    | none => exact ⟨fun _ => rfl, rfl⟩
    | some text => exact ⟨fun _ => rfl, s.publish_reclassified kind text⟩
  | fail message => exact ⟨fun _ => rfl, s.fail_reclassified message⟩
  | pendingText =>
    simp only [Op.perform, hcursor]
    cases s.cursor.pendingText? <;> exact ⟨fun _ => rfl, rfl⟩
  | reset mark =>
    simp only [Op.perform, Scanner.reset, hbookmarks]
    cases s.bookmarks[mark]? <;> exact ⟨fun _ => trivial, rfl⟩
  | lastSignificant => exact ⟨fun hne => absurd rfl hne, rfl⟩
  | cursor _ | bookmark | lastKind | isHalted | inspect | memory | remember _ | raise _ =>
    exact ⟨fun _ => rfl, rfl⟩

/-- How the token that stands in for the last significant one is bound to it and to the
classifier. -/
abbrev Binding (K : Type) : Type := (K → Bool) → Option (Token K) → Option (Token K) → Prop

/-- Scanners of which one is the other, classified by `f'`. -/
def reclassification (alike : Alike K μ) (plain : alike.Plain) (binding : Binding K)
    (f' : K → Bool) : Likeness K μ where
  alike := alike
  scanner s s' := ∃ t, binding s.isWhitespace s.lastSignificant t ∧ s' = s.reclassified f' t
  token := Eq
  position := Eq
  plain := plain
  position_of_token h := congrArg Token.position h
  halted_eq := by
    rintro s _ ⟨t, -, rfl⟩
    rfl
  queue := by
    rintro s _ ⟨t, -, rfl⟩
    exact List.forall₂_eq_eq_eq.symm ▸ rfl
  deliver := by
    rintro s _ token token' rest rest' ⟨t, ht, rfl⟩ hq hq'
    obtain ⟨-, rfl⟩ := List.cons.inj (hq.symm.trans hq')
    exact ⟨t, ht, rfl⟩
  close := by
    rintro s _ ⟨t, ht, rfl⟩
    exact ⟨t, ht, rfl⟩

omit [TokenKind K] in
theorem Lexer.Like.reclassified {alike : Alike K μ} {plain : alike.Plain} {binding : Binding K}
    {l l' : Lexer K σ μ} (h : Like (reclassification alike plain binding f') l l') :
    ∃ t, binding l.scanner.isWhitespace l.scanner.lastSignificant t ∧ l' = l.reclassified f' t := by
  obtain ⟨t, ht, hscanner⟩ := h.scanner
  refine ⟨t, ht, ?_⟩
  have hposition : l.lastPosition = l'.lastPosition := by
    have hrel := h.lastPosition
    generalize l.lastPosition = p, l'.lastPosition = q at hrel
    cases hrel with
    | some hp => exact congrArg some hp
    | none => rfl
  obtain ⟨s, state, position, closed⟩ := l'
  obtain rfl := hscanner
  obtain rfl := h.state_eq
  obtain rfl := hposition
  obtain rfl := h.closed_eq
  rfl

omit [TokenKind K] in
theorem Call.significant_congr {c : Call K μ} (h : ∀ kind, c.op.Emits kind → f kind = f' kind)
    (t : Option (Token K)) : c.significant f t = c.significant f' t := by
  obtain ⟨o, s⟩ := c
  cases o with
  | publish kind text =>
    simp only [significant, Scanner.significant, h kind (.inr ⟨text, rfl⟩)]
  | publishSpan kind =>
    have hkind := h kind (.inl rfl)
    simp only [significant]
    congr 1
    funext text
    simp only [Scanner.significant, hkind]
  | _ => rfl

theorem Op.significant_perform (s : Scanner K μ) (o : Op K μ) :
    (o.perform s).2.isWhitespace = s.isWhitespace ∧
      (o.perform s).2.lastSignificant =
        (Call.mk o s).significant s.isWhitespace s.lastSignificant := by
  have hself : (o.perform s).2 = (o.perform s).2.reclassified s.isWhitespace
      ((Call.mk o s).significant s.isWhitespace s.lastSignificant) :=
    (o.perform_reclassified s.isWhitespace s.lastSignificant s).2
  exact ⟨by rw [hself]; rfl, by rw [hself]; rfl⟩

theorem Call.agrees_significanceAside (c : Call K μ) : c.Agrees significanceAside
    (reclassification significanceAside significanceAside_plain (fun _ _ _ => True) f').scanner := by
  obtain ⟨o, s⟩ := c
  rintro _ ⟨t, -, rfl⟩
  obtain ⟨hanswer, hscanner⟩ := o.perform_reclassified f' t s
  by_cases ho : o = .lastSignificant
  · subst ho
    exact .ok (.inl rfl) ⟨_, trivial, hscanner⟩
  · exact .of_fst_eq (fun _ => .inr rfl) (hanswer ho).symm ⟨_, trivial, hscanner⟩

theorem Call.agrees_of_kinds {c : Call K μ} (h : ∀ kind, c.op.Emits kind → f kind = f' kind) :
    c.Agrees (fun _ a b => a = b)
      (reclassification _ Alike.plain_eq (fun h t t' => h = f ∧ t' = t) f').scanner := by
  have hcongr := significant_congr h
  obtain ⟨o, s⟩ := c
  rintro _ ⟨_, ⟨rfl, rfl⟩, rfl⟩
  obtain ⟨hanswer, hscanner⟩ := o.perform_reclassified f' s.lastSignificant s
  obtain ⟨hclassifier, hsignificant⟩ := o.significant_perform s
  rw [← hcongr, ← hsignificant] at hscanner
  apply Agrees.of_fst_eq (fun _ => rfl)
  · by_cases ho : o = .lastSignificant
    · subst ho
      rfl
    · exact (hanswer ho).symm
  · exact ⟨_, ⟨hclassifier, rfl⟩, hscanner⟩

theorem Lexer.lockstep_classified {alike : Alike K μ} {plain : alike.Plain} {binding : Binding K}
    {g : Grammar K σ μ} {input : String} {config : Config} {memory : μ} (hg : g.Respects alike)
    (hbinding : binding f none none)
    (hagrees : ∀ n, ∀ call ∈ (Lexer.ofInput (g.classifiedBy f) input config memory).calls
      (g.classifiedBy f) n,
      call.Agrees alike (reclassification alike plain binding f').scanner) :
    Lockstep (reclassification alike plain binding f') (g.classifiedBy f) (g.classifiedBy f')
      (.ofInput (g.classifiedBy f) input config memory)
      (.ofInput (g.classifiedBy f') input config memory) where
  like := ⟨⟨none, hbinding, rfl⟩, rfl, .none, rfl⟩
  program_eq state := by cases state <;> rfl
  respects := hg
  agrees := hagrees

/-- The classifier does not show. Under any two classifiers a grammar runs the same states and
delivers the same, and the lexers stay the same but for the classifier and the last significant
token, if no state minds that token. If the classifiers agree on every kind that is published, the
states may mind it, and it is the same too. -/
theorem Lexer.classifiedBy_runsAlike (g : Grammar K σ μ) (f f' : K → Bool) (input : String)
    (config : Config) (memory : μ) :
    let l := Lexer.ofInput (g.classifiedBy f) input config memory
    let l' := Lexer.ofInput (g.classifiedBy f') input config memory
    (g.Respects significanceAside →
      Lexer.RunsAlike Eq (fun m m' => ∃ t, m' = m.reclassified f' t) (g.classifiedBy f)
        (g.classifiedBy f') l l') ∧
    ((∀ n, ∀ call ∈ l.calls (g.classifiedBy f) n, ∀ kind, call.op.Emits kind → f kind = f' kind) →
      Lexer.RunsAlike Eq (fun m m' => m' = m.reclassified f' m.scanner.lastSignificant)
        (g.classifiedBy f) (g.classifiedBy f') l l') := by
  intro l l'
  constructor
  · intro hg
    have hlock : Lexer.Lockstep (reclassification _ significanceAside_plain (fun _ _ _ => True) f')
        (g.classifiedBy f) (g.classifiedBy f') l l' :=
      Lexer.lockstep_classified hg trivial fun _ call _ => call.agrees_significanceAside
    refine hlock.runsAlike.mono (fun _ _ h => h.eq) ?_
    intro m m' h
    obtain ⟨t, -, hm⟩ := h.reclassified
    exact ⟨t, hm⟩
  · intro hkinds
    have hlock : Lexer.Lockstep
        (reclassification _ Alike.plain_eq (fun h t t' => h = f ∧ t' = t) f')
        (g.classifiedBy f) (g.classifiedBy f') l l' :=
      Lexer.lockstep_classified (fun name => (g.body name).respects_eq) ⟨rfl, rfl⟩
        fun n call hcall => Call.agrees_of_kinds (hkinds n call hcall)
    refine hlock.runsAlike.mono (fun _ _ h => h.eq) ?_
    intro m m' h
    obtain ⟨t, ⟨-, rfl⟩, hm⟩ := h.reclassified
    exact hm

/-- Publishes each character, the ones behind a significant token as symbols. -/
def heedful : Grammar Arithmetic.Kind Unit Unit where
  start := ()
  body _ := do
    match ← Program.read with
    | none => return none
    | some _ =>
      match ← Program.lastSignificant with
      | none => Program.publishSpan .ident
      | some _ => Program.publishSpan .punct
      return some .start

theorem Lexer.classifiedBy_runsAlike_heedful :
    let blank : Arithmetic.Kind → Bool := fun kind => kind = .whitespace
    let number : Arithmetic.Kind → Bool := fun kind => kind = .whitespace || kind = .number
    let lexer := fun (g : Grammar Arithmetic.Kind Unit Unit) (f : Arithmetic.Kind → Bool) input =>
      Lexer.ofInput (g.classifiedBy f) input {} ()
    Lexer.RunsAlike Eq (fun m m' => ∃ t, m' = m.reclassified (fun _ => true) t)
        (Arithmetic.grammar.classifiedBy blank) (Arithmetic.grammar.classifiedBy fun _ => true)
        (lexer Arithmetic.grammar blank "é + 1") (lexer Arithmetic.grammar (fun _ => true) "é + 1") ∧
      Lexer.RunsAlike Eq (fun m m' => m' = m.reclassified number m.scanner.lastSignificant)
        (heedful.classifiedBy blank) (heedful.classifiedBy number)
        (lexer heedful blank "ab") (lexer heedful number "ab") := by
  intro blank number lexer
  constructor
  · apply (Lexer.classifiedBy_runsAlike Arithmetic.grammar blank (fun _ => true) "é + 1" {} ()).1
    intro name
    apply Program.Uses.respects_significanceAside
    exact Arithmetic.scan_uses.mono (by rintro _ ho rfl; exact ho)
  · apply (Lexer.classifiedBy_runsAlike heedful blank number "ab" {} ()).2
    let g := heedful.classifiedBy blank
    have hstate : ((lexer heedful blank "ab").after g 5).state = none := by decide +kernel
    have hagree : ∀ call ∈ (lexer heedful blank "ab").calls g 5,
        ∀ kind ∈ call.op.emittedKind?, blank kind = number kind := by decide +kernel
    intro n call hcall kind hemits
    exact hagree call (Lexer.mem_calls_of_state hstate hcall) kind
      (Op.emittedKind?_eq_some.mpr hemits)

end StateLexer
