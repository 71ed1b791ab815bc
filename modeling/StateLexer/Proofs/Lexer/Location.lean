import StateLexer.Arithmetic
import StateLexer.Proofs.Cursor.Reading
import StateLexer.Proofs.Lexer.Steps
import StateLexer.Proofs.Program.Uses

/-! # Tokens tell where they stand

Whatever a grammar asks for, the cursor of its scanner and the cursors set aside stand between two
characters of the input and know their line. So every token tells a true position, and a token that
was published as it stands has just the text that the input has there. On true positions the order
is the order of offsets, and lines follow it.
-/

namespace StateLexer
open Text

variable {K σ μ : Type} {input : String} {first : UInt32} {p q : Position} {c : Cursor}
  {s s' : Scanner K μ}

/-- The position stands between two characters of the input, and its line is the one that this place
has. -/
def Position.Located (input : String) (first : UInt32) (p : Position) : Prop :=
  ∃ front rest, input = front ++ rest ∧ p.offset = front.utf8ByteSize ∧
    p.line.toNat = min (first.toNat + front.toList.count '\n') Cursor.lastLine.toNat

namespace Position.Located

theorem offset_le (h : p.Located input first) : p.offset ≤ input.utf8ByteSize := by
  obtain ⟨front, rest, rfl, hoffset, -⟩ := h
  rw [String.utf8ByteSize_append]
  omega

theorem front_isPrefix {front front' rest rest' : String} (h : front ++ rest = front' ++ rest')
    (hle : front.utf8ByteSize ≤ front'.utf8ByteSize) : front.toList <+: front'.toList := by
  have hlists : front.toList ++ rest.toList = front'.toList ++ rest'.toList := by
    rw [← String.toList_append, h, String.toList_append]
  rcases List.append_eq_append_iff.mp hlists with ⟨a, ha, -⟩ | ⟨a, ha, -⟩
  · exact ⟨a, ha.symm⟩
  · have hsize := congrArg String.utf8Len ha
    rw [String.utf8Len_append, ← utf8ByteSize_eq_utf8Len, ← utf8ByteSize_eq_utf8Len] at hsize
    have hnil : a = [] := by
      cases a with
      | nil => rfl
      | cons ch a =>
        have hpos := ch.utf8Size_pos
        rw [String.utf8Len_cons] at hsize
        omega
    exact ⟨[], by rw [List.append_nil, ha, hnil, List.append_nil]⟩

theorem line_le (hp : p.Located input first) (hq : q.Located input first)
    (h : p.offset ≤ q.offset) : p.line ≤ q.line := by
  obtain ⟨front, rest, rfl, hoffset, hline⟩ := hp
  obtain ⟨front', rest', heq, hoffset', hline'⟩ := hq
  have hprefix := front_isPrefix heq (by omega)
  have hcount := hprefix.sublist.count_le '\n'
  rw [UInt32.le_iff_toNat_le]
  omega

theorem compare_eq (hp : p.Located input first) (hq : q.Located input first) :
    p.compare q = Ord.compare p.offset q.offset := by
  rw [Position.compare]
  cases hc : Ord.compare p.offset q.offset with
  | lt => rfl
  | gt => rfl
  | eq =>
    have hoffset : p.offset = q.offset := Nat.compare_eq_eq.mp hc
    have hline : p.line = q.line := UInt32.le_antisymm (hp.line_le hq hoffset.le)
      (hq.line_le hp hoffset.ge)
    rw [hline, Ordering.eq_then]
    exact Nat.compare_eq_eq.mpr rfl

theorem of_index {i : ℕ} (hoffset : p.offset = Text.offset input.toList i)
    (hline : p.line.toNat = Cursor.lineAfter first (input.toList.take i)) :
    p.Located input first := by
  refine ⟨String.ofList (input.toList.take i), String.ofList (input.toList.drop i),
    eq_take_append_drop input i, ?_, ?_⟩
  · rw [hoffset, String.utf8ByteSize_ofList]
    rfl
  · rw [hline, String.toList_ofList]
    rfl

end Position.Located

def Cursor.Within (input : String) (first : UInt32) (c : Cursor) : Prop :=
  ∃ z, c.Shows input first z

namespace Cursor.Within

theorem position (h : c.Within input first) : c.position.Located input first := by
  obtain ⟨z, hz⟩ := h
  exact .of_index hz.pos_eq hz.line_eq

theorem startPosition (h : c.Within input first) : c.startPosition.Located input first := by
  obtain ⟨z, hz⟩ := h
  exact .of_index hz.start_eq hz.startLine_eq

theorem perform (h : c.Within input first) (a : Cursor.Action) :
    (a.perform c).2.Within input first := by
  obtain ⟨z, hz⟩ := h
  by_cases hundo : a = .undo
  · subst hundo
    exact ⟨_, hz.undo⟩
  by_cases hmark : a = .markStart
  · subst hmark
    exact ⟨_, hz.markStart⟩
  obtain ⟨n, u, hs⟩ := hz.perform_onward hundo hmark
  exact ⟨_, hs⟩

end Cursor.Within

/-- The cursor and all cursors set aside stand in the input. -/
structure Scanner.Within (input : String) (first : UInt32) (s : Scanner K μ) : Prop where
  cursor : s.cursor.Within input first
  bookmarks : ∀ c ∈ s.bookmarks, c.Within input first

namespace Scanner.Within

theorem fresh (g : Grammar K σ μ) (input : String) (config : Config) (memory : μ) :
    (g.scanner input config memory).Within input config.firstLine where
  cursor := ⟨_, Cursor.Shows.ofInput input config.firstLine⟩
  bookmarks := by simp [Grammar.scanner]

variable [TokenKind K]

theorem perform (o : Op K μ) (s : Scanner K μ) (h : s.Within input first) :
    (o.perform s).2.Within input first := by
  have hcursors : s.Cursors (Cursor.Within input first) := ⟨h.cursor, h.bookmarks⟩
  have hnext := hcursors.perform (fun _ a hc => hc.perform a) o
  exact ⟨hnext.cursor, hnext.bookmarks⟩

end Scanner.Within

section
variable [TokenKind K] {call : Call K μ} {t : Token K} {kind : K}

theorem Call.position_of_token? (h : call.token? = some t) :
    t.position = call.scanner.cursor.startPosition := by
  obtain ⟨o, s⟩ := call
  rw [token?] at h
  split at h
  · cases h
  · cases o with
    | publish kind text => cases h; rfl
    | fail message => cases h; rfl
    | publishSpan kind =>
      obtain ⟨text, -, rfl⟩ := Option.map_eq_some_iff.mp h
      rfl
    | _ => cases h

theorem Call.slice?_of_publishSpan (hs : call.scanner.cursor.Within input first)
    (hop : call.op = .publishSpan kind) (h : call.token? = some t) :
    slice? input t.position.offset (t.position.offset + t.text.utf8ByteSize) = some t.text := by
  obtain ⟨o, s⟩ := call
  obtain ⟨z, hz⟩ := hs
  cases hop
  rw [token?] at h
  split at h
  · cases h
  · obtain ⟨text, htext, rfl⟩ := Option.map_eq_some_iff.mp h
    rw [Cursor.pendingText?, hz.input_eq, slice?_eq_some_iff] at htext
    obtain ⟨front, rest, hinput, hstart, hpos⟩ := htext
    refine slice?_eq_some_iff.mpr ⟨front, rest, hinput, hstart, ?_⟩
    rw [String.utf8ByteSize_append, ← hstart]
    rfl

end

namespace Lexer

variable [TokenKind K] {g : Grammar K σ μ} {l l' : Lexer K σ μ} {n : ℕ} {os : List (Outcome K)}

/-- A scanner that a state finds when it makes a call, or that is found between two steps. -/
def Meets (g : Grammar K σ μ) (l : Lexer K σ μ) (s : Scanner K μ) : Prop :=
  ∃ n, s = (l.after g n).scanner ∨ ∃ call ∈ l.calls g n, s = call.scanner

/-- The positions of a run: where its tokens stand, and where its cursor reads and has its pending
span. -/
inductive ComesBy (g : Grammar K σ μ) (l : Lexer K σ μ) : Position → Prop
  | token {os : List (Outcome K)} {n : ℕ} {l' : Lexer K σ μ} {t : Token K}
      (h : l.Delivers g os n l') (ht : .token t ∈ os) : ComesBy g l t.position
  | reading {s : Scanner K μ} (h : l.Meets g s) : ComesBy g l s.cursor.position
  | pending {s : Scanner K μ} (h : l.Meets g s) : ComesBy g l s.cursor.startPosition

theorem exists_call_of_delivers {t : Token K} (hq : l.scanner.queue = [])
    (h : l.Delivers g os n l') (ht : .token t ∈ os) :
    ∃ k, ∃ call ∈ l.calls g k, call.token? = some t := by
  have htokens := tokens_append_queue g (n + os.length) l
  rw [h.steps.1, hq, List.nil_append] at htokens
  have hmem : t ∈ (l.calls g (n + os.length)).filterMap Call.token? := by
    rw [← htokens]
    exact List.mem_append_left _ (List.mem_filterMap.mpr ⟨_, ht, rfl⟩)
  obtain ⟨call, hcall, hct⟩ := List.mem_filterMap.mp hmem
  exact ⟨_, call, hcall, hct⟩

section
variable (hl : l.scanner.Within input first)
include hl

theorem within_calls (n : ℕ) :
    (∀ call ∈ l.calls g n, call.scanner.Within input first) ∧
      (l.after g n).scanner.Within input first :=
  keeps (Scanner.Within input first) Scanner.Within.perform
    (fun _ _ _ _ h => ⟨h.cursor, h.bookmarks⟩) (fun _ h => ⟨h.cursor, h.bookmarks⟩) hl n

theorem Meets.within (h : l.Meets g s) : s.Within input first := by
  obtain ⟨n, rfl | ⟨call, hcall, rfl⟩⟩ := h
  · exact (within_calls hl n).2
  · exact (within_calls hl n).1 call hcall

theorem located_of_delivers {t : Token K} (hq : l.scanner.queue = [])
    (h : l.Delivers g os n l') (ht : .token t ∈ os) : t.position.Located input first := by
  obtain ⟨k, call, hcall, hct⟩ := exists_call_of_delivers hq h ht
  rw [Call.position_of_token? hct]
  exact ((within_calls hl k).1 call hcall).cursor.startPosition

theorem ComesBy.located (hq : l.scanner.queue = []) (h : l.ComesBy g p) :
    p.Located input first := by
  cases h with
  | token h ht => exact located_of_delivers hl hq h ht
  | reading h => exact (h.within hl).cursor.position
  | pending h => exact (h.within hl).cursor.startPosition

end

/-- What is delivered stands between two characters of the input, on the line that counts the line
ends before it; a token published as it stands has the text that the input has there. Of all
positions that a run comes by, the order is that of their offsets, and a greater offset is on no
earlier line. -/
structure Located (g : Grammar K σ μ) (input : String) (first : UInt32)
    (l : Lexer K σ μ) : Prop where
  located : ∀ os n l', l.Delivers g os n l' → ∀ t, .token t ∈ os → t.position.Located input first
  offset_le : ∀ os n l', l.Delivers g os n l' → ∀ t, .token t ∈ os →
    t.position.offset ≤ input.utf8ByteSize
  published : ∀ os n l', l.Delivers g os n l' → ∀ t, .token t ∈ os →
    ∃ k, ∃ call ∈ l.calls g k, call.token? = some t
  slice?_eq : ∀ n, ∀ call ∈ l.calls g n, ∀ kind t, call.op = .publishSpan kind →
    call.token? = some t →
    slice? input t.position.offset (t.position.offset + t.text.utf8ByteSize) = some t.text
  compare_eq : ∀ p q, l.ComesBy g p → l.ComesBy g q → p.compare q = compare p.offset q.offset
  line_le : ∀ p q, l.ComesBy g p → l.ComesBy g q → p.offset < q.offset → p.line ≤ q.line

theorem ofInput_located (g : Grammar K σ μ) (input : String) (config : Config)
    (memory : μ) : (Lexer.ofInput g input config memory).Located g input config.firstLine := by
  have hl := Scanner.Within.fresh g input config memory
  exact
    { located := fun _ _ _ hdelivers _ ht => located_of_delivers hl rfl hdelivers ht
      offset_le := fun _ _ _ hdelivers _ ht => (located_of_delivers hl rfl hdelivers ht).offset_le
      published := fun _ _ _ hdelivers _ ht => exists_call_of_delivers rfl hdelivers ht
      slice?_eq := fun n call hcall _ _ hop ht =>
        Call.slice?_of_publishSpan ((within_calls hl n).1 call hcall).cursor hop ht
      compare_eq := fun _ _ hp hq => (hp.located hl rfl).compare_eq (hq.located hl rfl)
      line_le := fun _ _ hp hq hlt => (hp.located hl rfl).line_le (hq.located hl rfl) hlt.le }

theorem ofInput_located_sum :
    let g := Arithmetic.grammar
    let l := Lexer.ofInput g "é\n+b" {} ()
    let plus : Token Arithmetic.Kind := ⟨.punct, ⟨3, 2⟩, "+"⟩
    (∃ os n l', l.Delivers g os n l' ∧ .token plus ∈ os) ∧
      plus.position.Located "é\n+b" 1 ∧
      slice? "é\n+b" 3 (3 + plus.text.utf8ByteSize) = some plus.text ∧
      plus.position.compare (l.after g 9).scanner.cursor.position = compare 3 5 ∧
      plus.position.line ≤ (l.after g 9).scanner.cursor.position.line := by
  intro g l plus
  have hlocated := ofInput_located g "é\n+b" {} ()
  have hout : .token plus ∈ l.outcomes g 7 := by decide +kernel
  have hend : (l.after g 9).scanner.cursor.position.offset = 5 := by decide +kernel
  obtain ⟨n, k, l', hdelivers, -, -⟩ := delivers_outcomes g 7 l
  obtain ⟨call, hcall, hop, htoken⟩ :
      ∃ call ∈ l.calls g 6, call.op = .publishSpan .punct ∧ call.token? = some plus := by
    decide +kernel
  have hplus : l.ComesBy g plus.position := .token hdelivers hout
  have hlast : l.ComesBy g (l.after g 9).scanner.cursor.position := .reading ⟨9, .inl rfl⟩
  have hcompare := hlocated.compare_eq _ _ hplus hlast
  have hline := hlocated.line_le _ _ hplus hlast
  rw [hend] at hcompare hline
  exact ⟨⟨_, n, l', hdelivers, hout⟩, hlocated.located _ n l' hdelivers plus hout,
    hlocated.slice?_eq 6 call hcall .punct plus hop htoken, hcompare, hline (by decide)⟩

end Lexer

end StateLexer
