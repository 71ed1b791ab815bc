import StateLexer.Grammar
import StateLexer.Proofs.Cursor.Reading

/-! # Spans tile the input

A ledger says what became of the input, stretch by stretch: skipped, published as it stands, or
published under another text. The scanner keeps no ledger; it is read off a run, one entry for each
operation that closes the pending span. The main statement says that as long as no operation goes
behind the start of the pending span, the stretches of the ledger and the pending text make up the
input so far without gap or overlap, and the queue holds what the ledger accounts for.
-/

namespace StateLexer
open Text

/-- What became of a stretch of the input, or a failure, which closes none. -/
inductive Entry (K : Type) where
  | skipped (span : String)
  | published (kind : K) (span : String)
  | replaced (kind : K) (span text : String)
  | failed (message : String)
  deriving DecidableEq, Repr

namespace Entry

variable {K : Type}

def span : Entry K → String
  | skipped span | published _ span | replaced _ span _ => span
  | failed _ => ""

def isFailure : Entry K → Bool
  | failed _ => true
  | _ => false

def isPublished : Entry K → Bool
  | published _ _ => true
  | _ => false

def covered (entries : List (Entry K)) : String := String.join (entries.map span)

@[simp] theorem covered_nil : covered ([] : List (Entry K)) = "" := rfl

@[simp] theorem covered_cons (e : Entry K) (entries : List (Entry K)) :
    covered (e :: entries) = e.span ++ covered entries := by
  simp [covered]

@[simp] theorem covered_append (entries more : List (Entry K)) :
    covered (entries ++ more) = covered entries ++ covered more := by
  simp [covered]

end Entry

/-- The place with the text `before` in front of it. -/
def Position.behind (first : UInt32) (before : String) : Position :=
  ⟨before.utf8ByteSize, UInt32.ofNat (Cursor.lineAfter first before.toList)⟩

theorem Cursor.Shows.startPosition_eq {input : String} {first : UInt32} {z : Zipper} {c : Cursor}
    (h : c.Shows input first z) :
    c.startPosition = .behind first (String.ofList (input.toList.take z.start)) := by
  have hline : c.startLine = UInt32.ofNat c.startLine.toNat := (UInt32.ofNat_toNat).symm
  rw [startPosition, Position.behind, h.start_eq, hline, h.startLine_eq, String.utf8ByteSize_ofList,
    String.toList_ofList]
  rfl

theorem Cursor.Shows.position_eq {input : String} {first : UInt32} {z : Zipper} {c : Cursor}
    (h : c.Shows input first z) :
    c.position = .behind first (String.ofList (input.toList.take z.index)) := by
  have hline : c.line = UInt32.ofNat c.line.toNat := (UInt32.ofNat_toNat).symm
  rw [position, Position.behind, h.pos_eq, hline, h.line_eq, String.utf8ByteSize_ofList,
    String.toList_ofList]
  rfl

/-- A token and the stretch of the input that it was published for. -/
structure Account (K : Type) where
  token : Token K
  span : String
  deriving DecidableEq, Repr

namespace Account

variable {K : Type} [TokenKind K] {first : UInt32}

/-- The tokens that a ledger accounts for, if its first stretch stands behind the text `before`.
Nothing is published after a failure. -/
def ofEntries (first : UInt32) : (before : String) → List (Entry K) → List (Account K)
  | _, [] => []
  | before, .skipped span :: rest => ofEntries first (before ++ span) rest
  | before, .published kind span :: rest =>
    ⟨⟨kind, .behind first before, span⟩, span⟩ :: ofEntries first (before ++ span) rest
  | before, .replaced kind span text :: rest =>
    ⟨⟨kind, .behind first before, text⟩, span⟩ :: ofEntries first (before ++ span) rest
  | before, .failed message :: _ => [⟨⟨TokenKind.error, .behind first before, message⟩, ""⟩]

theorem ofEntries_append (before : String) (entries more : List (Entry K)) :
    ofEntries first before (entries ++ more) =
      ofEntries first before entries ++
        if entries.any Entry.isFailure then []
        else ofEntries first (before ++ Entry.covered entries) more := by
  induction entries generalizing before with
  | nil => simp [ofEntries]
  | cons e rest ih =>
    cases e <;> simp [ofEntries, ih, Entry.isFailure, Entry.span, String.append_assoc]

theorem le_offset_of_mem {before : String} {entries : List (Entry K)} {a : Account K}
    (h : a ∈ ofEntries first before entries) :
    before.utf8ByteSize ≤ a.token.position.offset := by
  induction entries generalizing before with
  | nil => simp [ofEntries] at h
  | cons e rest ih =>
    have hrest : ∀ span : String, a ∈ ofEntries first (before ++ span) rest →
        before.utf8ByteSize ≤ a.token.position.offset := by
      intro span ha
      have := ih ha
      rw [String.utf8ByteSize_append] at this
      omega
    cases e with
    | skipped span => exact hrest span h
    | published kind span =>
      rcases List.mem_cons.mp h with rfl | ha
      · exact le_rfl
      · exact hrest span ha
    | replaced kind span text =>
      rcases List.mem_cons.mp h with rfl | ha
      · exact le_rfl
      · exact hrest span ha
    | failed message =>
      obtain rfl := List.mem_singleton.mp h
      exact le_rfl

def Precedes (a b : Account K) : Prop :=
  a.token.position.offset + a.span.utf8ByteSize ≤ b.token.position.offset

theorem pairwise_precedes (before : String) (entries : List (Entry K)) :
    (ofEntries first before entries).Pairwise Precedes := by
  induction entries generalizing before with
  | nil => exact List.Pairwise.nil
  | cons e rest ih =>
    have hhead : ∀ (kind : K) (text span : String),
        ∀ b ∈ ofEntries first (before ++ span) rest,
          Precedes ⟨⟨kind, .behind first before, text⟩, span⟩ b := by
      intro kind text span b hb
      have hle := le_offset_of_mem hb
      rwa [String.utf8ByteSize_append] at hle
    cases e with
    | skipped span => exact ih _
    | published kind span => exact List.Pairwise.cons (hhead kind span span) (ih _)
    | replaced kind span text => exact List.Pairwise.cons (hhead kind text span) (ih _)
    | failed message => exact List.pairwise_singleton _ _

theorem join_texts (before : String) (entries : List (Entry K))
    (h : ∀ e ∈ entries, e.isPublished = true) :
    String.join ((ofEntries first before entries).map (·.token.text)) = Entry.covered entries := by
  induction entries generalizing before with
  | nil => rfl
  | cons e rest ih =>
    have hrest := fun b => ih b (fun e he => h e (List.mem_cons_of_mem _ he))
    cases e with
    | published kind span => simp [ofEntries, Entry.span, hrest]
    | skipped _ | replaced _ _ _ | failed _ =>
      simp [Entry.isPublished] at h

end Account

end StateLexer
