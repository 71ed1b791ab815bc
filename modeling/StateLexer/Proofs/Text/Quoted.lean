import Mathlib.Data.Nat.Notation
import Mathlib.Tactic.SplitIfs
import StateLexer.Diagnostic

/-! # Quoted text can be read back

Between quotes a character stands for itself, or a backslash announces a short escape or a code
point in braces. Which characters are written by their code point depends on the tables of Unicode.
A reader does without them, since each form begins in its own way and shows where it ends. So a
quoted text is told by its written form, and a diagnostic by its message, whatever the tables say.
-/

namespace StateLexer

namespace Text

/-- One character between quotes `q`, if the characters of `hidden` are written by their code
point. -/
def escapeHiding (hidden : Char → Bool) (q c : Char) : List Char :=
  if c = '\x00' then ['\\', '0']
  else if c = '\t' then ['\\', 't']
  else if c = '\r' then ['\\', 'r']
  else if c = '\n' then ['\\', 'n']
  else if c = '\\' ∨ c = q then ['\\', c]
  else if hidden c then ['\\', 'u', '\x7b'] ++ Nat.toDigits 16 c.toNat ++ ['\x7d']
  else [c]

def quoteHiding (hidden : Char → Bool) (q : Char) (cs : List Char) : List Char :=
  q :: (cs.flatMap (escapeHiding hidden q) ++ [q])

def digitValue (ch : Char) : ℕ := if ch.isDigit then ch.toNat - 48 else ch.toNat - 87

def hexValue (digits : List Char) : ℕ := digits.foldl (fun n ch => 16 * n + digitValue ch) 0

def shortened (letter : Char) : Char :=
  if letter = '0' then '\x00'
  else if letter = 't' then '\t'
  else if letter = 'r' then '\r'
  else if letter = 'n' then '\n'
  else letter

/-- The character that comes first, and what stands behind its written form. -/
def unescape? : List Char → Option (Char × List Char)
  | [] => none
  | '\\' :: 'u' :: cs =>
    let digits := cs.tail.takeWhile (· != '\x7d')
    some (Char.ofNat (hexValue digits), cs.drop (digits.length + 2))
  | '\\' :: letter :: cs => some (shortened letter, cs)
  | ch :: cs => some (ch, cs)

variable {hidden hidden' : Char → Bool} {q c ch : Char} {cs ds rest rest' : List Char} {n : ℕ}

theorem digitValue_digitChar (h : n < 16) : digitValue n.digitChar = n := by
  have hall : ∀ n < 16, digitValue (Nat.digitChar n) = n := by decide
  exact hall n h

theorem hexValue_toDigits (n : ℕ) : hexValue (Nat.toDigits 16 n) = n := by
  induction n using Nat.strongRecOn with
  | ind n ih =>
    rw [Nat.toDigits_eq_if (by decide)]
    split
    · rename_i hlt
      simp [hexValue, digitValue_digitChar hlt]
    · have hfront := ih (n / 16) (by omega)
      have hlast := digitValue_digitChar (Nat.mod_lt n (by decide : 0 < 16))
      unfold hexValue at hfront ⊢
      rw [List.foldl_append, hfront, List.foldl_cons, List.foldl_nil, hlast]
      omega

theorem ne_of_mem_toDigits (h : ch ∈ Nat.toDigits 16 n) : ch ≠ '\x7d' := by
  induction n using Nat.strongRecOn with
  | ind n ih =>
    rw [Nat.toDigits_eq_if (by decide)] at h
    split at h
    · rw [List.mem_singleton.mp h]
      exact Nat.digitChar_ne _ (by decide)
    · rcases List.mem_append.mp h with hfront | hlast
      · exact ih (n / 16) (by omega) hfront
      · rw [List.mem_singleton.mp hlast]
        exact Nat.digitChar_ne _ (by decide)

theorem unescape?_code (c : Char) (rest : List Char) :
    unescape? (['\\', 'u', '\x7b'] ++ Nat.toDigits 16 c.toNat ++ ['\x7d'] ++ rest) =
      some (c, rest) := by
  have hdigits : (Nat.toDigits 16 c.toNat ++ '\x7d' :: rest).takeWhile (· != '\x7d') =
      Nat.toDigits 16 c.toNat := by
    rw [List.takeWhile_append_of_pos fun ch hch => by simpa using ne_of_mem_toDigits hch]
    simp
  simp [unescape?, hdigits, hexValue_toDigits, Char.ofNat_toNat]

theorem unescape?_of_ne (h : c ≠ '\\') (rest : List Char) :
    unescape? (c :: rest) = some (c, rest) := by
  unfold unescape?
  split <;> simp_all

section
variable (hq : q = '\x22' ∨ q = '\x27')
include hq

/-- What is written for a character is read back, whatever stands behind it. -/
theorem unescape?_escapeHiding (c : Char) (rest : List Char) :
    unescape? (escapeHiding hidden q c ++ rest) = some (c, rest) := by
  unfold escapeHiding
  split_ifs with hnull htab hreturn hline hself hhidden
  · rw [hnull]; rfl
  · rw [htab]; rfl
  · rw [hreturn]; rfl
  · rw [hline]; rfl
  · rcases hself with rfl | rfl
    · rfl
    · rcases hq with rfl | rfl <;> rfl
  · exact unescape?_code c rest
  · exact unescape?_of_ne (fun h => hself (.inl h)) rest

theorem escapeHiding_append_ne : escapeHiding hidden q c ++ cs ≠ q :: rest := by
  have hne : '\\' ≠ q := by rcases hq with rfl | rfl <;> decide
  unfold escapeHiding
  split_ifs <;> simp_all

/-- A quoted text is told by its written form, and ends where it is closed. -/
theorem quoted_inj (h : cs.flatMap (escapeHiding hidden q) ++ q :: rest =
      ds.flatMap (escapeHiding hidden' q) ++ q :: rest') : cs = ds ∧ rest = rest' := by
  induction cs generalizing ds with
  | nil =>
    cases ds with
    | nil => exact ⟨rfl, (List.cons.inj h).2⟩
    | cons d ds =>
      rw [List.flatMap_cons, List.append_assoc] at h
      exact absurd h.symm (escapeHiding_append_ne hq)
  | cons c cs ih =>
    cases ds with
    | nil =>
      rw [List.flatMap_cons, List.append_assoc] at h
      exact absurd h (escapeHiding_append_ne hq)
    | cons d ds =>
      rw [List.flatMap_cons, List.flatMap_cons, List.append_assoc, List.append_assoc] at h
      have hread := congrArg unescape? h
      rw [unescape?_escapeHiding hq, unescape?_escapeHiding hq, Option.some.injEq,
        Prod.mk.injEq] at hread
      obtain ⟨rfl, hbehind⟩ := hread
      obtain ⟨rfl, hrest⟩ := ih hbehind
      exact ⟨rfl, hrest⟩

theorem quoteHiding_inj (h : quoteHiding hidden q cs = quoteHiding hidden' q ds) : cs = ds :=
  (quoted_inj hq (List.cons.inj h).2).1

end

end Text

namespace Diagnostic
open Text

/-- The message, if the characters of `hidden` are written by their code point. -/
def messageHiding (hidden : Char → Bool) : Diagnostic → String
  | badNumber text => "bad number syntax: " ++ String.ofList (quoteHiding hidden '\x22' text.toList)
  | unexpectedChar ch => "unexpected character " ++ String.ofList (quoteHiding hidden '\x27' [ch])
  | unexpectedEnd context => "unexpected end of input in " ++ context

variable {hidden hidden' : Char → Bool} {d e : Diagnostic}

theorem message_eq (d : Diagnostic) : d.message = d.messageHiding isUnprintable := by
  cases d <;> rfl

/-- The character of a message at which its wording parts from the others. -/
def mark : Diagnostic → Char
  | badNumber _ => 's'
  | unexpectedChar _ => 'c'
  | unexpectedEnd _ => 'e'

theorem getElem?_of_front {front back : String} {i : ℕ} {ch : Char}
    (h : front.toList[i]? = some ch) : (front ++ back).toList[i]? = some ch := by
  obtain ⟨hi, -⟩ := List.getElem?_eq_some_iff.mp h
  rw [String.toList_append, List.getElem?_append_left hi, h]

theorem getElem?_messageHiding (hidden : Char → Bool) (d : Diagnostic) :
    (d.messageHiding hidden).toList[11]? = some d.mark := by
  cases d <;> exact getElem?_of_front rfl

/-- A diagnostic is told by its message, even if two messages are written by different tables. -/
theorem messageHiding_inj (h : d.messageHiding hidden = e.messageHiding hidden') : d = e := by
  have hmark : d.mark = e.mark := by
    have hmessage := congrArg (fun s : String => s.toList[11]?) h
    simpa only [getElem?_messageHiding, Option.some.injEq] using hmessage
  cases d with
  | badNumber text =>
    cases e with
    | badNumber text' =>
      have hquote := String.ofList_inj.mp ((String.append_right_inj _).mp h)
      rw [String.toList_inj.mp (quoteHiding_inj (.inl rfl) hquote)]
    | _ => simp [mark] at hmark
  | unexpectedChar ch =>
    cases e with
    | unexpectedChar ch' =>
      have hquote := String.ofList_inj.mp ((String.append_right_inj _).mp h)
      rw [List.singleton_inj.mp (quoteHiding_inj (.inr rfl) hquote)]
    | _ => simp [mark] at hmark
  | unexpectedEnd context =>
    cases e with
    | unexpectedEnd context' => rw [(String.append_right_inj _).mp h]
    | _ => simp [mark] at hmark

/-- Two diagnostics have the same message exactly if they are the same, whichever characters are
written by their code point. -/
theorem message_eq_iff (d e : Diagnostic) :
    (d.message = e.message ↔ d = e) ∧
      ∀ hidden, d.messageHiding hidden = e.messageHiding hidden ↔ d = e := by
  have hany : ∀ hidden, d.messageHiding hidden = e.messageHiding hidden ↔ d = e := by
    intro hidden
    constructor
    · exact messageHiding_inj
    · rintro rfl
      rfl
  refine ⟨?_, hany⟩
  rw [message_eq, message_eq]
  exact hany isUnprintable

end Diagnostic

end StateLexer
