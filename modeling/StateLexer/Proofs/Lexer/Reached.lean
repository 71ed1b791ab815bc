import StateLexer.Proofs.Lexer.Location

/-! # The scanners of a run

A scanner starts fresh. Then states make requests of it, the lexer takes tokens from its queue, and
in the end the stream is closed. What holds of a fresh scanner and is kept by these three holds of
every scanner that a run of whatever states can lead to.
-/

namespace StateLexer

variable {K σ μ : Type} [TokenKind K] {g : Grammar K σ μ} {input : String} {config : Config}
  {memory : μ} {s : Scanner K μ}

/-- The scanners that requests, deliveries and closings lead to, in any order. -/
inductive Scanner.Reached (g : Grammar K σ μ) (input : String) (config : Config) (memory : μ) :
    Scanner K μ → Prop
  | fresh : Reached g input config memory (g.scanner input config memory)
  | request {s : Scanner K μ} (h : Reached g input config memory s) (o : Op K μ) :
      Reached g input config memory (o.perform s).2
  | deliver {s : Scanner K μ} {t : Token K} {rest : List (Token K)}
      (h : Reached g input config memory s) (hq : s.queue = t :: rest) :
      Reached g input config memory { s with queue := rest }
  | close {s : Scanner K μ} (h : Reached g input config memory s) :
      Reached g input config memory (s.note (.closed s.cursor.pos s.halted))

namespace Scanner.Reached

theorem within (h : s.Reached g input config memory) : s.Within input config.firstLine := by
  induction h with
  | fresh => exact .fresh g input config memory
  | request _ o ih => exact .perform o _ ih
  | deliver _ _ ih => exact ⟨ih.cursor, ih.bookmarks⟩
  | close _ ih => exact ⟨ih.cursor, ih.bookmarks⟩

end Scanner.Reached

theorem Lexer.Meets.reached (h : (Lexer.ofInput g input config memory).Meets g s) :
    s.Reached g input config memory := by
  have hkeeps := Lexer.keeps (g := g) (l := Lexer.ofInput g input config memory)
    (Scanner.Reached g input config memory) (fun o _ h => h.request o)
    (fun _ _ _ hq h => h.deliver hq) (fun _ h => h.close) .fresh
  obtain ⟨n, rfl | ⟨call, hcall, rfl⟩⟩ := h
  · exact (hkeeps n).2
  · exact (hkeeps n).1 call hcall

end StateLexer
