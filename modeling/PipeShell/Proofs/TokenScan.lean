import Mathlib
import PipeShell.Token

/-!
# The scan of a line, character by character

`scanFrom` is the scan of the rest of a line in any of its modes. Each mode has its own equations,
one for each kind of character, so that later proofs never open a step of the scan. Tokens that were
finished before do not matter to what follows.
-/
namespace PipeShell.Token

/-- A character that stands for itself outside quotes. -/
def isPlain (c : Char) : Bool := !Text.isBlank c && c ≠ '|' && !isQuote c

theorem isQuote_iff {c : Char} : isQuote c = true ↔ c = '"' ∨ c = '\'' := by
  simp [isQuote]

theorem isBlank_of_isQuote {c : Char} (h : isQuote c = true) : Text.isBlank c = false := by
  rcases isQuote_iff.mp h with rfl | rfl <;> rfl

theorem ne_pipe_of_isQuote {c : Char} (h : isQuote c = true) : c ≠ '|' := by
  rcases isQuote_iff.mp h with rfl | rfl <;> decide

theorem isPlain_iff {c : Char} :
    isPlain c = true ↔ Text.isBlank c = false ∧ c ≠ '|' ∧ isQuote c = false := by
  simp [isPlain, and_assoc]

def Scan.after (before : List Token) (scan : Scan) : Scan :=
  { scan with tokens := before.toArray ++ scan.tokens }

theorem step_after (before : List Token) (scan : Scan) (c : Char) :
    (scan.after before).step c = (scan.step c).after before := by
  obtain ⟨tokens, mode, offset⟩ := scan
  cases mode with
  | between =>
    simp only [Scan.after, Scan.step, Scan.extend]
    split_ifs <;> simp
  | word text =>
    simp only [Scan.after, Scan.step, Scan.extend]
    split_ifs <;> simp
  | quoted quote opened text =>
    simp only [Scan.after, Scan.step]
    split_ifs <;> simp

theorem foldl_step_after (before : List Token) (scan : Scan) (cs : List Char) :
    cs.foldl Scan.step (scan.after before) = (cs.foldl Scan.step scan).after before := by
  induction cs generalizing scan with
  | nil => rfl
  | cons c cs ih => rw [List.foldl_cons, step_after, ih, List.foldl_cons]

theorem finish_after (before : List Token) (scan : Scan) :
    (scan.after before).finish = scan.finish.map (before ++ ·) := by
  obtain ⟨tokens, mode, offset⟩ := scan
  cases mode <;> simp [Scan.after, Scan.finish, Except.map]

/-- The tokens of the rest of a line, in this mode and at this offset. -/
def scanFrom (mode : Mode) (offset : Nat) (cs : List Char) :
    Except UnterminatedQuote (List Token) :=
  (cs.foldl Scan.step ⟨#[], mode, offset⟩).finish

theorem ofLine_eq_scanFrom (line : String) : ofLine line = scanFrom .between 0 line.toList := rfl

theorem foldl_step_finish (before : List Token) (mode : Mode) (offset : Nat) (cs : List Char) :
    (cs.foldl Scan.step ⟨before.toArray, mode, offset⟩).finish =
      (scanFrom mode offset cs).map (before ++ ·) := by
  have h : (⟨before.toArray, mode, offset⟩ : Scan) = Scan.after before ⟨#[], mode, offset⟩ := by
    simp [Scan.after]
  rw [h, foldl_step_after, finish_after, scanFrom]

theorem scanFrom_between_nil (offset : Nat) : scanFrom .between offset [] = .ok [] := rfl

theorem scanFrom_word_nil (text : String) (offset : Nat) :
    scanFrom (.word text) offset [] = .ok [.word text] := rfl

theorem scanFrom_quoted_nil (quote : Char) (opened : Nat) (text : String) (offset : Nat) :
    scanFrom (.quoted quote opened text) offset [] = .error ⟨quote, opened⟩ := rfl

theorem scanFrom_between_blank {c : Char} (h : Text.isBlank c = true) (offset : Nat)
    (cs : List Char) :
    scanFrom .between offset (c :: cs) = scanFrom .between (offset + c.utf8Size) cs := by
  simp [scanFrom, Scan.step, h]

theorem scanFrom_between_pipe (offset : Nat) (cs : List Char) :
    scanFrom .between offset ('|' :: cs) =
      (scanFrom .between (offset + 1) cs).map (.pipe :: ·) := by
  have h : Text.isBlank '|' = false := rfl
  have hs : Char.utf8Size '|' = 1 := rfl
  rw [scanFrom, List.foldl_cons]
  simpa [Scan.step, h, hs] using foldl_step_finish [.pipe] .between (offset + 1) cs

/-- Any other character begins a word as it would go on with an empty one. -/
theorem scanFrom_between_word {c : Char} (hb : Text.isBlank c = false) (hp : c ≠ '|')
    (offset : Nat) (cs : List Char) :
    scanFrom .between offset (c :: cs) = scanFrom (.word "") offset (c :: cs) := by
  simp [scanFrom, Scan.step, hb, hp, Scan.extend]

theorem scanFrom_word_blank {c : Char} (h : Text.isBlank c = true) (text : String) (offset : Nat)
    (cs : List Char) :
    scanFrom (.word text) offset (c :: cs) =
      (scanFrom .between offset (c :: cs)).map (.word text :: ·) := by
  rw [scanFrom_between_blank h, scanFrom, List.foldl_cons]
  simpa [Scan.step, h] using foldl_step_finish [.word text] .between (offset + c.utf8Size) cs

theorem scanFrom_word_pipe (text : String) (offset : Nat) (cs : List Char) :
    scanFrom (.word text) offset ('|' :: cs) =
      (scanFrom .between offset ('|' :: cs)).map (.word text :: ·) := by
  have h : Text.isBlank '|' = false := rfl
  have hs : Char.utf8Size '|' = 1 := rfl
  have hstep : scanFrom (.word text) offset ('|' :: cs) =
      (scanFrom .between (offset + 1) cs).map ([.word text, .pipe] ++ ·) := by
    rw [scanFrom, List.foldl_cons]
    simpa [Scan.step, h, hs] using foldl_step_finish [.word text, .pipe] .between (offset + 1) cs
  rw [hstep, scanFrom_between_pipe]
  cases scanFrom .between (offset + 1) cs <;> rfl

theorem scanFrom_word_plain {c : Char} (h : isPlain c = true) (text : String) (offset : Nat)
    (cs : List Char) :
    scanFrom (.word text) offset (c :: cs) =
      scanFrom (.word (text.push c)) (offset + c.utf8Size) cs := by
  obtain ⟨hb, hp, hq⟩ := isPlain_iff.mp h
  simp [scanFrom, Scan.step, hb, hp, Scan.extend, hq]

theorem scanFrom_word_quote {c : Char} (h : isQuote c = true) (text : String) (offset : Nat)
    (cs : List Char) :
    scanFrom (.word text) offset (c :: cs) =
      scanFrom (.quoted c offset text) (offset + c.utf8Size) cs := by
  have hb := isBlank_of_isQuote h
  have hp := ne_pipe_of_isQuote h
  simp [scanFrom, Scan.step, hb, hp, Scan.extend, h]

theorem scanFrom_quoted_close (quote : Char) (opened : Nat) (text : String) (offset : Nat)
    (cs : List Char) :
    scanFrom (.quoted quote opened text) offset (quote :: cs) =
      scanFrom (.word text) (offset + quote.utf8Size) cs := by
  simp [scanFrom, Scan.step]

theorem scanFrom_quoted_literal {quote c : Char} (h : c ≠ quote) (opened : Nat) (text : String)
    (offset : Nat) (cs : List Char) :
    scanFrom (.quoted quote opened text) offset (c :: cs) =
      scanFrom (.quoted quote opened (text.push c)) (offset + c.utf8Size) cs := by
  simp [scanFrom, Scan.step, h]

end PipeShell.Token
