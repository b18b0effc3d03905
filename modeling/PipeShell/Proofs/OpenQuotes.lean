import PipeShell.Proofs.TokenSeams

/-!
# Quotes that are left open

Behind a complete part of a line a quote opens a span, and the span lasts until the same quote comes
again. Main statement: a line is refused exactly when that quote never comes, and it is named with its
offset; no line has two such quotes, and a line that has none has its tokens.
-/
namespace PipeShell.Token

variable {scan : Scan} {line : String} {quote c : Char} {opened offset : Nat} {text : String}

/-- The character of the line at this offset is a quote behind a complete part of the line, and it does
not come again. -/
def LeftOpen (line : String) (quote : Char) (offset : Nat) : Prop :=
  ∃ before after : String, line = before ++ quote.toString ++ after ∧
    before.utf8ByteSize = offset ∧ (quote = '"' ∨ quote = '\'') ∧
    (∃ tokens, ofLine before = .ok tokens) ∧ quote ∉ after.toList

/-! ### Into a span -/

theorem finish_eq_error_iff :
    scan.finish = .error ⟨quote, opened⟩ ↔ ∃ text, scan.mode = .quoted quote opened text := by
  obtain ⟨tokens, mode, offset⟩ := scan
  cases mode <;> simp [Scan.finish]

theorem step_quote_of_finish {before : List Token} (h : scan.finish = .ok before)
    (hq : isQuote quote = true) : ∃ text, (scan.step quote).mode = .quoted quote scan.offset text := by
  have hb := isBlank_of_isQuote hq
  have hp := ne_pipe_of_isQuote hq
  obtain ⟨tokens, mode, offset⟩ := scan
  cases mode with
  | between => exact ⟨"", by simp [Scan.step, Scan.extend, hb, hp, hq]⟩
  | word text => exact ⟨text, by simp [Scan.step, Scan.extend, hb, hp, hq]⟩
  | quoted other opened text => cases h

theorem foldl_step_quoted {cs : List Char} (h : scan.mode = .quoted quote opened text)
    (hn : quote ∉ cs) : ∃ longer, (cs.foldl Scan.step scan).mode = .quoted quote opened longer := by
  induction cs generalizing scan text with
  | nil => exact ⟨text, h⟩
  | cons c cs ih =>
    have hc : c ≠ quote := fun he => hn (he ▸ List.mem_cons_self)
    have hstep : (scan.step c).mode = .quoted quote opened (text.push c) := by
      simp [Scan.step, h, hc]
    exact ih hstep fun hm => hn (List.mem_cons_of_mem _ hm)

theorem ofLine_of_leftOpen (h : LeftOpen line quote offset) :
    ofLine line = .error ⟨quote, offset⟩ := by
  obtain ⟨before, after, rfl, rfl, hq, ⟨tokens, ht⟩, hn⟩ := h
  obtain ⟨text, hopen⟩ := step_quote_of_finish ht (isQuote_iff.mpr hq)
  rw [offset_of_line] at hopen
  rw [ofLine, String.toList_append, String.toList_append, Char.toString_eq_singleton,
    String.toList_singleton, List.foldl_append, List.foldl_append]
  exact finish_eq_error_iff.mpr (foldl_step_quoted hopen hn)

/-! ### Back to its quote -/

/-- A scan is in a span because it was there before, or because its quote has just been read. -/
theorem quoted_of_step (h : (scan.step c).mode = .quoted quote opened text) :
    (c ≠ quote ∧ ∃ shorter, scan.mode = .quoted quote opened shorter) ∨
    (c = quote ∧ isQuote quote = true ∧ scan.offset = opened ∧
      ∃ tokens, scan.finish = .ok tokens) := by
  obtain ⟨tokens, mode, offset⟩ := scan
  cases mode with
  | between =>
    refine .inr ?_
    simp only [Scan.step, Scan.extend] at h
    split_ifs at h with hb hp hq
    obtain ⟨rfl, rfl, -⟩ := Mode.quoted.inj h
    exact ⟨rfl, hq, rfl, _, rfl⟩
  | word word =>
    refine .inr ?_
    simp only [Scan.step, Scan.extend] at h
    split_ifs at h with hb hp hq
    obtain ⟨rfl, rfl, -⟩ := Mode.quoted.inj h
    exact ⟨rfl, hq, rfl, _, rfl⟩
  | quoted other start shorter =>
    refine .inl ?_
    simp only [Scan.step] at h
    split_ifs at h with hc
    obtain ⟨rfl, rfl, -⟩ := Mode.quoted.inj h
    exact ⟨hc, shorter, rfl⟩

/-- The span that a scan is in was opened behind a complete part of what was read. -/
theorem opened_of_quoted {cs : List Char}
    (h : (cs.foldl Scan.step {}).mode = .quoted quote opened text) :
    ∃ before after, cs = before ++ quote :: after ∧ String.utf8Len before = opened ∧
      isQuote quote = true ∧ (∃ tokens, (before.foldl Scan.step {}).finish = .ok tokens) ∧
      quote ∉ after := by
  induction cs using List.reverseRecOn generalizing text with
  | nil => cases h
  | append_singleton cs c ih =>
    rw [List.foldl_append, List.foldl_cons, List.foldl_nil] at h
    rcases quoted_of_step h with ⟨hc, shorter, hm⟩ | ⟨rfl, hq, ho, ht⟩
    · obtain ⟨before, after, rfl, hl, hq, ht, hn⟩ := ih hm
      refine ⟨before, after ++ [c], by simp, hl, hq, ht, fun hmem => ?_⟩
      rcases List.mem_append.mp hmem with hin | hlast
      · exact hn hin
      · exact hc (List.mem_singleton.mp hlast).symm
    · have hl : String.utf8Len cs = opened := by
        rw [← ho, foldl_step_offset, Nat.zero_add]
      exact ⟨cs, [], rfl, hl, hq, ht, List.not_mem_nil⟩

theorem leftOpen_of_ofLine (h : ofLine line = .error ⟨quote, offset⟩) :
    LeftOpen line quote offset := by
  obtain ⟨text, hm⟩ := finish_eq_error_iff.mp h
  obtain ⟨before, after, hline, hl, hq, ⟨tokens, ht⟩, hn⟩ := opened_of_quoted hm
  have hcs : line = String.ofList before ++ quote.toString ++ String.ofList after := by
    rw [← String.toList_inj, hline, Char.toString_eq_singleton]
    simp
  have hbytes : (String.ofList before).utf8ByteSize = offset := by
    rw [String.utf8ByteSize_ofList, hl]
  have hbefore : ofLine (String.ofList before) = .ok tokens := by
    rw [ofLine, String.toList_ofList, ht]
  exact ⟨_, _, hcs, hbytes, isQuote_iff.mp hq, ⟨tokens, hbefore⟩, by simpa using hn⟩

/-- A line is refused for the one quote that it leaves open, at the offset of that quote, and for
nothing else. -/
theorem ofLine_eq_error_iff (line : String) :
    (∀ quote offset, ofLine line = .error ⟨quote, offset⟩ ↔ LeftOpen line quote offset) ∧
    {found : Char × Nat | LeftOpen line found.1 found.2}.Subsingleton ∧
    ((∃ tokens, ofLine line = .ok tokens) ↔ ∀ quote offset, ¬ LeftOpen line quote offset) := by
  have hiff (quote : Char) (offset : Nat) :
      ofLine line = .error ⟨quote, offset⟩ ↔ LeftOpen line quote offset :=
    ⟨leftOpen_of_ofLine, ofLine_of_leftOpen⟩
  refine ⟨hiff, ?_, ?_⟩
  · rintro ⟨quote, offset⟩ h ⟨quote', offset'⟩ h'
    have he := (ofLine_of_leftOpen h).symm.trans (ofLine_of_leftOpen h')
    obtain ⟨rfl, rfl⟩ := UnterminatedQuote.mk.inj (Except.error.inj he)
    rfl
  · cases hl : ofLine line with
    | ok tokens => simpa [hl] using hiff
    | error found =>
      have hopen := (hiff found.quote found.offset).mp hl
      refine ⟨fun h => ?_, fun hnone => absurd hopen (hnone _ _)⟩
      obtain ⟨_, ht⟩ := h
      cases ht

example : ofLine "a\"it's\" 'b" = .error ⟨'\'', 8⟩ := rfl

end PipeShell.Token
