import PipeShell.Proofs.TokenScan

/-!
# Where a line can be cut

Blanks and pipes outside quotes complete whatever stands before them, so what follows is read as a line
of its own that begins later in the text. Main statement: the tokens of both parts are put together, and
a quote that the second part leaves open is reported behind the bytes of the first.
-/
namespace PipeShell

def UnterminatedQuote.later (bytes : Nat) (found : UnterminatedQuote) : UnterminatedQuote :=
  ⟨found.quote, found.offset + bytes⟩

namespace Token

variable {scan : Scan} {a b w : String} {before : List Token}

/-! ### Offsets -/

theorem step_offset (scan : Scan) (c : Char) :
    (scan.step c).offset = scan.offset + c.utf8Size := rfl

theorem foldl_step_offset (scan : Scan) (cs : List Char) :
    (cs.foldl Scan.step scan).offset = scan.offset + String.utf8Len cs := by
  induction cs generalizing scan with
  | nil => simp
  | cons c cs ih =>
    rw [List.foldl_cons, ih, step_offset, String.utf8Len_cons]
    omega

theorem offset_of_line (a : String) :
    (a.toList.foldl Scan.step {}).offset = a.utf8ByteSize := by
  rw [foldl_step_offset, String.utf8Len_toList, Nat.zero_add]

def Mode.later (bytes : Nat) : Mode → Mode
  | .quoted quote opened text => .quoted quote (opened + bytes) text
  | mode => mode

def Scan.later (bytes : Nat) (scan : Scan) : Scan :=
  ⟨scan.tokens, scan.mode.later bytes, scan.offset + bytes⟩

theorem step_later (bytes : Nat) (scan : Scan) (c : Char) :
    (scan.later bytes).step c = (scan.step c).later bytes := by
  have hsum : scan.offset + bytes + c.utf8Size = scan.offset + c.utf8Size + bytes := by omega
  obtain ⟨tokens, mode, offset⟩ := scan
  cases mode with
  | between =>
    simp only [Scan.later, Mode.later, Scan.step, Scan.extend]
    split_ifs <;> simp_all
  | word text =>
    simp only [Scan.later, Mode.later, Scan.step, Scan.extend]
    split_ifs <;> simp_all
  | quoted quote opened text =>
    simp only [Scan.later, Mode.later, Scan.step]
    split_ifs <;> simp_all

theorem foldl_step_later (bytes : Nat) (scan : Scan) (cs : List Char) :
    cs.foldl Scan.step (scan.later bytes) = (cs.foldl Scan.step scan).later bytes := by
  induction cs generalizing scan with
  | nil => rfl
  | cons c cs ih => rw [List.foldl_cons, step_later, ih, List.foldl_cons]

theorem finish_later (bytes : Nat) (scan : Scan) :
    (scan.later bytes).finish = scan.finish.mapError (UnterminatedQuote.later bytes) := by
  obtain ⟨tokens, mode, offset⟩ := scan
  cases mode <;> rfl

/-- What is read outside words is read the same later in a text, but for the offset of a quote. -/
theorem scanFrom_later (bytes : Nat) (cs : List Char) :
    scanFrom .between bytes cs =
      (scanFrom .between 0 cs).mapError (UnterminatedQuote.later bytes) := by
  have hstart : (⟨#[], .between, bytes⟩ : Scan) = Scan.later bytes {} := by
    simp [Scan.later, Mode.later]
  rw [scanFrom, hstart, foldl_step_later, finish_later]
  rfl

/-! ### Seams -/

/-- A scan that can end here goes on outside words after a blank. -/
theorem step_blank_of_finish (h : scan.finish = .ok before) {c : Char}
    (hc : Text.isBlank c = true) :
    scan.step c = ⟨before.toArray, .between, scan.offset + c.utf8Size⟩ := by
  obtain ⟨tokens, mode, offset⟩ := scan
  cases mode with
  | between =>
    obtain rfl := Except.ok.inj h
    simp only [Scan.step, hc, if_true, Array.toArray_toList]
  | word text =>
    obtain rfl := Except.ok.inj h
    simp only [Scan.step, hc, if_true, Array.toArray_toList]
  | quoted quote opened text => cases h

theorem step_pipe_of_finish (h : scan.finish = .ok before) :
    scan.step '|' = ⟨(before ++ [Token.pipe]).toArray, .between, scan.offset + 1⟩ := by
  have hb : Text.isBlank '|' = false := rfl
  have hs : Char.utf8Size '|' = 1 := rfl
  rw [← List.push_toArray]
  obtain ⟨tokens, mode, offset⟩ := scan
  cases mode with
  | between =>
    obtain rfl := Except.ok.inj h
    simp only [Scan.step, hb, hs, if_true, Bool.false_eq_true, if_false, Array.toArray_toList]
  | word text =>
    obtain rfl := Except.ok.inj h
    simp only [Scan.step, hb, hs, if_true, Bool.false_eq_true, if_false, Array.toArray_toList]
  | quoted quote opened text => cases h

def AllBlank (w : String) : Prop := ∀ c ∈ w.toList, Text.isBlank c = true

theorem foldl_step_blanks {blanks : List Char} (hb : ∀ c ∈ blanks, Text.isBlank c = true)
    (tokens : Array Token) (offset : Nat) :
    blanks.foldl Scan.step ⟨tokens, .between, offset⟩ =
      ⟨tokens, .between, offset + String.utf8Len blanks⟩ := by
  induction blanks generalizing offset with
  | nil => simp
  | cons c blanks ih =>
    obtain ⟨hc, hrest⟩ := List.forall_mem_cons.mp hb
    have hstep : Scan.step ⟨tokens, .between, offset⟩ c =
        ⟨tokens, .between, offset + c.utf8Size⟩ := by
      simp [Scan.step, hc]
    rw [List.foldl_cons, hstep, ih hrest, String.utf8Len_cons]
    congr 1
    omega

theorem ofLine_of_seam
    (h : a.toList.foldl Scan.step {} = ⟨before.toArray, .between, a.utf8ByteSize⟩) (b : String) :
    ofLine (a ++ b) =
      ((ofLine b).mapError (UnterminatedQuote.later a.utf8ByteSize)).map (before ++ ·) := by
  rw [ofLine, String.toList_append, List.foldl_append, h, foldl_step_finish, scanFrom_later,
    ofLine_eq_scanFrom]

theorem ofLine_append_blanks (ha : ofLine a = .ok before) (hne : w ≠ "") (hw : AllBlank w)
    (b : String) :
    ofLine (a ++ w ++ b) =
      ((ofLine b).mapError (UnterminatedQuote.later (a ++ w).utf8ByteSize)).map (before ++ ·) := by
  obtain ⟨c, blanks, hcs⟩ := List.exists_cons_of_ne_nil (l := w.toList) (by simpa using hne)
  obtain ⟨hc, hrest⟩ : Text.isBlank c = true ∧ ∀ d ∈ blanks, Text.isBlank d = true := by
    rw [AllBlank, hcs] at hw
    exact List.forall_mem_cons.mp hw
  have hbytes : (a ++ w).utf8ByteSize =
      a.utf8ByteSize + c.utf8Size + String.utf8Len blanks := by
    rw [String.utf8ByteSize_append, ← String.utf8Len_toList w, hcs, String.utf8Len_cons]
    omega
  -- the first blank completes a word that may stand before it, the others do nothing
  have hseam : (a ++ w).toList.foldl Scan.step {} =
      ⟨before.toArray, .between, (a ++ w).utf8ByteSize⟩ := by
    rw [String.toList_append, List.foldl_append, hcs, List.foldl_cons,
      step_blank_of_finish ha hc, foldl_step_blanks hrest, offset_of_line, hbytes]
  exact ofLine_of_seam hseam b

theorem ofLine_append_pipe (ha : ofLine a = .ok before) (b : String) :
    ofLine (a ++ "|" ++ b) =
      ((ofLine b).mapError (UnterminatedQuote.later (a.utf8ByteSize + 1))).map
        (before ++ [Token.pipe] ++ ·) := by
  have hbytes : (a ++ "|").utf8ByteSize = a.utf8ByteSize + 1 := String.utf8ByteSize_append
  have hseam : (a ++ "|").toList.foldl Scan.step {} =
      ⟨(before ++ [Token.pipe]).toArray, .between, (a ++ "|").utf8ByteSize⟩ := by
    rw [String.toList_append, List.foldl_append, hbytes, ← offset_of_line]
    exact step_pipe_of_finish ha
  rw [ofLine_of_seam hseam, hbytes]

/-! ### Blanks at the end of a line -/

/-- A quoted span was opened by a quote. -/
def Mode.Sound : Mode → Prop
  | .quoted quote _ _ => isQuote quote = true
  | _ => True

theorem extend_sound (scan : Scan) (text : String) (c : Char) :
    (scan.extend text c).mode.Sound := by
  unfold Scan.extend
  split_ifs with hq
  · exact hq
  · trivial

theorem step_sound {scan : Scan} (h : scan.mode.Sound) (c : Char) : (scan.step c).mode.Sound := by
  obtain ⟨tokens, mode, offset⟩ := scan
  cases mode with
  | between =>
    simp only [Scan.step]
    split_ifs
    · trivial
    · trivial
    · exact extend_sound _ _ c
  | word text =>
    simp only [Scan.step]
    split_ifs
    · trivial
    · trivial
    · exact extend_sound _ _ c
  | quoted quote opened text =>
    simp only [Scan.step]
    split_ifs
    · trivial
    · exact h

theorem foldl_step_sound {scan : Scan} (h : scan.mode.Sound) (cs : List Char) :
    (cs.foldl Scan.step scan).mode.Sound := by
  induction cs generalizing scan with
  | nil => exact h
  | cons c cs ih => exact ih (step_sound h c)

theorem finish_step_blank {scan : Scan} (h : scan.mode.Sound) {c : Char}
    (hc : Text.isBlank c = true) : (scan.step c).finish = scan.finish := by
  obtain ⟨tokens, mode, offset⟩ := scan
  cases mode with
  | between => simp [Scan.step, Scan.finish, hc]
  | word text => simp [Scan.step, Scan.finish, hc]
  | quoted quote opened text =>
    have hne : c ≠ quote := by
      rintro rfl
      rw [isBlank_of_isQuote h] at hc
      cases hc
    simp [Scan.step, Scan.finish, hne]

theorem finish_foldl_blank {scan : Scan} (h : scan.mode.Sound) {blanks : List Char}
    (hb : ∀ c ∈ blanks, Text.isBlank c = true) :
    (blanks.foldl Scan.step scan).finish = scan.finish := by
  induction blanks generalizing scan with
  | nil => rfl
  | cons c blanks ih =>
    obtain ⟨hc, hrest⟩ := List.forall_mem_cons.mp hb
    rw [List.foldl_cons, ih (step_sound h c) hrest, finish_step_blank h hc]

/-- Blanks at the end of a line change neither its tokens nor the quote that it leaves open. -/
theorem ofLine_append_blank (cs : List Char) {blanks : List Char}
    (hb : ∀ c ∈ blanks, Text.isBlank c = true) :
    ofLine (String.ofList (cs ++ blanks)) = ofLine (String.ofList cs) := by
  rw [ofLine, ofLine, String.toList_ofList, String.toList_ofList, List.foldl_append]
  have hfresh : Mode.Sound ({} : Scan).mode := trivial
  exact finish_foldl_blank (foldl_step_sound hfresh cs) hb

/-! ### Blank space -/

theorem map_mapError_eq_ok {ε α β : Type} {result : Except ε α} {f : ε → ε} {g : α → β} {value : β} :
    (result.mapError f).map g = .ok value ↔ ∃ found, result = .ok found ∧ g found = value := by
  cases result <;> simp [Except.mapError, Except.map]

theorem ofLine_trailing_blanks (a : String) (hw : AllBlank w) : ofLine (a ++ w) = ofLine a := by
  have hlist := ofLine_append_blank a.toList hw
  rwa [← String.toList_append, String.ofList_toList, String.ofList_toList] at hlist

theorem ofLine_leading_blanks (hw : AllBlank w) (b : String) (tokens : List Token) :
    ofLine (w ++ b) = .ok tokens ↔ ofLine b = .ok tokens := by
  by_cases hne : w = ""
  · rw [hne, String.empty_append]
  · have hnone : ofLine "" = .ok [] := rfl
    have hseam := ofLine_append_blanks hnone hne hw b
    rw [String.empty_append] at hseam
    rw [hseam, map_mapError_eq_ok]
    simp

theorem ofLine_between_iff (ha : ofLine a = .ok before) (hne : w ≠ "") (hw : AllBlank w)
    (b : String) (tokens : List Token) :
    ofLine (a ++ w ++ b) = .ok tokens ↔ ∃ after, ofLine b = .ok after ∧ before ++ after = tokens := by
  rw [ofLine_append_blanks ha hne hw, map_mapError_eq_ok]

theorem ofLine_around_pipe_iff (ha : ofLine a = .ok before) {u v : String} (hu : AllBlank u)
    (hv : AllBlank v) (b : String) (tokens : List Token) :
    ofLine (a ++ u ++ "|" ++ v ++ b) = .ok tokens ↔
      ∃ after, ofLine b = .ok after ∧ before ++ [Token.pipe] ++ after = tokens := by
  have hassoc : a ++ u ++ "|" ++ v ++ b = a ++ u ++ "|" ++ (v ++ b) := String.append_assoc
  have hau : ofLine (a ++ u) = .ok before := (ofLine_trailing_blanks a hu).trans ha
  rw [hassoc, ofLine_append_pipe hau, map_mapError_eq_ok]
  exact exists_congr fun after => and_congr_left fun _ => ofLine_leading_blanks hv b after

/-- Behind a part of a line that has its tokens, blanks or a pipe begin a line of its own: its tokens
follow, or its open quote is reported, with the bytes before it added to the offset. So the tokens of a
line do not depend on the blank space between them. -/
theorem ofLine_append_seam (ha : ofLine a = .ok before) (b : String) :
    (∀ w, w ≠ "" → AllBlank w →
      (∀ after, ofLine b = .ok after → ofLine (a ++ w ++ b) = .ok (before ++ after)) ∧
      (∀ quote offset, ofLine b = .error ⟨quote, offset⟩ →
        ofLine (a ++ w ++ b) = .error ⟨quote, offset + (a ++ w).utf8ByteSize⟩)) ∧
    (∀ after, ofLine b = .ok after → ofLine (a ++ "|" ++ b) = .ok (before ++ [Token.pipe] ++ after)) ∧
    (∀ quote offset, ofLine b = .error ⟨quote, offset⟩ →
      ofLine (a ++ "|" ++ b) = .error ⟨quote, offset + (a.utf8ByteSize + 1)⟩) ∧
    (∀ w w', w ≠ "" → AllBlank w → w' ≠ "" → AllBlank w' → ∀ tokens,
      ofLine (a ++ w ++ b) = .ok tokens ↔ ofLine (a ++ w' ++ b) = .ok tokens) ∧
    ∀ u v, AllBlank u → AllBlank v → ∀ tokens,
      ofLine (a ++ u ++ "|" ++ v ++ b) = .ok tokens ↔ ofLine (a ++ "|" ++ b) = .ok tokens := by
  refine ⟨fun w hne hw => ⟨fun after hb => ?_, fun quote offset hb => ?_⟩, fun after hb => ?_,
    fun quote offset hb => ?_, fun w w' hne hw hne' hw' tokens => ?_, fun u v hu hv tokens => ?_⟩
  · rw [ofLine_append_blanks ha hne hw, hb]
    rfl
  · rw [ofLine_append_blanks ha hne hw, hb]
    rfl
  · rw [ofLine_append_pipe ha, hb]
    rfl
  · rw [ofLine_append_pipe ha, hb]
    rfl
  · rw [ofLine_between_iff ha hne hw, ofLine_between_iff ha hne' hw']
  · rw [ofLine_around_pipe_iff ha hu hv, ofLine_append_pipe ha, map_mapError_eq_ok]

/-- A word that ends in an empty span, a wide blank and a quote that is left open. -/
theorem ofLine_append_seam_wide :
    ofLine "x''" = .ok [.word "x"] ∧ ofLine "\u00E9'y" = .error ⟨'\'', 2⟩ ∧
      ofLine ("x''" ++ "\u3000 " ++ "\u00E9'y") = .error ⟨'\'', 2 + 7⟩ ∧
      ofLine ("x''" ++ "|" ++ "\u00E9'y") = .error ⟨'\'', 2 + (3 + 1)⟩ := by
  have ha : ofLine "x''" = .ok [.word "x"] := by rfl
  have hb : ofLine "\u00E9'y" = .error ⟨'\'', 2⟩ := by rfl
  have hblank : AllBlank "\u3000 " := by
    intro c hc
    fin_cases hc <;> rfl
  obtain ⟨hblanks, -, hpipe, -⟩ := ofLine_append_seam ha "\u00E9'y"
  exact ⟨ha, hb, (hblanks "\u3000 " (by decide) hblank).2 _ _ hb, hpipe _ _ hb⟩

end Token

end PipeShell
