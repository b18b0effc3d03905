import PipeShell.Proofs.SessionRun
import PipeShell.Proofs.SourceLines
import PipeShell.Proofs.TokenSeams

/-!
# Two sources for one session

A script and a line editor give different lines for the same text: they drop different numbers of
carriage returns at the end of a line. Main statement: a session is the same on both, since a line
is read as the same pipeline, or refused for the same reason, with any blanks after it or none.
Either source is taken to have the text for itself, with no process that reads a part of it.
-/
namespace PipeShell

namespace Text

/-! ### Text without backspaces -/

theorem flatten_clustersFrom (context : ClusterContext) (reversed cs : List Char) :
    (clustersFrom context reversed cs).flatten = reversed.reverse ++ cs := by
  induction cs generalizing context reversed with
  | nil =>
    rw [clustersFrom]
    split_ifs with hr
    · rw [List.isEmpty_iff.mp hr]
      rfl
    · simp
  | cons c cs ih =>
    rw [clustersFrom]
    split_ifs
    · rw [ih, List.reverse_cons, List.append_assoc, List.singleton_append]
    · rw [List.flatten_cons, ih]
      rfl

theorem flatten_clusters (cs : List Char) : (clusters cs).flatten = cs :=
  flatten_clustersFrom .start [] cs

theorem applyBackspaces_of_notMem {text : String} (h : '\x08' ∉ text.toList) :
    applyBackspaces text = text := by
  have hkeep (kept pressed : List (List Char)) (hp : ['\x08'] ∉ pressed) :
      pressed.foldl (fun kept cluster => if cluster = ['\x08'] then kept.tail else cluster :: kept)
        kept = pressed.reverse ++ kept := by
    induction pressed generalizing kept with
    | nil => rfl
    | cons cluster pressed ih =>
      obtain ⟨hne, hrest⟩ : ['\x08'] ≠ cluster ∧ ['\x08'] ∉ pressed := by simpa using hp
      rw [List.foldl_cons, if_neg (Ne.symm hne), ih _ hrest]
      simp
  have hclusters : ['\x08'] ∉ clusters text.toList := fun hm => h <| by
    rw [← flatten_clusters text.toList]
    exact List.mem_flatten_of_mem hm (List.mem_singleton_self _)
  rw [applyBackspaces, hkeep [] _ hclusters, List.append_nil, List.reverse_reverse,
    flatten_clusters, String.ofList_toList]

end Text

namespace LineSource

/-! ### What the sources drop -/

/-- The second text is the first without some blanks at its end. -/
def DropsBlanks (line shorter : String) : Prop :=
  ∃ blanks : List Char, line.toList = shorter.toList ++ blanks ∧
    ∀ c ∈ blanks, Text.isBlank c = true

theorem DropsBlanks.ofLine_eq {line shorter : String} (h : DropsBlanks line shorter)
    (limit : Nat) : Pipeline.ofLine limit shorter = Pipeline.ofLine limit line := by
  obtain ⟨blanks, hl, hb⟩ := h
  have htokens : Token.ofLine line = Token.ofLine shorter := by
    rw [← line.ofList_toList, hl, Token.ofLine_append_blank _ hb, String.ofList_toList]
  rw [Pipeline.ofLine, Pipeline.ofLine, htokens]

theorem isBlank_of_terminator {c : Char} (h : c = '\n' ∨ c = '\r') : Text.isBlank c = true := by
  rcases h with rfl | rfl <;> rfl

theorem dropsBlanks_stripTerminators (line : String) :
    DropsBlanks line (stripTerminators line) := by
  let ends (c : Char) : Bool := c = '\n' || c = '\r'
  refine ⟨(line.toList.reverse.takeWhile ends).reverse, ?_, fun c hc => ?_⟩
  · rw [stripTerminators, String.toList_ofList, ← List.reverse_append,
      List.takeWhile_append_dropWhile, List.reverse_reverse]
  · have hends : ends c = true := List.mem_takeWhile_imp (List.mem_reverse.mp hc)
    exact isBlank_of_terminator (by simpa [ends] using hends)

theorem dropsBlanks_stripNewline (line : String) : DropsBlanks line (stripNewline line) := by
  have hback {cs : List Char} (h : line.toList.reverse = cs) : line.toList = cs.reverse := by
    rw [← h, List.reverse_reverse]
  unfold stripNewline
  split
  · rename_i rest h
    refine ⟨['\r', '\n'], by rw [hback h]; simp, fun c hc => isBlank_of_terminator ?_⟩
    simpa [or_comm] using hc
  · rename_i rest _ h
    refine ⟨['\n'], by rw [hback h]; simp, fun c hc => isBlank_of_terminator (.inl ?_)⟩
    exact List.mem_singleton.mp hc
  · exact ⟨[], by simp, by simp⟩

theorem flatten_chunks (text : String) : (chunks text).flatten = text.toList := by
  unfold chunks
  induction text.toList with
  | nil => rfl
  | cons c cs ih =>
    rw [List.foldr_cons, addChar]
    split_ifs
    · rw [List.flatten_cons, ih]
      rfl
    · generalize cs.foldr addChar [] = rest at ih ⊢
      cases rest <;> simp_all

/-! ### Editors -/

/-- The lines of an editor that gives `clean line` for the piece `line` of its input. -/
def ofEditor (clean : String → String) (input : ByteArray) : Answers :=
  answers clean (pieces input)

/-- An editor that drops the newline at the end of a piece, and one carriage return directly before
that, and lets all else pass, apart from backspaces. -/
def PassesThrough (clean : String → String) : Prop :=
  ∀ line : String, '\x08' ∉ line.toList → clean line = stripNewline line

theorem notMem_stripNewline {line : String} (h : '\x08' ∉ line.toList) :
    '\x08' ∉ (stripNewline line).toList := by
  obtain ⟨blanks, hl, -⟩ := dropsBlanks_stripNewline line
  rw [hl] at h
  exact fun hm => h (List.mem_append_left _ hm)

theorem passesThrough_ofTyping :
    PassesThrough fun line => Text.applyBackspaces (stripNewline line) :=
  fun _ h => Text.applyBackspaces_of_notMem (notMem_stripNewline h)

theorem notMem_of_mem_chunks {text : String} (h : '\x08' ∉ text.toList) {chunk : List Char}
    (hc : chunk ∈ chunks text) : '\x08' ∉ (String.ofList chunk).toList := by
  rw [String.toList_ofList]
  rw [← flatten_chunks text] at h
  exact fun hm => h (List.mem_flatten_of_mem hc hm)

theorem typedLines_of_notMem {text : String} (h : '\x08' ∉ text.toList) :
    typedLines text = (chunks text).map fun chunk => stripNewline (String.ofList chunk) :=
  List.map_congr_left fun _ hc => passesThrough_ofTyping _ (notMem_of_mem_chunks h hc)

/-- All such editors give the same lines for a text without backspaces. -/
theorem PassesThrough.ofEditor_eq {clean : String → String} (hclean : PassesThrough clean)
    {text : String} (h : '\x08' ∉ text.toList) :
    ofEditor clean text.toUTF8 = ofTyping text.toUTF8 := by
  rw [ofEditor, ofTyping_toUTF8, pieces_toUTF8, answers_pieces, typedLines_of_notMem h]
  refine congrArg (List.map Except.ok) ?_
  exact List.map_congr_left fun _ hc => hclean _ (notMem_of_mem_chunks h hc)

theorem map_ofLine_scriptLines {text : String} (h : '\x08' ∉ text.toList) (limit : Nat) :
    (scriptLines text).map (Pipeline.ofLine limit) =
      (typedLines text).map (Pipeline.ofLine limit) := by
  rw [scriptLines, typedLines_of_notMem h, List.map_map, List.map_map]
  refine List.map_congr_left fun chunk _ => ?_
  rw [Function.comp_apply, Function.comp_apply,
    (dropsBlanks_stripTerminators _).ofLine_eq, (dropsBlanks_stripNewline _).ofLine_eq]

end LineSource

namespace Shell

variable {σ : Type} {host : Host σ} {settings : Settings} {s last : ShellState σ}
  {lines others : List String}

/-! ### Lines that are read alike -/

theorem runLine_congr {line other : String}
    (h : Pipeline.ofLine settings.maxCommands line = Pipeline.ofLine settings.maxCommands other) :
    runLine host settings line = runLine host settings other := by
  rw [runLine, runLine, h]

theorem loop_congr (h : lines.map (Pipeline.ofLine settings.maxCommands) =
    others.map (Pipeline.ofLine settings.maxCommands)) :
    loop host settings (lines.map .ok) = loop host settings (others.map .ok) := by
  induction lines generalizing others with
  | nil => rw [List.map_eq_nil_iff.mp h.symm]
  | cons line lines ih =>
    obtain ⟨other, rest, rfl, hline, hrest⟩ := List.map_eq_cons_iff.mp h.symm
    rw [List.map_cons, List.map_cons, loop, loop, runLine_congr hline.symm, ih hrest.symm]

theorem Carries.congr (h : lines.map (Pipeline.ofLine settings.maxCommands) =
    others.map (Pipeline.ofLine settings.maxCommands)) (hc : Carries host settings s lines last) :
    Carries host settings s others last := by
  induction hc generalizing others with
  | nil s =>
    rw [List.map_eq_nil_iff.mp h.symm]
    exact .nil s
  | cons hs hr _ ih =>
    obtain ⟨other, rest, rfl, hline, hrest⟩ := List.map_eq_cons_iff.mp h.symm
    exact .cons hs (runLine_congr hline.symm ▸ hr) (ih hrest.symm)

/-- On a text without backspaces a session takes the same course with a script and with a line
editor: line by line both read the same pipelines, or the same refusals, and do the same. -/
theorem loop_ofScript_eq_ofTyping {text : String} (ht : '\x08' ∉ text.toList) (host : Host σ)
    (settings : Settings) (s : ShellState σ) :
    (∀ clean, LineSource.PassesThrough clean →
      LineSource.ofEditor clean text.toUTF8 = LineSource.ofTyping text.toUTF8) ∧
    loop host settings (LineSource.ofScript text.toUTF8) s =
      loop host settings (LineSource.ofTyping text.toUTF8) s ∧
    (∀ limit, (LineSource.scriptLines text).map (Pipeline.ofLine limit) =
      (LineSource.typedLines text).map (Pipeline.ofLine limit)) ∧
    (∀ m last, Carries host settings s ((LineSource.scriptLines text).take m) last ↔
      Carries host settings s ((LineSource.typedLines text).take m) last) ∧
    ∀ line limit, Pipeline.ofLine limit (LineSource.stripTerminators line) =
      Pipeline.ofLine limit line := by
  have hread := LineSource.map_ofLine_scriptLines ht settings.maxCommands
  have htake (m : Nat) :
      ((LineSource.scriptLines text).take m).map (Pipeline.ofLine settings.maxCommands) =
        ((LineSource.typedLines text).take m).map (Pipeline.ofLine settings.maxCommands) := by
    rw [List.map_take, List.map_take, hread]
  refine ⟨fun _ hclean => hclean.ofEditor_eq ht, ?_, LineSource.map_ofLine_scriptLines ht,
    fun m last => ⟨Carries.congr (htake m), Carries.congr (htake m).symm⟩,
    fun line limit => (LineSource.dropsBlanks_stripTerminators line).ofLine_eq limit⟩
  rw [LineSource.ofScript_toUTF8, LineSource.ofTyping_toUTF8, loop_congr hread]

/-- Two carriage returns before a newline, and one that ends an open quote: the lines differ, the
sessions do not. -/
theorem loop_ofScript_eq_ofTyping_returns :
    let text := "cd a b\r\r\n'x\r"
    LineSource.scriptLines text = ["cd a b", "'x"] ∧
    LineSource.typedLines text = ["cd a b\r", "'x\r"] ∧
    loop Machine.host {} (LineSource.ofScript text.toUTF8) { world := emptyMachine } =
      loop Machine.host {} (LineSource.ofTyping text.toUTF8) { world := emptyMachine } ∧
    LineSource.ofEditor LineSource.stripNewline text.toUTF8 = LineSource.ofTyping text.toUTF8 := by
  have ht : '\x08' ∉ "cd a b\r\r\n'x\r".toList := by decide
  obtain ⟨heditor, hloop, -⟩ :=
    loop_ofScript_eq_ofTyping ht Machine.host {} { world := emptyMachine }
  exact ⟨by cbv, by cbv, hloop, heditor LineSource.stripNewline fun _ _ => rfl⟩

end Shell

end PipeShell
