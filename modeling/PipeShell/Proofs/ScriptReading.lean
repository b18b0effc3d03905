import PipeShell.Proofs.SourceLines

/-!
# How a script is read

A script is read one chunk at a time, up to a newline or to the end of what is left, until no bytes
are left or a chunk is no text. Main statement: there is one line for each chunk, the chunk without
its newline and the carriage returns before that, so lines written with either kind of terminator
are read back as they were.
-/
namespace PipeShell.LineSource

/-- The bytes cut after each newline; without one, only the last chunk may end. -/
structure CutAfterNewlines (bytes : List UInt8) (chunks : List (List UInt8)) : Prop where
  flatten : chunks.flatten = bytes
  ne_nil : ∀ chunk ∈ chunks, chunk ≠ []
  newline_last : ∀ chunk ∈ chunks, 10 ∉ chunk.dropLast
  ended : ∀ chunk ∈ chunks.dropLast, chunk.getLast? = some 10

/-- What one read takes from the bytes that are left, and what it leaves. -/
structure ReadNext (chunk rest : List UInt8) : Prop where
  ne_nil : chunk ≠ []
  newline_last : 10 ∉ chunk.dropLast
  ended : rest ≠ [] → chunk.getLast? = some 10

def IsText (chunk : List UInt8) : Prop := ByteArray.IsValidUTF8 ⟨chunk.toArray⟩

/-- The text of a chunk is the line, then any number of carriage returns, then a newline or nothing;
the line has no newline and does not end with a carriage return. -/
def HoldsLine (chunk : List UInt8) (line : String) : Prop :=
  ∃ (returns : ℕ) (newline : List Char), (newline = [] ∨ newline = ['\n']) ∧
    chunk = (line.toList ++ List.replicate returns '\r' ++ newline).flatMap String.utf8EncodeChar ∧
    '\n' ∉ line.toList ∧ line.toList.getLast? ≠ some '\r'

/-- The answers of a source that is asked until it ends. -/
inductive Drained : List UInt8 → Answers → Prop
  | ended : Drained [] []
  | line {chunk rest : List UInt8} {line : String} {answers : Answers} :
    ReadNext chunk rest → HoldsLine chunk line → Drained rest answers →
    Drained (chunk ++ rest) (.ok line :: answers)
  | fault {chunk rest : List UInt8} :
    ReadNext chunk rest → ¬ IsText chunk → Drained (chunk ++ rest) [.error .notText]

/-! ### Chunks -/

theorem foldr_addByte_ended {body : List UInt8} (h : 10 ∉ body) (pieces : List (List UInt8)) :
    (body ++ [10]).foldr addByte pieces = (body ++ [10]) :: pieces := by
  have hnewline : addByte 10 pieces = [10] :: pieces := rfl
  rw [List.foldr_append, List.foldr_cons, List.foldr_nil, hnewline]
  by_cases hb : body = []
  · subst hb
    rfl
  · rw [foldr_addByte_of_notMem h hb]
    rfl

theorem foldr_addByte_of_readNext {chunk rest : List UInt8} (h : ReadNext chunk rest) :
    (chunk ++ rest).foldr addByte [] = chunk :: rest.foldr addByte [] := by
  obtain ⟨last, hlast⟩ := Option.isSome_iff_exists.mp (List.getLast?_isSome.mpr h.ne_nil)
  have hchunk : chunk = chunk.dropLast ++ [last] := by
    have hget := List.dropLast_append_getLast h.ne_nil
    rw [List.getLast?_eq_some_getLast h.ne_nil, Option.some.injEq] at hlast
    rw [← hlast, hget]
  by_cases hn : last = 10
  · subst hn
    rw [List.foldr_append, hchunk]
    exact foldr_addByte_ended h.newline_last _
  · have hrest : rest = [] := by
      by_contra hne
      have hended := h.ended hne
      rw [hlast, Option.some.injEq] at hended
      exact hn hended
    have hnone : 10 ∉ chunk := by
      rw [hchunk]
      simp only [List.mem_append, List.mem_singleton, not_or]
      exact ⟨h.newline_last, Ne.symm hn⟩
    subst hrest
    rw [List.append_nil, foldr_addByte_of_notMem hnone h.ne_nil]
    simp

theorem cutAfterNewlines_cons {chunk : List UInt8} {bytes : List UInt8}
    {chunks : List (List UInt8)} :
    CutAfterNewlines bytes (chunk :: chunks) ↔
      ∃ rest, bytes = chunk ++ rest ∧ ReadNext chunk rest ∧ CutAfterNewlines rest chunks := by
  constructor
  · intro h
    have hrest : CutAfterNewlines chunks.flatten chunks := by
      refine ⟨rfl, fun c hc => h.ne_nil c (List.mem_cons_of_mem _ hc),
        fun c hc => h.newline_last c (List.mem_cons_of_mem _ hc), fun c hc => h.ended c ?_⟩
      have hne : chunks ≠ [] := by
        rintro rfl
        simp at hc
      rw [List.dropLast_cons_of_ne_nil hne]
      exact List.mem_cons_of_mem _ hc
    refine ⟨chunks.flatten, ?_, ⟨h.ne_nil chunk List.mem_cons_self,
      h.newline_last chunk List.mem_cons_self, fun hne => h.ended chunk ?_⟩, hrest⟩
    · rw [← h.flatten, List.flatten_cons]
    · have hchunks : chunks ≠ [] := by
        rintro rfl
        simp at hne
      rw [List.dropLast_cons_of_ne_nil hchunks]
      exact List.mem_cons_self
  · rintro ⟨rest, rfl, hread, h⟩
    refine ⟨?_, ?_, ?_, ?_⟩
    · rw [List.flatten_cons, h.flatten]
    · intro c hc
      rcases List.mem_cons.mp hc with rfl | hc
      · exact hread.ne_nil
      · exact h.ne_nil c hc
    · intro c hc
      rcases List.mem_cons.mp hc with rfl | hc
      · exact hread.newline_last
      · exact h.newline_last c hc
    · intro c hc
      cases chunks with
      | nil => simp at hc
      | cons next later =>
        rw [List.dropLast_cons_of_ne_nil (List.cons_ne_nil next later)] at hc
        rcases List.mem_cons.mp hc with rfl | hc
        · refine hread.ended ?_
          rw [← h.flatten, List.flatten_cons]
          simp [h.ne_nil next List.mem_cons_self]
        · exact h.ended c hc

theorem exists_readNext {bytes : List UInt8} (h : bytes ≠ []) :
    ∃ chunk rest, bytes = chunk ++ rest ∧ ReadNext chunk rest := by
  induction bytes with
  | nil => exact absurd rfl h
  | cons byte bytes ih =>
    by_cases hb : byte = 10
    · subst hb
      exact ⟨[10], bytes, rfl, by simp, by simp, fun _ => rfl⟩
    · by_cases hne : bytes = []
      · subst hne
        exact ⟨[byte], [], rfl, by simp, by simp, fun h => absurd rfl h⟩
      · obtain ⟨chunk, rest, rfl, hread⟩ := ih hne
        refine ⟨byte :: chunk, rest, rfl, by simp, ?_, fun hr => ?_⟩
        · rw [List.dropLast_cons_of_ne_nil hread.ne_nil]
          simp only [List.mem_cons, not_or]
          exact ⟨Ne.symm hb, hread.newline_last⟩
        · rw [List.getLast?_cons_of_ne_nil hread.ne_nil]
          exact hread.ended hr

theorem ReadNext.shorter {chunk rest : List UInt8} (h : ReadNext chunk rest) :
    rest.length < (chunk ++ rest).length := by
  have hpos := List.length_pos_iff.mpr h.ne_nil
  rw [List.length_append]
  omega

/-- Bytes are cut in one way, which is that of a source. -/
theorem cutAfterNewlines_iff {bytes : List UInt8} {chunks : List (List UInt8)} :
    CutAfterNewlines bytes chunks ↔ chunks = bytes.foldr addByte [] := by
  constructor
  · intro h
    induction chunks generalizing bytes with
    | nil =>
      rw [← h.flatten]
      rfl
    | cons chunk chunks ih =>
      obtain ⟨rest, rfl, hread, hrest⟩ := cutAfterNewlines_cons.mp h
      rw [foldr_addByte_of_readNext hread, ih hrest]
  · rintro rfl
    induction hn : bytes.length using Nat.strong_induction_on generalizing bytes with
    | _ n ih =>
      by_cases hb : bytes = []
      · subst hb
        exact ⟨rfl, by simp, by simp, by simp⟩
      · obtain ⟨chunk, rest, rfl, hread⟩ := exists_readNext hb
        rw [foldr_addByte_of_readNext hread]
        have hshorter := hread.shorter
        exact cutAfterNewlines_cons.mpr ⟨rest, rfl, hread, ih _ (hn ▸ hshorter) rfl⟩

/-! ### Lines -/

def isTerminator (c : Char) : Bool := c = '\n' || c = '\r'

theorem stripTerminators_eq (text : String) : stripTerminators text =
    String.ofList (text.toList.reverse.dropWhile isTerminator).reverse := rfl

theorem dropWhile_reverse_line {cs : List Char} (hn : '\n' ∉ cs) (hr : cs.getLast? ≠ some '\r') :
    cs.reverse.dropWhile isTerminator = cs.reverse := by
  cases hcs : cs.reverse with
  | nil => rfl
  | cons last before =>
    have hlast : cs.getLast? = some last := by
      rw [List.getLast?_eq_head?_reverse, hcs, List.head?_cons]
    have hnewline : last ≠ '\n' := by
      rintro rfl
      exact hn (List.mem_of_getLast? hlast)
    have hreturn : last ≠ '\r' := by
      rintro rfl
      exact hr hlast
    rw [List.dropWhile_cons_of_neg]
    simp [isTerminator, hnewline, hreturn]

theorem stripTerminators_line {line newline : List Char} (returns : ℕ)
    (hnewline : newline = [] ∨ newline = ['\n']) (hn : '\n' ∉ line)
    (hr : line.getLast? ≠ some '\r') :
    stripTerminators (String.ofList (line ++ List.replicate returns '\r' ++ newline)) =
      String.ofList line := by
  have hdrop : ∀ c ∈ (List.replicate returns '\r' ++ newline).reverse, isTerminator c = true := by
    intro c hc
    rw [List.mem_reverse, List.mem_append, List.mem_replicate] at hc
    rcases hc with ⟨-, rfl⟩ | hc
    · rfl
    · rcases hnewline with rfl | rfl
      · simp at hc
      · rw [List.mem_singleton.mp hc]
        rfl
  rw [stripTerminators_eq, String.toList_ofList, List.append_assoc, List.reverse_append,
    List.dropWhile_append_of_pos hdrop, dropWhile_reverse_line hn hr, List.reverse_reverse]

theorem exists_stripped {cs : List Char} (h : '\n' ∉ cs.dropLast) :
    ∃ line returns newline, (newline = [] ∨ newline = ['\n']) ∧
      cs = line ++ List.replicate returns '\r' ++ newline ∧ '\n' ∉ line ∧
      line.getLast? ≠ some '\r' := by
  -- the returns are found from the end, behind the newline if there is one
  have hreturns (cs : List Char) : ∃ line returns, cs = line ++ List.replicate returns '\r' ∧
      line.getLast? ≠ some '\r' := by
    induction cs using List.reverseRecOn with
    | nil => exact ⟨[], 0, rfl, by simp⟩
    | append_singleton cs c ih =>
      by_cases hc : c = '\r'
      · obtain ⟨line, returns, rfl, hlast⟩ := ih
        refine ⟨line, returns + 1, ?_, hlast⟩
        rw [hc, List.replicate_succ', List.append_assoc]
      · refine ⟨cs ++ [c], 0, by simp, ?_⟩
        simpa using hc
  induction cs using List.reverseRecOn with
  | nil => exact ⟨[], 0, [], .inl rfl, rfl, by simp, by simp⟩
  | append_singleton cs c _ =>
    rw [List.dropLast_concat] at h
    by_cases hc : c = '\n'
    · obtain ⟨line, returns, rfl, hlast⟩ := hreturns cs
      subst hc
      exact ⟨line, returns, ['\n'], .inr rfl, rfl, fun hm => h (List.mem_append_left _ hm), hlast⟩
    · obtain ⟨line, returns, hcs, hlast⟩ := hreturns (cs ++ [c])
      refine ⟨line, returns, [], .inl rfl, by rw [hcs, List.append_nil], fun hm => ?_, hlast⟩
      have hmem : '\n' ∈ cs ++ [c] := by
        rw [hcs]
        exact List.mem_append_left _ hm
      rcases List.mem_append.mp hmem with hm | hm
      · exact h hm
      · exact hc (List.mem_singleton.mp hm).symm

theorem isText_iff {chunk : List UInt8} :
    IsText chunk ↔ ∃ cs : List Char, chunk = cs.flatMap String.utf8EncodeChar := by
  constructor
  · rintro ⟨cs, hcs⟩
    refine ⟨cs, ?_⟩
    have hbytes := congrArg (fun bytes : ByteArray => bytes.data.toList) hcs
    simpa [List.utf8Encode, List.toList_data_toByteArray] using hbytes
  · rintro ⟨cs, rfl⟩
    refine ⟨cs, ?_⟩
    rw [List.utf8Encode]
    exact ByteArray.ext List.data_toByteArray.symm

theorem notMem_dropLast_of_flatMap {cs : List Char}
    (h : 10 ∉ (cs.flatMap String.utf8EncodeChar).dropLast) : '\n' ∉ cs.dropLast := by
  induction cs using List.reverseRecOn with
  | nil => simp
  | append_singleton cs c _ =>
    rw [List.flatMap_append, List.flatMap_singleton,
      List.dropLast_append_of_ne_nil String.utf8EncodeChar_ne_nil] at h
    rw [List.dropLast_concat]
    intro hm
    have hbyte : 10 ∈ String.utf8EncodeChar '\n' := by decide
    exact h (List.mem_append_left _ (List.mem_flatMap.mpr ⟨'\n', hm, hbyte⟩))

theorem exists_holdsLine {chunk : List UInt8} (hn : 10 ∉ chunk.dropLast) (ht : IsText chunk) :
    ∃ line, HoldsLine chunk line := by
  obtain ⟨cs, rfl⟩ := isText_iff.mp ht
  obtain ⟨line, returns, newline, hnewline, rfl, hline, hlast⟩ :=
    exists_stripped (notMem_dropLast_of_flatMap hn)
  refine ⟨String.ofList line, returns, newline, hnewline, ?_, ?_, ?_⟩
  · rw [String.toList_ofList]
  · rwa [String.toList_ofList]
  · rwa [String.toList_ofList]

theorem answers_of_holdsLine {chunk : List UInt8} {line : String} (h : HoldsLine chunk line)
    (later : List (List UInt8)) :
    answers stripTerminators (chunk :: later) = .ok line :: answers stripTerminators later := by
  obtain ⟨returns, newline, hnewline, rfl, hn, hr⟩ := h
  rw [answers, fromUTF8?_flatMap]
  simp only
  rw [stripTerminators_line returns hnewline hn hr, String.ofList_toList]

theorem answers_of_not_isText {chunk : List UInt8} (h : ¬ IsText chunk) (clean : String → String)
    (later : List (List UInt8)) : answers clean (chunk :: later) = [.error .notText] := by
  have hnone : String.fromUTF8? ⟨chunk.toArray⟩ = none := dif_neg h
  rw [answers, hnone]

theorem answers_of_holdLines {chunks : List (List UInt8)} {lines : List String}
    (h : List.Forall₂ HoldsLine chunks lines) (later : List (List UInt8)) :
    answers stripTerminators (chunks ++ later) =
      lines.map .ok ++ answers stripTerminators later := by
  induction h with
  | nil => rfl
  | @cons chunk line chunks lines hline _ ih =>
    rw [List.cons_append, answers_of_holdsLine hline, ih, List.map_cons, List.cons_append]

theorem exists_holdLines {chunks : List (List UInt8)} (hn : ∀ chunk ∈ chunks, 10 ∉ chunk.dropLast)
    (ht : ∀ chunk ∈ chunks, IsText chunk) : ∃ lines, List.Forall₂ HoldsLine chunks lines := by
  induction chunks with
  | nil => exact ⟨[], .nil⟩
  | cons chunk chunks ih =>
    obtain ⟨line, hline⟩ :=
      exists_holdsLine (hn chunk List.mem_cons_self) (ht chunk List.mem_cons_self)
    obtain ⟨lines, hlines⟩ := ih (fun c hc => hn c (List.mem_cons_of_mem _ hc))
      fun c hc => ht c (List.mem_cons_of_mem _ hc)
    exact ⟨line :: lines, .cons hline hlines⟩

theorem ofScript_eq (input : ByteArray) :
    ofScript input = answers stripTerminators (input.data.toList.foldr addByte []) := rfl

/-- A source that is asked until it ends gives the answers of the script and no others. -/
theorem drained_iff {bytes : List UInt8} {given : Answers} :
    Drained bytes given ↔ given = answers stripTerminators (bytes.foldr addByte []) := by
  constructor
  · intro h
    induction h with
    | ended => rfl
    | line hread hline _ ih =>
      rw [foldr_addByte_of_readNext hread, answers_of_holdsLine hline, ih]
    | fault hread hfault =>
      rw [foldr_addByte_of_readNext hread, answers_of_not_isText hfault]
  · rintro rfl
    -- each read leaves fewer bytes
    induction hn : bytes.length using Nat.strong_induction_on generalizing bytes with
    | _ n ih =>
      by_cases hb : bytes = []
      · subst hb
        exact .ended
      · obtain ⟨chunk, rest, rfl, hread⟩ := exists_readNext hb
        rw [foldr_addByte_of_readNext hread]
        by_cases ht : IsText chunk
        · obtain ⟨line, hline⟩ := exists_holdsLine hread.newline_last ht
          rw [answers_of_holdsLine hline]
          have hshorter := hread.shorter
          exact .line hread hline (ih _ (hn ▸ hshorter) rfl)
        · rw [answers_of_not_isText ht]
          exact .fault hread ht

/-! ### Lines that are written and read back -/

/-- A line can be told from what stands behind it. -/
def Writable (line : String) : Prop := '\n' ∉ line.toList ∧ line.toList.getLast? ≠ some '\r'

def terminated (line : String) (withReturn : Bool) : String :=
  line ++ if withReturn then "\r\n" else "\n"

def writeLines (entries : List (String × Bool)) : String :=
  String.join (entries.map fun entry => terminated entry.1 entry.2)

theorem toList_terminated (line : String) (withReturn : Bool) : (terminated line withReturn).toList =
    line.toList ++ List.replicate (if withReturn then 1 else 0) '\r' ++ ['\n'] := by
  cases withReturn <;> simp [terminated]

theorem toList_writeLines_cons (entry : String × Bool) (entries : List (String × Bool))
    (last : String) : (writeLines (entry :: entries) ++ last).toList =
      (terminated entry.1 entry.2).toList ++ (writeLines entries ++ last).toList := by
  simp [writeLines, String.toList_append]

theorem foldr_addChar_ended {cs : List Char} (h : '\n' ∉ cs) (chunks : List (List Char)) :
    (cs ++ ['\n']).foldr addChar chunks = (cs ++ ['\n']) :: chunks := by
  induction cs with
  | nil => rfl
  | cons c cs ih =>
    obtain ⟨hc, hcs⟩ : '\n' ≠ c ∧ '\n' ∉ cs := by simpa using h
    rw [List.cons_append, List.foldr_cons, ih hcs]
    simp [addChar, Ne.symm hc]

theorem foldr_addChar_of_notMem {cs : List Char} (h : '\n' ∉ cs) (hne : cs ≠ []) :
    cs.foldr addChar [] = [cs] := by
  induction cs with
  | nil => exact absurd rfl hne
  | cons c cs ih =>
    obtain ⟨hc, hcs⟩ : '\n' ≠ c ∧ '\n' ∉ cs := by simpa using h
    rw [List.foldr_cons]
    by_cases he : cs = []
    · subst he
      simp [addChar, Ne.symm hc]
    · rw [ih hcs he]
      simp [addChar, Ne.symm hc]

/-- Written lines are read back, the last one also without a terminator if it is not empty. -/
theorem scriptLines_writeLines {entries : List (String × Bool)} {last : Option String}
    (he : ∀ entry ∈ entries, Writable entry.1) (hl : ∀ line ∈ last, Writable line ∧ line ≠ "") :
    scriptLines (writeLines entries ++ last.getD "") = entries.map Prod.fst ++ last.toList := by
  unfold scriptLines chunks
  induction entries with
  | nil =>
    cases last with
    | none => rfl
    | some line =>
      obtain ⟨⟨hn, hr⟩, hne⟩ := hl line rfl
      have hcs : line.toList ≠ [] := fun h => hne (String.toList_eq_nil_iff.mp h)
      have hstrip := stripTerminators_line 0 (.inl rfl) hn hr
      have htext : (writeLines [] ++ (some line).getD "").toList = line.toList := by
        simp [writeLines]
      rw [htext, foldr_addChar_of_notMem hn hcs]
      simpa using hstrip
  | cons entry entries ih =>
    obtain ⟨hn, hr⟩ := he entry List.mem_cons_self
    let returns := List.replicate (if entry.2 then 1 else 0) '\r'
    have hbody : '\n' ∉ entry.1.toList ++ returns := by
      simp only [List.mem_append, not_or]
      exact ⟨hn, fun hm => by simpa using List.eq_of_mem_replicate hm⟩
    have hstrip := stripTerminators_line (if entry.2 then 1 else 0) (.inr rfl) hn hr
    rw [String.ofList_toList] at hstrip
    rw [toList_writeLines_cons, toList_terminated, List.foldr_append, foldr_addChar_ended hbody,
      List.map_cons, hstrip, ih fun later hm => he later (List.mem_cons_of_mem _ hm)]
    rfl

/-- A script has one line for each chunk that is cut off after a newline or at the end: the chunk
without its newline and the carriage returns before that. A chunk that is no text ends the script
with a fault. So lines written with either terminator, the last one perhaps without any, are given
back. -/
theorem ofScript_exact (input : ByteArray) :
    (∀ given, Drained input.data.toList given ↔ given = ofScript input) ∧
    (∃! chunks, CutAfterNewlines input.data.toList chunks) ∧
    (∀ chunks, CutAfterNewlines input.data.toList chunks →
      ((∀ chunk ∈ chunks, IsText chunk) →
        ∃ lines, List.Forall₂ HoldsLine chunks lines ∧ ofScript input = lines.map .ok) ∧
      ∀ before bad after, chunks = before ++ bad :: after → (∀ chunk ∈ before, IsText chunk) →
        ¬ IsText bad → ∃ lines, List.Forall₂ HoldsLine before lines ∧
          ofScript input = lines.map .ok ++ [.error .notText]) ∧
    ∀ (entries : List (String × Bool)) (last : Option String),
      (∀ entry ∈ entries, Writable entry.1) → (∀ line ∈ last, Writable line ∧ line ≠ "") →
      input = (writeLines entries ++ last.getD "").toUTF8 →
      ofScript input = (entries.map Prod.fst ++ last.toList).map .ok := by
  refine ⟨fun given => drained_iff, ⟨_, cutAfterNewlines_iff.mpr rfl, fun chunks h =>
    cutAfterNewlines_iff.mp h⟩, fun chunks hcut => ⟨fun ht => ?_, ?_⟩, ?_⟩
  · obtain ⟨lines, hlines⟩ := exists_holdLines hcut.newline_last ht
    have hanswers := answers_of_holdLines hlines []
    rw [List.append_nil] at hanswers
    refine ⟨lines, hlines, ?_⟩
    rw [ofScript_eq, ← cutAfterNewlines_iff.mp hcut, hanswers]
    exact List.append_nil _
  · rintro before bad after rfl ht hbad
    have hbefore : ∀ chunk ∈ before, 10 ∉ chunk.dropLast := fun chunk hc =>
      hcut.newline_last chunk (List.mem_append_left _ hc)
    obtain ⟨lines, hlines⟩ := exists_holdLines hbefore ht
    refine ⟨lines, hlines, ?_⟩
    rw [ofScript_eq, ← cutAfterNewlines_iff.mp hcut, answers_of_holdLines hlines,
      answers_of_not_isText hbad]
  · rintro entries last he hl rfl
    rw [ofScript_toUTF8, scriptLines_writeLines he hl]

/-- Two returns before a newline, a blank line, and a byte that is no text; and three lines with
different terminators. -/
theorem ofScript_exact_mixed :
    (∃ lines, List.Forall₂ HoldsLine [[97, 13, 13, 10], [10]] lines ∧
      ofScript ⟨#[97, 13, 13, 10, 10, 255, 10, 98]⟩ = lines.map .ok ++ [.error .notText]) ∧
    ofScript "\r\n x\nend".toUTF8 = [.ok "", .ok " x", .ok "end"] := by
  have hbad : ¬ IsText [255, 10] := by
    rw [IsText, ← ByteArray.validateUTF8_eq_true_iff]
    decide +kernel
  obtain ⟨-, -, hcut, -⟩ := ofScript_exact ⟨#[97, 13, 13, 10, 10, 255, 10, 98]⟩
  obtain ⟨-, -, -, hwritten⟩ := ofScript_exact "\r\n x\nend".toUTF8
  have hchunks : CutAfterNewlines [97, 13, 13, 10, 10, 255, 10, 98]
      [[97, 13, 13, 10], [10], [255, 10], [98]] := ⟨rfl, by simp, by decide, by decide⟩
  refine ⟨(hcut _ hchunks).2 [[97, 13, 13, 10], [10]] [255, 10] [[98]] rfl ?_ hbad,
    hwritten [("", true), (" x", false)] (some "end") ?_ ?_ ?_⟩
  · intro chunk hc
    rw [IsText, ← ByteArray.validateUTF8_eq_true_iff]
    revert chunk
    decide +kernel
  · unfold Writable
    decide
  · unfold Writable
    decide
  · decide +kernel

end PipeShell.LineSource
