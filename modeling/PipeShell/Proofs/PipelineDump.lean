import Mathlib
import PipeShell.Pipeline

/-!
# Reading a dump back

A dump quotes nothing, and its brackets and numbers may stand in words too. `readDump` cuts it at
the newlines, ends each name at the first space after it, and cuts the arguments at the spaces
between the outermost brackets. Main statement: if no word has a space or a newline in it, a dump
tells which pipeline it is of.
-/
namespace PipeShell.Pipeline

/-- No word of the pipeline has a space or a newline in it. -/
def PlainWords (p : Pipeline) : Prop :=
  ∀ command ∈ p.commands, ∀ word ∈ command.name :: command.args,
    ' ' ∉ word.toList ∧ '\n' ∉ word.toList

def readArgs : List Char → List String
  | ' ' :: '[' :: inner => (inner.dropLast.splitOn ' ').map String.ofList
  | _ => []

/-- The command of a line of a dump: its name stands between the first two spaces. -/
def readLine (line : List Char) : Command :=
  let body := (line.dropWhile (· ≠ ' ')).tail
  ⟨String.ofList (body.takeWhile (· ≠ ' ')), readArgs (body.dropWhile (· ≠ ' '))⟩

/-- The commands of a dump; its first line only counts them. -/
def readDump (text : String) : List Command := (text.toList.splitOn '\n').tail.map readLine

/-! ### The lines of a dump -/

def dumpArgs (args : List String) : List Char :=
  if args.isEmpty then [] else " [".toList ++ [' '].intercalate (args.map String.toList) ++ [']']

def dumpNumber (position : Nat) : List Char := '<' :: (toString position).toList ++ ['>']

def dumpLine (position : Nat) (command : Command) : List Char :=
  dumpNumber position ++ ' ' :: (command.name.toList ++ dumpArgs command.args)

def dumpLines (position : Nat) (commands : List Command) : List (List Char) :=
  (commands.zipIdx position).map fun (command, i) => dumpLine i command

def dumpHeader (count : Nat) : List Char :=
  "PARSED COMMAND LINE - TOTAL COMMANDS ".toList ++ (toString count).toList

theorem dumpArgs_cons (first : String) (rest : List String) :
    dumpArgs (first :: rest) =
      ' ' :: '[' :: ([' '].intercalate ((first :: rest).map String.toList) ++ [']']) := by
  simp [dumpArgs]

theorem dumpLines_cons (position : Nat) (command : Command) (rest : List Command) :
    dumpLines position (command :: rest) =
      dumpLine position command :: dumpLines (position + 1) rest := by
  simp only [dumpLines, List.zipIdx_cons, List.map_cons]

theorem toList_dumpCommand (position : Nat) (command : Command) :
    (dumpCommand position command).toList = '\n' :: dumpLine position command := by
  unfold dumpCommand dumpLine dumpNumber dumpArgs
  split_ifs <;> simp [String.toList_append, String.toList_intercalate]

theorem toList_dumpFrom (position : Nat) (commands : List Command) :
    (dumpFrom position commands).toList =
      (dumpLines position commands).flatMap fun line => ['\n'] ++ line := by
  induction commands generalizing position with
  | nil => rfl
  | cons command rest ih =>
    rw [dumpFrom, String.toList_append, toList_dumpCommand, ih, dumpLines_cons, List.flatMap_cons,
      List.singleton_append]

theorem intercalate_cons_eq_append (separator first : List Char) (rest : List (List Char)) :
    separator.intercalate (first :: rest) = first ++ rest.flatMap (separator ++ ·) := by
  induction rest generalizing first with
  | nil => rw [List.intercalate_singleton, List.flatMap_nil, List.append_nil]
  | cons second rest ih =>
    rw [List.intercalate_cons_cons, ih, List.flatMap_cons, List.append_assoc, List.append_assoc]

theorem toList_dump (p : Pipeline) :
    p.dump.toList = ['\n'].intercalate (dumpHeader p.length :: dumpLines 1 p.commands) := by
  rw [intercalate_cons_eq_append, ← toList_dumpFrom]
  unfold dump dumpHeader
  simp only [String.toList_append]

/-! ### What does not stand in a line -/

theorem not_mem_digits {c : Char} (hc : c.isDigit = false) (n : Nat) : c ∉ (toString n).toList := by
  intro h
  rw [Nat.toString_eq_repr, Nat.toList_repr] at h
  have hdigit := Nat.isDigit_of_mem_toDigits (by decide) (by decide) h
  rw [hc] at hdigit
  cases hdigit

theorem not_mem_dumpNumber {c : Char} (hc : c.isDigit = false) (hopen : c ≠ '<') (hclose : c ≠ '>')
    (position : Nat) : c ∉ dumpNumber position := by
  have hdigits := not_mem_digits hc position
  simp only [dumpNumber, List.cons_append, List.mem_cons, List.mem_append, List.not_mem_nil, hopen,
    hclose, hdigits, or_self, not_false_eq_true]

theorem newline_not_mem_header (count : Nat) : '\n' ∉ dumpHeader count := by
  intro h
  have htext : '\n' ∉ "PARSED COMMAND LINE - TOTAL COMMANDS ".toList := by simp
  exact (List.mem_append.mp h).elim htext (not_mem_digits (by decide) count)

theorem newline_not_mem_args {args : List String} (h : ∀ word ∈ args, '\n' ∉ word.toList) :
    '\n' ∉ dumpArgs args := by
  cases args with
  | nil => exact List.not_mem_nil
  | cons first rest =>
    have hfirst := h first List.mem_cons_self
    have hrest (word : String) (hw : word ∈ rest) := h word (List.mem_cons_of_mem _ hw)
    simpa [dumpArgs_cons, intercalate_cons_eq_append, hfirst] using hrest

theorem newline_not_mem_line (position : Nat) {command : Command}
    (h : ∀ word ∈ command.name :: command.args, '\n' ∉ word.toList) :
    '\n' ∉ dumpLine position command := by
  have hnumber : '\n' ∉ dumpNumber position :=
    not_mem_dumpNumber (by decide) (by decide) (by decide) position
  have hname := h command.name List.mem_cons_self
  have hargs := newline_not_mem_args fun word hw => h word (List.mem_cons_of_mem _ hw)
  simp only [dumpLine, List.mem_cons, List.mem_append, Char.reduceEq, hnumber, hname, hargs,
    or_self, not_false_eq_true]

/-! ### Reading -/

theorem readArgs_dumpArgs {args : List String} (h : ∀ word ∈ args, ' ' ∉ word.toList) :
    readArgs (dumpArgs args) = args := by
  cases args with
  | nil => rfl
  | cons first rest =>
    let words := (first :: rest).map String.toList
    have hwords : ∀ word ∈ words, ' ' ∉ word := by simpa [words] using h
    have hcut : ([' '].intercalate words).splitOn ' ' = words :=
      List.splitOn_intercalate ' ' hwords (List.cons_ne_nil _ _)
    rw [dumpArgs_cons, readArgs, List.dropLast_concat, hcut, List.map_map]
    simp

theorem cut_at_space {text : List Char} (h : ' ' ∉ text) (rest : List Char) :
    (text ++ rest).takeWhile (· ≠ ' ') = text ++ rest.takeWhile (· ≠ ' ') ∧
      (text ++ rest).dropWhile (· ≠ ' ') = rest.dropWhile (· ≠ ' ') := by
  have hother : ∀ c ∈ text, decide (c ≠ ' ') = true := fun c hc =>
    decide_eq_true (ne_of_mem_of_not_mem hc h)
  exact ⟨List.takeWhile_append_of_pos hother, List.dropWhile_append_of_pos hother⟩

/-- A name in a dump ends where its arguments begin. -/
theorem cut_dumpArgs (args : List String) :
    (dumpArgs args).takeWhile (· ≠ ' ') = [] ∧
      (dumpArgs args).dropWhile (· ≠ ' ') = dumpArgs args := by
  cases args with
  | nil => exact ⟨rfl, rfl⟩
  | cons first rest =>
    rw [dumpArgs_cons]
    exact ⟨rfl, rfl⟩

theorem readLine_dumpLine (position : Nat) {command : Command}
    (h : ∀ word ∈ command.name :: command.args, ' ' ∉ word.toList) :
    readLine (dumpLine position command) = command := by
  have hnumber : ' ' ∉ dumpNumber position :=
    not_mem_dumpNumber (by decide) (by decide) (by decide) position
  have hbody : ((dumpLine position command).dropWhile (· ≠ ' ')).tail =
      command.name.toList ++ dumpArgs command.args := by
    rw [dumpLine, (cut_at_space hnumber _).2]
    rfl
  have hname := cut_at_space (h command.name List.mem_cons_self) (dumpArgs command.args)
  have hargs := cut_dumpArgs command.args
  rw [readLine, hbody, hname.1, hname.2, hargs.1, hargs.2, List.append_nil, String.ofList_toList,
    readArgs_dumpArgs fun word hw => h word (List.mem_cons_of_mem _ hw)]

theorem readLine_dumpLines (position : Nat) {commands : List Command}
    (h : ∀ command ∈ commands, ∀ word ∈ command.name :: command.args, ' ' ∉ word.toList) :
    (dumpLines position commands).map readLine = commands := by
  induction commands generalizing position with
  | nil => rfl
  | cons command rest ih =>
    rw [dumpLines_cons, List.map_cons, readLine_dumpLine position (h command List.mem_cons_self),
      ih (position + 1) fun later hl => h later (List.mem_cons_of_mem _ hl)]

/-- A dump without spaces and newlines in its words is read back as what it is of. -/
theorem readDump_dump {p : Pipeline} (h : p.PlainWords) : readDump p.dump = p.commands := by
  have hlines : ∀ line ∈ dumpHeader p.length :: dumpLines 1 p.commands, '\n' ∉ line := by
    intro line hline
    rcases List.mem_cons.mp hline with rfl | hline
    · exact newline_not_mem_header p.length
    · obtain ⟨⟨command, i⟩, hc, rfl⟩ := List.mem_map.mp hline
      have hcommand : command ∈ p.commands := List.fst_mem_of_mem_zipIdx hc
      exact newline_not_mem_line i fun word hw => (h command hcommand word hw).2
  rw [readDump, toList_dump, List.splitOn_intercalate '\n' hlines (List.cons_ne_nil _ _),
    List.tail_cons]
  exact readLine_dumpLines 1 fun command hc word hw => (h command hc word hw).1

/-- Of pipelines without spaces and newlines in their words, no two have the same dump. -/
theorem eq_of_dump_eq {p q : Pipeline} (hp : p.PlainWords) (hq : q.PlainWords)
    (h : p.dump = q.dump) : p = q := by
  have hcommands : p.commands = q.commands := by
    rw [← readDump_dump hp, ← readDump_dump hq, h]
  obtain ⟨first, rest⟩ := p
  obtain ⟨first', rest'⟩ := q
  exact (Pipeline.mk.injEq ..).mpr (List.cons.inj hcommands)

/-- Two ways to type brackets, numbers and empty words, with one dump. -/
theorem eq_of_dump_eq_typed :
    ∃ p q, Pipeline.ofLine 8 "'' '[<2>' ''|'|]'" = .ok p ∧
      Pipeline.ofLine 8 "\"\"  [<2> \"\" | \"|]\"" = .ok q ∧ p.dump = q.dump ∧ p = q := by
  have hplain : PlainWords ⟨⟨"", ["[<2>", ""]⟩, [⟨"|]", []⟩]⟩ := by
    simp [PlainWords, commands]
  exact ⟨_, _, rfl, rfl, rfl, eq_of_dump_eq hplain hplain rfl⟩

/-- With spaces in its words, an argument may look like two. -/
example : dump ⟨⟨"a", ["b c"]⟩, []⟩ = dump ⟨⟨"a", ["b", "c"]⟩, []⟩ := by decide

end PipeShell.Pipeline
