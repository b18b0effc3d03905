import PipeShell.Proofs.PipelineGroups
import PipeShell.Proofs.TokenGrammar

/-!
# Lines that stand for a given pipeline

Every pipeline can be typed. There is no escape character, so a word is written as spans that touch,
each in the quote that it does not contain. The blank space between words and around pipes is free,
and reading the line gives the pipeline back.
-/
namespace PipeShell.Token

def enclosing (c : Char) : Char := if c = '"' then '\'' else '"'

theorem isQuote_enclosing (c : Char) : isQuote (enclosing c) = true := by
  unfold enclosing
  split_ifs <;> rfl

theorem enclosing_ne (c : Char) : enclosing c ≠ c := by
  unfold enclosing
  split_ifs with h
  · simp [h]
  · exact Ne.symm h

namespace Span

def single (c : Char) : Span := ⟨enclosing c, [c], isQuote_enclosing c, by simp [enclosing_ne]⟩

def prepend (c : Char) (span : Span) (h : span.quote ≠ c) : Span :=
  ⟨span.quote, c :: span.content, span.isQuote_quote, by simp [h, span.quote_notMem]⟩

end Span

/-- Spans that write a text. A new one begins only where a span would have to hold its own quote. -/
def spansOf : List Char → List Span
  | [] => []
  | c :: cs =>
    match spansOf cs with
    | [] => [.single c]
    | span :: spans =>
      if h : span.quote = c then .single c :: span :: spans else .prepend c span h :: spans

theorem spansOf_content (cs : List Char) : (spansOf cs).flatMap Span.content = cs := by
  induction cs with
  | nil => rfl
  | cons c cs ih =>
    rw [spansOf]
    split
    · next h =>
      rw [h] at ih
      simpa [Span.single] using ih
    · next span spans h =>
      rw [h] at ih
      split_ifs with hc
      · simpa [Span.single] using ih
      · simpa [Span.prepend] using ih

def wordItem (word : String) : Item :=
  match spansOf word.toList with
  | [] => .word (.quoted .empty) []
  | span :: spans => .word (.quoted span) (spans.map .quoted)

theorem token?_wordItem (word : String) : (wordItem word).token? = some (.word word) := by
  have hc := spansOf_content word.toList
  unfold wordItem
  split
  · next h =>
    rw [h, List.flatMap_nil] at hc
    have he : word = "" := by rw [← String.toList_inj, ← hc]; rfl
    rw [he]
    rfl
  · next span spans h =>
    rw [h] at hc
    have ht : (Piece.quoted span :: spans.map Piece.quoted).flatMap Piece.text = word.toList := by
      rw [← hc, List.flatMap_cons, List.flatMap_cons, List.flatMap_map]
      rfl
    rw [Item.token?, ht, String.ofList_toList]

abbrev Blank := { c : Char // Text.isBlank c = true }

def blankItem (blank : Blank) : Item := .blank blank.1 blank.2

theorem separated_blanks {items : List Item} (h : Separated items) (blanks : List Blank) :
    Separated (blanks.map blankItem ++ items) := by
  induction blanks with
  | nil => exact h
  | cons blank blanks ih => exact separated_cons rfl ih

theorem apart_blanks {items : List Item} (h : Apart items) (blanks : List Blank) :
    Apart (blanks.map blankItem ++ items) := by
  cases blanks with
  | nil => exact h
  | cons blank blanks => exact apart_cons rfl

theorem separated_wordItem_cons {items : List Item} (ha : Apart items) (hs : Separated items)
    (word : String) : Separated (wordItem word :: items) := by
  unfold wordItem
  split <;> exact separated_word_cons ha hs

theorem tokens_blanks (blanks : List Blank) (items : List Item) :
    (blanks.map blankItem ++ items).filterMap Item.token? = items.filterMap Item.token? := by
  induction blanks with
  | nil => rfl
  | cons blank blanks ih => exact ih

end Token

namespace Pipeline

open Token

/-- The blank space of a line: at least one blank before each argument, and any number of blanks
around each pipe. Commands and arguments are counted from 0. -/
structure Layout where
  /-- The blanks before an argument of a command: one, and any others. -/
  gap : Nat → Nat → Blank × List Blank
  /-- The blanks between a command and the pipe that follows it. -/
  beforePipe : Nat → List Blank
  /-- The blanks between that pipe and the next command. -/
  afterPipe : Nat → List Blank

namespace Layout

def argItems (layout : Layout) (i : Nat) : Nat → List String → List Item
  | _, [] => []
  | j, arg :: args =>
    blankItem (layout.gap i j).1 :: ((layout.gap i j).2.map blankItem ++
      wordItem arg :: layout.argItems i (j + 1) args)

def commandItems (layout : Layout) (i : Nat) (command : Command) : List Item :=
  wordItem command.name :: layout.argItems i 0 command.args

def tailItems (layout : Layout) : Nat → List Command → List Item
  | _, [] => []
  | i, command :: commands =>
    (layout.beforePipe i).map blankItem ++ .pipe :: ((layout.afterPipe i).map blankItem ++
      (layout.commandItems (i + 1) command ++ layout.tailItems (i + 1) commands))

def items (layout : Layout) (p : Pipeline) : List Item :=
  layout.commandItems 0 p.first ++ layout.tailItems 0 p.rest

def render (layout : Layout) (p : Pipeline) : String :=
  String.ofList ((layout.items p).flatMap Item.source)

variable (layout : Layout)

/-- Arguments can follow a word and keep apart whatever can follow a word. -/
theorem argItems_separated (i j : Nat) (args : List String) {items : List Item}
    (ha : Apart items) (hs : Separated items) :
    Apart (layout.argItems i j args ++ items) ∧ Separated (layout.argItems i j args ++ items) := by
  induction args generalizing j with
  | nil => exact ⟨ha, hs⟩
  | cons arg args ih =>
    obtain ⟨hra, hrs⟩ := ih (j + 1)
    have hw := separated_wordItem_cons hra hrs arg
    rw [argItems, List.cons_append, List.append_assoc]
    exact ⟨apart_cons rfl, separated_cons rfl (separated_blanks hw _)⟩

theorem commandItems_separated (i : Nat) (command : Command) {items : List Item}
    (ha : Apart items) (hs : Separated items) :
    Separated (layout.commandItems i command ++ items) := by
  obtain ⟨hra, hrs⟩ := layout.argItems_separated i 0 command.args ha hs
  exact separated_wordItem_cons hra hrs command.name

theorem tailItems_separated (i : Nat) (commands : List Command) :
    Apart (layout.tailItems i commands) ∧ Separated (layout.tailItems i commands) := by
  induction commands generalizing i with
  | nil => exact ⟨by simp [Apart, tailItems], separated_nil⟩
  | cons command commands ih =>
    obtain ⟨ha, hs⟩ := ih (i + 1)
    have hc := layout.commandItems_separated (i + 1) command ha hs
    exact ⟨apart_blanks (apart_cons rfl) _,
      separated_blanks (separated_cons rfl (separated_blanks hc _)) _⟩

theorem items_separated (p : Pipeline) : Separated (layout.items p) := by
  obtain ⟨ha, hs⟩ := layout.tailItems_separated 0 p.rest
  exact layout.commandItems_separated 0 p.first ha hs

theorem argItems_tokens (i j : Nat) (args : List String) :
    (layout.argItems i j args).filterMap Item.token? = args.map .word := by
  induction args generalizing j with
  | nil => rfl
  | cons arg args ih =>
    rw [argItems, List.filterMap_cons_none rfl, tokens_blanks,
      List.filterMap_cons_some (token?_wordItem arg), ih, List.map_cons]

theorem commandItems_tokens (i : Nat) (command : Command) :
    (layout.commandItems i command).filterMap Item.token? = command.words.map .word := by
  rw [commandItems, List.filterMap_cons_some (token?_wordItem _), argItems_tokens]
  rfl

theorem tailItems_tokens (i : Nat) (commands : List Command) :
    (layout.tailItems i commands).filterMap Item.token? = tailTokens commands := by
  induction commands generalizing i with
  | nil => rfl
  | cons command commands ih =>
    have hp : Item.token? .pipe = some .pipe := rfl
    rw [tailItems, tokens_blanks, List.filterMap_cons_some hp, tokens_blanks,
      List.filterMap_append, commandItems_tokens, ih]
    rfl

theorem items_tokens (p : Pipeline) : (layout.items p).filterMap Item.token? = p.tokens := by
  rw [items, List.filterMap_append, commandItems_tokens, tailItems_tokens]
  rfl

theorem items_divide (p : Pipeline) :
    Divides (layout.items p) (layout.render p).toList p.tokens where
  separated := layout.items_separated p
  source_eq := by rw [render, String.toList_ofList]
  tokens_eq := layout.items_tokens p

end Layout

/-- Whatever its blank space, a line that stands for a pipeline is read as that pipeline, name by
name and argument by argument, and refused only if the limit is smaller than its length. -/
theorem ofLine_render (layout : Layout) (limit : Nat) (p : Pipeline) :
    ofLine limit (layout.render p) =
      if p.length ≤ limit then .ok p else .error (.tooManyCommands limit) := by
  rw [ofLine, ofLine_of_divides (layout.items_divide p)]
  exact ofTokens_tokens limit p

end Pipeline

end PipeShell
