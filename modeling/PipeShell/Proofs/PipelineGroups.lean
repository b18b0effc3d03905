import Mathlib
import PipeShell.Pipeline

/-!
# Commands as tokens, and tokens as groups of words

The tokens of a pipeline are the words of its commands with one pipe between two commands. Grouping
these tokens at the pipes gives back the words of each command.
-/
namespace PipeShell

def Command.words (command : Command) : List String := command.name :: command.args

namespace Pipeline

def tailTokens (commands : List Command) : List Token :=
  commands.flatMap fun command => .pipe :: command.words.map .word

def tokens (p : Pipeline) : List Token := p.first.words.map .word ++ tailTokens p.rest

theorem tokens_ne_nil (p : Pipeline) : p.tokens ≠ [] := by
  simp [tokens, Command.words]

theorem groups_pipe (ts : List Token) : groups (.pipe :: ts) = [] :: groups ts := rfl

/-- Words join the group that they stand before. -/
theorem groups_words {ts : List Token} {group : List String} {others : List (List String)}
    (h : groups ts = group :: others) (words : List String) :
    groups (words.map .word ++ ts) = (words ++ group) :: others := by
  induction words with
  | nil => exact h
  | cons word words ih =>
    change addToken (.word word) (groups (words.map .word ++ ts)) = _
    rw [ih]
    rfl

theorem groups_tailTokens (commands : List Command) :
    groups (tailTokens commands) = [] :: commands.map Command.words := by
  induction commands with
  | nil => rfl
  | cons command commands ih =>
    have hw := groups_words ih command.words
    rw [List.append_nil] at hw
    rw [tailTokens, List.flatMap_cons, List.cons_append, groups_pipe, List.map_cons]
    exact congrArg ([] :: ·) hw

theorem groups_tokens (p : Pipeline) : groups p.tokens = p.commands.map Command.words := by
  have hw := groups_words (groups_tailTokens p.rest) p.first.words
  rwa [List.append_nil] at hw

theorem commandsOf_words (position : Nat) (commands : List Command) :
    commandsOf position (commands.map Command.words) = .ok commands := by
  induction commands generalizing position with
  | nil => rfl
  | cons command commands ih =>
    rw [List.map_cons, Command.words, commandsOf, ih]
    rfl

/-- The tokens of a pipeline give it back unless it has more commands than the limit. -/
theorem ofTokens_tokens (limit : Nat) (p : Pipeline) :
    ofTokens limit p.tokens =
      if p.length ≤ limit then .ok p else .error (.tooManyCommands limit) := by
  have hne : p.tokens.isEmpty = false := by simpa using p.tokens_ne_nil
  have hlen : (p.commands.map Command.words).length = p.length := by simp [length]
  rw [ofTokens, hne, groups_tokens, commandsOf_words, hlen]
  by_cases h : p.length ≤ limit
  · simp [h, Nat.not_lt.mpr h, commands]
  · simp [h, Nat.lt_of_not_ge h]

end Pipeline

end PipeShell
