import Mathlib
import PipeShell.Builtin.Run

/-!
# The arguments of `exit` and `cd`

What a built-in does on an argument list follows from how the list is read. `exit` is refused only for
an option in front of all else, and where no argument can be an option, `cd` takes the words that do
not ask for help: one is its target, and the second is refused.
-/
namespace PipeShell

namespace OptionGrammar

variable {grammar : OptionGrammar} {reading : Reading} {argument : String} {args rest : List String}

theorem readFrom_help (he : reading.optionsEnded = false) (hh : isHelp argument = true) :
    readFrom grammar reading (argument :: rest) =
      readFrom grammar { reading with helpAsked := true } rest := by
  rw [readFrom, he, hh]
  rfl

theorem readFrom_positional (hh : isHelp argument = false) (hd : argument.startsWith "-" = false) :
    readFrom grammar reading (argument :: rest) =
      match addPositional grammar reading argument with
      | .ok next => readFrom grammar next rest
      | .error cause => .error (.refused cause) := by
  rw [readFrom, hh, hd]
  cases addPositional grammar reading argument <;> simp

theorem readFrom_mark (he : reading.optionsEnded = false) :
    readFrom grammar reading ("--" :: rest) =
      readFrom grammar { reading with optionsEnded := true } rest := by
  rw [readFrom, he]
  simp [isHelp]

/-- Once the options have ended, a grammar that takes any number of arguments refuses none. -/
theorem readFrom_ended (hg : grammar.positionals = .rest) (reading : Reading)
    (he : reading.optionsEnded = true) (hh : reading.helpAsked = false) (args : List String) :
    ∃ values, readFrom grammar reading args = .ok values := by
  induction args generalizing reading with
  | nil => exact ⟨reading.values, by rw [readFrom, hh]; rfl⟩
  | cons argument rest ih =>
    simp only [readFrom, he, addPositional, hg]
    exact ih _ rfl hh

def withoutHelp (args : List String) : List String := args.filter fun argument => !isHelp argument

theorem withoutHelp_of_help (hh : isHelp argument = true) :
    withoutHelp (argument :: rest) = withoutHelp rest := by
  simp [withoutHelp, hh]

theorem withoutHelp_of_word (hh : isHelp argument = false) :
    withoutHelp (argument :: rest) = argument :: withoutHelp rest := by
  simp [withoutHelp, hh]

section AtMostOne

variable (hg : grammar.positionals = .atMostOne)
  (hd : ∀ argument ∈ args, argument.startsWith "-" = false)

include hg

theorem addPositional_first (hp : reading.values.positionals = []) (argument : String) :
    addPositional grammar reading argument =
      .ok { reading with values := { reading.values with positionals := [argument] } } := by
  simp [addPositional, hg, hp]

theorem addPositional_second {taken : String} (hp : reading.values.positionals = [taken])
    (argument : String) :
    addPositional grammar reading argument = .error (.unrecognized argument) := by
  simp [addPositional, hg, hp]

include hd

theorem readFrom_surplus (reading : Reading) (he : reading.optionsEnded = false)
    {first second : String} {later : List String}
    (hw : reading.values.positionals ++ withoutHelp args = first :: second :: later)
    (hl : reading.values.positionals.length ≤ 1) :
    readFrom grammar reading args = .error (.refused (.unrecognized second)) := by
  induction args generalizing reading with
  | nil =>
    have hlen := congrArg List.length hw
    simp only [withoutHelp, List.filter_nil, List.append_nil, List.length_cons] at hlen
    omega
  | cons argument rest ih =>
    have hrest : ∀ later ∈ rest, later.startsWith "-" = false := fun later hm =>
      hd later (List.mem_cons_of_mem _ hm)
    cases hh : isHelp argument with
    | true =>
      rw [withoutHelp_of_help hh] at hw
      rw [readFrom_help he hh]
      exact ih hrest _ he hw hl
    | false =>
      rw [withoutHelp_of_word hh] at hw
      rw [readFrom_positional hh (hd argument List.mem_cons_self)]
      cases hp : reading.values.positionals with
      | nil =>
        rw [hp, List.nil_append] at hw
        rw [addPositional_first hg hp]
        exact ih hrest _ he hw (Nat.le_refl 1)
      | cons taken others =>
        obtain rfl : others = [] := by simpa [hp] using hl
        rw [hp, List.singleton_append, List.cons.injEq, List.cons.injEq] at hw
        obtain ⟨-, rfl, -⟩ := hw
        rw [addPositional_second hg hp]

/-- Up to one word that does not ask for help is taken, and help is given after all were read. -/
theorem readFrom_fitting (reading : Reading) (he : reading.optionsEnded = false)
    (hw : (reading.values.positionals ++ withoutHelp args).length ≤ 1) :
    readFrom grammar reading args =
      if reading.helpAsked || args.any isHelp then .error (.help grammar.help)
      else .ok { reading.values with
        positionals := reading.values.positionals ++ withoutHelp args } := by
  induction args generalizing reading with
  | nil => simp [readFrom, withoutHelp]
  | cons argument rest ih =>
    have hrest : ∀ later ∈ rest, later.startsWith "-" = false := fun later hm =>
      hd later (List.mem_cons_of_mem _ hm)
    cases hh : isHelp argument with
    | true =>
      rw [withoutHelp_of_help hh] at hw ⊢
      rw [readFrom_help he hh, ih hrest { reading with helpAsked := true } he hw]
      simp [hh]
    | false =>
      rw [withoutHelp_of_word hh] at hw ⊢
      have hp : reading.values.positionals = [] := by
        rw [← List.length_eq_zero_iff]
        simp only [List.length_append, List.length_cons] at hw
        omega
      rw [hp, List.nil_append] at hw ⊢
      rw [readFrom_positional hh (hd argument List.mem_cons_self), addPositional_first hg hp]
      refine (ih hrest { reading with
        values := { reading.values with positionals := [argument] } } he hw).trans ?_
      simp [hh]

end AtMostOne

end OptionGrammar

namespace Builtin

open OptionGrammar ShellM

variable {σ : Type} {host : Host σ} {args : List String}

/-- The first argument, if it is read as an option: it begins with a dash and is not the mark `--` that
ends the options. -/
def leadingOption? (args : List String) : Option String :=
  args.head?.filter fun first => first.startsWith "-" && first ≠ "--"

/-- Without an option in front `exit` takes any arguments. -/
theorem run_exit (hh : ∀ argument ∈ args, isHelp argument = false)
    (ho : leadingOption? args = none) :
    run host .exit args = (do endSession; return 0) := by
  have hread : ∃ values, exit.grammar.read args = .ok values := by
    cases args with
    | nil => exact ⟨_, rfl⟩
    | cons first rest =>
      have hfirst := hh first List.mem_cons_self
      cases hd : first.startsWith "-" with
      | false =>
        rw [OptionGrammar.read, readFrom_positional hfirst hd]
        exact readFrom_ended rfl _ rfl rfl rest
      | true =>
        obtain rfl : first = "--" := by
          simp only [leadingOption?, List.head?_cons, Option.filter_some, hd] at ho
          simpa using ho
        rw [OptionGrammar.read, readFrom_mark rfl]
        exact readFrom_ended rfl _ rfl rfl rest
  obtain ⟨values, hv⟩ := hread
  rw [run, hv]
  rfl

theorem run_exit_refused {option : String} (hh : ∀ argument ∈ args, isHelp argument = false)
    (ho : leadingOption? args = some option) :
    run host .exit args = fail host (Text.trimEnd (OptionError.unrecognized option).message) := by
  obtain ⟨hfirst, hoption⟩ := Option.filter_eq_some_iff.mp ho
  obtain ⟨rest, rfl⟩ := List.head?_eq_some_iff.mp hfirst
  have hhelp := hh option List.mem_cons_self
  have hread : exit.grammar.read (option :: rest) = .error (.refused (.unrecognized option)) := by
    simp only [Bool.and_eq_true, decide_eq_true_eq] at hoption
    simp [OptionGrammar.read, readFrom, hhelp, hoption, Builtin.grammar]
  rw [run, hread]

variable (hd : ∀ argument ∈ args, argument.startsWith "-" = false)

theorem run_cd {target : String} (ht : target ≠ "help") (hd : target.startsWith "-" = false) :
    run host .cd [target] = changeTo host [target] := by
  have hdash : ∀ argument ∈ [target], argument.startsWith "-" = false := by simpa using hd
  have hh : isHelp target = false := by
    have hne : target ≠ "--help" := by
      rintro rfl
      simp at hd
    simp [isHelp, ht, hne]
  have hread : cd.grammar.read [target] = .ok { positionals := [target] } := by
    have hw : withoutHelp [target] = [target] := by simp [withoutHelp, hh]
    rw [OptionGrammar.read, readFrom_fitting rfl hdash {} rfl (by simp [hw]), hw]
    simp [hh]
  rw [run, hread]
  rfl

include hd

theorem run_cd_surplus {first second : String} {later : List String}
    (hw : withoutHelp args = first :: second :: later) :
    run host .cd args = fail host (Text.trimEnd (OptionError.unrecognized second).message) := by
  have hread : cd.grammar.read args = .error (.refused (.unrecognized second)) :=
    readFrom_surplus rfl hd {} rfl hw (Nat.zero_le 1)
  rw [run, hread]

theorem run_cd_help (hh : "help" ∈ args) (hw : (withoutHelp args).length ≤ 1) :
    run host .cd args = (do printLine host .out (Text.trimEnd cd.helpText); return 0) := by
  have hany : args.any isHelp = true := List.any_eq_true.mpr ⟨"help", hh, by decide⟩
  have hread : cd.grammar.read args = .error (.help cd.helpText) := by
    rw [OptionGrammar.read, readFrom_fitting rfl hd {} rfl hw, hany]
    rfl
  rw [run, hread]

end Builtin

end PipeShell
