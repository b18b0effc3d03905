import PipeShell.Proofs.PipelineGroups

/-!
# Which tokens are a pipeline

Pipes cut a token list into runs of words. Main statement: the list is a pipeline when it has a token,
there are not more runs than the limit and no run is empty, and its commands are then the runs; the
first of these conditions that fails is the reason for a refusal.
-/
namespace PipeShell.Pipeline

variable {limit position : Nat} {tokens : List Token} {gs : List (List String)}
  {commands : List Command}

def joined (commands : List Command) : List Token :=
  [.pipe].intercalate (commands.map fun command => command.words.map .word)

theorem tokens_eq_joined (p : Pipeline) : p.tokens = joined p.commands := by
  obtain ⟨first, rest⟩ := p
  unfold tokens commands joined
  induction rest generalizing first with
  | nil => simp [tailTokens]
  | cons next rest ih =>
    have hrest := ih next
    simp only [List.map_cons] at hrest ⊢
    rw [List.intercalate_cons_cons, ← hrest]
    simp [tailTokens]

/-! ### Runs of words -/

theorem groups_ne_nil (tokens : List Token) : groups tokens ≠ [] := by
  cases tokens with
  | nil => simp [groups]
  | cons token ts =>
    change addToken token (groups ts) ≠ []
    cases token with
    | pipe => simp [addToken]
    | word text => cases groups ts <;> simp [addToken]

/-- The groups are the runs of words between the pipes. -/
theorem map_groups (tokens : List Token) :
    (groups tokens).map (List.map .word) = tokens.splitOn .pipe := by
  induction tokens with
  | nil => rfl
  | cons token ts ih =>
    have hcons : groups (token :: ts) = addToken token (groups ts) := rfl
    rw [List.splitOn] at ih ⊢
    rw [List.splitOnP_cons_eq_if_modifyHead, ← ih, hcons]
    cases token with
    | pipe => rfl
    | word text =>
      obtain ⟨group, others, hg⟩ := List.exists_cons_of_ne_nil (groups_ne_nil ts)
      rw [hg]
      rfl

theorem length_groups (tokens : List Token) :
    (groups tokens).length = tokens.count .pipe + 1 := by
  induction tokens with
  | nil => rfl
  | cons token ts ih =>
    have hcons : groups (token :: ts) = addToken token (groups ts) := rfl
    rw [hcons]
    cases token with
    | pipe =>
      rw [List.count_cons_self, ← ih]
      rfl
    | word text =>
      have hne : Token.word text ≠ .pipe := by simp
      obtain ⟨group, others, hg⟩ := List.exists_cons_of_ne_nil (groups_ne_nil ts)
      rw [List.count_cons_of_ne hne, ← ih, hg]
      rfl

theorem length_runs (tokens : List Token) :
    (tokens.splitOn .pipe).length = tokens.count .pipe + 1 := by
  rw [← map_groups, List.length_map, length_groups]

theorem joined_of_groups (h : groups tokens = commands.map Command.words) :
    joined commands = tokens := by
  have hruns := map_groups tokens
  rw [h, List.map_map] at hruns
  have hjoin : [Token.pipe].intercalate (tokens.splitOn .pipe) = tokens :=
    List.intercalate_splitOn Token.pipe
  rw [← hruns] at hjoin
  exact hjoin

/-! ### Commands of the runs -/

theorem words_of_commandsOf (h : commandsOf position gs = .ok commands) :
    gs = commands.map Command.words := by
  induction gs generalizing position commands with
  | nil =>
    obtain rfl := Except.ok.inj h
    rfl
  | cons group rest ih =>
    cases group with
    | nil => cases h
    | cons name args =>
      rw [commandsOf] at h
      cases hr : commandsOf (position + 1) rest with
      | error cause =>
        rw [hr] at h
        cases h
      | ok others =>
        rw [hr] at h
        obtain rfl := Except.ok.inj h
        rw [ih hr]
        rfl

/-- The groups before the first empty one have commands, and it is refused at its position. -/
theorem commandsOf_empty (position : Nat) {before after : List (List String)} (hb : [] ∉ before) :
    commandsOf position (before ++ [] :: after) =
      .error (.emptyCommand (position + before.length)) := by
  induction before generalizing position with
  | nil => rfl
  | cons group before ih =>
    cases group with
    | nil => exact absurd List.mem_cons_self hb
    | cons name args =>
      have hrest := ih (position + 1) fun hm => hb (List.mem_cons_of_mem _ hm)
      rw [List.cons_append, commandsOf, hrest, List.length_cons, Nat.add_right_comm]
      rfl

theorem commandsOf_full (position : Nat) (h : [] ∉ gs) :
    ∃ commands, commandsOf position gs = .ok commands := by
  induction gs generalizing position with
  | nil => exact ⟨[], rfl⟩
  | cons group rest ih =>
    cases group with
    | nil => exact absurd List.mem_cons_self h
    | cons name args =>
      obtain ⟨others, hr⟩ := ih (position + 1) fun hm => h (List.mem_cons_of_mem _ hm)
      rw [commandsOf, hr]
      exact ⟨⟨name, args⟩ :: others, rfl⟩

/-! ### What a token list comes to -/

/-- The four things that a token list can come to. -/
inductive Verdict (limit : Nat) (tokens : List Token) : Except ParseError Pipeline → Prop
  | nothing : tokens = [] → Verdict limit tokens (.error .noCommands)
  | tooLong : tokens ≠ [] → limit < tokens.count .pipe + 1 →
    Verdict limit tokens (.error (.tooManyCommands limit))
  | gap {before after : List (List Token)} : tokens ≠ [] → tokens.count .pipe + 1 ≤ limit →
    tokens.splitOn .pipe = before ++ [] :: after → [] ∉ before →
    Verdict limit tokens (.error (.emptyCommand (before.length + 1)))
  | built {p : Pipeline} : p.length ≤ limit → joined p.commands = tokens →
    Verdict limit tokens (.ok p)

theorem ofTokens_of_verdict {result : Except ParseError Pipeline}
    (h : Verdict limit tokens result) : ofTokens limit tokens = result := by
  cases h with
  | nothing he =>
    rw [he]
    rfl
  | tooLong hne hl =>
    rw [← length_groups] at hl
    rw [ofTokens, if_neg (by simpa using hne), if_pos hl]
  | @gap before after hne hl hs hb =>
    rw [← map_groups] at hs
    obtain ⟨bs, rest, hg, rfl, hr⟩ := List.map_eq_append_iff.mp hs
    obtain ⟨group, later, rfl, he, -⟩ := List.map_eq_cons_iff.mp hr
    obtain rfl := List.map_eq_nil_iff.mp he
    have hbs : [] ∉ bs := fun hm => hb (List.mem_map.mpr ⟨[], hm, rfl⟩)
    rw [← length_groups] at hl
    rw [ofTokens, if_neg (by simpa using hne), if_neg (Nat.not_lt.mpr hl), hg,
      commandsOf_empty 1 hbs, List.length_map, Nat.add_comm]
  | @built p hl hj =>
    rw [← hj, ← tokens_eq_joined, ofTokens_tokens, if_pos hl]

theorem exists_verdict (limit : Nat) (tokens : List Token) :
    ∃ result, Verdict limit tokens result := by
  by_cases hne : tokens = []
  · exact ⟨_, .nothing hne⟩
  by_cases hl : limit < tokens.count .pipe + 1
  · exact ⟨_, .tooLong hne hl⟩
  have hfit : tokens.count .pipe + 1 ≤ limit := Nat.le_of_not_lt hl
  by_cases hgap : [] ∈ groups tokens
  · obtain ⟨before, after, hg, hb⟩ := List.eq_append_cons_of_mem hgap
    have hs : tokens.splitOn .pipe =
        before.map (List.map .word) ++ [] :: after.map (List.map .word) := by
      rw [← map_groups, hg, List.map_append, List.map_cons, List.map_nil]
    exact ⟨_, .gap hne hfit hs (by simpa using hb)⟩
  · obtain ⟨commands, hc⟩ := commandsOf_full 1 hgap
    have hw := words_of_commandsOf hc
    cases commands with
    | nil => exact absurd hw (groups_ne_nil tokens)
    | cons first rest =>
      have hlen : (first :: rest).length = tokens.count .pipe + 1 := by
        rw [← length_groups, hw, List.length_map]
      exact ⟨.ok ⟨first, rest⟩, .built (hlen.trans_le hfit) (joined_of_groups hw)⟩

theorem ofTokens_eq_iff {result : Except ParseError Pipeline} :
    ofTokens limit tokens = result ↔ Verdict limit tokens result := by
  refine ⟨fun h => ?_, ofTokens_of_verdict⟩
  obtain ⟨found, hv⟩ := exists_verdict limit tokens
  rwa [← h, ofTokens_of_verdict hv]

theorem ofTokens_eq_noCommands_iff :
    ofTokens limit tokens = .error .noCommands ↔ tokens = [] := by
  rw [ofTokens_eq_iff]
  constructor
  · intro h
    cases h with
    | nothing he => exact he
  · exact .nothing

theorem ofTokens_eq_tooManyCommands_iff {bound : Nat} :
    ofTokens limit tokens = .error (.tooManyCommands bound) ↔
      tokens ≠ [] ∧ limit < (tokens.splitOn .pipe).length ∧ bound = limit := by
  rw [ofTokens_eq_iff, length_runs]
  constructor
  · intro h
    cases h with
    | tooLong hne hl => exact ⟨hne, hl, rfl⟩
  · rintro ⟨hne, hl, rfl⟩
    exact .tooLong hne hl

theorem ofTokens_eq_emptyCommand_iff :
    ofTokens limit tokens = .error (.emptyCommand position) ↔
      tokens ≠ [] ∧ (tokens.splitOn .pipe).length ≤ limit ∧
        ∃ before after, tokens.splitOn .pipe = before ++ [] :: after ∧ [] ∉ before ∧
          position = before.length + 1 := by
  rw [ofTokens_eq_iff, length_runs]
  constructor
  · intro h
    cases h with
    | gap hne hl hs hb => exact ⟨hne, hl, _, _, hs, hb, rfl⟩
  · rintro ⟨hne, hl, before, after, hs, hb, rfl⟩
    exact .gap hne hl hs hb

theorem ofTokens_eq_ok_iff {p : Pipeline} :
    ofTokens limit tokens = .ok p ↔ joined p.commands = tokens ∧ p.length ≤ limit := by
  rw [ofTokens_eq_iff]
  constructor
  · intro h
    cases h with
    | built hl hj => exact ⟨hj, hl⟩
  · rintro ⟨hj, hl⟩
    exact .built hl hj

theorem runs_tokens (p : Pipeline) :
    (p.tokens.splitOn .pipe).length = p.length ∧ [] ∉ p.tokens.splitOn .pipe := by
  have hruns : p.tokens.splitOn .pipe = p.commands.map fun command => command.words.map .word := by
    rw [← map_groups, groups_tokens, List.map_map]
    rfl
  rw [hruns]
  refine ⟨List.length_map _, fun hm => ?_⟩
  obtain ⟨command, -, hc⟩ := List.mem_map.mp hm
  simp [Command.words] at hc

theorem exists_pipeline_iff :
    (∃ p, ofTokens limit tokens = .ok p) ↔
      tokens ≠ [] ∧ (tokens.splitOn .pipe).length ≤ limit ∧ [] ∉ tokens.splitOn .pipe := by
  constructor
  · rintro ⟨p, hp⟩
    obtain ⟨hj, hl⟩ := ofTokens_eq_ok_iff.mp hp
    obtain rfl : p.tokens = tokens := p.tokens_eq_joined.trans hj
    obtain ⟨hcount, hfull⟩ := runs_tokens p
    exact ⟨p.tokens_ne_nil, hcount.trans_le hl, hfull⟩
  · rintro ⟨hne, hl, hfull⟩
    rw [length_runs] at hl
    obtain ⟨result, h⟩ := exists_verdict limit tokens
    rw [ofTokens_of_verdict h]
    cases h with
    | nothing he => exact absurd he hne
    | tooLong _ hlong => exact absurd hlong (Nat.not_lt.mpr hl)
    | gap _ _ hs _ => exact absurd (by rw [hs]; simp) hfull
    | @built p _ _ => exact ⟨p, rfl⟩

/-- A quote that is left open comes before all other reasons. -/
theorem ofLine_eq_unterminatedQuote_iff {line : String} {found : UnterminatedQuote} :
    ofLine limit line = .error (.unterminatedQuote found) ↔ Token.ofLine line = .error found := by
  unfold ofLine
  cases Token.ofLine line with
  | error other => simp
  | ok tokens =>
    have hnever : ofTokens limit tokens ≠ .error (.unterminatedQuote found) := fun h => by
      cases ofTokens_eq_iff.mp h
    simpa using hnever

/-- A token list is the pipeline whose commands it joins, or else it is refused: it is empty, or it has
more runs than the limit allows, or the first of its empty runs is named. Before all that comes a quote
that is left open. -/
theorem ofTokens_exact (limit : Nat) (tokens : List Token) :
    let runs := tokens.splitOn .pipe
    let result := ofTokens limit tokens
    runs.length = tokens.count .pipe + 1 ∧
    (result = .error .noCommands ↔ tokens = []) ∧
    (∀ bound, result = .error (.tooManyCommands bound) ↔
      tokens ≠ [] ∧ limit < runs.length ∧ bound = limit) ∧
    (∀ position, result = .error (.emptyCommand position) ↔
      tokens ≠ [] ∧ runs.length ≤ limit ∧
        ∃ before after, runs = before ++ [] :: after ∧ [] ∉ before ∧
          position = before.length + 1) ∧
    (∀ p, result = .ok p ↔ joined p.commands = tokens ∧ p.length ≤ limit) ∧
    ((∃ p, result = .ok p) ↔ tokens ≠ [] ∧ runs.length ≤ limit ∧ [] ∉ runs) ∧
    (∀ p, result = .ok p → 1 ≤ p.length ∧ p.length ≤ limit) ∧
    ∀ line, (Token.ofLine line = .ok tokens → ofLine limit line = result) ∧
      ∀ cause, ofLine limit line = .error (.unterminatedQuote cause) ↔
        Token.ofLine line = .error cause := by
  intro runs result
  refine ⟨length_runs tokens, ofTokens_eq_noCommands_iff, fun _ => ofTokens_eq_tooManyCommands_iff,
    fun _ => ofTokens_eq_emptyCommand_iff, fun _ => ofTokens_eq_ok_iff, exists_pipeline_iff,
    fun p hp => ?_, fun line => ⟨fun ht => ?_, fun _ => ofLine_eq_unterminatedQuote_iff⟩⟩
  · exact ⟨p.length_pos, (ofTokens_eq_ok_iff.mp hp).2⟩
  · rw [ofLine, ht]

example : ofTokens 3 [.word "", .pipe, .pipe, .word "x"] = .error (.emptyCommand 2) := rfl

end PipeShell.Pipeline
