import PipeShell.Proofs.TokenScan

/-!
# The quoting grammar of a line

A line is a sequence of blanks, pipes and words, and a word is a sequence of plain characters and
quoted spans. Two words never touch, so each word is as long as it can be. The scan accepts exactly
the lines that can be divided in this way, and gives the tokens of the division.
-/
namespace PipeShell.Token

structure Span where
  quote : Char
  content : List Char
  isQuote_quote : isQuote quote = true
  quote_notMem : quote ∉ content

def Span.source (span : Span) : List Char := span.quote :: (span.content ++ [span.quote])

def Span.empty : Span := ⟨'"', [], rfl, by simp⟩

/-- A part of a word. -/
inductive Piece where
  | plain (c : Char) (h : isPlain c = true)
  | quoted (span : Span)

namespace Piece

def source : Piece → List Char
  | plain c _ => [c]
  | quoted span => span.source

def text : Piece → List Char
  | plain c _ => [c]
  | quoted span => span.content

end Piece

/-- A part of a line; a word has at least one piece. -/
inductive Item where
  | blank (c : Char) (h : Text.isBlank c = true)
  | pipe
  | word (first : Piece) (rest : List Piece)

namespace Item

def source : Item → List Char
  | blank c _ => [c]
  | pipe => ['|']
  | word first rest => (first :: rest).flatMap Piece.source

def token? : Item → Option Token
  | blank _ _ => none
  | pipe => some .pipe
  | word first rest => some (.word (String.ofList ((first :: rest).flatMap Piece.text)))

def isWord : Item → Bool
  | word _ _ => true
  | _ => false

end Item

/-- No two words stand next to each other. -/
def Separated (items : List Item) : Prop :=
  items.IsChain fun a b => ¬ (a.isWord = true ∧ b.isWord = true)

/-- The items can follow a word. -/
def Apart (items : List Item) : Prop := ∀ item ∈ items.head?, item.isWord = false

/-- The items divide the line, and these are their tokens. -/
structure Divides (items : List Item) (line : List Char) (tokens : List Token) : Prop where
  separated : Separated items
  source_eq : items.flatMap Item.source = line
  tokens_eq : items.filterMap Item.token? = tokens

theorem separated_nil : Separated [] := List.isChain_nil

theorem separated_cons {item : Item} {items : List Item} (h : item.isWord = false)
    (hs : Separated items) : Separated (item :: items) := by
  cases items with
  | nil => exact List.isChain_singleton _
  | cons next items => exact List.isChain_cons_cons.mpr ⟨by simp [h], hs⟩

theorem separated_word_cons {first : Piece} {rest : List Piece} {items : List Item}
    (ha : Apart items) (hs : Separated items) : Separated (.word first rest :: items) := by
  cases items with
  | nil => exact List.isChain_singleton _
  | cons next items =>
    have hn : next.isWord = false := ha next (by simp)
    exact List.isChain_cons_cons.mpr ⟨by simp [hn], hs⟩

theorem Separated.tail {item : Item} {items : List Item} (h : Separated (item :: items)) :
    Separated items := List.IsChain.of_cons h

theorem Separated.apart {first : Piece} {rest : List Piece} {items : List Item}
    (h : Separated (.word first rest :: items)) : Apart items := by
  cases items with
  | nil => simp [Apart]
  | cons next items =>
    have hn := (List.isChain_cons_cons.mp h).1
    simpa [Apart, Item.isWord] using hn

theorem apart_cons {item : Item} {items : List Item} (h : item.isWord = false) :
    Apart (item :: items) := by
  simpa [Apart] using h

theorem ofList_push (cs : List Char) (c : Char) :
    (String.ofList cs).push c = String.ofList (cs ++ [c]) := by
  rw [← String.toList_inj]
  simp

theorem scanFrom_quoted_content (quote : Char) (opened : Nat) (content text : List Char)
    (h : quote ∉ content) (offset : Nat) (cs : List Char) :
    scanFrom (.quoted quote opened (String.ofList text)) offset (content ++ quote :: cs) =
      scanFrom (.word (String.ofList (text ++ content)))
        (offset + (String.utf8Len content + quote.utf8Size)) cs := by
  induction content generalizing text offset with
  | nil => simp [scanFrom_quoted_close]
  | cons c content ih =>
    have hc : c ≠ quote := fun he => h (by simp [he])
    have ht : quote ∉ content := fun hm => h (by simp [hm])
    rw [List.cons_append, scanFrom_quoted_literal hc, ofList_push, ih _ ht, String.utf8Len_cons,
      List.append_assoc, List.singleton_append]
    congr 1
    omega

theorem scanFrom_span (span : Span) (text : List Char) (offset : Nat) (cs : List Char) :
    scanFrom (.word (String.ofList text)) offset (span.source ++ cs) =
      scanFrom (.word (String.ofList (text ++ span.content)))
        (offset + String.utf8Len span.source) cs := by
  rw [Span.source, List.cons_append, List.append_assoc, List.singleton_append,
    scanFrom_word_quote span.isQuote_quote,
    scanFrom_quoted_content _ _ _ _ span.quote_notMem]
  congr 1
  simp only [String.utf8Len_cons, String.utf8Len_append, String.utf8Len_nil]
  omega

theorem scanFrom_piece (piece : Piece) (text : List Char) (offset : Nat) (cs : List Char) :
    scanFrom (.word (String.ofList text)) offset (piece.source ++ cs) =
      scanFrom (.word (String.ofList (text ++ piece.text)))
        (offset + String.utf8Len piece.source) cs := by
  cases piece with
  | plain c h =>
    simp only [Piece.source, Piece.text, List.singleton_append, scanFrom_word_plain h, ofList_push]
    simp
  | quoted span => exact scanFrom_span span text offset cs

theorem scanFrom_pieces (pieces : List Piece) (text : List Char) (offset : Nat)
    (cs : List Char) :
    scanFrom (.word (String.ofList text)) offset (pieces.flatMap Piece.source ++ cs) =
      scanFrom (.word (String.ofList (text ++ pieces.flatMap Piece.text)))
        (offset + String.utf8Len (pieces.flatMap Piece.source)) cs := by
  induction pieces generalizing text offset with
  | nil => simp
  | cons piece pieces ih =>
    rw [List.flatMap_cons, List.append_assoc, scanFrom_piece, ih]
    simp only [List.flatMap_cons, String.utf8Len_append, List.append_assoc, Nat.add_assoc]

theorem scanFrom_word_apart {items : List Item} (h : Apart items) (text : String) (offset : Nat) :
    scanFrom (.word text) offset (items.flatMap Item.source) =
      (scanFrom .between offset (items.flatMap Item.source)).map (.word text :: ·) := by
  cases items with
  | nil => rfl
  | cons item items =>
    cases item with
    | blank c hc => exact scanFrom_word_blank hc _ _ _
    | pipe => exact scanFrom_word_pipe _ _ _
    | word first rest => simp [Apart, Item.isWord] at h

theorem Piece.source_eq_cons (piece : Piece) :
    ∃ c cs, piece.source = c :: cs ∧ Text.isBlank c = false ∧ c ≠ '|' := by
  cases piece with
  | plain c h =>
    obtain ⟨hb, hp, _⟩ := isPlain_iff.mp h
    exact ⟨c, [], rfl, hb, hp⟩
  | quoted span =>
    exact ⟨span.quote, span.content ++ [span.quote], rfl, isBlank_of_isQuote span.isQuote_quote,
      ne_pipe_of_isQuote span.isQuote_quote⟩

theorem scanFrom_between_piece (piece : Piece) (offset : Nat) (cs : List Char) :
    scanFrom .between offset (piece.source ++ cs) =
      scanFrom (.word "") offset (piece.source ++ cs) := by
  obtain ⟨c, source, he, hb, hp⟩ := piece.source_eq_cons
  rw [he, List.cons_append, scanFrom_between_word hb hp]

theorem scanFrom_items {items : List Item} (h : Separated items) (offset : Nat) :
    scanFrom .between offset (items.flatMap Item.source) = .ok (items.filterMap Item.token?) := by
  induction items generalizing offset with
  | nil => rfl
  | cons item items ih =>
    rw [List.flatMap_cons]
    cases item with
    | blank c hc =>
      rw [Item.source, List.singleton_append, scanFrom_between_blank hc, ih h.tail]
      rfl
    | pipe =>
      rw [Item.source, List.singleton_append, scanFrom_between_pipe, ih h.tail]
      rfl
    | word first rest =>
      rw [Item.source, List.flatMap_cons, List.append_assoc, scanFrom_between_piece,
        ← List.append_assoc, ← List.flatMap_cons]
      have hw := scanFrom_pieces (first :: rest) [] offset (items.flatMap Item.source)
      rw [String.ofList_nil] at hw
      rw [hw, scanFrom_word_apart h.apart, ih h.tail]
      rfl

theorem map_eq_ok {ε α β : Type} {f : α → β} {result : Except ε α} {b : β} :
    result.map f = .ok b ↔ ∃ a, result = .ok a ∧ f a = b := by
  cases result <;> simp [Except.map]

/-- The characters go on with a word of which `text` has been read, and then with items. -/
def WordRest (text : String) (cs : List Char) (tokens : List Token) : Prop :=
  ∃ (pieces : List Piece) (items : List Item), Separated items ∧ Apart items ∧
    pieces.flatMap Piece.source ++ items.flatMap Item.source = cs ∧
    .word (text ++ String.ofList (pieces.flatMap Piece.text)) ::
      items.filterMap Item.token? = tokens

/-- The characters complete what a scan in this mode has begun, with these tokens. -/
def Completes : Mode → List Char → List Token → Prop
  | .between, cs, tokens => ∃ items, Divides items cs tokens
  | .word text, cs, tokens => WordRest text cs tokens
  | .quoted quote _ text, cs, tokens => ∃ content rest, quote ∉ content ∧
      content ++ quote :: rest = cs ∧ WordRest (text ++ String.ofList content) rest tokens

theorem wordRest_nil (text : String) : WordRest text [] [.word text] :=
  ⟨[], [], separated_nil, by simp [Apart], by simp, by simp⟩

theorem wordRest_of_divides (item : Item) {items : List Item} {line : List Char}
    {tokens : List Token} (h : item.isWord = false) (hd : Divides items line tokens)
    (text : String) :
    WordRest text (item.source ++ line) (.word text :: (item.token?.toList ++ tokens)) := by
  obtain ⟨hs, rfl, rfl⟩ := hd
  refine ⟨[], item :: items, separated_cons h hs, apart_cons h, by simp, ?_⟩
  cases item <;> simp [Item.token?, List.filterMap_cons]

theorem WordRest.plain {c : Char} (h : isPlain c = true) {text : String} {cs : List Char}
    {tokens : List Token} (hw : WordRest (text.push c) cs tokens) :
    WordRest text (c :: cs) tokens := by
  obtain ⟨pieces, items, hs, ha, rfl, rfl⟩ := hw
  refine ⟨.plain c h :: pieces, items, hs, ha, by simp [Piece.source], ?_⟩
  congr 2
  rw [← String.toList_inj]
  simp [Piece.text]

theorem WordRest.span (span : Span) {text : String} {cs : List Char} {tokens : List Token}
    (hw : WordRest (text ++ String.ofList span.content) cs tokens) :
    WordRest text (span.source ++ cs) tokens := by
  obtain ⟨pieces, items, hs, ha, rfl, rfl⟩ := hw
  refine ⟨.quoted span :: pieces, items, hs, ha, by simp [Piece.source], ?_⟩
  congr 2
  rw [← String.toList_inj]
  simp [Piece.text]

theorem WordRest.divides {c : Char} (hb : Text.isBlank c = false) (hp : c ≠ '|') {cs : List Char}
    {tokens : List Token} (hw : WordRest "" (c :: cs) tokens) :
    ∃ items, Divides items (c :: cs) tokens := by
  obtain ⟨pieces, items, hs, ha, hsource, rfl⟩ := hw
  cases pieces with
  | cons first rest =>
    refine ⟨.word first rest :: items, separated_word_cons ha hs, hsource, ?_⟩
    simp [Item.token?]
  | nil =>
    -- Without a piece the line would begin with an item that is no word.
    exfalso
    cases items with
    | nil => simp at hsource
    | cons item items =>
      cases item with
      | blank d hd =>
        have he : d = c := by simpa [Item.source] using congrArg List.head? hsource
        simp [← he, hd] at hb
      | pipe =>
        have he : '|' = c := by simpa [Item.source] using congrArg List.head? hsource
        exact hp he.symm
      | word first rest => simp [Apart, Item.isWord] at ha

/-- A scan of a word that succeeds has read the rest of the word, given the same of what follows. -/
theorem wordRest_of_scanFrom {c : Char} {cs : List Char}
    (ih : ∀ mode offset tokens, scanFrom mode offset cs = .ok tokens → Completes mode cs tokens)
    {text : String} {offset : Nat} {tokens : List Token}
    (h : scanFrom (.word text) offset (c :: cs) = .ok tokens) :
    WordRest text (c :: cs) tokens := by
  by_cases hb : Text.isBlank c = true
  · rw [scanFrom_word_blank hb, scanFrom_between_blank hb] at h
    obtain ⟨later, hl, rfl⟩ := map_eq_ok.mp h
    obtain ⟨items, hd⟩ := ih _ _ _ hl
    exact wordRest_of_divides (.blank c hb) rfl hd text
  by_cases hp : c = '|'
  · subst hp
    rw [scanFrom_word_pipe, scanFrom_between_pipe] at h
    obtain ⟨_, hm, rfl⟩ := map_eq_ok.mp h
    obtain ⟨later, hl, rfl⟩ := map_eq_ok.mp hm
    obtain ⟨items, hd⟩ := ih _ _ _ hl
    exact wordRest_of_divides .pipe rfl hd text
  by_cases hq : isQuote c = true
  · rw [scanFrom_word_quote hq] at h
    obtain ⟨content, rest, hn, rfl, hw⟩ := ih _ _ _ h
    have hspan := WordRest.span ⟨c, content, hq, hn⟩ hw
    simpa [Span.source] using hspan
  · have hplain : isPlain c = true := isPlain_iff.mpr ⟨by simpa using hb, hp, by simpa using hq⟩
    rw [scanFrom_word_plain hplain] at h
    exact WordRest.plain hplain (ih _ _ _ h)

/-- A scan that succeeds has completed what it began: one character more, in each mode. -/
theorem completes_of_scanFrom (cs : List Char) (mode : Mode) (offset : Nat) (tokens : List Token)
    (h : scanFrom mode offset cs = .ok tokens) : Completes mode cs tokens := by
  induction cs generalizing mode offset tokens with
  | nil =>
    cases mode with
    | between =>
      rw [scanFrom_between_nil, Except.ok.injEq] at h
      exact h ▸ ⟨[], separated_nil, rfl, rfl⟩
    | word text =>
      rw [scanFrom_word_nil, Except.ok.injEq] at h
      exact h ▸ wordRest_nil text
    | quoted quote opened text => simp [scanFrom_quoted_nil] at h
  | cons c cs ih =>
    cases mode with
    | between =>
      by_cases hb : Text.isBlank c = true
      · rw [scanFrom_between_blank hb] at h
        obtain ⟨items, hs, rfl, rfl⟩ := ih _ _ _ h
        exact ⟨.blank c hb :: items, separated_cons rfl hs, rfl, rfl⟩
      by_cases hp : c = '|'
      · subst hp
        rw [scanFrom_between_pipe] at h
        obtain ⟨later, hl, rfl⟩ := map_eq_ok.mp h
        obtain ⟨items, hs, rfl, rfl⟩ := ih _ _ _ hl
        exact ⟨.pipe :: items, separated_cons rfl hs, rfl, rfl⟩
      · rw [scanFrom_between_word (by simpa using hb) hp] at h
        exact WordRest.divides (by simpa using hb) hp (wordRest_of_scanFrom ih h)
    | word text => exact wordRest_of_scanFrom ih h
    | quoted quote opened text =>
      by_cases hc : c = quote
      · subst hc
        rw [scanFrom_quoted_close] at h
        exact ⟨[], cs, by simp, rfl, by simpa [Completes] using ih _ _ _ h⟩
      · rw [scanFrom_quoted_literal hc] at h
        obtain ⟨content, rest, hn, rfl, hw⟩ := ih _ _ _ h
        refine ⟨c :: content, rest, by simp [hn, Ne.symm hc], rfl, ?_⟩
        have ht : text.push c ++ String.ofList content = text ++ String.ofList (c :: content) := by
          rw [← String.toList_inj]
          simp
        exact ht ▸ hw

theorem divides_of_ofLine {line : String} {tokens : List Token} (h : ofLine line = .ok tokens) :
    ∃ items, Divides items line.toList tokens :=
  completes_of_scanFrom line.toList .between 0 tokens h

theorem ofLine_of_divides {items : List Item} {line : String} {tokens : List Token}
    (h : Divides items line.toList tokens) : ofLine line = .ok tokens := by
  rw [ofLine_eq_scanFrom, ← h.source_eq, scanFrom_items h.separated, h.tokens_eq]

theorem ofList_eq_empty_iff {cs : List Char} : String.ofList cs = "" ↔ cs = [] := by
  rw [← String.toList_inj]
  simp

theorem Piece.source_of_text_nil {piece : Piece} (h : piece.text = []) :
    ∃ quote, isQuote quote = true ∧ piece.source = [quote, quote] := by
  cases piece with
  | plain c hc => simp [Piece.text] at h
  | quoted span =>
    have hs : span.content = [] := h
    exact ⟨span.quote, span.isQuote_quote, by simp [Piece.source, Span.source, hs]⟩

theorem Item.pieces_of_empty_word {first : Piece} {rest : List Piece}
    (h : (Item.word first rest).token? = some (.word "")) {piece : Piece}
    (hm : piece ∈ first :: rest) : piece.text = [] := by
  have he : (first :: rest).flatMap Piece.text = [] := by
    simpa [Item.token?, ofList_eq_empty_iff] using h
  exact List.flatMap_eq_nil_iff.mp he piece hm

/-- A line has exactly the tokens of its division into blanks, pipes and words; there is at most one
list of them, and only quotes around nothing make an empty word. -/
theorem ofLine_eq_ok_iff (line : String) (tokens : List Token) :
    (ofLine line = .ok tokens ↔ ∃ items, Divides items line.toList tokens) ∧
      {tokens | ∃ items, Divides items line.toList tokens}.Subsingleton ∧
      ∀ items, Divides items line.toList tokens → ∀ first rest, .word first rest ∈ items →
        (Item.word first rest).token? = some (.word "") → ∀ piece ∈ first :: rest,
          ∃ quote, isQuote quote = true ∧ piece.source = [quote, quote] := by
  refine ⟨⟨divides_of_ofLine, fun ⟨_, h⟩ => ofLine_of_divides h⟩, ?_, ?_⟩
  · rintro ts ⟨items, h⟩ us ⟨others, g⟩
    have he : Except.ok ts = Except.ok us := (ofLine_of_divides h).symm.trans (ofLine_of_divides g)
    exact Except.ok.inj he
  · intro items _ first rest _ he piece hm
    exact Piece.source_of_text_nil (Item.pieces_of_empty_word he hm)

/-- Two words and a pipe: the first word joins plain characters and a span, the second is empty. -/
def joinedWords : List Item :=
  [.word (.plain 'a' rfl) [.quoted ⟨'\'', ['b', ' ', 'c'], rfl, by decide⟩, .plain 'd' rfl], .pipe,
    .word (.quoted .empty) []]

theorem joinedWords_divides :
    Divides joinedWords "a'b c'd|\"\"".toList [.word "ab cd", .pipe, .word ""] where
  separated := by simp [Separated, joinedWords, Item.isWord]
  source_eq := by simp [joinedWords, Item.source, Piece.source, Span.source, Span.empty]
  tokens_eq := by simp [joinedWords, Item.token?, Piece.text, Span.empty]

theorem ofLine_joinedWords :
    ofLine "a'b c'd|\"\"" = .ok [.word "ab cd", .pipe, .word ""] ∧
      ∃ quote, isQuote quote = true ∧ Piece.source (.quoted .empty) = [quote, quote] :=
  ⟨(ofLine_eq_ok_iff _ _).1.mpr ⟨joinedWords, joinedWords_divides⟩,
    (ofLine_eq_ok_iff _ _).2.2 joinedWords joinedWords_divides
      (.quoted .empty) [] (by simp [joinedWords]) rfl _ (by simp)⟩

end PipeShell.Token
