import PipeShell.Text.ClusterTable

/-!
User-perceived characters. A text is cut between two characters unless a rule keeps them together:
a line end of two characters, the letters of a Hangul syllable, marks with what they mark,
consonants linked to a conjunct, joined pictographs, and regional indicators two by two.
-/
namespace PipeShell.Text

inductive ClusterClass where
  | carriageReturn
  | lineFeed
  | control
  | combining
  | joiner
  | spacing
  | leading
  | regional
  | hangulLead
  | hangulVowel
  | hangulTail
  | hangulOpen
  | hangulClosed
  | pictographic
  | consonant
  | plain
  deriving DecidableEq, Repr

namespace ClusterClass

def inRanges (ranges : List (Nat × Nat)) (code : Nat) : Bool :=
  ranges.any fun range => range.1 ≤ code && code ≤ range.2

/-- The class of a character; a precomposed Hangul syllable is open when it has no final letter. -/
def ofChar (c : Char) : ClusterClass :=
  let code := c.toNat
  if code = 0x0D then .carriageReturn
  else if code = 0x0A then .lineFeed
  else if 0x20 ≤ code && code ≤ 0x7E then .plain
  else if inRanges ClusterTable.control code then .control
  else if code = 0x200D then .joiner
  else if inRanges ClusterTable.combining code then .combining
  else if inRanges ClusterTable.spacing code then .spacing
  else if inRanges ClusterTable.leading code then .leading
  else if inRanges [(0x1F1E6, 0x1F1FF)] code then .regional
  else if inRanges [(0x1100, 0x115F), (0xA960, 0xA97C)] code then .hangulLead
  else if inRanges [(0x1160, 0x11A7), (0xD7B0, 0xD7C6)] code then .hangulVowel
  else if inRanges [(0x11A8, 0x11FF), (0xD7CB, 0xD7FB)] code then .hangulTail
  else if inRanges [(0xAC00, 0xD7A3)] code then
    if (code - 0xAC00) % 28 = 0 then .hangulOpen else .hangulClosed
  else if inRanges ClusterTable.pictographic code then .pictographic
  else if inRanges ClusterTable.consonant code then .consonant
  else .plain

end ClusterClass

/-- What the rules remember of the text before a possible boundary. -/
structure ClusterContext where
  last : ClusterClass
  /-- A pictograph came before, with nothing but combining marks after it. -/
  afterPictograph : Bool
  /-- Such a pictograph and one joiner came before. -/
  afterJoinedPictograph : Bool
  /-- An odd number of regional indicators came last. -/
  oddRegional : Bool
  /-- A consonant came before, with nothing but marks after it. -/
  afterConsonant : Bool
  /-- Such a consonant came before and a linker is among the marks after it. -/
  afterLinker : Bool

namespace ClusterContext

def joins (context : ClusterContext) (next : ClusterClass) : Bool :=
  match context.last, next with
  | .carriageReturn, .lineFeed => true
  | .carriageReturn, _ | .lineFeed, _ | .control, _ => false
  | _, .carriageReturn | _, .lineFeed | _, .control => false
  | _, .combining | _, .joiner | _, .spacing => true
  | .leading, _ => true
  | .hangulLead, .hangulLead | .hangulLead, .hangulVowel => true
  | .hangulLead, .hangulOpen | .hangulLead, .hangulClosed => true
  | .hangulVowel, .hangulVowel | .hangulVowel, .hangulTail => true
  | .hangulOpen, .hangulVowel | .hangulOpen, .hangulTail => true
  | .hangulTail, .hangulTail | .hangulClosed, .hangulTail => true
  | .joiner, .pictographic => context.afterJoinedPictograph
  | .regional, .regional => context.oddRegional
  | _, .consonant => context.afterLinker
  | _, _ => false

def push (context : ClusterContext) (c : Char) : ClusterContext :=
  let next := ClusterClass.ofChar c
  let marks := next = .combining || next = .joiner
  let linker := ClusterClass.inRanges ClusterTable.linker c.toNat
  { last := next
    afterPictograph := next = .pictographic || (next = .combining && context.afterPictograph)
    afterJoinedPictograph := next = .joiner && context.afterPictograph
    oddRegional := next = .regional && !(context.last = .regional && context.oddRegional)
    afterConsonant := next = .consonant || (marks && context.afterConsonant)
    afterLinker := marks && context.afterConsonant && (linker || context.afterLinker) }

/-- The context at the start of a text, where every character opens a cluster. -/
def start : ClusterContext := ⟨.control, false, false, false, false, false⟩

end ClusterContext

/-- The clusters of a text in order; `reversed` holds the open cluster backwards. -/
def clustersFrom (context : ClusterContext) (reversed : List Char) :
    List Char → List (List Char)
  | [] => if reversed.isEmpty then [] else [reversed.reverse]
  | c :: rest =>
    if reversed.isEmpty || context.joins (.ofChar c) then
      clustersFrom (context.push c) (c :: reversed) rest
    else reversed.reverse :: clustersFrom (context.push c) [c] rest

def clusters (text : List Char) : List (List Char) := clustersFrom .start [] text

/-- The text that is left when each backspace character deletes the cluster before it. -/
def applyBackspaces (text : String) : String :=
  let press (kept : List (List Char)) (cluster : List Char) : List (List Char) :=
    if cluster = ['\x08'] then kept.tail else cluster :: kept
  String.ofList ((clusters text.toList).foldl press []).reverse.flatten

end PipeShell.Text
