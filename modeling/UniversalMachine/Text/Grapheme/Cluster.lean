import UniversalMachine.Text.Grapheme.Property

/-! Text as grapheme clusters: what a reader takes for single characters. -/
namespace UniversalMachine.Text.Grapheme

/-- What a character does to the cluster before it. -/
inductive Kind where
  | carriageReturn
  | lineFeed
  | control
  | extending
  /-- The mark that keeps letters from joining. -/
  | nonJoiner
  /-- The mark that joins pictographs. -/
  | joiner
  | linker
  | spacing
  | prepending
  /-- A letter of which two make a flag. -/
  | flagLetter
  | lead
  | vowel
  | tail
  /-- A Hangul syllable without a final consonant. -/
  | openSyllable
  | closedSyllable
  | pictograph
  | consonant
  | other
  deriving DecidableEq, Repr

/-- The kind of a Hangul syllable: every twenty-eighth one is open. -/
def syllableKind (code : Nat) : Kind :=
  if (code - 0xAC00) % 28 = 0 then .openSyllable else .closedSyllable

def kind (c : Char) : Kind :=
  let code := c.toNat
  if c = '\r' then .carriageReturn
  else if c = '\n' then .lineFeed
  else if control.contains c then .control
  else if code < 0xA9 then .other
  else if code = 0x200C then .nonJoiner
  else if code = 0x200D then .joiner
  else if linkers.contains c then .linker
  else if extending.contains c then .extending
  else if spacing.contains c then .spacing
  else if prepending.contains c then .prepending
  else if 0x1F1E6 ≤ code && code ≤ 0x1F1FF then .flagLetter
  else if 0xAC00 ≤ code && code ≤ 0xD7A3 then syllableKind code
  else if leads.contains c then .lead
  else if vowels.contains c then .vowel
  else if tails.contains c then .tail
  else if pictographs.contains c then .pictograph
  else if consonants.contains c then .consonant
  else .other

/-- What a cluster says about the character that follows it. -/
structure State where
  last : Kind
  /-- A pictograph stands before the marks at the end. -/
  pictograph : Bool
  /-- The cluster ends in a joiner behind a pictograph and its marks. -/
  joined : Bool
  /-- The cluster ends in the first letter of a flag. -/
  halfFlag : Bool
  /-- A consonant stands before the marks at the end. -/
  consonant : Bool
  /-- One of the marks behind that consonant links it. -/
  linked : Bool
  deriving DecidableEq, Repr

/-- The state of a cluster that holds one character. -/
def State.start (kind : Kind) : State :=
  ⟨kind,kind = .pictograph,false,kind = .flagLetter,kind = .consonant,false⟩

/-- The state of a cluster that one more character has joined. -/
def State.extend (state : State) (kind : Kind) : State :=
  let mark := kind = .extending || kind = .linker
  let behind := state.consonant && (mark || kind = .joiner)
  { last := kind
    pictograph := kind = .pictograph || state.pictograph && (mark || kind = .nonJoiner)
    joined := kind = .joiner && state.pictograph
    halfFlag := kind = .flagLetter && !state.halfFlag
    consonant := kind = .consonant || behind
    linked := behind && (state.linked || kind = .linker) }

/-- Whether a character belongs to the cluster before it. -/
def State.joins (state : State) (kind : Kind) : Bool :=
  match state.last, kind with
  | .carriageReturn, .lineFeed => true
  | .carriageReturn, _ | .lineFeed, _ | .control, _ => false
  | _, .carriageReturn | _, .lineFeed | _, .control => false
  | _, .extending | _, .nonJoiner | _, .joiner | _, .linker | _, .spacing => true
  | .prepending, _ => true
  | .lead, .lead | .lead, .vowel | .lead, .openSyllable | .lead, .closedSyllable => true
  | .openSyllable, .vowel | .openSyllable, .tail | .vowel, .vowel | .vowel, .tail => true
  | .closedSyllable, .tail | .tail, .tail => true
  | _, .pictograph => state.joined
  | _, .flagLetter => state.halfFlag
  | _, .consonant => state.linked
  | _, _ => false

/-- A text being cut: the clusters that are complete, the last one first, and the characters of
the one that is not, also in reverse. -/
structure Cutter where
  complete : List (List Char) := []
  cluster : List Char := []
  state : State := .start .control

/-- Takes one more character. -/
def Cutter.next (cutter : Cutter) (c : Char) : Cutter :=
  let kind := kind c
  if cutter.cluster.isEmpty then { cutter with cluster := [c], state := .start kind }
  else if cutter.state.joins kind then
    { cutter with cluster := c :: cutter.cluster, state := cutter.state.extend kind }
  else
    { complete := cutter.cluster.reverse :: cutter.complete, cluster := [c], state := .start kind }

def Cutter.finish (cutter : Cutter) : List (List Char) :=
  if cutter.cluster.isEmpty then cutter.complete.reverse
  else (cutter.cluster.reverse :: cutter.complete).reverse

/-- The clusters of a text. -/
def clusters (text : List Char) : List (List Char) := (text.foldl Cutter.next {}).finish

theorem Cutter.flatten_finish (cutter : Cutter) :
    cutter.finish.flatten = cutter.complete.reverse.flatten ++ cutter.cluster.reverse := by
  obtain ⟨complete, cluster, state⟩ := cutter
  cases cluster <;> simp [finish]

theorem Cutter.flatten_finish_next (cutter : Cutter) (c : Char) :
    (cutter.next c).finish.flatten = cutter.finish.flatten ++ [c] := by
  obtain ⟨complete, cluster, state⟩ := cutter
  cases cluster with
  | nil => simp [next, flatten_finish]
  | cons d cluster =>
    by_cases h : state.joins (kind c) <;> simp [next, flatten_finish, h]

/-- No character is lost, added or moved. -/
@[simp] theorem flatten_clusters (text : List Char) : (clusters text).flatten = text := by
  have hfold : ∀ (text : List Char) (cutter : Cutter),
      (text.foldl Cutter.next cutter).finish.flatten = cutter.finish.flatten ++ text := by
    intro text
    induction text with
    | nil => simp
    | cons c text ih => simp [ih, Cutter.flatten_finish_next]
  exact hfold text {}

example : clusters ['a','\r','\n','b'] = [['a'],['\r','\n'],['b']] := by decide +kernel
example : clusters ['e','\u0301','x'] = [['e','\u0301'],['x']] := by decide +kernel

end UniversalMachine.Text.Grapheme
