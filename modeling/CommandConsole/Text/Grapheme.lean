import CommandConsole.Text.Basic
import CommandConsole.Text.Grapheme.Join

/-!
# Clusters

A **cluster** is what a reader takes for one character: a letter with its marks, a Hangul
syllable, a flag, a family of pictures. A text is a row of clusters (`Text.clusters`), and
between any two characters there is a boundary or there is none.

Whether there is one depends on the two characters and on a little of what stands before
them in the same cluster: whether the flag halves pair up, whether a picture was followed
by a joiner, whether a consonant was followed by a linker. `ClusterState` remembers just
that.
-/

namespace CommandConsole

/-- What matters of the characters before a place in a text. -/
structure ClusterState where
  /-- The character just before. -/
  last : Join
  /-- Whether the character just before is the first half of a flag. -/
  halfFlag : Bool
  /-- Whether a picture stands before, with nothing but extending marks after it. -/
  picture : Bool
  /-- Whether such a picture and one joiner stand just before. -/
  joinedPicture : Bool
  /-- Whether a consonant stands before, with nothing but marks that belong to it. -/
  consonant : Bool
  /-- Whether one of these marks is a linker. -/
  linked : Bool

namespace ClusterState

/-- Whether a character with this join leaves the conjunct open that the consonant before it
began. -/
def keepsConjunct (n : Nat) (join : Join) : Bool :=
  -- the zero width non-joiner is there to keep conjuncts apart
  (join = .extend || join = .joiner) && n ≠ 0x200c

/-- What matters after one more character. -/
def next (s : ClusterState) (c : Char) : ClusterState :=
  let n := c.toNat
  let join := joinOf n
  let stays := s.consonant && (isLinker n || keepsConjunct n join)
  { last := join
    halfFlag := join = .regional && !s.halfFlag
    picture := isPicture n || (s.picture && join = .extend)
    joinedPicture := s.picture && join = .joiner
    consonant := isConsonant n || stays
    linked := stays && (s.linked || isLinker n) }

/-- What matters after the first character of a text. -/
def first (c : Char) : ClusterState := next ⟨.other, false, false, false, false, false⟩ c

/-- Whether a character belongs to the cluster before it. -/
def joins (s : ClusterState) (c : Char) : Bool :=
  let n := c.toNat
  match s.last, joinOf n with
  | .carriageReturn, .lineFeed => true
  | .carriageReturn, _ | .lineFeed, _ | .control, _ => false
  | _, .carriageReturn | _, .lineFeed | _, .control => false
  | .hangulLead, .hangulLead | .hangulLead, .hangulVowel => true
  | .hangulLead, .hangulOpen | .hangulLead, .hangulClosed => true
  | .hangulOpen, .hangulVowel | .hangulOpen, .hangulTail => true
  | .hangulVowel, .hangulVowel | .hangulVowel, .hangulTail => true
  | .hangulClosed, .hangulTail | .hangulTail, .hangulTail => true
  | _, .extend | _, .joiner | _, .spacing => true
  | .leading, _ => true
  | _, .regional => s.halfFlag
  | _, _ => (s.joinedPicture && isPicture n) || (s.linked && isConsonant n)

end ClusterState

namespace Text

/-- The rest of a text in clusters: the rest of the cluster that is open, and the clusters
after it. -/
def clustersFrom (s : ClusterState) : Text → Text × List Text
  | [] => ([], [])
  | c :: rest =>
    let (head, after) := clustersFrom (s.next c) rest
    if s.joins c then (c :: head, after) else ([], (c :: head) :: after)

/-- A text in clusters. -/
def clusters : Text → List Text
  | [] => []
  | c :: rest =>
    let (head, after) := clustersFrom (.first c) rest
    (c :: head) :: after

end Text

end CommandConsole
