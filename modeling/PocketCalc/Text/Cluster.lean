import PocketCalc.Text.ClusterClass

/-!
# Clusters

A cluster is what a reader takes for one character: a letter with its marks, a Korean syllable, a
flag, a family of emoji. Text is cut into clusters from left to right, and whether the next
character starts a new one depends only on it and on a small summary of the text in front.
-/
namespace PocketCalc.Text

/-- What matters of the text in front of a boundary: the class of its last character, whether an odd
number of regional letters ends there, and whether a pictograph or a consonant with marks does, with
a joiner or a linker among them. -/
structure Before where
  last : ClusterClass
  oddRegional : Bool
  pictograph : Bool
  joinedPictograph : Bool
  consonant : Bool
  linkedConsonant : Bool
deriving DecidableEq

namespace Before

def start : Before := ⟨.control, false, false, false, false, false⟩

/-- Whether a character keeps a consonant in front of it open. The plain non-joiner does not. -/
def keepsConsonant (c : Char) : Bool :=
  (clusterClass c = .extend || clusterClass c = .joiner) && c.toNat != 0x200C

def push (b : Before) (c : Char) : Before where
  last := clusterClass c
  oddRegional := clusterClass c = .regional && !b.oddRegional
  pictograph := pictographs.has c || b.pictograph && clusterClass c = .extend
  joinedPictograph := b.pictograph && clusterClass c = .joiner
  consonant := conjunctConsonants.has c || b.consonant && keepsConsonant c
  linkedConsonant := b.consonant && keepsConsonant c && (b.linkedConsonant || conjunctLinkers.has c)

/-- Whether a class stands alone on both sides. -/
def standsAlone : ClusterClass → Bool
  | .carriageReturn | .lineFeed | .control => true
  | _ => false

/-- Whether two neighbours are parts of one Korean syllable. -/
def sameSyllable : ClusterClass → ClusterClass → Bool
  | .leading, .leading | .leading, .vowel | .leading, .openSyllable | .leading, .closedSyllable
  | .openSyllable, .vowel | .openSyllable, .trailing | .vowel, .vowel | .vowel, .trailing
  | .closedSyllable, .trailing | .trailing, .trailing => true
  | _, _ => false

/-- Whether a class attaches itself to the character in front. -/
def attaches : ClusterClass → Bool
  | .extend | .joiner | .spacingMark => true
  | _ => false

/-- Whether the next character continues the cluster that ends here. -/
def joins (b : Before) (c : Char) : Bool :=
  let next := clusterClass c
  if b.last = .carriageReturn && next = .lineFeed then true
  else if standsAlone b.last || standsAlone next then false
  else sameSyllable b.last next || attaches next || b.last = .prepend
    || (b.linkedConsonant && conjunctConsonants.has c)
    || (b.joinedPictograph && pictographs.has c)
    || (b.oddRegional && next = .regional)

end Before

/-- The clusters of a text whose first cluster has begun with `current`. -/
def clustersFrom (b : Before) (current : List Char) : List Char → List (List Char)
  | [] => [current]
  | c :: rest =>
    if b.joins c then clustersFrom (b.push c) (current ++ [c]) rest
    else current :: clustersFrom (b.push c) [c] rest

def clusters : List Char → List (List Char)
  | [] => []
  | c :: rest => clustersFrom (Before.start.push c) [c] rest

theorem flatten_clustersFrom (b : Before) (current text : List Char) :
    (clustersFrom b current text).flatten = current ++ text := by
  induction text generalizing b current with
  | nil => simp [clustersFrom]
  | cons c rest ih => by_cases h : b.joins c <;> simp [clustersFrom, h, ih]

/-- Cutting a text into clusters loses nothing. -/
@[simp] theorem flatten_clusters (text : List Char) : (clusters text).flatten = text := by
  cases text with
  | nil => rfl
  | cons c rest => simp [clusters, flatten_clustersFrom]

/-- The text without its last cluster, and that cluster. -/
def splitLastCluster? (text : List Char) : Option (List Char × List Char) :=
  (clusters text).getLast?.map fun last => ((clusters text).dropLast.flatten, last)

end PocketCalc.Text
