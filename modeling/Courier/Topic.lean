/-!
# Topics and filters

Topics and the filters that subscribe to them. Both are texts cut into levels at each slash. In a
filter the level `+` stands for any one level, and `#`, as the last level, for any number of them.
-/

namespace Courier

abbrev Level := List Char

def levels (text : String) : List Level := text.toList.splitOn '/'

def anyLevel : Level := ['+']

def anyLevels : Level := ['#']

/-- Whether the levels of a filter take in those of a topic. A `#` before the last level takes in
nothing. -/
def levelsMatch : List Level → List Level → Bool
  | f :: fs, ts =>
    if f = anyLevels then fs.isEmpty
    else match ts with
      | t :: ts => (f = anyLevel || f = t) && levelsMatch fs ts
      | [] => false
  | [], ts => ts.isEmpty

def filterMatches (filter topic : String) : Bool :=
  levelsMatch (levels filter) (levels topic)

def hasWildcards (filter : String) : Bool :=
  (levels filter).any fun l => l = anyLevel || l = anyLevels

/-- What is wrong with a filter or a topic. -/
inductive TopicFlaw where
  | emptyFilter
  | misplacedHash
  | misplacedPlus
  | emptyTopic
  | wildcardInTopic
  deriving DecidableEq, Repr

def TopicFlaw.reason : TopicFlaw → String
  | .emptyFilter => "filter must not be empty"
  | .misplacedHash => "'#' must occupy the whole final level"
  | .misplacedPlus => "'+' must occupy a whole level"
  | .emptyTopic => "topic must not be empty"
  | .wildcardInTopic => "wildcards are not allowed when publishing"

/-- The first flaw of a list of filter levels; within a level, a misplaced `#` comes first. -/
def levelsFlaw? : List Level → Option TopicFlaw
  | [] => none
  | f :: fs =>
    if '#' ∈ f ∧ ¬(f = anyLevels ∧ fs = []) then some .misplacedHash
    else if '+' ∈ f ∧ f ≠ anyLevel then some .misplacedPlus
    else levelsFlaw? fs

def filterFlaw? (filter : String) : Option TopicFlaw :=
  if filter = "" then some .emptyFilter else levelsFlaw? (levels filter)

/-- The flaw of a topic to publish on; such a topic names one place, so it has no wildcards. -/
def topicFlaw? (topic : String) : Option TopicFlaw :=
  if topic = "" then some .emptyTopic
  else if '+' ∈ topic.toList ∨ '#' ∈ topic.toList then some .wildcardInTopic
  else none

end Courier
