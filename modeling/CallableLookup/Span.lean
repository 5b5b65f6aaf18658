/-!
# Spans and comments

Where something stands in a text, and the comments in front of the tokens of a text.
-/

namespace CallableLookup

/-!
## Spans

A span is a range of byte offsets of a text.
-/

/-- The offsets where something starts and ends. -/
structure Span where
  lo : Nat
  hi : Nat
deriving Repr, DecidableEq, Inhabited

/-- The span between two offsets, in whichever order they are given. -/
def Span.between (a b : Nat) : Span :=
  if a ≤ b then ⟨a, b⟩ else ⟨b, a⟩

/-!
## Comments

A comment that stands in front of a token is kept under the offset where the token starts.
-/

/-- How a comment is delimited. -/
inductive CommentKind where
  | line
  | block
deriving Repr, DecidableEq

/-- A comment: its kind, its text without the delimiters, and where it stands. -/
structure Comment where
  kind : CommentKind
  text : String
  span : Span
deriving Repr, DecidableEq

/-- Whether a comment documents what follows: a block comment whose text begins with a star. -/
def Comment.isDoc (c : Comment) : Bool :=
  c.kind == .block && c.text.toList.head? == some '*'

/-- The comments of a text, each with the offset of the token that it leads. -/
structure CommentTable where
  entries : List (Nat × Comment) := []
deriving Repr

namespace CommentTable

/-- The comments in front of the token at `offset`, in the order in which they were added. -/
def leading (t : CommentTable) (offset : Nat) : List Comment :=
  (t.entries.filter (·.1 == offset)).map (·.2)

end CommentTable

/-- The comments of a text while it is being read, each with the offset of the token that it
leads. Reading may go back; what was settled when the end of the text was reached stays. -/
structure CommentLog where
  /-- The comments that are not settled, last first. -/
  reversed : List (Nat × Comment) := []
  /-- How many are not settled. -/
  count : Nat := 0
  /-- The settled comments, last first. -/
  settled : List (Nat × Comment) := []

namespace CommentLog

/-- The log with the comments, last first, that lead the token at an offset. -/
def add (log : CommentLog) (offset : Nat) (comments : List Comment) : CommentLog :=
  { log with
    reversed := comments.map (offset, ·) ++ log.reversed
    count := comments.length + log.count }

/-- The log with all comments settled. -/
def settle (log : CommentLog) : CommentLog :=
  ⟨[], 0, log.reversed ++ log.settled⟩

/-- The log after going back to where `count` comments were not settled. -/
def rewind (log : CommentLog) (count : Nat) : CommentLog :=
  { log with reversed := log.reversed.drop (log.count - count), count := min log.count count }

/-- The comments that were settled. -/
def table (log : CommentLog) : CommentTable :=
  ⟨log.settled.reverse⟩

end CommentLog

end CallableLookup
