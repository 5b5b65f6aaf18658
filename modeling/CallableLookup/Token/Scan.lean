import CallableLookup.Span
import CallableLookup.Text.Characters
import CallableLookup.Token.Basic
import CallableLookup.Token.Literal

/-!
# Scanning

From the text behind one token to the next: the gap, then the token.
-/

namespace CallableLookup

/-!
## Gaps

What lies between two tokens: white space, line ends and comments. A comment belongs to the
token before it or leads the token behind it, which depends on the token before and on whether a
line ended in between; only the comments that lead are kept. The old comment marks of markup,
`<!--` anywhere and `-->` at the start of a line, open a line comment too, and so do the seven
equal signs that a merge leaves at the start of a line where two versions of a text differ. The
token behind such a comment counts as starting at the mark. Seven bars and a space there, which a
merge puts before what two versions come from, open a line comment that no token can follow.
-/

/-- The gap in front of a token. -/
structure Gap where
  /-- Where the first comment that is opened by a mark of markup or of a merge starts. -/
  mark : Option Nat
  /-- Whether the gap holds a comment that no token can follow. -/
  barred : Bool
  /-- Whether a line ended in the gap. -/
  broken : Bool
  /-- The comments that lead the next token, last first. -/
  reversed : List Comment
  stop : Cursor

namespace Gap

/-- What is being read in a gap. -/
inductive Mode where
  | blank
  /-- The last `count` characters of a mark that opens or closes a comment. -/
  | pass (count : Nat) (behind : Mode)
  /-- A line comment: its start, its characters so far, and whether it leads the next token. -/
  | line (start : Nat) (text : List Char) (leads : Bool)
  /-- A block comment: its start, its characters so far, and whether a line end was inside. -/
  | block (start : Nat) (text : List Char) (endedLine : Bool)

/-- How a gap is read: the token before it, whether marks that start with an angle bracket open a
comment, and whether a comment was met that no token can follow, behind which there are no marks. -/
structure Setting where
  before : Option Token
  angles : Bool
  barred : Bool

/-- Whether a line comment leads the next token. -/
def lineLeads (setting : Setting) (broken : Bool) : Bool :=
  broken || setting.before.any Token.isOperator

/-- Whether a block comment leads the next token, given what follows it. -/
def blockLeads (setting : Setting) (broken : Bool) (rest : List Char) : Bool :=
  if broken then true
  else
    !(setting.before.any Token.keepsBlockComment) &&
      (rest.dropWhile fun c => Text.isSpace c || Text.isLineTerminator c).head? != some ';'

/-- The comments kept after one more comment. -/
def keep (kept : List Comment) (leads : Bool) (kind : CommentKind) (text : List Char)
    (start stop : Nat) : List Comment :=
  if leads then ⟨kind, String.ofList text.reverse, ⟨start, stop⟩⟩ :: kept else kept

/-- The kinds of marks that open a comment. -/
inductive MarkKind where
  /-- The marks of the language itself. -/
  | plain
  /-- The token behind the comment counts as starting at the mark. -/
  | counted
  /-- No token can follow the comment. -/
  | barring
deriving DecidableEq

/-- The opening mark of a comment. -/
structure Opening where
  /-- The characters of the mark. -/
  length : Nat
  /-- What is read behind the mark. -/
  comment : Mode
  kind : MarkKind

/-- The mark of markup or of a merge that opens a comment at a list of characters. -/
def foreignOpening? (setting : Setting) (broken : Bool) (offset : Nat) :
    List Char → Option Opening
  | '<' :: '!' :: '-' :: '-' :: _ =>
    if setting.angles then some ⟨4, .line (offset + 1) [] (lineLeads setting broken), .counted⟩
    else none
  | '-' :: '-' :: '>' :: _ =>
    if broken then some ⟨3, .line (offset + 3) [] true, .counted⟩ else none
  | '<' :: '<' :: '<' :: '<' :: '<' :: '<' :: '<' :: ' ' :: _ =>
    if broken && setting.angles then some ⟨7, .line (offset + 2) [] true, .counted⟩ else none
  | '>' :: '>' :: '>' :: '>' :: '>' :: '>' :: '>' :: ' ' :: _ =>
    if broken && setting.angles then some ⟨8, .line (offset + 3) [] true, .counted⟩ else none
  | '=' :: '=' :: '=' :: '=' :: '=' :: '=' :: '=' :: _ =>
    if broken then some ⟨7, .line (offset + 3) [] true, .counted⟩ else none
  | '|' :: '|' :: '|' :: '|' :: '|' :: '|' :: '|' :: ' ' :: _ =>
    if broken then some ⟨7, .line (offset + 2) [] true, .barring⟩ else none
  | _ => none

/-- The mark that opens a comment at a list of characters. -/
def opening? (setting : Setting) (broken : Bool) (offset : Nat) (cs : List Char) :
    Option Opening :=
  match cs with
  | '/' :: '/' :: _ => some ⟨2, .line offset [] (lineLeads setting broken), .plain⟩
  | '/' :: '*' :: _ => some ⟨2, .block offset [] false, .plain⟩
  | _ => if setting.barred then none else foreignOpening? setting broken offset cs

/-- How a gap is read on behind an opening mark. -/
def Setting.behind (setting : Setting) (o : Opening) : Setting :=
  { setting with barred := setting.barred || o.kind == .barring }

/-- Where the token behind an opening mark counts as starting. -/
def Opening.mark (o : Opening) (offset : Nat) (mark : Option Nat) : Option Nat :=
  if o.kind == .plain then mark else mark <|> some offset

/-- Read a gap to its end. A block comment that is never closed reaches to the end of the text
and is not kept. -/
def read (setting : Setting) (mark : Option Nat) (broken : Bool) (kept : List Comment)
    (offset : Nat) : Mode → List Char → Gap
  | .line start text leads, [] =>
    ⟨mark, setting.barred, broken, keep kept leads .line text start offset, ⟨offset, []⟩⟩
  | .blank, [] | .pass .., [] | .block .., [] =>
    ⟨mark, setting.barred, broken, kept, ⟨offset, []⟩⟩
  | .pass count behind, c :: cs =>
    read setting mark broken kept (offset + c.utf8Size)
      (if count ≤ 1 then behind else .pass (count - 1) behind) cs
  | .blank, c :: cs =>
    if Text.isLineTerminator c then
      read setting mark true kept (offset + c.utf8Size) .blank cs
    else if Text.isSpace c then
      read setting mark broken kept (offset + c.utf8Size) .blank cs
    else
      match opening? setting broken offset (c :: cs) with
      | some o =>
        read (setting.behind o) (o.mark offset mark) broken kept (offset + c.utf8Size)
          (.pass (o.length - 1) o.comment) cs
      | none => ⟨mark, setting.barred, broken, kept, ⟨offset, c :: cs⟩⟩
  | .line start text leads, c :: cs =>
    if Text.isLineTerminator c then
      read setting mark true (keep kept leads .line text start offset) (offset + c.utf8Size)
        .blank cs
    else read setting mark broken kept (offset + c.utf8Size) (.line start (c :: text) leads) cs
  | .block start text endedLine, c :: cs =>
    if c == '*' && cs.head? == some '/' then
      let leads := blockLeads setting broken (cs.drop 1)
      read setting mark (broken || endedLine) (keep kept leads .block text start (offset + 2))
        (offset + 1) (.pass 1 .blank) cs
    else
      read setting mark broken kept (offset + c.utf8Size)
        (.block start (c :: text) (endedLine || Text.isLineTerminator c)) cs

end Gap

end CallableLookup

namespace CallableLookup.Token

/-!
## Tokens behind gaps

One token at a time: the gap in front of it is passed, then the longest sign, the word, number
or literal at the cursor is taken. Whether a slash starts a regular expression, a brace goes on
with a template and a word is part of markup is known to the grammar only, which then asks for
the token to be read again.
-/

/-- The signs with their spelling, longer ones before their beginnings. -/
def signs : List (List Char × Punct) :=
  [Punct.shrAssign, .ellipsis, .eqEqEq, .notEqEq, .powAssign, .shlAssign, .sarAssign, .shr,
   .logicalAndAssign, .logicalOrAssign, .nullishAssign, .arrow, .increment, .decrement,
   .addAssign, .subAssign, .mulAssign, .divAssign, .modAssign, .andAssign, .orAssign, .xorAssign,
   .eqEq, .notEq, .ltEq, .gtEq, .shl, .sar, .pow, .or, .and, .nullish, .lbrace, .rbrace, .lparen,
   .rparen, .lbracket, .rbracket, .semi, .comma, .dot, .atSign, .hash, .tilde, .bang, .question,
   .colon, .assign, .lt, .gt, .add, .sub, .mul, .div, .mod, .bitOr, .bitXor, .bitAnd].map
    fun p => (p.text.toList, p)

/-- The longest sign at a cursor. Inside a type, angle brackets are signs of their own. -/
def scanSign? (inType : Bool) (c : Cursor) : Option (Token × Cursor) :=
  match inType, c.rest with
  | true, '<' :: _ => some (.punct .lt, c.skip 1)
  | true, '>' :: _ => some (.punct .gt, c.skip 1)
  | _, _ =>
    (signs.find? fun (spelling, _) => spelling.isPrefixOf c.rest).map
      fun (spelling, sign) => (.punct sign, c.skip spelling.length)

/-- The token at a cursor that stands before one or at the end of the text. -/
def scanHere (scope : WordScope) (inType : Bool) (c : Cursor) : Token × Cursor :=
  match c.rest with
  | [] => (.eof, c)
  | x :: xs =>
    if startsWord x then scanWord scope c
    else if x.isDigit || (x == '.' && xs.head?.any Char.isDigit) then scanNumber c
    else if x == '"' || x == '\'' then scanString x (c.skip 1)
    else if x == '`' then scanTemplate (c.skip 1)
    else (scanSign? inType c).getD (.error (.unexpectedCharacter x), c.skip 1)

end CallableLookup.Token

namespace CallableLookup

/-- A token, the comments that lead it, last first, and the cursor behind it. -/
structure Scanned where
  lexeme : Lexeme
  reversed : List Comment := []
  stop : Cursor
  /-- Whether the end of the text was met in front of all marks, which settles the comments. -/
  settles : Bool := false

namespace Scanned

/-- A token whose gap holds a mark counts from the mark on, and so does the name of a word with a
meaning of its own. -/
def markedToken (token : Token) (source : List Char) : Token :=
  match token with
  | .word text _ => if isKnownWord text then .word text (String.ofList source) else token
  | _ => token

/-- The token behind a gap that started at a cursor. -/
def behindGap (scope : WordScope) (inType : Bool) (c : Cursor) (gap : Gap) : Scanned :=
  let (token, stop) :=
    if gap.barred then (.error .mergeMarker, gap.stop) else Token.scanHere scope inType gap.stop
  match gap.mark with
  | none =>
    { lexeme := ⟨token, ⟨gap.stop.offset, stop.offset⟩, gap.broken⟩
      reversed := gap.reversed
      stop := stop
      settles := token == .eof }
  | some mark =>
    let source := Text.takeBytes (stop.offset - mark) (Text.dropBytes (mark - c.offset) c.rest)
    { lexeme := ⟨markedToken token source, ⟨mark, stop.offset⟩, gap.broken⟩
      reversed := gap.reversed
      stop := stop }

/-- The next token. -/
def next (scope : WordScope) (inType : Bool) (before : Option Token) (first : Bool) (c : Cursor) :
    Scanned :=
  behindGap scope inType c (Gap.read ⟨before, !inType, false⟩ none first [] c.offset .blank c.rest)

/-- A token that follows without a gap. -/
def direct (token : Token) (start : Nat) (afterBreak : Bool) (stop : Cursor) : Scanned :=
  { lexeme := ⟨token, ⟨start, stop.offset⟩, afterBreak⟩, stop := stop }

/-- The first token of a text. A first line that starts with a hash and an exclamation mark is
a token of its own. -/
def first (text : List Char) : Scanned :=
  let c := Cursor.ofText text
  match text with
  | '#' :: '!' :: _ => direct .shebang 0 true (c.takeWhile fun x => !Text.isLineTerminator x).2
  | _ => next {} false none true c

/-- The flags of a regular expression: a word, if a letter of the ASCII alphabet starts it. -/
def regexpFlags (c : Cursor) : Except (SyntaxError × Cursor) Cursor :=
  if c.rest.head?.any Text.isPlainNameStart then
    (Token.wordRun [] false c.offset 0 c.rest).map (·.stop)
  else .ok c

/-- A regular expression whose opening slash is at `start`; `c` is behind that slash. -/
def regexp (start : Nat) (afterBreak : Bool) (c : Cursor) : Scanned :=
  let body := Token.regexpEnd false c.offset c.rest
  if body.closed then
    match regexpFlags body.stop with
    | .ok stop => direct .regexp start afterBreak stop
    | .error (cause, stop) => direct (.error cause) start afterBreak stop
  else direct (.error .unterminatedRegexp) start afterBreak body.stop

/-- The part of a template that goes on behind the brace of a substitution. -/
def templateRest (start : Nat) (c : Cursor) : Scanned :=
  let (token, stop) := Token.scanTemplate c
  direct token start false stop

/-- What comes next between the tags of markup: text, a brace, or the start of a tag. -/
def markup (c : Cursor) : Scanned :=
  let token (t : Token) (stop : Cursor) : Scanned := direct t c.offset false stop
  match c.rest with
  | [] => token .eof c
  | '{' :: _ => token (.punct .lbrace) (c.skip 1)
  | '<' :: '/' :: _ => token (.punct .lessSlash) (c.skip 2)
  | '<' :: _ => token (.punct .lt) (c.skip 1)
  | _ => token .markupText (c.takeWhile fun x => x != '<' && x != '{').2

/-- A name in markup, which may hold hyphens; `c` is behind its first part, a word. -/
def markupName (word : String) (start : Nat) (afterBreak : Bool) (c : Cursor) : Scanned :=
  let (more, stop) := c.takeWhile fun x => Text.isNamePart x || x == '-'
  direct (.markupName (word ++ String.ofList more)) start afterBreak stop

/-- The cursor behind the quote at a cursor. At the very end of a text the quote is not passed. -/
def behindQuote (c : Cursor) : Cursor :=
  if 3 ≤ Text.bytes (c.rest.take 3) then c.skip 1 else c

/-- The value of an attribute behind its equals sign: in quotes that follow at once nothing is
escaped. -/
def markupValue (scope : WordScope) (before : Option Token) (c : Cursor) : Scanned :=
  match c.rest with
  | x :: _ =>
    if x == '"' || x == '\'' then
      let (body, close) := (c.skip 1).takeWhile (· != x)
      direct (.string (String.ofList body)) c.offset false (behindQuote close)
    else next scope false before false c
  | [] => next scope false before false c

end Scanned

end CallableLookup
