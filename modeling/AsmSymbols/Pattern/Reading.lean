import AsmSymbols.Pattern.Bracket

/-!
# Reading patterns

`Pattern.Expr.ofText` reads a written pattern: characters, escapes, sets in brackets, anchors,
groups, flags, choices and repetitions.  Whether a repetition is greedy is not kept, since it does
not matter for the question whether a pattern occurs.

All recursion is bounded by the length of the text, since every step takes a character.
-/

set_option autoImplicit false

namespace AsmSymbols.Pattern

/-! ## Groups and repetitions -/

/-- What has been read of a group. -/
structure Body where
  /-- Where the current choice starts, and its items, the last first. -/
  start : Nat
  items : List Expr := []
  /-- Where the first choice starts, and the finished ones, the last first. -/
  choices : Option (Nat × List Expr) := none

namespace Body

/-- The current choice, up to `stop`. -/
def current (body : Body) (stop : Nat) : Expr :=
  match body.items with
  | [] => .empty ⟨body.start, stop⟩
  | [item] => item
  | items => .sequence ⟨body.start, stop⟩ items.reverse

def toExpr (body : Body) (stop : Nat) : Expr :=
  match body.choices with
  | none => body.current stop
  | some (start, done) => .choice ⟨start, stop⟩ (done.reverse ++ [body.current stop])

/-- End the current choice at `stop` and start another one behind the bar. -/
def bar (body : Body) (stop : Nat) (behind : Text) : Body :=
  let (start, done) := body.choices.getD (body.start, [])
  ⟨behind.length, [], some (start, body.current stop :: done)⟩

def add (body : Body) (item : Expr) : Body := { body with items := item :: body.items }

end Body

/-- A group that is still open: where it starts, and what surrounds it. -/
structure OpenGroup where
  start : Text
  kind : GroupKind
  spaced : Bool
  body : Body

structure State where
  groups : List OpenGroup := []
  spaced : Bool := false
  body : Body
  /-- The names of groups and where they stand. -/
  names : List (Text × Span) := []

namespace State

def add (state : State) (item : Expr) : State := { state with body := state.body.add item }

/-- Start a group; `rest` is the text inside. -/
def enter (state : State) (start : Text) (kind : GroupKind) (rest : Text) : State :=
  let spaced :=
    match kind with
    | .remembered => state.spaced
    | .plain setting => (setting.lookup 'x').getD state.spaced
  { state with
    groups := ⟨start, kind, state.spaced, state.body⟩ :: state.groups, spaced,
    body := ⟨rest.length, [], none⟩ }

/-- The last item and the state without it.  A setting of flags cannot be repeated. -/
def lastItem (state : State) (start : Text) : Except PatternError (Expr × State) :=
  match state.body.items with
  | [] | .empty _ :: _ | .flags _ _ :: _ => .error (.between .nothingToRepeat start start)
  | item :: items => .ok (item, { state with body.items := items })

/-- Repeat the last item; the sign of the repetition is followed by `behind`. -/
def repeatLast (state : State) (start behind : Text) (least : Nat) (most : Option Nat) :
    Except PatternError (State × Text) := do
  let (item, others) ← state.lastItem start
  .ok (others.add (.repetition ⟨item.span.start, behind.length⟩ item least most), behind)

end State

/-- A mark of laziness may follow a repetition. -/
def dropLazyMark : Text → Text
  | '?' :: rest => rest
  | rest => rest

/-- A count, with white space around it. -/
def readCount (spaced : Bool) (text : Text) : Except PatternError Nat × Text :=
  let start := text.dropWhile Text.isWhiteSpace
  let (digits, behind) := takeSpaced spaced Char.isDigit start.length start
  let count := digits.foldl (fun count digit => 10 * count + (digit.toNat - '0'.toNat)) 0
  let result : Except PatternError Nat :=
    if digits.isEmpty then .error (.between .missingCount start behind)
    else if UInt32.size ≤ count then .error (.between .hugeCount start behind)
    else .ok count
  (result, behind.dropWhile Text.isWhiteSpace)

/-- The bounds behind an opening brace, with which `start` begins, up to the closing one. -/
def readBounds (spaced : Bool) (start : Text) :
    Except PatternError ((Nat × Option Nat) × Text) :=
  let unclosed (stop : Text) : PatternError := .between .unclosedCount start stop
  match skip spaced start.tail with
  | [] => .error (unclosed [])
  | inner =>
    let (first, behind) := readCount spaced inner
    match behind with
    | [] => .error (unclosed [])
    | c :: rest => do
      let (bounds, left) ←
        if c == ',' then
          match skip spaced rest with
          | [] => .error (unclosed [])
          | d :: after => do
            let least ← first
            if d == '}' then .ok ((least, none), d :: after)
            else
              let (second, left) := readCount spaced (d :: after)
              let most ← second
              .ok ((least, some most), left)
        else do
          let count ← first
          .ok ((count, some count), c :: rest)
      match left with
      | '}' :: closed => .ok (bounds, closed)
      | _ => .error (unclosed left)

/-- A counted repetition; `start` begins with the opening brace. -/
def readCounted (state : State) (start : Text) : Except PatternError (State × Text) := do
  let _ ← state.lastItem start
  let ((least, most), closed) ← readBounds state.spaced start
  let behind := dropLazyMark (skip state.spaced closed)
  if most.any (· < least) then .error (.between .backwardCounts start behind)
  else state.repeatLast start behind least most

/-- Flags up to a colon or closing parenthesis, the last first.  `seen` holds the characters read so
far with their places, the last first. -/
def readFlags (seen : List (Char × Span)) (setting : FlagSetting) :
    Text → Except PatternError (FlagSetting × Text)
  | [] => .error (.between .unfinishedFlags [] [])
  | c :: rest =>
    let here := Span.first (c :: rest)
    if c == ':' || c == ')' then
      match seen with
      | ('-', span) :: _ => .error (.fault .danglingNegation span none)
      | _ => .ok (setting, c :: rest)
    else
      let earlier := seen.lookup c
      if c == '-' then
        if earlier.isSome then .error (.fault .repeatedNegation here earlier)
        else readFlags ((c, here) :: seen) setting rest
      else if !("imsUuRx" : Text).contains c then .error (.fault .unknownFlag here none)
      else if earlier.isSome then .error (.fault .repeatedFlag here earlier)
      else
        readFlags ((c, here) :: seen) ((c, (seen.lookup '-').isNone) :: setting) rest

def isNameLetter (first : Bool) (c : Char) : Bool :=
  c == '_' || Unicode.alphabetic.holds c.toNat ||
    (!first && (c == '.' || c == '[' || c == ']' ||
      (Unicode.inCategories Unicode.Category.numbers).holds c.toNat))

/-- The text from the end of a group's name on. -/
def skipGroupName (first : Bool) : Text → Except PatternError Text
  | [] => .error (.between .unclosedGroupName [] [])
  | c :: rest =>
    if c == '>' then .ok (c :: rest)
    else if isNameLetter first c then skipGroupName false rest
    else .error (.between .badGroupName (c :: rest) rest)

/-- A group with a name that no other group has; `name` is the text from the name on. -/
def openNamed (state : State) (start name : Text) : Except PatternError (State × Text) := do
  let behind ← skipGroupName true name
  let word := name.take (name.length - behind.length)
  let span := Span.between name behind
  if word.isEmpty then .error (.between .emptyGroupName name name)
  else
    match state.names.lookup word with
    | some earlier => .error (.fault .repeatedGroupName span (some earlier))
    | none =>
      let named := { state with names := (word, span) :: state.names }
      .ok (named.enter start .remembered behind.tail, behind.tail)

/-- The group or the setting that flags open; `mark` begins with the question mark in front of
them. -/
def openFlagged (state : State) (start mark : Text) : Except PatternError (State × Text) := do
  if mark.tail.isEmpty then .error (.fault .unclosedGroup (.first start) none)
  else
    let (reversed, behind) ← readFlags [] [] mark.tail
    let setting := reversed.reverse
    if behind.head? == some ':' then
      .ok (state.enter start (.plain setting) behind.tail, behind.tail)
    else if behind.length == mark.tail.length then .error (.between .nothingToRepeat mark mark)
    else
      let spaced := (setting.lookup 'x').getD state.spaced
      .ok ({ state with spaced }.add (.flags (.between start behind.tail) setting), behind.tail)

/-- The beginning of a group; `start` begins with the parenthesis. -/
def openGroup (state : State) (start : Text) : Except PatternError (State × Text) :=
  let rest := skip state.spaced start.tail
  match rest with
  | '?' :: '=' :: left | '?' :: '!' :: left | '?' :: '<' :: '=' :: left
  | '?' :: '<' :: '!' :: left => .error (.between .lookAround start left)
  | '?' :: 'P' :: '<' :: name | '?' :: '<' :: name => openNamed state start name
  | '?' :: _ => openFlagged state start rest
  | _ => .ok (state.enter start .remembered rest, rest)

def closeGroup (state : State) (start : Text) : Except PatternError (State × Text) :=
  match state.groups with
  | [] => .error (.fault .unopenedGroup (.first start) none)
  | opened :: groups =>
    let item := Expr.group (.between opened.start start.tail) opened.kind
      (state.body.toExpr start.length)
    .ok ({ state with groups, spaced := opened.spaced, body := opened.body.add item },
      start.tail)

/-! ## Whole patterns -/

/-- Read one item, which begins with `c`. -/
def readItem (state : State) (c : Char) (rest : Text) : Except PatternError (State × Text) :=
  let start := c :: rest
  match c with
  | '(' => openGroup state start
  | ')' => closeGroup state start
  | '|' => .ok ({ state with body := state.body.bar start.length rest }, rest)
  | '[' => do
    let (bracket, inner) ← openBracket state.spaced start
    let (set, behind) ← readBracket state.spaced start.length bracket inner
    .ok (state.add (.set set), behind)
  | '?' => state.repeatLast start (dropLazyMark rest) 0 (some 1)
  | '*' => state.repeatLast start (dropLazyMark rest) 0 none
  | '+' => state.repeatLast start (dropLazyMark rest) 1 none
  | '{' => readCounted state start
  | '.' => .ok (state.add (.dot (.first start)), rest)
  | '^' => .ok (state.add (.anchor (.first start) .lineStart), rest)
  | '$' => .ok (state.add (.anchor (.first start) .lineEnd), rest)
  | _ => do
    let (atom, behind) ← readSetAtom state.spaced c rest
    match atom with
    | .literal written => .ok (state.add (.literal written), behind)
    | .anchor span sign => .ok (state.add (.anchor span sign), behind)
    | .set written => .ok (state.add (.set written), behind)

def finish (state : State) : Except PatternError Expr :=
  match state.groups with
  | [] => .ok (state.body.toExpr 0)
  | opened :: _ => .error (.fault .unclosedGroup (.first opened.start) none)

def readItems : Nat → State → Text → Except PatternError Expr
  | 0, state, _ => finish state
  | fuel + 1, state, text =>
    match skip state.spaced text with
    | [] => finish state
    | c :: rest => do
      let (next, behind) ← readItem state c rest
      readItems fuel next behind

/-- Parts may be nested this deep. -/
def depthLimit : Nat := 250

def Expr.ofText (text : Text) : Except PatternError Expr := do
  let expr ← readItems (text.length + 1) { body := ⟨text.length, [], none⟩ } text
  match expr.tooDeep? depthLimit with
  | some span => .error (.fault .tooDeep span none)
  | none => .ok expr

end AsmSymbols.Pattern
