import EntityCompiler.Script.Gap

/-!
# Statements that end without a semicolon

A statement may end before a closing brace, at the end of the script, and at a line break unless the
next token would continue it. A comment on the way is looked through. Where nothing but the end of
the statement or a comma can follow, a line comment ends the statement at once.
-/

namespace EntityCompiler.LineEnd

/-- The characters that break a line for the end of a statement. -/
def isLineBreak (c : Char) : Bool :=
  c == '\n' || c.toNat == 0x2028 || c.toNat == 0x2029

/-- The white space that is looked through for the end of a statement; it lacks the spaces that do
not allow a break. -/
def isSpace (c : Char) : Bool :=
  let n := c.toNat
  (9 ≤ n && n ≤ 13) || n == 32 || n == 0x1680 || (0x2000 ≤ n && n ≤ 0x2006)
    || (0x2008 ≤ n && n ≤ 0x200a) || n == 0x2028 || n == 0x2029 || n == 0x205f || n == 0x3000

/-- What has been looked through. -/
inductive Passed where
  /-- A slash that starts no comment stands in the way. -/
  | blocked
  /-- A block comment on one line. -/
  | inLine
  /-- Anything else. -/
  | free
deriving DecidableEq

/-- Looks through white space and comments. Unless `all` are wanted, it stops behind the first block
comment, a comment right behind it apart. Each comment takes a character of `bound`, so the text
that is looked through is bound enough. -/
def look (all : Bool) : (bound : List Char) → (broken : Bool) → List Char → Passed × List Char
  | [], _, cs => (.free, cs)
  | _ :: bound, broken, cs =>
    match cs.dropWhile isSpace with
    | '/' :: '/' :: rest => look all bound broken (rest.dropWhile (!isLineBreak ·))
    | '/' :: '*' :: rest =>
      match Text.splitAt? ['*', '/'] rest with
      | none => (.free, [])
      | some (inner, behind) =>
        let broken := broken || inner.any isLineBreak
        if all || behind.head? == some '/' then look all bound broken behind
        else (if broken then .free else .inLine, behind)
    | '/' :: rest => (.blocked, rest)
    | rest => (.free, rest)

/-- The characters that start a token which continues a statement after a line break. -/
def continuing : List Char :=
  ['\x60', ',', ':', ';', '*', '%', '>', '<', '=', '[', '(', '?', '^', '|', '&', '/']

/-- Letters, as far as they matter behind the word `in`. -/
def isLetter (c : Char) : Bool :=
  c.isAlpha || 0x80 ≤ c.toNat

/-- Does a statement end before what stands behind a line break? -/
def endsBefore (cs : List Char) : Bool :=
  match cs with
  | [] => true
  | '.' :: rest => rest.head?.any Char.isDigit
  | '+' :: rest => rest.head? == some '+'
  | '-' :: rest => rest.head? == some '-'
  | '!' :: rest => rest.head? != some '='
  | 'i' :: rest =>
    match rest with
    | 'n' :: behind =>
      if !behind.head?.any isLetter then false
      else if "stanceof".toList.isPrefixOf behind then (behind.drop 8).head?.any isLetter
      else true
    | _ => true
  | c :: _ => !continuing.contains c

/-- Does a statement end at the start of the text, by itself? With `atComment`, a line comment ends
it, unless a comma or an equals sign follows. Each step takes a character of `bound`, so the text
itself is bound enough. -/
def reached (atComment : Bool) : (bound : List Char) → List Char → Bool
  | _, [] => true
  | [], _ => false
  | _ :: bound, c :: cs =>
    let (decided, rest) : Option Bool × List Char :=
      if c == '/' then
        match look false (c :: cs) false (c :: cs) with
        | (.blocked, rest) => (some false, rest)
        | (.inLine, rest) => (none, rest)
        | (.free, rest) =>
          if atComment && rest.head? != some ',' && rest.head? != some '=' then (some true, rest)
          else (none, rest)
      else (none, c :: cs)
    match decided, rest with
    | some answer, _ => answer
    | none, [] => false
    | none, d :: behind =>
      if d == '\x7d' then true
      else if isLineBreak d then
        match look true behind false behind with
        | (.blocked, _) => false
        | (_, next) => endsBefore next
      else if isSpace d then reached atComment bound behind
      else false

/-- Does a statement end at the start of the text, by itself? -/
def here (atComment : Bool) (cs : List Char) : Bool :=
  reached atComment cs cs

/-- The comments behind which a statement ends by itself before the next token, if it does. -/
def within (atComment : Bool) (cs : List Char) : Option (List GapComment) :=
  if here atComment cs then some []
  else
    let rec behind (passed : List GapComment) : List GapComment → Option (List GapComment)
      | [] => none
      | comment :: others =>
        let passed := passed ++ [comment]
        if here atComment comment.behind then some passed else behind passed others
    behind [] (Gap.before cs).comments

end EntityCompiler.LineEnd
