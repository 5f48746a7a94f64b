import EntityCompiler.Script.Gap
import EntityCompiler.Value.Reading

/-!
# Lexemes

The tokens of a script. What token stands at a place depends on what the grammar allows there, so a
lexeme is asked for by name: `Lexeme.scan` reads it off the start of a text, or finds that it is not
there. Every scan splits the text into the token and the rest.
-/

namespace EntityCompiler

/-- A token taken off a text, and the rest of the text. -/
abbrev Scanned := Option (List Char × List Char)

namespace Scan

/-- The characters of a text before the first that `stop` holds of, if there are any. -/
def run (stop : Char → Bool) (cs : List Char) : Scanned :=
  let taken := cs.takeWhile (!stop ·)
  if taken.isEmpty then none else some (taken, cs.dropWhile (!stop ·))

/-- The given characters. -/
def literally (expected cs : List Char) : Scanned :=
  if expected.isPrefixOf cs then some (expected, cs.drop expected.length) else none

/-- One scan after another, the second one only if it succeeds. -/
def extend (first : List Char × List Char) (second : List Char → Scanned) :
    List Char × List Char :=
  match second first.2 with
  | some (more, rest) => (first.1 ++ more, rest)
  | none => first

/-! ## Words -/

/-- The ASCII characters that cannot stand in a word, white space and digits apart. -/
def separators : List Char :=
  ":;\x60\"'@#.,|^&<=>+-*/\\%?!~()[]\x7b\x7d".toList

/-- The characters that a word can hold after the first one. -/
def isWordPart (c : Char) : Bool :=
  0x20 ≤ c.toNat && !isScriptBlank c && !separators.contains c

/-- The characters that a word can start with. -/
def isWordStart (c : Char) : Bool :=
  isWordPart c && !c.isDigit

/-- A character of a word that is written as an escape. -/
def wordEscape : List Char → Scanned
  | '\x5c' :: 'u' :: '\x7b' :: rest =>
    let digits := rest.takeWhile fun c => (Value.hexValue? c).isSome
    match rest.dropWhile fun c => (Value.hexValue? c).isSome with
    | '\x7d' :: behind =>
      if digits.isEmpty then none
      else some ('\x5c' :: 'u' :: '\x7b' :: digits ++ ['\x7d'], behind)
    | _ => none
  | '\x5c' :: 'u' :: a :: b :: c :: d :: rest =>
    if [a, b, c, d].all fun e => (Value.hexValue? e).isSome then
      some (['\x5c', 'u', a, b, c, d], rest)
    else none
  | _ => none

/-- The rest of a word behind its first character. Each character and each escape takes a character
of `bound`, so the text that is read is bound enough. -/
def wordTail : (bound : List Char) → List Char → List Char × List Char
  | [], cs => ([], cs)
  | _ :: bound, cs =>
    match cs with
    | [] => ([], [])
    | c :: rest =>
      if isWordPart c then
        let (more, behind) := wordTail bound rest
        (c :: more, behind)
      else match wordEscape cs with
        | some (escape, rest) =>
          let (more, behind) := wordTail bound rest
          (escape ++ more, behind)
        | none => ([], cs)

/-- A word: a name or a keyword. -/
def word (cs : List Char) : Scanned :=
  match cs with
  | [] => none
  | c :: rest =>
    if isWordStart c then
      let (more, behind) := wordTail rest rest
      some (c :: more, behind)
    else (wordEscape cs).map fun (escape, rest) =>
      let (more, behind) := wordTail rest rest
      (escape ++ more, behind)

/-- The words that are no names. -/
def reserved : List String :=
  ["break", "case", "catch", "class", "const", "continue", "debugger", "default", "delete", "do",
    "else", "export", "extends", "false", "finally", "for", "function", "if", "import", "in",
    "instanceof", "new", "null", "return", "super", "switch", "this", "throw", "true", "try",
    "typeof", "var", "void", "while", "with"]

/-! ## Punctuation -/

/-- All punctuation of more than one character. -/
def longMarks : List (List Char) :=
  [">>>=", "...", "===", "!==", "**=", "<<=", ">>=", ">>>", "&&=", "||=", "??=", "<=", ">=", "==",
    "!=", "**", "++", "--", "<<", ">>", "&&", "||", "??", "?.", "+=", "-=", "*=", "/=", "%=", "&=",
    "|=", "^=", "=>"].map String.toList

/-- Punctuation that is not the start of a longer one. -/
def mark (expected cs : List Char) : Scanned :=
  if expected.isPrefixOf cs
      && !longMarks.any fun m => expected.length < m.length && m.isPrefixOf cs then
    some (expected, cs.drop expected.length)
  else none

/-- Do the characters start with a decimal digit? -/
def startsWithDigit (cs : List Char) : Bool :=
  cs.head?.any Char.isDigit

/-- The mark of an optional access: a question mark and a point, but no number behind them. -/
def optionalChain : List Char → Scanned
  | '?' :: '.' :: rest => if startsWithDigit rest then none else some (['?', '.'], rest)
  | _ => none

/-- The question mark of a conditional expression. -/
def questionMark : List Char → Scanned
  | '?' :: '?' :: _ => none
  | '?' :: '.' :: rest => if startsWithDigit rest then some (['?'], '.' :: rest) else none
  | '?' :: rest => some (['?'], rest)
  | _ => none

/-- The mark of an access, with nothing but white space before it. -/
def access (cs : List Char) : Scanned :=
  let blank := cs.takeWhile isScriptBlank
  match cs.dropWhile isScriptBlank with
  | '[' :: rest => some (blank ++ ['['], rest)
  | '.' :: rest => if startsWithDigit rest then none else some (blank ++ ['.'], rest)
  | '?' :: '.' :: rest => if startsWithDigit rest then none else some (blank ++ ['?', '.'], rest)
  | _ => none

/-! ## Numbers -/

/-- Digits, each after the first one perhaps behind an underscore. -/
def digitTail (isDigit : Char → Bool) : List Char → List Char × List Char
  | '_' :: c :: rest =>
    if isDigit c then
      let (more, behind) := digitTail isDigit rest
      ('_' :: c :: more, behind)
    else ([], '_' :: c :: rest)
  | c :: rest =>
    if isDigit c then
      let (more, behind) := digitTail isDigit rest
      (c :: more, behind)
    else ([], c :: rest)
  | [] => ([], [])

/-- Digits that may be grouped by underscores. -/
def digits (isDigit : Char → Bool) : List Char → Scanned
  | [] => none
  | c :: rest =>
    if isDigit c then
      let (more, behind) := digitTail isDigit rest
      some (c :: more, behind)
    else none

/-- The exponent of a number. -/
def exponent : List Char → Scanned
  | e :: rest =>
    if e == 'e' || e == 'E' then
      match rest with
      | s :: behind =>
        if s == '+' || s == '-' then
          (digits Char.isDigit behind).map fun (ds, r) => (e :: s :: ds, r)
        else (digits Char.isDigit rest).map fun (ds, r) => (e :: ds, r)
      | [] => none
    else none
  | [] => none

/-- The digits of a base other than ten, which a zero and a letter announce. -/
def basedDigits : List Char → Scanned
  | '0' :: b :: rest =>
    let isDigit : Option (Char → Bool) :=
      if b == 'x' || b == 'X' then some fun c => (Value.hexValue? c).isSome
      else if b == 'o' || b == 'O' then some fun c => '0' ≤ c && c ≤ '7'
      else if b == 'b' || b == 'B' then some fun c => c == '0' || c == '1'
      else none
    isDigit.bind fun isDigit => (digits isDigit rest).map fun (ds, r) => ('0' :: b :: ds, r)
  | _ => none

/-- Can these digits stand before a point or an exponent? One zero can be in front of others. -/
def isWholePart : List Char → Bool
  | ['0'] => true
  | '0' :: c :: _ => '1' ≤ c && c ≤ '9'
  | _ => true

/-- The letter that marks an integer of any size. -/
def bigSuffix (cs : List Char) : Scanned :=
  literally ['n'] cs

/-- A number. -/
def number (cs : List Char) : Scanned :=
  match basedDigits cs with
  | some based => some (extend based bigSuffix)
  | none =>
    match cs with
    | '.' :: rest =>
      (digits Char.isDigit rest).map fun (ds, r) => extend ('.' :: ds, r) exponent
    | _ =>
      (digits Char.isDigit cs).map fun (ds, rest) =>
        if isWholePart ds then
          match rest with
          | '.' :: behind => extend (extend (ds ++ ['.'], behind) (digits Char.isDigit)) exponent
          | _ =>
            match exponent rest with
            | some (e, behind) => (ds ++ e, behind)
            | none => extend (ds, rest) bigSuffix
        else extend (ds, rest) bigSuffix

/-! ## Texts, templates and regular expressions -/

/-- A run of characters of a quoted text that are no escapes. -/
def textPart (quote : Char) (cs : List Char) : Scanned :=
  run (fun c => c == quote || c == '\x5c' || c == '\r' || c == '\n') cs

/-- The characters that break a line inside a quoted text, if they are escaped. -/
def isEscapedBreak (c : Char) : Bool :=
  c == '\n' || c.toNat == 0x2028 || c.toNat == 0x2029

/-- An octal digit. -/
def isOctal (c : Char) : Bool :=
  '0' ≤ c && c ≤ '7'

/-- An escape in a quoted text or a template. -/
def escape : List Char → Scanned
  | '\x5c' :: c :: rest =>
    if c == 'x' then
      match rest with
      | a :: b :: behind =>
        if [a, b].all fun e => (Value.hexValue? e).isSome then some (['\x5c', c, a, b], behind)
        else none
      | _ => none
    else if c == 'u' then wordEscape ('\x5c' :: c :: rest)
    else if isOctal c then
      let more := (rest.take 2).takeWhile isOctal
      some ('\x5c' :: c :: more, rest.drop more.length)
    else
      match rest with
      | d :: behind =>
        -- the break of a line may be a carriage return and a line feed
        if (c == '\r' || c == '?') && isEscapedBreak d then some (['\x5c', c, d], behind)
        else some (['\x5c', c], rest)
      | [] => some (['\x5c', c], rest)
  | _ => none

/-- The characters of a template up to its end, to an escape or to a substitution. -/
def templateChars : List Char → List Char × List Char
  | [] => ([], [])
  | '$' :: '\x7b' :: rest => ([], '$' :: '\x7b' :: rest)
  | c :: rest =>
    if c == '\x60' || c == '\x5c' then ([], c :: rest)
    else
      let (more, behind) := templateChars rest
      (c :: more, behind)

/-- A run of characters of a template that are no escapes and no substitution. -/
def templatePart (cs : List Char) : Scanned :=
  let (taken, rest) := templateChars cs
  if taken.isEmpty || rest.isEmpty then none else some (taken, rest)

/-- The characters of a regular expression up to the slash that ends it. A slash in a class of
characters does not. -/
def patternChars : (inClass : Bool) → List Char → Scanned
  | _, [] => none
  | _, '\n' :: _ => none
  | inClass, '\x5c' :: c :: rest =>
    if c == '\n' then none
    else (patternChars inClass rest).map fun (more, behind) => ('\x5c' :: c :: more, behind)
  | false, '/' :: rest => some ([], '/' :: rest)
  | inClass, c :: rest =>
    let inClass := if c == '[' then true else if c == ']' then false else inClass
    (patternChars inClass rest).map fun (more, behind) => (c :: more, behind)

/-- The pattern of a regular expression. -/
def regexPattern (cs : List Char) : Scanned :=
  (patternChars false cs).bind fun (taken, rest) =>
    if taken.isEmpty then none else some (taken, rest)

/-- The flags of a regular expression. -/
def regexFlags (cs : List Char) : Scanned :=
  run (fun c => !('a' ≤ c && c ≤ 'z')) cs

end Scan

/-- A token that a place in a script can ask for. -/
inductive Lexeme where
  /-- A keyword. -/
  | keyword (text : String)
  /-- Punctuation. -/
  | mark (text : String)
  /-- These characters, whatever follows them. -/
  | exactly (text : String)
  /-- A name; the reserved words are no names, nor are the words given here. -/
  | name (kind : String) (except : List String)
  /-- Any word, reserved or not. -/
  | anyWord (kind : String)
  | number
  | textPart (quote : Char)
  | escape
  | templatePart
  | regexPattern
  | regexFlags
  | optionalChain
  | questionMark
  /-- The mark of an access, with the white space before it. -/
  | access
deriving DecidableEq, Inhabited

namespace Lexeme

/-- The kind of the leaves that hold a lexeme. -/
def kind : Lexeme → String
  | keyword text => text
  | mark text => text
  | exactly text => text
  | name kind _ => kind
  | anyWord kind => kind
  | number => "number"
  | textPart _ => "string_fragment"
  | escape => "escape_sequence"
  | templatePart => "string_fragment"
  | regexPattern => "regex_pattern"
  | regexFlags => "regex_flags"
  | optionalChain => "optional_chain"
  | questionMark => "?"
  | access => "."

/-- Reads a lexeme off the start of a text. -/
def scan : Lexeme → List Char → Scanned
  | keyword text, cs =>
    match Scan.literally text.toList cs with
    | some (taken, rest) =>
      if rest.head?.any Scan.isWordPart || (Scan.wordEscape rest).isSome then none
      else some (taken, rest)
    | none => none
  | mark text, cs => Scan.mark text.toList cs
  | exactly text, cs => Scan.literally text.toList cs
  | name _ except, cs =>
    (Scan.word cs).bind fun (taken, rest) =>
      let text := String.ofList taken
      if Scan.reserved.contains text || except.contains text then none else some (taken, rest)
  | anyWord _, cs => Scan.word cs
  | number, cs => Scan.number cs
  | textPart quote, cs => Scan.textPart quote cs
  | escape, cs => Scan.escape cs
  | templatePart, cs => Scan.templatePart cs
  | regexPattern, cs => Scan.regexPattern cs
  | regexFlags, cs => Scan.regexFlags cs
  | optionalChain, cs => Scan.optionalChain cs
  | questionMark, cs => Scan.questionMark cs
  | access, cs => Scan.access cs

end Lexeme

end EntityCompiler
