import EntityCompiler.Script.Rule

/-!
# The grammar of scripts

The rules of JavaScript for the body of a function. An expression knows whether the statement it
stands in can end behind it without a semicolon: there, an increment or a decrement on the next line
belongs to the next statement. Assignments are read where their left side is, so that the right side
takes in as much as it can.

The grammar stands in for that of the tree-sitter parser, and its nodes are called what they are
called there. It is smaller, and refuses these scripts: those with `import` and `export`, also as
`import(..)` and `import.meta`, with private names such as `#x`, with JSX, with a first line that
starts with `#!`, and with comments that start with `<!--` or `-->`.
-/

namespace EntityCompiler

/-- The symbols of the grammar. The flag of an expression says whether a statement can end behind
it; the flag of a pattern says whether it declares names, or assigns to anything that can be
assigned to. -/
inductive Symbol where
  | statement
  | block
  | variableDeclaration
  | lexicalDeclaration
  | declarator
  | expressions (ends : Bool)
  | expression (ends : Bool)
  | binary (ends : Bool) (level : Nat)
  | unary (ends : Bool)
  | operand (ends : Bool)
  | chain (ends : Bool)
  | newExpression (ends : Bool)
  | primary (ends : Bool)
  | thisOrName
  | parenthesized
  | arguments
  | text
  | regularExpression
  | templateString
  | object
  | array
  | propertyName
  | pattern (declares : Bool)
  | target (declares : Bool)
  | patternElement (declares : Bool)
  | restPattern (declares : Bool)
  | parameters
  | functionBody
  | classBody
  | classHeritage
  | method
  | methodHead
deriving DecidableEq, Inhabited

namespace Grammar

open Rule (inOrder oneOf optional repeated separated)

/-- A rule of the grammar of scripts. -/
abbrev ScriptRule := Rule Symbol

/-- A keyword. -/
def keyword (text : String) : ScriptRule :=
  .token (.keyword text)

/-- Punctuation. -/
def mark (text : String) : ScriptRule :=
  .token (.mark text)

/-- A name, as a leaf of the given kind. -/
def name (kind : String) : ScriptRule :=
  .token (.name kind [])

/-- A name that stands for nothing yet, so that nothing of it is accessed. -/
def declared (kind : String) : ScriptRule :=
  .both (name kind) (.either (.notAhead (.glued .access)) (mark "("))

/-- A name that is declared. -/
def identifier : ScriptRule :=
  declared "identifier"

/-- The mark of an optional access. -/
def optionalChain : ScriptRule :=
  .field "optional_chain" (.token .optionalChain)

/-- What stands between an object and its property. -/
def accessMark : ScriptRule :=
  .either (mark ".") optionalChain

/-- Nothing, where no access goes on. A point can also start a number. -/
def notAccessed : ScriptRule :=
  .notAhead (.both (.notAhead (.token .number)) accessMark)

/-- The end of a statement: a semicolon, or nothing where none is needed. -/
def semicolon (atComment : Bool) : ScriptRule :=
  .either (.both notAccessed (.lineEnd atComment)) (mark ";")

/-- Nothing, where no statement can end by itself. -/
def sameStatement (atComment : Bool) : ScriptRule :=
  .notAhead (.lineEnd atComment)

/-- Items between brackets, separated by commas; any of them can be missing. -/
def holedList (opening closing : String) (item : ScriptRule) : ScriptRule :=
  inOrder [mark opening, optional item, .many (.both (mark ",") (optional item)), mark closing]

/-- An access to a property in a decorator. -/
def decoratorTail : ScriptRule :=
  .wrap "member_expression" (some "object")
    (.both (mark ".") (.field "property" (.token (.anyWord "property_identifier"))))

/-- A decorator: a name, perhaps with properties and arguments behind it. -/
def decorator : ScriptRule :=
  .node "decorator" (inOrder [mark "@", name "identifier", .many decoratorTail,
    optional (.wrap "call_expression" (some "function") (.field "arguments" (.symbol .arguments)))])

/-- The decorators in front of something, if there are any and it stands behind them. -/
def decorators (behind : ScriptRule) : ScriptRule :=
  let several := repeated (.field "decorator" decorator)
  optional (.both (.ahead (.both several behind)) several)

/-! ## Statements -/

/-- A statement that is a declaration of variables, with its end. An initial value lets the
statement go on behind it. -/
def declarationEnd : ScriptRule :=
  .either (.both (.given (.endsWith "value")) (semicolon false)) (semicolon true)

/-- Declared variables, separated by commas. -/
def declarators : ScriptRule :=
  separated (mark ",") (.symbol .declarator)

/-- An initial value. -/
def initializer (ends : Bool) : ScriptRule :=
  .both (mark "=") (.field "value" (.symbol (.expression ends)))

/-- The parameters and the body of a declared function. -/
def declaredFunction : ScriptRule :=
  .both (.field "parameters" (.symbol .parameters)) (.field "body" (.symbol .block))

/-- The head of a loop over the items of something. -/
def itemLoopHead : ScriptRule :=
  inOrder [keyword "for", optional (keyword "await"), mark "(",
    .either
      (.both (.field "kind" (oneOf [keyword "var", keyword "let", keyword "const"]))
        (.field "left" (.symbol (.target true))))
      (.field "left" (.either (.symbol (.target false)) (.symbol .parenthesized))),
    .field "operator" (.either (keyword "in") (keyword "of")),
    .field "right" (.symbol (.expressions false)), mark ")"]

/-- The empty statement. -/
def emptyStatement : ScriptRule :=
  .node "empty_statement" (mark ";")

/-- The first part of the header of a counting loop. -/
def loopStart : ScriptRule :=
  oneOf [.field "initializer" (.symbol .variableDeclaration),
    .field "initializer" (.symbol .lexicalDeclaration), .field "initializer" emptyStatement,
    .both (.field "initializer" (.symbol (.expressions false))) (mark ";")]

/-- The condition in the header of a counting loop. -/
def loopCondition : ScriptRule :=
  .either (.field "condition" emptyStatement)
    (.field "condition" (.both (.symbol (.expressions false)) (mark ";")))

/-- A condition in parentheses. -/
def condition : ScriptRule :=
  .field "condition" (.symbol .parenthesized)

/-- The statement that another one controls. -/
def controlled (role : String) : ScriptRule :=
  .field role (.symbol .statement)

/-- Statements under a label of a `switch`. -/
def caseStatements : ScriptRule :=
  .many (controlled "body")

/-- The cases of a `switch`. -/
def switchCase : ScriptRule :=
  .either
    (.node "switch_case" (inOrder [keyword "case",
      .field "value" (.symbol (.expressions false)), mark ":", caseStatements]))
    (.node "switch_default" (inOrder [keyword "default", mark ":", caseStatements]))

/-- The clause for the exceptions of a `try`. -/
def catchClause : ScriptRule :=
  .node "catch_clause" (inOrder [keyword "catch",
    optional (inOrder [mark "(", .field "parameter" (.symbol (.target true)), mark ")"]),
    .field "body" (.symbol .block)])

/-- A jump, perhaps to a label. -/
def jump (kind word : String) : ScriptRule :=
  .node kind (inOrder [keyword word,
    optional (.both (sameStatement true) (.field "label" (declared "statement_identifier"))),
    semicolon true])

/-- A label of a statement. -/
def label : ScriptRule :=
  .both (.field "label" (declared "statement_identifier")) (mark ":")

/-- A statement. What starts like one with another statement in it is nothing else. -/
def statement : ScriptRule :=
  oneOf [
    .symbol .block,
    .symbol .variableDeclaration,
    .symbol .lexicalDeclaration,
    .node "function_declaration" (inOrder [optional (keyword "async"), keyword "function",
      .field "name" identifier, declaredFunction]),
    .node "generator_function_declaration" (inOrder [optional (keyword "async"),
      keyword "function", mark "*", .field "name" identifier, declaredFunction]),
    .node "class_declaration"
      (inOrder [decorators (keyword "class"), keyword "class", .field "name" identifier,
      optional (.symbol .classHeritage), .field "body" (.symbol .classBody)]),
    .node "if_statement" (inOrder [keyword "if", condition, controlled "consequence",
      .either
        (.field "alternative" (.node "else_clause" (.both (keyword "else") (.symbol .statement))))
        (.notAhead (keyword "else"))]),
    .node "for_in_statement" (.both itemLoopHead (controlled "body")),
    .node "for_statement"
      (.both (.notAhead itemLoopHead) (inOrder [keyword "for", mark "(", loopStart,
      loopCondition, optional (.field "increment" (.symbol (.expressions false))), mark ")",
      controlled "body"])),
    .node "while_statement" (inOrder [keyword "while", condition, controlled "body"]),
    .node "do_statement" (inOrder [keyword "do", controlled "body", keyword "while", condition,
      optional (semicolon true)]),
    .node "switch_statement" (inOrder [keyword "switch",
      .field "value" (.symbol .parenthesized),
      .field "body" (.node "switch_body"
        (inOrder [mark "\x7b", .many switchCase, mark "\x7d"]))]),
    .node "try_statement" (inOrder [keyword "try", .field "body" (.symbol .block),
      optional (.field "handler" catchClause),
      optional (.field "finalizer" (.node "finally_clause"
        (.both (keyword "finally") (.field "body" (.symbol .block)))))]),
    .node "with_statement" (inOrder [keyword "with", .field "object" (.symbol .parenthesized),
      controlled "body"]),
    .node "return_statement" (inOrder [keyword "return", sameStatement true,
      .symbol (.expressions true), semicolon false]),
    .node "return_statement" (.both (keyword "return") (semicolon true)),
    .node "throw_statement" (inOrder [keyword "throw", .symbol (.expressions true),
      semicolon false]),
    jump "break_statement" "break",
    jump "continue_statement" "continue",
    .node "debugger_statement" (.both (keyword "debugger") (semicolon true)),
    emptyStatement,
    .node "labeled_statement" (.both label (controlled "body")),
    .node "expression_statement" (.both (.notAhead label)
      (.both (.symbol (.expressions true)) (semicolon false)))]

/-! ## Expressions -/

/-- The binary operators of one precedence, the loosest first. All but the last level group to the
left. -/
def operators : List (List ScriptRule) :=
  [[mark "??"], [mark "||"], [mark "&&"], [mark "|"], [mark "^"], [mark "&"],
    [mark "===", mark "!==", mark "==", mark "!="],
    [mark "<=", mark ">=", mark "<", mark ">", keyword "instanceof", keyword "in"],
    [mark "<<", mark ">>>", mark ">>"], [mark "+", mark "-"], [mark "*", mark "/", mark "%"],
    [mark "**"]]

/-- The level of the operator that groups to the right. -/
def powerLevel : Nat := 11

/-- What can follow an operand from the given precedence on: an operator and its right operand. -/
def binaryTails (ends : Bool) (level : Nat) : List ScriptRule :=
  ((operators.zipIdx).drop level).map fun (marks, n) =>
    let right := if n == powerLevel then n else n + 1
    .wrap "binary_expression" (some "left")
      (.both (.field "operator" (oneOf marks)) (.field "right" (.symbol (.binary ends right))))

/-- A unary operator and its operand. -/
def unaryExpression (ends : Bool) : ScriptRule :=
  .node "unary_expression" (.both
    (.field "operator" (oneOf [mark "!", mark "~", mark "-", mark "+", keyword "typeof",
      keyword "void", keyword "delete"]))
    (.field "argument" (.symbol (.unary ends))))

/-- An increment or a decrement. -/
def updateOperator : ScriptRule :=
  .field "operator" (.either (mark "++") (mark "--"))

/-- The operators that compute a value and assign it. -/
def assigningOperators : ScriptRule :=
  oneOf [mark "+=", mark "-=", mark "*=", mark "/=", mark "%=", mark "**=", mark "<<=",
    mark ">>>=", mark ">>=", mark "&=", mark "|=", mark "^=", mark "&&=", mark "||=", mark "??="]

/-- What a plain assignment goes on with behind its left side. -/
def assignmentTail (ends : Bool) : ScriptRule :=
  .wrap "assignment_expression" (some "left")
    (.both (mark "=") (.field "right" (.symbol (.expression ends))))

/-- What can be done with an operand: assign to it, or count it up or down. -/
def operandTail (ends : Bool) : ScriptRule :=
  oneOf [
    .both
      (.given (.ofKind ["identifier", "undefined", "member_expression", "subscript_expression",
        "parenthesized_expression"]))
      (assignmentTail ends),
    .both
      (.given (.ofKind ["identifier", "member_expression", "subscript_expression",
        "parenthesized_expression"]))
      (.wrap "augmented_assignment_expression" (some "left")
        (.both (.field "operator" assigningOperators)
          (.field "right" (.symbol (.expression ends))))),
    .both (if ends then sameStatement false else .nothing)
      (.wrap "update_expression" (some "argument") updateOperator),
    .nothing]

/-- An access to a property. -/
def memberTail : ScriptRule :=
  .wrap "member_expression" (some "object")
    (.both accessMark (.field "property" (.token (.anyWord "property_identifier"))))

/-- An access to an item. -/
def subscriptTail : ScriptRule :=
  .wrap "subscript_expression" (some "object")
    (inOrder [optional optionalChain, mark "[", .field "index" (.symbol (.expressions false)),
      mark "]"])

/-- An access to a property or an item. -/
def accessTail : ScriptRule :=
  .either memberTail subscriptTail

/-- A template that a function is applied to. -/
def templateTail : ScriptRule :=
  .wrap "call_expression" (some "function") (.field "arguments" (.symbol .templateString))

/-- A call. -/
def callTail : ScriptRule :=
  .wrap "call_expression" (some "function")
    (.both (optional optionalChain) (.field "arguments" (.symbol .arguments)))

/-- The fields of a function in an expression. -/
def inlineFunction : ScriptRule :=
  inOrder [optional (.field "name" identifier), .field "parameters" (.symbol .parameters),
    .field "body" (.symbol .functionBody)]

/-- What an arrow function has behind its parameters. -/
def arrowTail (ends : Bool) : ScriptRule :=
  .both (mark "=>")
    (.field "body" (.either (.symbol .functionBody) (.symbol (.expression ends))))

/-- An arrow function. -/
def arrowFunction (ends : Bool) : ScriptRule :=
  let named := .both (.field "parameter" identifier) (arrowTail ends)
  let listed := .both (.field "parameters" (.symbol .parameters)) (arrowTail ends)
  .node "arrow_function" (oneOf [.both (keyword "async") named, named,
    .both (keyword "async") listed, listed])

/-- A quoted text. -/
def quotedText (quote : Char) : ScriptRule :=
  let ends := String.singleton quote
  .node "string" (inOrder [.token (.exactly ends),
    .many (.either (.glued (.textPart quote)) (.glued .escape)), .glued (.exactly ends)])

/-- Something spread into a list or an object. -/
def spread : ScriptRule :=
  .node "spread_element" (.both (mark "...") (.symbol (.expression false)))

/-- An expression that no operator starts. -/
def primary (ends : Bool) : ScriptRule :=
  oneOf [
    keyword "super", keyword "null", keyword "true", keyword "false",
    .token .number,
    .symbol .text,
    .symbol .templateString,
    .symbol .regularExpression,
    arrowFunction ends,
    .node "function_expression" (inOrder [optional (keyword "async"), keyword "function",
      inlineFunction]),
    .node "generator_function" (inOrder [optional (keyword "async"), keyword "function",
      mark "*", inlineFunction]),
    .node "class"
      (inOrder [decorators (keyword "class"), keyword "class", optional (.field "name" identifier),
      optional (.symbol .classHeritage), .field "body" (.symbol .classBody)]),
    .symbol .parenthesized,
    -- a list or an object that is assigned to is a pattern
    .both (.either (.symbol .array) (.symbol .object)) (.notAhead (mark "=")),
    keyword "undefined",
    .symbol .thisOrName]

/-- An operand at the front of an expression, with the unary operators before it. -/
def unary (ends : Bool) : ScriptRule :=
  oneOf [
    unaryExpression ends,
    .node "update_expression" (.both updateOperator (.field "argument" (.symbol (.unary ends)))),
    .node "await_expression" (.both (keyword "await") (.symbol (.unary ends))),
    .node "yield_expression" (.both (keyword "yield")
      (.either (.both (mark "*") (.symbol (.expression ends)))
        (optional (.both (if ends then sameStatement false else .nothing)
          (.symbol (.expression ends)))))),
    .symbol (.operand ends)]

/-! ## Objects, patterns, functions and classes -/

/-- The entry of an object. -/
def objectEntry : ScriptRule :=
  oneOf [spread, .symbol .method,
    .node "pair" (inOrder [.field "key" (.symbol .propertyName), mark ":",
      .field "value" (.symbol (.expression false))]),
    declared "shorthand_property_identifier"]

/-- What stands for a value that is not there. -/
def withDefault (r : ScriptRule) : ScriptRule :=
  .both r (optional (.wrap "assignment_pattern" (some "left")
    (.both (mark "=") (.field "right" (.symbol (.expression false))))))

/-- The entry of an object pattern. -/
def patternEntry (declares : Bool) : ScriptRule :=
  oneOf [.symbol (.restPattern declares),
    .node "pair_pattern" (inOrder [.field "key" (.symbol .propertyName), mark ":",
      .field "value" (withDefault (.symbol (.target declares)))]),
    .node "object_assignment_pattern" (inOrder [
      .field "left" (declared "shorthand_property_identifier_pattern"), mark "=",
      .field "right" (.symbol (.expression false))]),
    declared "shorthand_property_identifier_pattern"]

/-- What stands behind something that a pattern or a loop assigns to. -/
def targetEnd : ScriptRule :=
  oneOf [mark "=", mark ",", mark "]", mark "\x7d", keyword "in", keyword "of"]

/-- What a pattern binds or assigns to. -/
def target (declares : Bool) : ScriptRule :=
  .either (.symbol (.pattern declares))
    (if declares then identifier
    else inOrder [.symbol (.chain false),
      .given (.ofKind ["identifier", "undefined", "member_expression", "subscript_expression"]),
      .ahead targetEnd])

/-- The name of a method, its parameters and its body. -/
def methodTail : ScriptRule :=
  inOrder [.field "name" (.symbol .propertyName), .field "parameters" (.symbol .parameters),
    .field "body" (.symbol .block)]

/-- The end of a field of a class. -/
def fieldEnd (atComment : Bool) : ScriptRule :=
  .either (mark ";") (.both notAccessed (.ahead (.lineEnd atComment)))

/-- A field of a class, with or without an initial value. -/
def classField (value : ScriptRule) : ScriptRule :=
  .node "field_definition" (.both (decorators .nothing) (.either
    (inOrder [keyword "static", .field "property" (.symbol .propertyName), value])
    (.both (.field "property" (.symbol .propertyName)) value)))

/-- A member of a class. -/
def classMember : ScriptRule :=
  oneOf [
    .both (.field "member" (.symbol .method)) (optional (mark ";")),
    .both (.field "member" (classField (initializer true))) (fieldEnd false),
    .both (.field "member" (classField (.ahead (fieldEnd true)))) (fieldEnd true),
    .field "member" (.node "class_static_block"
      (.both (keyword "static") (.field "body" (.symbol .block)))),
    mark ";"]

/-- The rule of each symbol. -/
def rules : Symbol → ScriptRule
  | .statement => statement
  | .block =>
    .node "statement_block" (inOrder [mark "\x7b", .many (.symbol .statement), mark "\x7d"])
  | .functionBody =>
    .node "statement_block" (inOrder [mark "\x7b", .many (.symbol .statement), mark "\x7d",
      optional (.lineEnd false)])
  | .variableDeclaration =>
    .node "variable_declaration" (inOrder [keyword "var", declarators, declarationEnd])
  | .lexicalDeclaration =>
    .node "lexical_declaration" (inOrder [
      .field "kind" (.either (keyword "let") (keyword "const")), declarators, declarationEnd])
  | .declarator =>
    .node "variable_declarator" (.both (.field "name" (.symbol (.target true)))
      (optional (initializer true)))
  | .expressions ends =>
    .both (.symbol (.expression ends)) (optional (.wrap "sequence_expression" none
      (repeated (.both (mark ",") (.symbol (.expression ends))))))
  | .expression ends =>
    .both (.symbol (.binary ends 0)) (optional (.wrap "ternary_expression" (some "condition")
      (inOrder [.token .questionMark, .field "consequence" (.symbol (.expression false)),
        mark ":", .field "alternative" (.symbol (.expression ends))])))
  | .binary ends level => .both (.symbol (.unary ends)) (.many (oneOf (binaryTails ends level)))
  | .unary ends => unary ends
  | .operand ends =>
    .either (.both (.symbol (.chain ends)) (operandTail ends))
      (.both (.symbol (.pattern false)) (assignmentTail ends))
  | .chain ends =>
    .both (.either (.symbol (.newExpression ends)) (.symbol (.primary ends)))
      (.many (oneOf [accessTail, callTail, templateTail]))
  | .newExpression ends =>
    .either
      (.node "meta_property" (inOrder [keyword "new", mark ".", keyword "target"]))
      (.node "new_expression" (inOrder [keyword "new",
        .field "constructor" (.both
          (.either (.symbol (.newExpression ends)) (.symbol (.primary ends)))
          (.many (oneOf [accessTail, templateTail]))),
        optional (.field "arguments" (.symbol .arguments))]))
  | .primary ends => primary ends
  | .thisOrName => .either (keyword "this") (.token (.name "identifier" ["await", "yield"]))
  | .parenthesized =>
    .node "parenthesized_expression" (inOrder [mark "(", .symbol (.expressions false), mark ")"])
  | .arguments =>
    .node "arguments" (holedList "(" ")" (.either spread (.symbol (.expression false))))
  | .text => .either (quotedText '\x22') (quotedText '\x27')
  | .regularExpression =>
    .node "regex" (inOrder [.token (.exactly "/"), .field "pattern" (.glued .regexPattern),
      .glued (.exactly "/"), optional (.field "flags" (.glued .regexFlags))])
  | .templateString =>
    .node "template_string" (inOrder [.token (.exactly "\x60"),
      .many (oneOf [.glued .templatePart, .glued .escape,
        .node "template_substitution" (inOrder [.token (.exactly "$\x7b"),
          .symbol (.expressions false), mark "\x7d"])]),
      .glued (.exactly "\x60")])
  | .object => .node "object" (holedList "\x7b" "\x7d" objectEntry)
  | .array => .node "array" (holedList "[" "]" (.either spread (.symbol (.expression false))))
  | .propertyName =>
    oneOf [.symbol .text, .token .number,
      .node "computed_property_name"
        (inOrder [mark "[", .symbol (.expression false), mark "]"]),
      .token (.anyWord "property_identifier")]
  | .pattern declares =>
    .either (.node "object_pattern" (holedList "\x7b" "\x7d" (patternEntry declares)))
      (.node "array_pattern" (holedList "[" "]" (.symbol (.patternElement declares))))
  | .target declares => target declares
  | .patternElement declares =>
    .either (.symbol (.restPattern declares)) (withDefault (.symbol (.target declares)))
  | .restPattern declares =>
    .node "rest_pattern" (.both (mark "...") (.symbol (.target declares)))
  | .parameters =>
    .node "formal_parameters" (inOrder [mark "(",
      optional (.both (separated (mark ",") (.symbol (.patternElement true)))
        (optional (mark ","))),
      mark ")"])
  | .classHeritage =>
    .node "class_heritage" (.both (keyword "extends") (.symbol (.expression false)))
  | .classBody =>
    .node "class_body" (inOrder [mark "\x7b", .many classMember, mark "\x7d"])
  | .method =>
    .node "method_definition" (.both (decorators .nothing)
      (.either (.both (keyword "static") (.symbol .methodHead)) (.symbol .methodHead)))
  | .methodHead =>
    let accessed := .either (.both (oneOf [keyword "get", keyword "set", mark "*"]) methodTail)
      methodTail
    .either (.both (keyword "async") accessed) accessed

end Grammar

end EntityCompiler
