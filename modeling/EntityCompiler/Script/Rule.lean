import EntityCompiler.Script.Lexeme
import EntityCompiler.Script.LineEnd
import EntityCompiler.Script.Syntax

/-!
# Grammar rules

A grammar gives each of its symbols a rule, and `Rule.run` reads a script by a rule, token by token.
The comments between two tokens become nodes in the same row as the node that starts with the second
one. Choices are ordered: the second rule of `either` is tried only where the first one does not
apply.

A construct whose first part is an expression, such as a sum, is read by first reading that
expression and then wrapping it: `wrap` makes the node finished last the first child of a new one.
-/

namespace EntityCompiler

/-- What the node finished last must be like. -/
inductive Condition where
  /-- It is of one of these kinds. -/
  | ofKind (kinds : List String)
  /-- Its last child has this field. -/
  | endsWith (field : String)
deriving DecidableEq, Inhabited

/-- Does a node meet a condition? -/
def Condition.holds : Condition → SyntaxNode → Bool
  | ofKind kinds, node => kinds.contains node.kind
  | endsWith field, node => (node.children.getLast?.bind (·.field)) == some field

/-- A rule of a grammar with the symbols `σ`. -/
inductive Rule (σ : Type) where
  /-- Nothing. -/
  | nothing
  /-- A token, as a leaf. -/
  | token (lexeme : Lexeme)
  /-- A token with no gap before it, as a leaf. -/
  | glued (lexeme : Lexeme)
  /-- A node with what the rule gives as its children. -/
  | node (kind : String) (body : Rule σ)
  /-- A node with the node finished last as its first child. -/
  | wrap (kind : String) (field : Option String) (body : Rule σ)
  /-- What the rule gives, each node with this field. -/
  | field (name : String) (body : Rule σ)
  /-- One rule, then the other. -/
  | both (first second : Rule σ)
  /-- The first rule that applies. -/
  | either (first second : Rule σ)
  /-- The rule, as often as it applies. -/
  | many (body : Rule σ)
  /-- Nothing, where the rule applies. -/
  | ahead (body : Rule σ)
  /-- Nothing, where the rule does not apply. -/
  | notAhead (body : Rule σ)
  /-- Nothing, if the node finished last meets the condition. -/
  | given (condition : Condition)
  /-- Nothing, where a statement ends by itself; the comments passed on the way are finished. -/
  | lineEnd (atComment : Bool)
  /-- The rule of a symbol. -/
  | symbol (s : σ)
deriving DecidableEq, Inhabited

namespace Rule

variable {σ : Type}

/-- One rule after another. -/
def inOrder : List (Rule σ) → Rule σ
  | [] => nothing
  | [r] => r
  | r :: rest => both r (inOrder rest)

/-- The first of some rules that applies. -/
def oneOf : List (Rule σ) → Rule σ
  | [] => notAhead nothing
  | [r] => r
  | r :: rest => either r (oneOf rest)

/-- The rule, or nothing. -/
def optional (r : Rule σ) : Rule σ :=
  either r nothing

/-- The rule, once or more. -/
def repeated (r : Rule σ) : Rule σ :=
  both r (many r)

/-- A rule at least once, with another one between each time and the next. -/
def separated (separator item : Rule σ) : Rule σ :=
  both item (many (both separator item))

end Rule

/-- A place in a script while it is read. -/
structure Cursor where
  /-- The finished nodes, the last one first. -/
  done : List SyntaxNode
  /-- The text that is left. -/
  rest : List Char
  /-- The number of bytes read. -/
  place : Nat
deriving Inhabited

/-- What a rule comes to: where it ended, if it applies, and the farthest place at which a token was
asked for in vain. -/
structure Reply where
  found : Option Cursor
  refused : Nat
deriving Inhabited

/-- The node as a part of the node around it. Comments are no part of anything. -/
def SyntaxNode.withField (node : SyntaxNode) (name : String) : SyntaxNode :=
  if node.isComment then node else { node with field := name }

namespace Cursor

/-- The cursor behind a finished node. -/
def push (cursor : Cursor) (node : SyntaxNode) (rest : List Char) : Cursor :=
  ⟨node :: cursor.done, rest, node.stop⟩

/-- The cursor behind a comment. -/
def passComment (cursor : Cursor) (comment : GapComment) : Cursor :=
  let start := cursor.place + Text.size comment.blank
  cursor.push
    { kind := SyntaxNode.commentKind, start, stop := start + Text.size comment.text } comment.behind

/-- The cursor behind some comments. -/
def passComments (cursor : Cursor) (comments : List GapComment) : Cursor :=
  comments.foldl passComment cursor

/-- The cursor behind a gap. -/
def pass (cursor : Cursor) (gap : Gap) : Cursor :=
  let last := cursor.passComments gap.comments
  ⟨last.done, gap.rest, last.place + Text.size gap.blank⟩

/-- The cursor in front of the first node inside another one. -/
def inside (cursor : Cursor) : Cursor :=
  { cursor with done := [] }

/-- The cursor behind a node that ends where the last node inside it does. -/
def inNode (cursor : Cursor) (kind : String) (inner : Cursor) : Cursor :=
  cursor.push
    { kind, start := cursor.place, stop := inner.place, children := inner.done.reverse } inner.rest

/-- The cursor behind a finished node that has become the first one inside another node. -/
def behindFirst (cursor : Cursor) (first : SyntaxNode) (role : Option String) : Cursor :=
  { cursor with done := [{ first with field := role }] }

/-- The cursor behind a node around the node finished last. -/
def around (first : SyntaxNode) (others : List SyntaxNode) (kind : String) (inner : Cursor) :
    Cursor :=
  let made : SyntaxNode :=
    { kind, start := first.start, stop := inner.place, children := inner.done.reverse }
  { inner with done := made :: others }

/-- The cursor behind some nodes with a field. -/
def withField (cursor : Cursor) (name : String) (inner : Cursor) : Cursor :=
  { inner with done := inner.done.map (·.withField name) ++ cursor.done }

/-- Reads a token at the cursor. -/
def takeToken (cursor : Cursor) (lexeme : Lexeme) : Option Cursor :=
  (lexeme.scan cursor.rest).map fun (taken, rest) =>
    let leaf : SyntaxNode :=
      { kind := lexeme.kind, start := cursor.place, stop := cursor.place + Text.size taken }
    cursor.push leaf rest

/-- Ends a statement by itself, if it ends here. -/
def endStatement (cursor : Cursor) (atComment : Bool) : Option Cursor :=
  (LineEnd.within atComment cursor.rest).map fun comments =>
    if cursor.done.isEmpty then cursor else cursor.passComments comments

end Cursor

namespace Reply

/-- The reply that a token is at the cursor, or is not. -/
def ofToken (cursor : Cursor) (lexeme : Lexeme) (refused : Nat) : Reply :=
  match cursor.takeToken lexeme with
  | some next => ⟨some next, refused⟩
  | none => ⟨none, max refused cursor.place⟩

/-- The reply with something else to go on from, if the rule applies. -/
def map (reply : Reply) (f : Cursor → Cursor) : Reply :=
  { reply with found := reply.found.map f }

end Reply

namespace Rule

variable {σ : Type}

/-- Reads a script by a rule from a cursor on. `refused` is the farthest place so far at which a
token was asked for in vain; the fuel bounds the depth of the rules. -/
def run (grammar : σ → Rule σ) : (fuel : Nat) → Rule σ → Cursor → (refused : Nat) → Reply
  | 0, _, _, refused => ⟨none, refused⟩
  | fuel + 1, rule, cursor, refused =>
    match rule with
    | nothing => ⟨cursor, refused⟩
    | token lexeme => .ofToken (cursor.pass (Gap.before cursor.rest)) lexeme refused
    | glued lexeme => .ofToken cursor lexeme refused
    | node kind body =>
      let front := cursor.pass (Gap.before cursor.rest)
      (run grammar fuel body front.inside refused).map (front.inNode kind)
    | wrap kind role body =>
      match cursor.done with
      | [] => ⟨none, refused⟩
      | first :: others =>
        if first.isComment then ⟨none, refused⟩
        else
          (run grammar fuel body (cursor.behindFirst first role) refused).map
            (Cursor.around first others kind)
    | field name body =>
      (run grammar fuel body cursor.inside refused).map (cursor.withField name)
    | both first second =>
      let reply := run grammar fuel first cursor refused
      match reply.found with
      | none => reply
      | some next => run grammar fuel second next reply.refused
    | either first second =>
      let reply := run grammar fuel first cursor refused
      match reply.found with
      | none => run grammar fuel second cursor reply.refused
      | some _ => reply
    | many body =>
      let reply := run grammar fuel body cursor refused
      match reply.found with
      | none => ⟨cursor, reply.refused⟩
      | some next =>
        if next.place ≤ cursor.place then ⟨cursor, reply.refused⟩
        else run grammar fuel (many body) next reply.refused
    | ahead body =>
      match (run grammar fuel body cursor refused).found with
      | none => ⟨none, refused⟩
      | some _ => ⟨cursor, refused⟩
    | notAhead body =>
      match (run grammar fuel body cursor refused).found with
      | none => ⟨cursor, refused⟩
      | some _ => ⟨none, refused⟩
    | given condition =>
      if cursor.done.head?.any condition.holds then ⟨cursor, refused⟩ else ⟨none, refused⟩
    | lineEnd atComment => ⟨cursor.endStatement atComment, refused⟩
    | symbol s => run grammar fuel (grammar s) cursor refused

end Rule

end EntityCompiler
