import EntityCompiler.Proofs.CommentMarks
import EntityCompiler.Proofs.Places
import EntityCompiler.Script.Rule

/-!
# Comments and quotations

What looks like a comment is none in a text, in a template or in a regular expression. So the nodes
in a row are told apart from left to right: a mark opens a quotation, then come tokens that do not
close it, then the mark that closes it. No comment is inside of a quotation, and none starts in a
node that is not (`Quotation.Passes`). A tree in which all rows are told apart like this has found
all comments of the script (`SyntaxNode.FindsComments`).
-/

namespace EntityCompiler

/-- How far the quotation in a row of nodes has been read. -/
inductive Quotation where
  /-- No quotation has been opened. -/
  | before
  /-- The quotation that this mark has opened has not been closed. -/
  | inside (mark : String)
  /-- The quotation has been closed. -/
  | behind
deriving DecidableEq, Inhabited

/-- Could the lexeme be a part of what this mark has opened? It is as long as can be, and it does
not close the quotation. -/
def Lexeme.isQuotedBy (mark : String) : Lexeme → Bool
  | textPart quote => mark == String.singleton quote
  | escape => mark != "/"
  | templatePart => mark == "\x60"
  | regexPattern => mark == "/"
  | _ => false

/-- The node has this text, and this is the text behind it. -/
structure SyntaxNode.Stands (code : List Char) (node : SyntaxNode) (text behind : List Char) :
    Prop where
  text : Text.IsBetween code node.start node.stop text
  behind : Text.IsBetween code node.stop (Text.size code) behind

namespace Quotation

/-- The marks that open quotations and close them. -/
def marks : List String :=
  ["\x22", "\x27", "\x60", "/"]

/-- What the nodes are called that hold a quotation. -/
def kinds : List String :=
  ["string", "template_string", "regex"]

/-- How far the quotation is read at the end of a node. -/
def atEnd (kind : String) : Quotation :=
  if kinds.contains kind then behind else before

/-- Has a quotation been opened that is not closed? -/
def isInside : Quotation → Bool
  | inside _ => true
  | before | behind => false

/-- `Passes code q node r`: the quotation in a row has been read as far as `q` in front of the node,
and as far as `r` behind it. -/
inductive Passes (code : List Char) : Quotation → SyntaxNode → Quotation → Prop
  /-- A comment is not in a quotation, and as long as the text says. -/
  | comment {q : Quotation} {node : SyntaxNode} {text behind : List Char} (hq : q.isInside = false)
      (hkind : node.isComment = true) (hstands : node.Stands code text behind)
      (hcomment : comment? (text ++ behind) = some (text, behind)) : Passes code q node q
  /-- No comment starts in another leaf that is not in a quotation. -/
  | plain {q : Quotation} {node : SyntaxNode} {text behind : List Char} (hq : q.isInside = false)
      (hkind : node.isComment = false) (hstands : node.Stands code text behind)
      (hplain : NoCommentStarts text behind) : Passes code q node q
  /-- A mark opens a quotation, where no comment starts. -/
  | opening {node : SyntaxNode} {mark : String} {behind : List Char} (hmark : mark ∈ marks)
      (hkind : node.isComment = false) (hstands : node.Stands code mark.toList behind)
      (hplain : NoCommentStarts mark.toList behind) : Passes code before node (inside mark)
  /-- A part of what is quoted does not close the quotation. -/
  | quoted {node : SyntaxNode} {mark : String} {lexeme : Lexeme} {text behind : List Char}
      (hlexeme : lexeme.isQuotedBy mark = true) (hkind : node.isComment = false)
      (hstands : node.Stands code text behind)
      (hscan : lexeme.scan (text ++ behind) = some (text, behind)) :
      Passes code (inside mark) node (inside mark)
  /-- The mark that has opened the quotation closes it. -/
  | closing {node : SyntaxNode} {mark : String} {rest : List Char}
      (hkind : node.isComment = false) (hstands : node.Stands code mark.toList rest) :
      Passes code (inside mark) node behind
  /-- A node that has others in it or is empty has a row of its own. In a quotation it can only be
  in a template. -/
  | part {q : Quotation} {node : SyntaxNode} (hkind : node.isComment = false)
      (hpart : node.children = [] → node.start = node.stop)
      (hq : q.isInside = true → q = inside "\x60") : Passes code q node q

end Quotation

namespace SyntaxNode

section

variable (code : List Char)

mutual

/-- What is in a node is told apart, and nothing is open at its end. -/
def ToldApart : SyntaxNode → Prop
  | ⟨kind, _, _, children, _, _⟩ =>
    children = [] ∨ ToldInRow .before children (Quotation.atEnd kind)

/-- The nodes in a row are told apart, and so is what is in each of them. -/
def ToldInRow (q : Quotation) : List SyntaxNode → (r : Quotation) → Prop
  | [], r => q = r
  | node :: rest, r =>
    ToldApart node ∧ ∃ mid, Quotation.Passes code q node mid ∧ ToldInRow mid rest r

end

/-- All comments of a script are found: what is below the root is told apart, and nothing is quoted
outside of the nodes for quotations. -/
def FindsComments (root : SyntaxNode) : Prop :=
  ToldInRow code .before root.children .before

end

variable {code : List Char} {nodes others : List SyntaxNode} {q r mid : Quotation}

lemma toldApart_iff {node : SyntaxNode} : node.ToldApart code
    ↔ node.children = [] ∨ ToldInRow code .before node.children (.atEnd node.kind) := by
  cases node
  rw [ToldApart]

/-- A leaf has no row in it. -/
lemma toldApart_leaf {node : SyntaxNode} (h : node.children = []) : node.ToldApart code :=
  toldApart_iff.mpr (.inl h)

/-- The part of a node in the node around it does not matter for how it is told apart. -/
lemma toldApart_field (node : SyntaxNode) (field : Option String) :
    ToldApart code { node with field } ↔ node.ToldApart code := by
  rw [toldApart_iff, toldApart_iff]

end SyntaxNode

namespace Quotation.Passes

variable {code : List Char} {node : SyntaxNode} {q r : Quotation}

/-- A quotation that has been opened stays opened or closed. -/
lemma eq_before (h : Passes code q node .before) : q = .before := by
  cases h <;> rfl

lemma setField (h : Passes code q node r) (field : Option String) :
    Passes code q { node with field } r := by
  cases h with
  | comment hq hkind hstands hcomment => exact .comment hq hkind ⟨hstands.1, hstands.2⟩ hcomment
  | plain hq hkind hstands hplain => exact .plain hq hkind ⟨hstands.1, hstands.2⟩ hplain
  | opening hmark hkind hstands hplain =>
    exact .opening hmark hkind ⟨hstands.1, hstands.2⟩ hplain
  | quoted hlexeme hkind hstands hscan =>
    exact .quoted hlexeme hkind ⟨hstands.1, hstands.2⟩ hscan
  | closing hkind hstands => exact .closing hkind ⟨hstands.1, hstands.2⟩
  | part hkind hpart hq => exact .part hkind hpart hq

end Quotation.Passes

namespace SyntaxNode.ToldInRow

variable {code : List Char} {nodes others : List SyntaxNode} {q r mid : Quotation}

lemma append (h : ToldInRow code q nodes mid) (hothers : ToldInRow code mid others r) :
    ToldInRow code q (nodes ++ others) r := by
  induction nodes generalizing q with
  | nil =>
    obtain rfl : q = mid := h
    exact hothers
  | cons node nodes ih =>
    obtain ⟨hnode, next, hpasses, hrest⟩ := h
    exact ⟨hnode, next, hpasses, ih hrest⟩

lemma of_append (h : ToldInRow code q (nodes ++ others) r) :
    ∃ mid, ToldInRow code q nodes mid ∧ ToldInRow code mid others r := by
  induction nodes generalizing q with
  | nil => exact ⟨q, rfl, h⟩
  | cons node nodes ih =>
    obtain ⟨hnode, next, hpasses, hrest⟩ := h
    obtain ⟨mid, hnodes, hothers⟩ := ih hrest
    exact ⟨mid, ⟨hnode, next, hpasses, hnodes⟩, hothers⟩

/-- One more node at the end of a row. -/
lemma concat {node : SyntaxNode} (h : ToldInRow code q nodes mid) (hnode : node.ToldApart code)
    (hpasses : Quotation.Passes code mid node r) : ToldInRow code q (nodes ++ [node]) r :=
  h.append ⟨hnode, r, hpasses, rfl⟩

/-- A row at the end of which no quotation has been opened starts like this. -/
lemma eq_before (h : ToldInRow code q nodes .before) : q = .before := by
  induction nodes generalizing q with
  | nil => exact h
  | cons node nodes ih =>
    obtain ⟨-, next, hpasses, hrest⟩ := h
    obtain rfl := ih hrest
    exact hpasses.eq_before

lemma withField (h : ToldInRow code q nodes r) (name : String) :
    ToldInRow code q (nodes.map (·.withField name)) r := by
  induction nodes generalizing q with
  | nil => exact h
  | cons node nodes ih =>
    obtain ⟨hnode, next, hpasses, hrest⟩ := h
    rw [List.map_cons]
    unfold SyntaxNode.withField
    split
    · exact ⟨hnode, next, hpasses, ih hrest⟩
    · exact ⟨(node.toldApart_field name).mpr hnode, next, hpasses.setField name, ih hrest⟩

end SyntaxNode.ToldInRow

/-! ## Tokens -/

namespace Quotation

/-- How far a token behind a gap brings the quotation, if it can stand there. -/
def afterToken (q : Quotation) (lexeme : Lexeme) : Option Quotation :=
  if q.isInside || !lexeme.isPlain then none
  else match q, lexeme with
    | before, .exactly text => some (if marks.contains text then inside text else before)
    | _, _ => some q

/-- How far a token without a gap brings the quotation, if it can stand there. -/
def afterGlued (q : Quotation) (lexeme : Lexeme) : Option Quotation :=
  match q with
  | inside mark =>
    if lexeme.isQuotedBy mark then some (inside mark)
    else if lexeme = .exactly mark then some behind
    else none
  | before | behind => if lexeme.isSlashless then some q else none

variable {code cs taken rest : List Char} {q r : Quotation} {lexeme : Lexeme} {leaf : SyntaxNode}

lemma isInside_of_afterToken (h : q.afterToken lexeme = some r) : q.isInside = false := by
  unfold afterToken at h
  split at h
  · contradiction
  · rename_i hfree
    rw [Bool.or_eq_true, not_or] at hfree
    exact Bool.not_eq_true _ ▸ hfree.1

lemma passes_of_afterToken (h : q.afterToken lexeme = some r) (hnone : comment? cs = none)
    (hscan : lexeme.scan cs = some (taken, rest)) (hkind : leaf.isComment = false)
    (hstands : leaf.Stands code taken rest) : Passes code q leaf r := by
  unfold afterToken at h
  split at h
  · contradiction
  · rename_i hfree
    obtain ⟨hq, hlexeme⟩ : q.isInside = false ∧ lexeme.isPlain = true := by simpa using hfree
    have hplain := Lexeme.noCommentStarts_of_scan hlexeme hnone hscan
    split at h
    · rename_i text _
      obtain rfl := Option.some.inj h
      split
      · rename_i hmark
        rw [Lexeme.eq_of_scan_literal hscan rfl] at hstands hplain
        exact .opening (List.contains_iff_mem.mp hmark) hkind hstands hplain
      · exact .plain hq hkind hstands hplain
    · obtain rfl := Option.some.inj h
      exact .plain hq hkind hstands hplain

lemma passes_of_afterGlued (h : q.afterGlued lexeme = some r)
    (hscan : lexeme.scan cs = some (taken, rest)) (hkind : leaf.isComment = false)
    (hstands : leaf.Stands code taken rest) : Passes code q leaf r := by
  have hsame : lexeme.scan (taken ++ rest) = some (taken, rest) := by
    rwa [lexeme.scan_splits hscan]
  have hplain : lexeme.isSlashless = true → NoCommentStarts taken rest := fun hlexeme =>
    noCommentStarts_of_not_mem (Lexeme.scan_slashless hlexeme hscan) rest
  cases q with
  | inside mark =>
    rw [afterGlued] at h
    split at h
    · rename_i hlexeme
      obtain rfl := Option.some.inj h
      exact .quoted hlexeme hkind hstands hsame
    · split at h
      · rename_i hmark
        obtain rfl := Option.some.inj h
        rw [Lexeme.eq_of_scan_literal hscan (by rw [hmark]; rfl)] at hstands
        exact .closing hkind hstands
      · contradiction
  | before | behind =>
    rw [afterGlued] at h
    split at h
    · rename_i hlexeme
      obtain rfl := Option.some.inj h
      exact .plain rfl hkind hstands (hplain hlexeme)
    · contradiction

end Quotation

end EntityCompiler
