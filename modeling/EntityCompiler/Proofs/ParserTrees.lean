import EntityCompiler.Proofs.Fragments
import EntityCompiler.Proofs.Quotations
import EntityCompiler.Proofs.RuleResult

/-!
# The trees of the parser

Reading by a rule takes characters off the text that is left and puts a node for them behind the
finished ones, so these always fit the text read so far, and comments are told from what is quoted
(`Rule.run_fits`). It is checked once for each way of reading, whatever the grammar is; of the
grammar of scripts it is only used that no rule makes comments or errors, and that quotations are
opened and closed in nodes of their own (`Rule.passage`). So the tree of the parser covers the
script and all comments are found (`Grammar.parser_covers`).
-/

namespace EntityCompiler

open SyntaxNode (FitInRow ToldInRow)

/-! ## Nodes as parts -/

variable {code : List Char}

namespace SyntaxNode

/-- A node that fits the script, with no error in it and with its comments told from what is quoted.
-/
structure IsRead (code : List Char) (node : SyntaxNode) : Prop where
  fits : node.Fits isScriptBlank code
  readable : node.hasError = false
  told : node.ToldApart code

lemma anyHasError_eq_false_iff {nodes : List SyntaxNode} :
    anyHasError nodes = false ↔ ∀ node ∈ nodes, node.hasError = false := by
  induction nodes with
  | nil => simp [anyHasError]
  | cons node nodes ih => simp [anyHasError, ih]

/-- The part of a node in the node around it does not matter for where it stands and how it is read.
-/
lemma fits_field {blank : Char → Bool} (node : SyntaxNode) (field : Option String) :
    Fits blank code { node with field } ↔ node.Fits blank code := by
  cases node
  rw [Fits, Fits]

lemma hasError_field (node : SyntaxNode) (field : Option String) :
    hasError { node with field } = node.hasError := by
  rw [hasError_eq, hasError_eq]
  rfl

lemma IsRead.setField {node : SyntaxNode} (h : node.IsRead code) (field : Option String) :
    IsRead code { node with field } where
  fits := (node.fits_field field).mpr h.fits
  readable := (node.hasError_field field).trans h.readable
  told := (node.toldApart_field field).mpr h.told

lemma isComment_withField (node : SyntaxNode) (name : String) :
    (node.withField name).isComment = node.isComment := by
  unfold withField
  split <;> rfl

lemma hasError_withField (node : SyntaxNode) (name : String) :
    (node.withField name).hasError = node.hasError := by
  unfold withField
  split
  · rfl
  · exact node.hasError_field name

lemma FitInRow.withField {blank : Char → Bool} {nodes : List SyntaxNode} {place stop : Nat}
    (h : FitInRow blank code place nodes stop) (name : String) :
    FitInRow blank code place (nodes.map (·.withField name)) stop := by
  induction nodes generalizing place with
  | nil => exact h
  | cons node nodes ih =>
    obtain ⟨hgap, hnode, hrest⟩ := h
    rw [List.map_cons]
    unfold SyntaxNode.withField
    split
    · exact ⟨hgap, hnode, ih hrest⟩
    · exact ⟨hgap, (node.fits_field name).mpr hnode, ih hrest⟩

end SyntaxNode

/-! ## Cursors -/

/-- What the nodes are called that are read by rules: neither comments nor errors. -/
def IsPartKind (kind : String) : Prop :=
  kind ≠ SyntaxNode.commentKind ∧ kind ≠ SyntaxNode.errorKind

instance (kind : String) : Decidable (IsPartKind kind) :=
  inferInstanceAs (Decidable (_ ∧ _))

namespace IsPartKind

variable {node : SyntaxNode}

lemma isComment_eq (h : IsPartKind node.kind) : node.isComment = false := by
  simpa [SyntaxNode.isComment] using h.1

lemma isError_eq (h : IsPartKind node.kind) (hfound : node.isMissing = false) :
    node.isError = false := by
  simpa [SyntaxNode.isError, hfound] using h.2

end IsPartKind

/-- The nodes behind a place of a script fit it as far as it is read. The quotation in their row is
read as far as `entry` in front of them, and as far as `q` behind them. -/
structure Cursor.Aligned (code : List Char) (start : Nat) (entry q : Quotation) (cursor : Cursor) :
    Prop where
  rest : Text.IsBetween code cursor.place (Text.size code) cursor.rest
  row : FitInRow isScriptBlank code start cursor.done.reverse cursor.place
  told : ToldInRow code entry cursor.done.reverse q
  readable : ∀ node ∈ cursor.done, node.hasError = false

namespace Cursor.Aligned

variable {start : Nat} {entry q r : Quotation} {cursor : Cursor}

/-- A finished node takes its text off what is left, and white space in front of it. -/
lemma push (h : cursor.Aligned code start entry q) {node : SyntaxNode} {gap rest : List Char}
    (hgap : Text.IsBetween code cursor.place node.start gap)
    (hblank : ∀ c ∈ gap, isScriptBlank c = true) (hread : node.IsRead code)
    (hpasses : Quotation.Passes code q node r)
    (hrest : Text.IsBetween code node.stop (Text.size code) rest) :
    (cursor.push node rest).Aligned code start entry r where
  rest := hrest
  row := by
    rw [Cursor.push, List.reverse_cons]
    exact h.row.append ⟨⟨gap, hgap, hblank⟩, hread.fits, rfl⟩
  told := by
    rw [Cursor.push, List.reverse_cons]
    exact h.told.concat hread.told hpasses
  readable := List.forall_mem_cons.mpr ⟨hread.readable, h.readable⟩

/-- A node without other nodes in it fits where its text stands. -/
lemma pushLeaf (h : cursor.Aligned code start entry q) {kind : String} {first last : Nat}
    {gap text rest : List Char} (hkind : kind ≠ SyntaxNode.errorKind)
    (hgap : Text.IsBetween code cursor.place first gap) (hblank : ∀ c ∈ gap, isScriptBlank c = true)
    (hstands : SyntaxNode.Stands code { kind, start := first, stop := last } text rest)
    (hpasses : Quotation.Passes code q { kind, start := first, stop := last } r) :
    (cursor.push { kind, start := first, stop := last } rest).Aligned code start entry r := by
  refine h.push hgap hblank ⟨?_, ?_, SyntaxNode.toldApart_leaf rfl⟩ hpasses hstands.behind
  · rw [SyntaxNode.Fits]
    exact ⟨⟨text, hstands.text⟩, .inl rfl⟩
  · simpa [SyntaxNode.hasError, SyntaxNode.anyHasError, SyntaxNode.isError] using hkind

/-- Comments are passed where no quotation is open. -/
lemma passComments (h : cursor.Aligned code start entry q) {comments : List GapComment}
    {rest : List Char} (hcomments : GapComment.AreAt cursor.rest comments rest)
    (hclear : comments = [] ∨ q.isInside = false) :
    (cursor.passComments comments).Aligned code start entry q := by
  induction comments generalizing cursor with
  | nil => exact h
  | cons comment comments ih =>
    have hfree : q.isInside = false := hclear.resolve_left (List.cons_ne_nil _ _)
    obtain ⟨hcomment, hothers⟩ := hcomments
    have hrest := h.rest
    rw [hcomment.chars_eq, List.append_assoc] at hrest
    obtain ⟨hgap, hbehind⟩ := hrest.split
    have hstands : SyntaxNode.Stands code
        { kind := SyntaxNode.commentKind, start := cursor.place + Text.size comment.blank,
          stop := cursor.place + Text.size comment.blank + Text.size comment.text }
        comment.text comment.behind := ⟨hbehind.split.1, hbehind.split.2⟩
    have hnext : (cursor.passComment comment).Aligned code start entry q :=
      h.pushLeaf (by decide) hgap hcomment.blank hstands
        (.comment hfree rfl hstands hcomment.isComment)
    exact ih hnext hothers (.inr hfree)

/-- Behind a gap, the text that is left is that behind the white space after the last comment. -/
lemma pass (h : cursor.Aligned code start entry q) {gap : Gap} (hgap : gap.IsAt cursor.rest)
    (hclear : gap.comments = [] ∨ q.isInside = false) :
    (cursor.passComments gap.comments).Aligned code start entry q
      ∧ Text.IsBetween code (cursor.passComments gap.comments).place
        (cursor.pass gap).place gap.blank
      ∧ Text.IsBetween code (cursor.pass gap).place (Text.size code) gap.rest := by
  have hlast := h.passComments hgap.comments hclear
  have hfront := hlast.rest
  rw [Cursor.rest_passComments hgap.comments] at hfront
  exact ⟨hlast, hfront.split⟩

end Cursor.Aligned

/-- What is finished, from a place of the script on, fits it as far as it is read; unless nothing is
finished, there are not only comments. -/
structure Cursor.Fits (code : List Char) (start : Nat) (entry q : Quotation) (cursor : Cursor) :
    Prop extends cursor.Aligned code start entry q where
  parted : cursor.done = [] ∨ ∃ node ∈ cursor.done, node.isComment = false

/-- If the rule applies, what it has finished fits the script, and the place that was refused is
one. -/
structure Reply.Fits (code : List Char) (start : Nat) (entry q : Quotation) (reply : Reply) : Prop
    where
  refused : Text.IsPlace code reply.refused
  found : ∀ next, reply.found = some next → next.Fits code start entry q

section

variable {start refused : Nat} {entry q r : Quotation} {cursor : Cursor}

lemma Text.IsPlace.max {cs : List Char} {place other : Nat} (h : Text.IsPlace cs place)
    (hother : Text.IsPlace cs other) : Text.IsPlace cs (max place other) := by
  rcases Nat.le_total place other with hle | hle
  · rwa [Nat.max_eq_right hle]
  · rwa [Nat.max_eq_left hle]

lemma Reply.Fits.none (hrefused : Text.IsPlace code refused) :
    Reply.Fits code start entry q ⟨none, refused⟩ :=
  ⟨hrefused, fun _ h => by contradiction⟩

lemma Reply.Fits.some (hrefused : Text.IsPlace code refused) (h : cursor.Fits code start entry q) :
    Reply.Fits code start entry q ⟨some cursor, refused⟩ :=
  ⟨hrefused, fun _ hnext => Option.some.inj hnext ▸ h⟩

lemma Reply.Fits.map {reply : Reply} {other : Nat} {entry' q' : Quotation}
    (h : reply.Fits code other entry' q') {f : Cursor → Cursor}
    (hf : ∀ inner, reply.found = .some inner → inner.Fits code other entry' q' →
      (f inner).Fits code start entry q) : (reply.map f).Fits code start entry q := by
  refine ⟨h.refused, fun next hnext => ?_⟩
  obtain ⟨inner, hinner, rfl⟩ := Option.map_eq_some_iff.mp hnext
  exact hf inner hinner (h.found inner hinner)

/-- The text that is left is the end of the script, however far it is read. -/
lemma Text.IsBetween.of_reads {p next : Cursor} (hreads : p.Reads next)
    (h : Text.IsBetween code p.place (Text.size code) p.rest) :
    Text.IsBetween code next.place (Text.size code) next.rest := by
  obtain ⟨taken, hrest, hplace⟩ := hreads
  rw [hrest] at h
  rw [hplace]
  exact h.split.2

namespace Cursor

lemma fits_nil {place : Nat} {rest : List Char}
    (hrest : Text.IsBetween code place (Text.size code) rest) :
    Fits code place q q ⟨[], rest, place⟩ :=
  ⟨⟨hrest, rfl, rfl, fun _ h => absurd h List.not_mem_nil⟩, .inl rfl⟩

/-- A token behind a gap becomes a leaf. -/
lemma Fits.takeToken (h : cursor.Fits code start entry q) (hrefused : Text.IsPlace code refused)
    {gap : Gap} (hgap : gap.IsAt cursor.rest) (hclear : gap.comments = [] ∨ q.isInside = false)
    {lexeme : Lexeme} (hkind : IsPartKind lexeme.kind)
    (hpasses : ∀ {leaf : SyntaxNode} {taken rest : List Char}, leaf.isComment = false →
      lexeme.scan gap.rest = some (taken, rest) → leaf.Stands code taken rest →
        Quotation.Passes code q leaf r) :
    (Reply.ofToken (cursor.pass gap) lexeme refused).Fits code start entry r := by
  obtain ⟨hlast, hblank, hrest⟩ := h.pass hgap hclear
  unfold Reply.ofToken
  split
  · rename_i next hnext
    obtain ⟨⟨taken, rest⟩, hscan, rfl⟩ := Option.map_eq_some_iff.mp hnext
    have hsplit : gap.rest = taken ++ rest := (lexeme.scan_splits hscan).symm
    rw [hsplit] at hrest
    have hstands : SyntaxNode.Stands code
        { kind := lexeme.kind, start := (cursor.pass gap).place,
          stop := (cursor.pass gap).place + Text.size taken } taken rest :=
      ⟨hrest.split.1, hrest.split.2⟩
    have hleaf := hlast.pushLeaf hkind.2 hblank hgap.blank hstands
      (hpasses hkind.isComment_eq hscan hstands)
    exact .some hrefused ⟨hleaf, .inr ⟨_, List.mem_cons_self, hkind.isComment_eq⟩⟩
  · exact .none (hrefused.max hrest.isPlace_start)

lemma mem_done_passComments {comments : List GapComment} {node : SyntaxNode}
    (hnode : node ∈ cursor.done) : node ∈ (cursor.passComments comments).done := by
  induction comments generalizing cursor with
  | nil => exact hnode
  | cons comment comments ih => exact ih (List.mem_cons_of_mem _ hnode)

/-- The comments that end a statement are finished. -/
lemma Fits.endStatement (h : cursor.Fits code start entry q) (hfree : q.isInside = false)
    (hrefused : Text.IsPlace code refused) (atComment : Bool) :
    Reply.Fits code start entry q ⟨cursor.endStatement atComment, refused⟩ := by
  refine ⟨hrefused, fun next hnext => ?_⟩
  obtain ⟨comments, hwithin, rfl⟩ := Option.map_eq_some_iff.mp hnext
  split
  · exact h
  · rename_i hdone
    obtain ⟨others, hcomments⟩ := LineEnd.prefix_of_within hwithin
    have hgap := (Gap.isAt_before cursor.rest).comments
    rw [← hcomments] at hgap
    obtain ⟨behind, hpassed⟩ := hgap.of_append
    refine ⟨h.passComments hpassed (.inr hfree), .inr ?_⟩
    rcases h.parted with hnone | ⟨node, hnode, hkind⟩
    · rw [hnone] at hdone
      exact absurd rfl hdone
    · exact ⟨node, mem_done_passComments hnode, hkind⟩

/-- What is finished can be put into a node, which has other nodes in it or is empty. -/
lemma Fits.children {kind : String} (h : cursor.Fits code start .before (.atEnd kind))
    (hstart : Text.IsPlace code start) (hkind : IsPartKind kind) :
    SyntaxNode.IsRead code
        { kind, start, stop := cursor.place, children := cursor.done.reverse }
      ∧ (cursor.done.reverse = [] → start = cursor.place) := by
  have hempty : cursor.done.reverse = [] → start = cursor.place := by
    intro hnone
    have hrow := h.row
    rw [hnone] at hrow
    exact hrow
  refine ⟨⟨?_, ?_, SyntaxNode.toldApart_iff.mpr (.inr h.told)⟩, hempty⟩
  · rw [SyntaxNode.Fits]
    refine ⟨h.row.isBetween hstart, ?_⟩
    rcases h.parted with hnone | ⟨node, hnode, hnot⟩
    · exact .inl (List.reverse_eq_nil_iff.mpr hnone)
    · exact .inr ⟨⟨node, List.mem_reverse.mpr hnode, hnot⟩, h.row⟩
  · rw [SyntaxNode.hasError_eq, hkind.isError_eq rfl, Bool.false_or,
      SyntaxNode.anyHasError_eq_false_iff]
    exact fun child hchild => h.readable child (List.mem_reverse.mp hchild)

/-- Nothing is finished yet behind a gap. -/
lemma Fits.inside (h : cursor.Fits code start entry q) {gap : Gap} (hgap : gap.IsAt cursor.rest) :
    (cursor.pass gap).inside.Fits code (cursor.pass gap).place .before .before :=
  fits_nil (h.rest.of_reads (reads_pass hgap))

/-- A node behind a gap fits if what is in it does. -/
lemma Fits.inNode (h : cursor.Fits code start entry q) {gap : Gap} (hgap : gap.IsAt cursor.rest)
    (hclear : gap.comments = [] ∨ q.isInside = false)
    (hopen : q.isInside = true → q = .inside "\x60") {inner : Cursor} {kind : String}
    (hinner : inner.Fits code (cursor.pass gap).place .before (.atEnd kind))
    (hkind : IsPartKind kind) : ((cursor.pass gap).inNode kind inner).Fits code start entry q := by
  obtain ⟨hlast, hblank, -⟩ := h.pass hgap hclear
  obtain ⟨hread, hempty⟩ := hinner.children hblank.isPlace_stop hkind
  exact ⟨hlast.push hblank hgap.blank hread (.part hkind.isComment_eq hempty hopen) hinner.rest,
    .inr ⟨_, List.mem_cons_self, hkind.isComment_eq⟩⟩

/-- The node finished last is a row of its own, and so are those before it. -/
lemma Fits.split {first : SyntaxNode} {others : List SyntaxNode}
    (h : cursor.Fits code start entry .before) (hdone : cursor.done = first :: others) :
    (∃ mid gap, FitInRow isScriptBlank code start others.reverse mid
        ∧ Text.IsBetween code mid first.start gap ∧ ∀ c ∈ gap, isScriptBlank c = true)
      ∧ first.IsRead code ∧ first.stop = cursor.place
      ∧ ToldInRow code entry others.reverse .before
      ∧ Quotation.Passes code .before first .before := by
  have hrow := h.row
  have htold := h.told
  rw [hdone, List.reverse_cons] at hrow htold
  obtain ⟨mid, hothers, ⟨gap, hgap, hblank⟩, hfirst, hstop⟩ := hrow.of_append
  obtain ⟨next, hbefore, htoldFirst, last, hpasses, hlast⟩ := htold.of_append
  obtain rfl : last = .before := hlast
  obtain rfl := hpasses.eq_before
  have hreadable := h.readable first (hdone ▸ List.mem_cons_self)
  refine ⟨⟨mid, gap, hothers, hgap, hblank⟩, ⟨hfirst, hreadable, htoldFirst⟩, hstop, ?_⟩
  exact ⟨hbefore, hpasses⟩

/-- The node finished last fits as a part of another node. -/
lemma Fits.behindFirst {first : SyntaxNode} {others : List SyntaxNode}
    (h : cursor.Fits code start entry .before) (hdone : cursor.done = first :: others)
    (hkind : first.isComment = false) (role : Option String) :
    (cursor.behindFirst first role).Fits code first.start .before .before := by
  obtain ⟨⟨mid, gap, -, hgap, -⟩, hfirst, hstop, -, hpasses⟩ := h.split hdone
  have hread := hfirst.setField role
  have hnone : Text.IsBetween code first.start first.start [] := hgap.isPlace_stop
  refine ⟨⟨h.rest, ?_, ⟨hread.told, _, hpasses.setField role, rfl⟩, ?_⟩,
    .inr ⟨_, List.mem_singleton_self _, hkind⟩⟩
  · exact ⟨⟨[], hnone, fun _ h => absurd h List.not_mem_nil⟩, hread.fits, hstop⟩
  · exact List.forall_mem_singleton.mpr hread.readable

/-- A node around the node finished last takes its place. -/
lemma Fits.around {first : SyntaxNode} {others : List SyntaxNode}
    (h : cursor.Fits code start entry .before) (hdone : cursor.done = first :: others)
    {inner : Cursor} {kind : String} (hinner : inner.Fits code first.start .before (.atEnd kind))
    (hkind : IsPartKind kind) :
    (Cursor.around first others kind inner).Fits code start entry .before := by
  obtain ⟨⟨mid, gap, hothers, hgap, hblank⟩, -, -, htold, -⟩ := h.split hdone
  obtain ⟨hread, hempty⟩ := hinner.children hgap.isPlace_stop hkind
  refine ⟨⟨hinner.rest, ?_, ?_, List.forall_mem_cons.mpr ⟨hread.readable, fun node hnode => ?_⟩⟩,
    .inr ⟨_, List.mem_cons_self, hkind.isComment_eq⟩⟩
  · rw [Cursor.around, List.reverse_cons]
    exact hothers.append ⟨⟨gap, hgap, hblank⟩, hread.fits, rfl⟩
  · rw [Cursor.around, List.reverse_cons]
    exact htold.concat hread.told (.part hkind.isComment_eq hempty (absurd · Bool.false_ne_true))
  · exact h.readable node (hdone ▸ List.mem_cons_of_mem _ hnode)

/-- Nodes with a field fit behind those that were finished before. -/
lemma Fits.withField (h : cursor.Fits code start entry q) {inner : Cursor}
    (hinner : inner.Fits code cursor.place q r) (name : String) :
    (cursor.withField name inner).Fits code start entry r := by
  refine ⟨⟨hinner.rest, ?_, ?_, List.forall_mem_append.mpr ⟨?_, h.readable⟩⟩, ?_⟩
  · rw [Cursor.withField, List.reverse_append, ← List.map_reverse]
    exact h.row.append (hinner.row.withField name)
  · rw [Cursor.withField, List.reverse_append, ← List.map_reverse]
    exact h.told.append (hinner.told.withField name)
  · intro node hnode
    obtain ⟨bare, hbare, rfl⟩ := List.mem_map.mp hnode
    rw [SyntaxNode.hasError_withField, hinner.readable bare hbare]
  · rcases hinner.parted with hnone | ⟨node, hnode, hkind⟩
    · simpa [Cursor.withField, hnone] using h.parted
    · exact .inr ⟨node.withField name, List.mem_append_left _ (List.mem_map_of_mem hnode),
        by rw [SyntaxNode.isComment_withField, hkind]⟩

end Cursor

end

/-! ## Templates -/

/-- A part of a template that ends with the text has no substitution in it. -/
lemma Scan.not_infix_of_templateChars {cs taken : List Char} (h : templateChars cs = (taken, [])) :
    ¬ ['$', '\x7b'] <:+: cs := by
  fun_induction templateChars cs generalizing taken with
  | case1 => simp
  | case2 => simp at h
  | case3 => simp at h
  | case4 c rest hopen hstop more behind hmore ih =>
    obtain ⟨rfl, rfl⟩ := Prod.mk.inj h
    rw [List.infix_cons_iff]
    intro hinfix
    rcases hinfix with ⟨others, hprefix⟩ | hinfix
    · obtain ⟨rfl, rfl⟩ := List.cons.inj hprefix
      exact hopen others rfl rfl
    · exact ih hmore hinfix

/-- A text that starts with neither white space nor a slash has no gap in front of it. -/
lemma Gap.comments_before_cons {c : Char} (hblank : isScriptBlank c = false) (hslash : c ≠ '/')
    (cs : List Char) : (before (c :: cs)).comments = [] := by
  simp [before, hblank, hslash]

/-- Where no part of a template stands, there is no comment in front of a substitution. -/
lemma Gap.comments_eq_nil_of_templatePart {cs others : List Char}
    (hpart : Scan.templatePart cs = none) (hopen : ['$', '\x7b'] <+: others)
    (hrest : others <:+ cs) : (before cs).comments = [] := by
  have hinfix : ['$', '\x7b'] <:+: cs := hopen.isInfix.trans hrest.isInfix
  unfold Scan.templatePart at hpart
  rcases htaken : Scan.templateChars cs with ⟨taken, rest⟩
  cases rest with
  | nil =>
    -- without an end of the template, all of the text would be a part of it
    exact absurd hinfix (Scan.not_infix_of_templateChars htaken)
  | cons d rest =>
    -- the template ends here, or an escape or a substitution starts
    have hnone : taken = [] := by simpa [htaken] using hpart
    rw [hnone] at htaken
    unfold Scan.templateChars at htaken
    split at htaken
    · rfl
    · exact comments_before_cons (by decide) (by decide) _
    · rename_i c behind _
      split at htaken
      · rename_i hstop
        rcases Bool.or_eq_true_iff.mp hstop with hc | hc
        all_goals
          rw [eq_of_beq hc]
          exact comments_before_cons (by decide) (by decide) _
      · simp at htaken

/-! ## Reading by rules -/

namespace Rule

variable {σ : Type}

/-- Does the rule ask for a part of a template? -/
def isTemplatePart : Rule σ → Bool
  | glued .templatePart => true
  | _ => false

/-- Does the rule start with this token? -/
def startsWith (text : String) : Rule σ → Bool
  | both (token lexeme) _ => lexeme = .exactly text
  | _ => false

/-- How far a rule brings the quotation of the row that it reads, if the rule keeps to it and makes
neither comments nor errors. What is only looked at does not matter. In a template, a node has to be
a substitution, and a part of the template must not stand there; `stopped` says that none does. -/
def passage (q : Quotation) (stopped : Bool) : Rule σ → Option Quotation
  | nothing | ahead _ | notAhead _ | given _ => some q
  | lineEnd _ => if q.isInside then none else some q
  | token lexeme => if IsPartKind lexeme.kind then q.afterToken lexeme else none
  | glued lexeme => if IsPartKind lexeme.kind then q.afterGlued lexeme else none
  | node kind body =>
    if IsPartKind kind ∧ body.passage .before false = some (.atEnd kind)
      ∧ (q.isInside = true → q = .inside "\x60" ∧ stopped = true ∧ body.startsWith "$\x7b" = true)
    then some q
    else none
  | wrap kind _ body =>
    if IsPartKind kind ∧ q = .before ∧ body.passage .before false = some (.atEnd kind) then some q
    else none
  | field _ body => body.passage q stopped
  | many body => if body.passage q false = some q then some q else none
  | both first second => (first.passage q stopped).bind fun mid => second.passage mid false
  | either first second =>
    let end? := first.passage q stopped
    if second.passage q (stopped || first.isTemplatePart) = end? then end? else none
  | symbol _ => if q = .before then some q else none

variable {grammar : σ → Rule σ} {body : Rule σ} {cursor next : Cursor} {fuel refused : Nat}

/-- If a part of a template is asked for in vain, none stands there. -/
lemma templatePart_eq_none (hbody : body.isTemplatePart = true)
    (h : (run grammar (fuel + 1) body cursor refused).found = none) :
    Scan.templatePart cursor.rest = none := by
  unfold isTemplatePart at hbody
  split at hbody
  · rw [run, Ranking.found_ofToken] at h
    exact Option.map_eq_none_iff.mp h
  · contradiction

/-- Where a rule that starts with a token applies, this token stands behind the gap. -/
lemma prefix_of_startsWith {text : String} (hbody : body.startsWith text = true)
    (h : (run grammar fuel body cursor refused).found = some next) :
    text.toList <+: (Gap.before cursor.rest).rest := by
  unfold startsWith at hbody
  split at hbody
  · rename_i lexeme others
    obtain ⟨first, hfirst⟩ : ∃ first,
        (run grammar (fuel - 1) (token lexeme) cursor refused).found = some first := by
      cases fuel with
      | zero => contradiction
      | succ fuel =>
        rw [run] at h
        split at h
        · rename_i hnone
          rw [hnone] at h
          contradiction
        · rename_i first hfirst
          exact ⟨first, hfirst⟩
    cases hfuel : fuel - 1 with
    | zero =>
      rw [hfuel] at hfirst
      contradiction
    | succ less =>
      rw [hfuel, run, Ranking.found_ofToken, of_decide_eq_true hbody] at hfirst
      obtain ⟨⟨taken, rest⟩, hscan, -⟩ := Option.map_eq_some_iff.mp hfirst
      have hsplit := Lexeme.scan_splits _ hscan
      rw [Lexeme.eq_of_scan_literal hscan rfl] at hsplit
      exact ⟨rest, hsplit⟩
  · contradiction

/-- What is finished when a script is read by a rule fits the script, and comments are told from
what is quoted. The fuel counts down with every rule, so the induction is on it. -/
theorem run_fits (hgrammar : ∀ s, (grammar s).passage .before false = some .before) (fuel : Nat)
    {rule : Rule σ} {entry q r : Quotation} {stopped : Bool}
    (hrule : rule.passage q stopped = some r) {start : Nat}
    (h : cursor.Fits code start entry q)
    (hstopped : stopped = true → Scan.templatePart cursor.rest = none)
    (hrefused : Text.IsPlace code refused) :
    (run grammar fuel rule cursor refused).Fits code start entry r := by
  induction fuel generalizing rule cursor start refused entry q r stopped with
  | zero =>
    rw [run]
    exact .none hrefused
  | succ fuel ih =>
    have hgap := Gap.isAt_before cursor.rest
    cases rule with
    | nothing =>
      obtain rfl := Option.some.inj hrule
      rw [run]
      exact .some hrefused h
    | token lexeme =>
      obtain ⟨hkind, hq⟩ := Option.ite_none_right_eq_some.mp hrule
      rw [run]
      refine h.takeToken hrefused hgap (.inr (Quotation.isInside_of_afterToken hq)) hkind ?_
      intro leaf taken rest hleaf hscan hstands
      exact Quotation.passes_of_afterToken hq (Gap.comment?_rest_before _) hscan hleaf hstands
    | glued lexeme =>
      obtain ⟨hkind, hq⟩ := Option.ite_none_right_eq_some.mp hrule
      have hnone : Gap.IsAt cursor.rest ⟨[], [], cursor.rest⟩ :=
        ⟨rfl, fun _ h => absurd h List.not_mem_nil⟩
      rw [run]
      refine h.takeToken hrefused hnone (.inl rfl) hkind ?_
      intro leaf taken rest hleaf hscan hstands
      exact Quotation.passes_of_afterGlued hq hscan hleaf hstands
    | node kind body =>
      obtain ⟨⟨hkind, hbody, hopen⟩, hq⟩ := Option.ite_none_right_eq_some.mp hrule
      obtain rfl := Option.some.inj hq
      rw [run]
      refine (ih hbody (h.inside hgap) (absurd · Bool.false_ne_true) hrefused).map ?_
      intro inner hfound hinner
      refine h.inNode hgap ?_ (fun hq => (hopen hq).1) hinner hkind
      cases hq : q.isInside with
      | false => exact .inr rfl
      | true =>
        -- in a template, only a substitution applies where no part of the template stands
        obtain ⟨-, hstop, hstarts⟩ := hopen hq
        obtain ⟨taken, hrest, -⟩ :=
          (Cursor.reads_pass hgap).trans (Cursor.reads_pass (Gap.isAt_before _))
        exact .inl (Gap.comments_eq_nil_of_templatePart (hstopped hstop)
          (prefix_of_startsWith hstarts hfound) ⟨taken, hrest.symm⟩)
    | wrap kind role body =>
      obtain ⟨⟨hkind, rfl, hbody⟩, hq⟩ := Option.ite_none_right_eq_some.mp hrule
      obtain rfl := Option.some.inj hq
      rw [run]
      split
      · exact .none hrefused
      · rename_i first others hdone
        split
        · exact .none hrefused
        · rename_i hcomment
          have hfirst := h.behindFirst hdone (Bool.not_eq_true _ ▸ hcomment) role
          exact (ih hbody hfirst (absurd · Bool.false_ne_true) hrefused).map fun _ _ hinner =>
            h.around hdone hinner hkind
    | field name body =>
      rw [run]
      exact (@ih cursor.inside refused body _ _ _ _ hrule _ (Cursor.fits_nil h.rest) hstopped
        hrefused).map fun _ _ hinner => h.withField hinner name
    | both first second =>
      obtain ⟨mid, hfirst, hsecond⟩ := Option.bind_eq_some_iff.mp hrule
      have hreply := ih hfirst h hstopped hrefused
      rw [run]
      split
      · rename_i hnone
        exact ⟨hreply.refused, fun _ hnext => by rw [hnone] at hnext; contradiction⟩
      · rename_i next hfound
        exact ih hsecond (hreply.found next hfound) (absurd · Bool.false_ne_true) hreply.refused
    | either first second =>
      obtain ⟨hsecond, hfirst⟩ := Option.ite_none_right_eq_some.mp hrule
      rw [hfirst] at hsecond
      have hreply := ih hfirst h hstopped hrefused
      rw [run]
      split
      · rename_i hnone
        cases fuel with
        | zero => exact .none hreply.refused
        | succ fuel =>
          -- the second rule is tried where the first one does not apply
          refine ih hsecond h (fun hstop => ?_) hreply.refused
          rcases Bool.or_eq_true_iff.mp hstop with hstop | hpart
          · exact hstopped hstop
          · exact templatePart_eq_none hpart hnone
      · exact hreply
    | many body =>
      obtain ⟨hbody, hq⟩ := Option.ite_none_right_eq_some.mp hrule
      obtain rfl := Option.some.inj hq
      -- as often as it is read, the quotation stays as it is
      have hagain : (many body).passage q false = some q := by rw [passage, if_pos hbody]
      have hreply := ih hbody h (absurd · Bool.false_ne_true) hrefused
      rw [run]
      split
      · exact .some hreply.refused h
      · rename_i next hfound
        split
        · exact .some hreply.refused h
        · exact ih hagain (hreply.found next hfound) (absurd · Bool.false_ne_true) hreply.refused
    | ahead body =>
      obtain rfl := Option.some.inj hrule
      rw [run]
      split
      · exact .none hrefused
      · exact .some hrefused h
    | notAhead body =>
      obtain rfl := Option.some.inj hrule
      rw [run]
      split
      · exact .some hrefused h
      · exact .none hrefused
    | given condition =>
      obtain rfl := Option.some.inj hrule
      rw [run]
      split
      · exact .some hrefused h
      · exact .none hrefused
    | lineEnd atComment =>
      obtain ⟨hfree, hq⟩ := Option.ite_none_left_eq_some.mp hrule
      obtain rfl := Option.some.inj hq
      rw [run]
      exact h.endStatement (Bool.not_eq_true _ ▸ hfree) hrefused atComment
    | symbol s =>
      obtain ⟨rfl, hq⟩ := Option.ite_none_right_eq_some.mp hrule
      obtain rfl := Option.some.inj hq
      rw [run]
      exact ih (hgrammar s) h (absurd · Bool.false_ne_true) hrefused

end Rule

end EntityCompiler
