import EntityCompiler.Proofs.Outcome
import EntityCompiler.Proofs.Places
import EntityCompiler.Script.Fragment
import Mathlib.Tactic.Lemma

/-!
# Nothing is lost

A syntax tree fits a script if the nodes in each row follow one another with nothing but white space
between them and a node reaches as far as its last child (`SyntaxNode.Covers`). Whichever parser
makes such a tree, the block made of it has all of the script but white space at its end, and each
comment is in just one of its lists of comments (`Block.isLossless_of_covers`). Both follow from
what `CodeNode.detach` makes of one node and of a row of nodes, by recursion over the tree.
-/

namespace EntityCompiler

namespace SyntaxNode

/-! ## Errors in trees -/

lemma hasError_eq (node : SyntaxNode) :
    node.hasError = (node.isError || anyHasError node.children) := by
  cases node
  rw [hasError]

lemma firstError?_eq (node : SyntaxNode) :
    node.firstError? = if node.isError then some node else firstErrorOf? node.children := by
  cases node
  rw [firstError?]

/-- A tree that is an error itself is the first one. -/
lemma firstErrorOf?_cons_of_isError {node : SyntaxNode} (rest : List SyntaxNode)
    (h : node.isError = true) : firstErrorOf? (node :: rest) = some node := by
  rw [firstErrorOf?, hasError_eq, h, Bool.true_or, Bool.true_or, if_pos rfl,
    firstError?_eq, if_pos h]

mutual

/-- A tree with an error has a first one. -/
theorem isSome_firstError? : ∀ node : SyntaxNode, node.firstError?.isSome = node.hasError
  | ⟨kind, start, stop, children, field, isMissing⟩ => by
    rw [firstError?, hasError, ← isSome_firstErrorOf? children]
    cases isError ⟨kind, start, stop, children, field, isMissing⟩ <;> rfl

theorem isSome_firstErrorOf? : ∀ nodes : List SyntaxNode,
    (firstErrorOf? nodes).isSome = anyHasError nodes
  | [] => rfl
  | node :: rest => by
    have hnode := isSome_firstError? node
    have hrest := isSome_firstErrorOf? rest
    -- a node that is missing is an error itself
    have hmissing : node.isMissing = true → node.hasError = true := by
      intro hmissing
      rw [hasError_eq, isError, hmissing, Bool.or_true, Bool.true_or]
    rw [firstErrorOf?, anyHasError]
    split
    · rename_i hsearched
      have herror : node.hasError = true := by
        rcases Bool.or_eq_true_iff.mp hsearched with herror | hnone
        · exact herror
        · exact hmissing hnone
      rw [herror] at hnode
      obtain ⟨found, hfound⟩ := Option.isSome_iff_exists.mp hnode
      rw [hfound, herror]
      rfl
    · rename_i hskipped
      have herror : node.hasError = false := by
        rw [← Bool.not_eq_true]
        exact fun herror => hskipped (by rw [herror, Bool.true_or])
      rw [hrest, herror, Bool.false_or]

end

/-! ## Trees that fit a script -/

section

variable (blank : Char → Bool) (code : List Char)

mutual

/-- A node fits a script if it stands between two places of it and what is in it reaches to its end.
There are not only comments in it. -/
def Fits : SyntaxNode → Prop
  | ⟨_, start, stop, children, _, _⟩ =>
    (∃ text, Text.IsBetween code start stop text)
      ∧ (children = [] ∨ (∃ child ∈ children, child.isComment = false)
        ∧ FitInRow start children stop)

/-- Nodes fit in a row from one place to another if each of them fits and only white space is
between them. -/
def FitInRow (place : Nat) : List SyntaxNode → (stop : Nat) → Prop
  | [], stop => place = stop
  | node :: rest, stop =>
    (∃ gap, Text.IsBetween code place node.start gap ∧ ∀ c ∈ gap, blank c = true)
      ∧ Fits node ∧ FitInRow node.stop rest stop

end

/-- A tree covers a script if what is below the root fits in a row from the start of the script,
with only white space behind it. -/
def Covers (root : SyntaxNode) : Prop :=
  ∃ stop rest, FitInRow blank code 0 root.children stop
    ∧ Text.IsBetween code stop (Text.size code) rest ∧ ∀ c ∈ rest, blank c = true

end

variable {blank : Char → Bool} {code : List Char}

lemma fits_iff {node : SyntaxNode} : node.Fits blank code
    ↔ (∃ text, Text.IsBetween code node.start node.stop text)
      ∧ (node.children = [] ∨ (∃ child ∈ node.children, child.isComment = false)
        ∧ FitInRow blank code node.start node.children node.stop) := by
  cases node
  rw [Fits]

lemma FitInRow.append {nodes others : List SyntaxNode} {place mid stop : Nat}
    (h : FitInRow blank code place nodes mid) (hothers : FitInRow blank code mid others stop) :
    FitInRow blank code place (nodes ++ others) stop := by
  induction nodes generalizing place with
  | nil =>
    obtain rfl : place = mid := h
    exact hothers
  | cons node nodes ih =>
    obtain ⟨hgap, hnode, hrest⟩ := h
    exact ⟨hgap, hnode, ih hrest⟩

lemma FitInRow.of_append {nodes others : List SyntaxNode} {place stop : Nat}
    (h : FitInRow blank code place (nodes ++ others) stop) :
    ∃ mid, FitInRow blank code place nodes mid ∧ FitInRow blank code mid others stop := by
  induction nodes generalizing place with
  | nil => exact ⟨place, rfl, h⟩
  | cons node nodes ih =>
    obtain ⟨hgap, hnode, hrest⟩ := h
    obtain ⟨mid, hnodes, hothers⟩ := ih hrest
    exact ⟨mid, ⟨hgap, hnode, hnodes⟩, hothers⟩

/-- A row ends where its last node does, whatever the script is. -/
lemma FitInRow.stop_unique {other : List Char} {nodes : List SyntaxNode} {place stop stop' : Nat}
    (h : FitInRow blank code place nodes stop) (hother : FitInRow blank other place nodes stop') :
    stop = stop' := by
  induction nodes generalizing place with
  | nil =>
    obtain rfl : place = stop := h
    exact hother
  | cons node nodes ih => exact ih h.2.2 hother.2.2

/-- Some text stands where nodes fit in a row. -/
lemma FitInRow.isBetween {nodes : List SyntaxNode} {place stop : Nat}
    (h : FitInRow blank code place nodes stop) (hplace : Text.IsPlace code place) :
    ∃ text, Text.IsBetween code place stop text := by
  induction nodes generalizing place with
  | nil =>
    obtain rfl : place = stop := h
    exact ⟨[], hplace⟩
  | cons node nodes ih =>
    obtain ⟨⟨gap, hgap, -⟩, hnode, hrest⟩ := h
    obtain ⟨text, htext⟩ := (fits_iff.mp hnode).1
    obtain ⟨others, hothers⟩ := ih hrest htext.isPlace_stop
    exact ⟨_, (hgap.append htext).append hothers⟩

/-! ## The order of the comments -/

lemma comments_eq (node : SyntaxNode) :
    node.comments = if node.isComment then [node] else commentsOfAll node.children := by
  cases node
  rw [comments]
  rfl

/-- The nodes stand between two places, one behind the other. -/
structure Ordered (nodes : List SyntaxNode) (start stop : Nat) : Prop where
  inside : ∀ node ∈ nodes, start ≤ node.start ∧ node.start ≤ node.stop ∧ node.stop ≤ stop
  behind : nodes.Pairwise (·.stop ≤ ·.start)

lemma Ordered.nil {place stop : Nat} : Ordered [] place stop :=
  ⟨fun _ h => absurd h List.not_mem_nil, .nil⟩

lemma Ordered.append {nodes others : List SyntaxNode} {start mid mid' stop : Nat}
    (h : Ordered nodes start mid) (hothers : Ordered others mid' stop) (hmid : mid ≤ mid')
    (hstart : start ≤ mid') (hstop : mid ≤ stop) : Ordered (nodes ++ others) start stop := by
  constructor
  · intro node hnode
    rcases List.mem_append.mp hnode with hnode | hnode
    · obtain ⟨hstart, hle, hend⟩ := h.inside node hnode
      exact ⟨hstart, hle, hend.trans hstop⟩
    · obtain ⟨hbegin, hle, hend⟩ := hothers.inside node hnode
      exact ⟨hstart.trans hbegin, hle, hend⟩
  · refine List.pairwise_append.mpr ⟨h.behind, hothers.behind, fun node hnode other hother => ?_⟩
    exact (h.inside node hnode).2.2.trans (hmid.trans (hothers.inside other hother).1)

mutual

theorem Fits.ordered_comments : ∀ {node : SyntaxNode}, node.Fits blank code →
    Ordered node.comments node.start node.stop
  | ⟨kind, start, stop, children, field, isMissing⟩, h => by
    rw [Fits] at h
    obtain ⟨⟨text, htext⟩, hchildren⟩ := h
    rw [comments]
    split
    · exact ⟨fun node hnode => by
        rw [List.mem_singleton.mp hnode]
        exact ⟨Nat.le_refl _, htext.le, Nat.le_refl _⟩, List.pairwise_singleton _ _⟩
    · rcases hchildren with rfl | ⟨-, hrow⟩
      · exact .nil
      · exact (FitInRow.ordered_comments hrow).2

theorem FitInRow.ordered_comments : ∀ {nodes : List SyntaxNode} {place stop : Nat},
    FitInRow blank code place nodes stop → place ≤ stop ∧ Ordered (commentsOfAll nodes) place stop
  | [], place, stop, h => by
    obtain rfl : place = stop := h
    exact ⟨Nat.le_refl _, .nil⟩
  | node :: rest, place, stop, h => by
    obtain ⟨⟨gap, hgap, -⟩, hnode, hrest⟩ := h
    obtain ⟨hle, hothers⟩ := FitInRow.ordered_comments hrest
    have hnodes := Fits.ordered_comments hnode
    obtain ⟨text, htext⟩ := (fits_iff.mp hnode).1
    have hwide := hgap.le.trans htext.le
    refine ⟨hwide.trans hle, ?_⟩
    rw [commentsOfAll]
    have hwhole : Ordered node.comments place node.stop :=
      ⟨fun comment hcomment => by
        obtain ⟨hstart, hend⟩ := hnodes.inside comment hcomment
        exact ⟨hgap.le.trans hstart, hend⟩, hnodes.behind⟩
    exact hwhole.append hothers (Nat.le_refl _) hwide hle

end

end SyntaxNode

/-! ## The comments and the white space of a block -/

mutual

/-- The comments at a node and in it: all of its lists of comments, in the order of the characters.
-/
def CodeNode.comments : CodeNode → List CodeComment
  | ⟨_, _, children, _, _, leading, trailing⟩ =>
    leading ++ CodeNode.commentsOfAll children ++ trailing

/-- The comments at some nodes in a row. -/
def CodeNode.commentsOfAll : List CodeNode → List CodeComment
  | [] => []
  | node :: rest => node.comments ++ CodeNode.commentsOfAll rest

end

mutual

/-- The white space in front of a node, of the nodes in it and of their comments. -/
def CodeNode.gaps : CodeNode → List String
  | ⟨_, _, children, _, gap, leading, trailing⟩ =>
    leading.map (·.gap) ++ [gap] ++ CodeNode.gapsOfAll children ++ trailing.map (·.gap)

/-- The white space in front of some nodes in a row. -/
def CodeNode.gapsOfAll : List CodeNode → List String
  | [] => []
  | node :: rest => node.gaps ++ CodeNode.gapsOfAll rest

end

/-- The comments of a block: all of its lists of comments, in the order of the characters. -/
def Block.comments (block : Block) : List CodeComment :=
  CodeNode.commentsOfAll block.statements ++ block.trailingComments

/-- The white space in front of the nodes and the comments of a block. -/
def Block.gaps (block : Block) : List String :=
  CodeNode.gapsOfAll block.statements ++ block.trailingComments.map (·.gap)

namespace CodeNode

variable {nodes : List CodeNode} {comments : List CodeComment}

/-- Comments behind the last of some nodes come after everything else. -/
lemma charsOfAll_withTrailing (hnodes : nodes ≠ []) : charsOfAll (withTrailing nodes comments)
    = charsOfAll nodes ++ comments.flatMap CodeComment.chars := by
  induction nodes with
  | nil => exact absurd rfl hnodes
  | cons node rest ih =>
    cases rest with
    | nil => cases node; simp [withTrailing, charsOfAll, chars]
    | cons next rest =>
      rw [withTrailing, charsOfAll, charsOfAll, ih (List.cons_ne_nil _ _), List.append_assoc]

lemma commentsOfAll_withTrailing (hnodes : nodes ≠ []) :
    commentsOfAll (withTrailing nodes comments) = commentsOfAll nodes ++ comments := by
  induction nodes with
  | nil => exact absurd rfl hnodes
  | cons node rest ih =>
    cases rest with
    | nil => cases node; simp [withTrailing, commentsOfAll, CodeNode.comments]
    | cons next rest =>
      rw [withTrailing, commentsOfAll, commentsOfAll, ih (List.cons_ne_nil _ _), List.append_assoc]

lemma gapsOfAll_withTrailing (hnodes : nodes ≠ []) :
    gapsOfAll (withTrailing nodes comments) = gapsOfAll nodes ++ comments.map (·.gap) := by
  induction nodes with
  | nil => exact absurd rfl hnodes
  | cons node rest ih =>
    cases rest with
    | nil => cases node; simp [withTrailing, gapsOfAll, gaps]
    | cons next rest =>
      rw [withTrailing, gapsOfAll, gapsOfAll, ih (List.cons_ne_nil _ _), List.append_assoc]

end CodeNode

/-! ## Detaching -/

/-- The text that a node covers. -/
def SyntaxNode.text? (code : List Char) (node : SyntaxNode) : Option (List Char) :=
  Text.slice? code node.start node.stop

lemma textBetween_eq_ok {code text : List Char} {start stop : Nat}
    (h : Text.IsBetween code start stop text) : textBetween code start stop = .ok text := by
  rw [textBetween, Text.slice?_of_isBetween h]

namespace CodeNode

section

variable (blank : Char → Bool) (code : List Char)

/-- All of some gaps are white space. -/
def AllBlank (gaps : List String) : Prop :=
  ∀ gap ∈ gaps, ∀ c ∈ gap.toList, blank c = true

/-- What becomes of a node of a syntax tree: it has the text of the node behind what was in front of
it, and the comments of the node. -/
structure Keeps (node : SyntaxNode) (gap : List Char) (leading : List CodeComment)
    (part : CodeNode) :
    Prop where
  chars_eq : ∃ text, Text.IsBetween code node.start node.stop text
    ∧ part.chars = leading.flatMap CodeComment.chars ++ gap ++ text
  gaps_blank : AllBlank blank part.gaps
  comments_eq : part.comments.map (some ·.text.toList)
    = leading.map (some ·.text.toList) ++ node.comments.map (·.text? code)

/-- What becomes of nodes in a row: together with the comments behind them they have the text of the
row, and the comments of its nodes. -/
structure KeepAll (nodes : List SyntaxNode) (place stop : Nat) (pending : List CodeComment)
    (parts : List CodeNode) (dangling : List CodeComment) : Prop where
  chars_eq : ∃ text, Text.IsBetween code place stop text
    ∧ charsOfAll parts ++ dangling.flatMap CodeComment.chars
      = pending.flatMap CodeComment.chars ++ text
  gaps_blank : AllBlank blank (gapsOfAll parts ++ dangling.map (·.gap))
  comments_eq : (commentsOfAll parts ++ dangling).map (some ·.text.toList)
    = pending.map (some ·.text.toList) ++ (SyntaxNode.commentsOfAll nodes).map (·.text? code)
  parts_eq_nil_iff : parts = [] ↔ ∀ node ∈ nodes, node.isComment = true

end

variable {blank : Char → Bool} {code : List Char}

@[simp]
lemma allBlank_append {gaps others : List String} :
    AllBlank blank (gaps ++ others) ↔ AllBlank blank gaps ∧ AllBlank blank others :=
  List.forall_mem_append

@[simp]
lemma allBlank_cons {gap : String} {gaps : List String} :
    AllBlank blank (gap :: gaps) ↔ (∀ c ∈ gap.toList, blank c = true) ∧ AllBlank blank gaps :=
  List.forall_mem_cons

@[simp]
lemma allBlank_nil : AllBlank blank [] :=
  fun _ h => absurd h List.not_mem_nil

section

variable {kind : String} {start place stop : Nat} {field : Option String} {isMissing : Bool}
  {text gap : List Char} {leading pending dangling : List CodeComment} {parts : List CodeNode}
  {node : SyntaxNode} {children rest : List SyntaxNode}

/-- A leaf has its own text. -/
lemma Keeps.leaf (hkind : kind ≠ SyntaxNode.commentKind)
    (htext : Text.IsBetween code start stop text) (hgap : ∀ c ∈ gap, blank c = true)
    (hleading : AllBlank blank (leading.map (·.gap))) :
    Keeps blank code ⟨kind, start, stop, [], field, isMissing⟩ gap leading
      { kind, text := some (String.ofList text), field, gap := String.ofList gap,
        leadingComments := leading } where
  chars_eq := ⟨text, htext, by simp [chars, charsOfAll]⟩
  gaps_blank := by simpa [gaps, gapsOfAll] using ⟨hleading, hgap⟩
  comments_eq := by
    rw [SyntaxNode.comments, if_neg (by simpa using hkind)]
    simp [CodeNode.comments, commentsOfAll, SyntaxNode.commentsOfAll]

/-- An inner node has the text of what is in it; comments behind the last part of it go to that
part. -/
lemma Keeps.inner (hkind : kind ≠ SyntaxNode.commentKind)
    (hparts : KeepAll blank code children start stop [] parts dangling) (hsome : parts ≠ [])
    (hgap : ∀ c ∈ gap, blank c = true) (hleading : AllBlank blank (leading.map (·.gap))) :
    Keeps blank code ⟨kind, start, stop, children, field, isMissing⟩ gap leading
      { kind, children := withTrailing parts dangling, field, gap := String.ofList gap,
        leadingComments := leading } where
  chars_eq := by
    obtain ⟨text, htext, hchars⟩ := hparts.chars_eq
    refine ⟨text, htext, ?_⟩
    simp only [List.flatMap_nil, List.nil_append] at hchars
    simp [chars, charsOfAll_withTrailing hsome, hchars]
  gaps_blank := by
    have hblank := allBlank_append.mp hparts.gaps_blank
    simp only [gaps, gapsOfAll_withTrailing hsome, allBlank_append, allBlank_cons, allBlank_nil,
      String.toList_ofList, List.map_nil, and_true]
    exact ⟨⟨hleading, hgap⟩, hblank⟩
  comments_eq := by
    have hcomments := hparts.comments_eq
    simp only [List.map_nil, List.nil_append] at hcomments
    rw [SyntaxNode.comments, if_neg (by simpa using hkind), ← hcomments]
    simp [CodeNode.comments, commentsOfAll_withTrailing hsome]

/-- A row ends with the comments that wait for a node. -/
lemma KeepAll.nil (hplace : Text.IsPlace code place)
    (hpending : AllBlank blank (pending.map (·.gap))) :
    KeepAll blank code [] place place pending [] pending where
  chars_eq := ⟨[], hplace, by simp [charsOfAll]⟩
  gaps_blank := by simpa [gapsOfAll] using hpending
  comments_eq := by simp [commentsOfAll, SyntaxNode.commentsOfAll]
  parts_eq_nil_iff := by simp

/-- A comment waits for the next node. -/
lemma KeepAll.comment (hnode : node.isComment = true)
    (hgap : Text.IsBetween code place node.start gap)
    (htext : Text.IsBetween code node.start node.stop text)
    (hrest : KeepAll blank code rest node.stop stop
      (pending ++ [⟨String.ofList text, String.ofList gap⟩]) parts dangling) :
    KeepAll blank code (node :: rest) place stop pending parts dangling where
  chars_eq := by
    obtain ⟨others, hothers, hchars⟩ := hrest.chars_eq
    refine ⟨_, (hgap.append htext).append hothers, ?_⟩
    rw [hchars]
    simp [CodeComment.chars]
  gaps_blank := hrest.gaps_blank
  comments_eq := by
    rw [hrest.comments_eq, SyntaxNode.commentsOfAll, node.comments_eq, if_pos hnode]
    simp [SyntaxNode.text?, Text.slice?_of_isBetween htext]
  parts_eq_nil_iff := by simp [hrest.parts_eq_nil_iff, hnode]

/-- A node takes the comments that wait. -/
lemma KeepAll.part {part : CodeNode} (hnode : node.isComment = false)
    (hgap : Text.IsBetween code place node.start gap)
    (hpart : Keeps blank code node gap pending part)
    (hrest : KeepAll blank code rest node.stop stop [] parts dangling) :
    KeepAll blank code (node :: rest) place stop pending (part :: parts) dangling where
  chars_eq := by
    obtain ⟨text, htext, hchars⟩ := hpart.chars_eq
    obtain ⟨others, hothers, hbehind⟩ := hrest.chars_eq
    refine ⟨_, (hgap.append htext).append hothers, ?_⟩
    rw [charsOfAll, List.append_assoc, hbehind, hchars]
    simp
  gaps_blank := by
    rw [gapsOfAll, List.append_assoc, allBlank_append]
    exact ⟨hpart.gaps_blank, hrest.gaps_blank⟩
  comments_eq := by
    rw [commentsOfAll, SyntaxNode.commentsOfAll, List.append_assoc, List.map_append,
      hpart.comments_eq, hrest.comments_eq]
    simp
  parts_eq_nil_iff := by simp [hnode]

end

mutual

/-- A node that fits is detached, and keeps what it covers. -/
theorem detach_keeps : ∀ {node : SyntaxNode} {gap : List Char} {leading : List CodeComment},
    node.Fits blank code → node.isComment = false → (∀ c ∈ gap, blank c = true) →
      AllBlank blank (leading.map (·.gap)) →
        ∃ part, detach code gap leading node = .ok part ∧ Keeps blank code node gap leading part
  | ⟨kind, start, stop, children, field, isMissing⟩, gap, leading, h, hnot, hgap, hleading => by
    rw [SyntaxNode.Fits] at h
    obtain ⟨⟨text, htext⟩, hchildren⟩ := h
    have hkind : kind ≠ SyntaxNode.commentKind := by simpa [SyntaxNode.isComment] using hnot
    rw [detach]
    rcases hchildren with rfl | ⟨⟨child, hchild, hother⟩, hrow⟩
    · refine ⟨_, ?_, Keeps.leaf hkind htext hgap hleading⟩
      exact Outcome.bind_eq_ok.mpr ⟨([], []), by rw [detachAll],
        Outcome.bind_eq_ok.mpr ⟨text, textBetween_eq_ok htext, rfl⟩⟩
    · obtain ⟨parts, dangling, hparts, hkeeps⟩ :=
        @detachAll_keeps children start stop [] hrow htext.isPlace_start allBlank_nil
      -- there are not only comments in it, so it does not become a leaf
      have hsome : parts ≠ [] := by
        intro hnone
        rw [hkeeps.parts_eq_nil_iff.mp hnone child hchild] at hother
        contradiction
      refine ⟨_, ?_, Keeps.inner hkind hkeeps hsome hgap hleading⟩
      refine Outcome.bind_eq_ok.mpr ⟨_, hparts, ?_⟩
      dsimp only
      rw [if_neg (by simpa using hsome)]
      rfl

/-- Nodes that fit in a row are detached, and keep what the row covers. -/
theorem detachAll_keeps : ∀ {nodes : List SyntaxNode} {place stop : Nat}
    {pending : List CodeComment}, SyntaxNode.FitInRow blank code place nodes stop →
      Text.IsPlace code place → AllBlank blank (pending.map (·.gap)) →
        ∃ parts dangling, detachAll code place pending nodes = .ok (parts, dangling)
          ∧ KeepAll blank code nodes place stop pending parts dangling
  | [], place, stop, pending, h, hplace, hpending => by
    obtain rfl : place = stop := h
    exact ⟨[], pending, by rw [detachAll], .nil hplace hpending⟩
  | node :: rest, place, stop, pending, h, _, hpending => by
    obtain ⟨⟨gap, hgap, hblank⟩, hnode, hrest⟩ := h
    obtain ⟨text, htext⟩ := (SyntaxNode.fits_iff.mp hnode).1
    simp only [detachAll, Outcome.bind_eq_ok]
    cases hkind : node.isComment with
    | true =>
      have hwaiting : AllBlank blank
          ((pending ++ [⟨String.ofList text, String.ofList gap⟩] : List CodeComment).map
            (·.gap)) := by
        simpa using ⟨hpending, hblank⟩
      obtain ⟨parts, dangling, hparts, hkeeps⟩ :=
        detachAll_keeps hrest htext.isPlace_stop hwaiting
      refine ⟨parts, dangling, ⟨gap, textBetween_eq_ok hgap, ?_⟩, .comment hkind hgap htext hkeeps⟩
      rw [if_pos rfl]
      exact Outcome.bind_eq_ok.mpr ⟨text, textBetween_eq_ok htext, hparts⟩
    | false =>
      obtain ⟨part, hpart, hkeeps⟩ := detach_keeps hnode hkind hblank hpending
      obtain ⟨parts, dangling, hparts, hothers⟩ :=
        @detachAll_keeps rest node.stop stop [] hrest htext.isPlace_stop allBlank_nil
      refine ⟨part :: parts, dangling, ⟨gap, textBetween_eq_ok hgap, ?_⟩,
        .part hkind hgap hkeeps hothers⟩
      rw [if_neg Bool.false_ne_true]
      exact Outcome.bind_eq_ok.mpr ⟨part, hpart, Outcome.bind_eq_ok.mpr ⟨_, hparts, rfl⟩⟩

end

/-- Nodes behind a row take the comments at its end. -/
lemma detachAll_append {nodes others : List SyntaxNode} {place mid : Nat}
    {pending dangling behind : List CodeComment} {parts more : List CodeNode}
    (hrow : SyntaxNode.FitInRow blank code place nodes mid)
    (hnodes : detachAll code place pending nodes = .ok (parts, dangling))
    (hothers : detachAll code mid dangling others = .ok (more, behind)) :
    detachAll code place pending (nodes ++ others) = .ok (parts ++ more, behind) := by
  induction nodes generalizing place pending parts with
  | nil =>
    obtain rfl : place = mid := hrow
    rw [detachAll] at hnodes
    obtain ⟨rfl, rfl⟩ := Prod.mk.inj (Except.ok.inj hnodes)
    exact hothers
  | cons node nodes ih =>
    rw [detachAll, Outcome.bind_eq_ok] at hnodes
    obtain ⟨gap, hgap, hnodes⟩ := hnodes
    rw [List.cons_append, detachAll, Outcome.bind_eq_ok]
    refine ⟨gap, hgap, ?_⟩
    split at hnodes
    · rename_i hcomment
      -- one more comment waits
      obtain ⟨text, htext, hnodes⟩ := Outcome.bind_eq_ok.mp hnodes
      rw [if_pos hcomment]
      exact Outcome.bind_eq_ok.mpr ⟨text, htext, ih hrow.2.2 hnodes⟩
    · rename_i hcomment
      obtain ⟨part, hpart, hnodes⟩ := Outcome.bind_eq_ok.mp hnodes
      obtain ⟨⟨rest, last⟩, hrest, hnodes⟩ := Outcome.bind_eq_ok.mp hnodes
      obtain ⟨rfl, rfl⟩ := Prod.mk.inj (Outcome.pure_eq_ok.mp hnodes)
      rw [if_neg hcomment]
      exact Outcome.bind_eq_ok.mpr
        ⟨part, hpart, Outcome.bind_eq_ok.mpr ⟨_, ih hrow.2.2 hrest, rfl⟩⟩

mutual

/-- A node that fits a script is detached likewise if the script is longer. -/
theorem detach_append_code (more : List Char) : ∀ {node : SyntaxNode} {gap : List Char}
    {leading : List CodeComment}, node.Fits blank code →
      detach (code ++ more) gap leading node = detach code gap leading node
  | ⟨kind, start, stop, children, field, isMissing⟩, gap, leading, h => by
    obtain ⟨⟨text, htext⟩, hchildren⟩ := SyntaxNode.fits_iff.mp h
    rw [detach, detach, textBetween_eq_ok htext, textBetween_eq_ok (htext.append_right more)]
    rcases hchildren with hnone | ⟨-, hrow⟩
    · rw [show children = [] from hnone, detachAll, detachAll]
    · rw [detachAll_append_code more hrow]

theorem detachAll_append_code (more : List Char) : ∀ {nodes : List SyntaxNode} {place stop : Nat}
    {pending : List CodeComment}, SyntaxNode.FitInRow blank code place nodes stop →
      detachAll (code ++ more) place pending nodes = detachAll code place pending nodes
  | [], place, stop, pending, _ => by rw [detachAll, detachAll]
  | node :: rest, place, stop, pending, h => by
    obtain ⟨⟨gap, hgap, -⟩, hnode, hrest⟩ := h
    obtain ⟨text, htext⟩ := (SyntaxNode.fits_iff.mp hnode).1
    have hpart : ∀ gap, detach (code ++ more) gap pending node = detach code gap pending node :=
      fun _ => detach_append_code more hnode
    have hothers : ∀ pending, detachAll (code ++ more) node.stop pending rest
        = detachAll code node.stop pending rest :=
      fun _ => detachAll_append_code more hrest
    rw [detachAll, detachAll, textBetween_eq_ok hgap, textBetween_eq_ok (hgap.append_right more),
      textBetween_eq_ok htext, textBetween_eq_ok (htext.append_right more)]
    simp only [hpart, hothers]

end

/-- A node keeps its kind, and the comments in front of it are attached to it. -/
lemma kind_and_leadingComments_of_detach {gap : List Char} {leading : List CodeComment}
    {node : SyntaxNode}
    {part : CodeNode} (h : detach code gap leading node = .ok part) :
    part.kind = node.kind ∧ part.leadingComments = leading := by
  cases node
  rw [detach, Outcome.bind_eq_ok] at h
  obtain ⟨⟨parts, dangling⟩, -, h⟩ := h
  dsimp only at h
  split at h
  · obtain ⟨text, -, h⟩ := Outcome.bind_eq_ok.mp h
    obtain rfl := Outcome.pure_eq_ok.mp h
    exact ⟨rfl, rfl⟩
  · obtain rfl := Outcome.pure_eq_ok.mp h
    exact ⟨rfl, rfl⟩

end CodeNode

/-! ## Reading a script -/

namespace Block

/-- A block keeps all of a script: its text is the script without white space at the end, what
stands in front of its nodes and its comments is white space, and all comments of the tree are in
its lists of comments, each once. They are there in the order in which they stand in the script. -/
structure IsLossless (blank : Char → Bool) (code : List Char) (root : SyntaxNode) (block : Block) :
    Prop where
  chars_eq : ∃ rest, code = block.chars ++ rest ∧ ∀ c ∈ rest, blank c = true
  gaps_blank : ∀ gap ∈ block.gaps, ∀ c ∈ gap.toList, blank c = true
  comments_eq : block.comments.map (some ·.text.toList)
    = (SyntaxNode.commentsOfAll root.children).map (·.text? code)
  comments_ordered : (SyntaxNode.commentsOfAll root.children).Pairwise (·.stop ≤ ·.start)

variable {blank : Char → Bool} {code : List Char} {parser : Parser} {block : Block}

/-- Where a tree has an error, the problem is about the first one. -/
lemma parsed_of_hasError (h : (parser code).hasError = true) :
    ∃ node, (parser code).firstError? = some node ∧ parsed parser code = unparsable code node := by
  obtain ⟨node, hnode⟩ := Option.isSome_iff_exists.mp
    ((SyntaxNode.isSome_firstError? (parser code)).trans h)
  exact ⟨node, hnode, by rw [parsed, if_pos h, hnode, Option.getD_some]⟩

/-- A block is made of a tree without errors. -/
lemma hasError_of_parsed (h : parsed parser code = .ok block) : (parser code).hasError = false := by
  rw [← Bool.not_eq_true]
  intro herror
  obtain ⟨node, -, hproblem⟩ := parsed_of_hasError herror
  rw [hproblem, unparsable] at h
  obtain ⟨offending, -, hfailed⟩ := Outcome.bind_eq_ok.mp h
  contradiction

/-- The statements of a block, and the comments behind the last one. -/
lemma detachAll_of_parsed (h : parsed parser code = .ok block) :
    CodeNode.detachAll code 0 [] (parser code).children
      = .ok (block.statements, block.trailingComments) := by
  have herror := hasError_of_parsed h
  unfold parsed at h
  dsimp only at h
  split at h
  · rename_i hfailed
    rw [herror] at hfailed
    contradiction
  · obtain ⟨⟨statements, trailing⟩, hparts, hblock⟩ := Outcome.bind_eq_ok.mp h
    cases hblock
    exact hparts

/-- A tree that covers the script is made a block exactly if it has no errors. -/
theorem exists_parsed_iff (hcovers : (parser code).Covers blank code) :
    (∃ block, parsed parser code = .ok block) ↔ (parser code).hasError = false := by
  refine ⟨fun ⟨_, h⟩ => hasError_of_parsed h, fun herror => ?_⟩
  obtain ⟨stop, rest, hrow, -, -⟩ := hcovers
  obtain ⟨parts, dangling, hparts, -⟩ := @CodeNode.detachAll_keeps _ _ _ _ _ [] hrow
    ⟨[], code, rfl, rfl, rfl⟩ CodeNode.allBlank_nil
  refine ⟨⟨parts, dangling⟩, ?_⟩
  rw [parsed, herror, if_neg Bool.false_ne_true, hparts]
  rfl

/-- The statements of a block and the comments behind them keep what the row of nodes covers. -/
lemma keepAll_of_parsed {stop : Nat}
    (hrow : SyntaxNode.FitInRow blank code 0 (parser code).children stop)
    (h : parsed parser code = .ok block) : CodeNode.KeepAll blank code (parser code).children 0 stop
      [] block.statements block.trailingComments := by
  obtain ⟨parts, dangling, hparts, hkeeps⟩ := @CodeNode.detachAll_keeps _ _ _ _ _ [] hrow
    ⟨[], code, rfl, rfl, rfl⟩ CodeNode.allBlank_nil
  obtain ⟨rfl, rfl⟩ := Prod.mk.inj (Except.ok.inj (hparts.symm.trans (detachAll_of_parsed h)))
  exact hkeeps

/-- What a parser reads of a script loses nothing, if its tree covers the script. -/
theorem isLossless_of_covers (hcovers : (parser code).Covers blank code)
    (h : parsed parser code = .ok block) : block.IsLossless blank code (parser code) := by
  obtain ⟨stop, rest, hrow, hrest, hblank⟩ := hcovers
  have hkeeps := keepAll_of_parsed hrow h
  refine ⟨⟨rest, ?_, hblank⟩, hkeeps.gaps_blank, ?_, hrow.ordered_comments.2.behind⟩
  · obtain ⟨text, htext, hchars⟩ := hkeeps.chars_eq
    rw [← (htext.append hrest).eq_of_size, chars, hchars]
    rfl
  · have hcomments := hkeeps.comments_eq
    rwa [List.map_nil, List.nil_append] at hcomments

/-- If a parser reads a longer script as the nodes that it reads of the script and one more, the
block is that of the script with one more statement. The comments behind the script belong to this
statement. -/
theorem parsed_append {more : List Char} {node : SyntaxNode}
    (hchildren : (parser (code ++ more)).children = (parser code).children ++ [node])
    (hnode : node.isComment = false) (hcovers : (parser code).Covers blank code)
    (hlonger : (parser (code ++ more)).Covers blank (code ++ more))
    (herror : (parser (code ++ more)).hasError = false) (h : parsed parser code = .ok block) :
    ∃ last, parsed parser (code ++ more) = .ok ⟨block.statements ++ [last], []⟩
      ∧ last.kind = node.kind ∧ last.leadingComments = block.trailingComments := by
  obtain ⟨mid, -, hrow, -, -⟩ := hcovers
  obtain ⟨stop, -, hall, -, -⟩ := hlonger
  rw [hchildren] at hall
  -- the nodes of the script end at the same place in the longer one
  obtain ⟨mid', hfirst, ⟨gap, hgap, hblank⟩, hfits, -⟩ := hall.of_append
  obtain rfl := hrow.stop_unique hfirst
  have hparts := detachAll_of_parsed h
  rw [← CodeNode.detachAll_append_code more hrow] at hparts
  obtain ⟨last, hlast, -⟩ := CodeNode.detach_keeps hfits hnode hblank
    (CodeNode.allBlank_append.mp (keepAll_of_parsed hrow h).gaps_blank).2
  have hbehind : CodeNode.detachAll (code ++ more) mid block.trailingComments [node]
      = .ok ([last], []) := by
    rw [CodeNode.detachAll, textBetween_eq_ok hgap]
    refine Outcome.bind_eq_ok.mpr ⟨gap, rfl, ?_⟩
    rw [hnode, if_neg Bool.false_ne_true]
    exact Outcome.bind_eq_ok.mpr ⟨last, hlast, by rw [CodeNode.detachAll]; rfl⟩
  refine ⟨last, ?_, CodeNode.kind_and_leadingComments_of_detach hlast⟩
  rw [parsed, herror, if_neg Bool.false_ne_true, hchildren,
    CodeNode.detachAll_append hfirst hparts hbehind]
  rfl

end Block

end EntityCompiler
