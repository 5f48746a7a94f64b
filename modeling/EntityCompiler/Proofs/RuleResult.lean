import EntityCompiler.Proofs.CommentMarks
import EntityCompiler.Proofs.Places
import EntityCompiler.Script.Rule
import Mathlib.Data.List.TakeWhile

/-!
# What a rule gives

Reading by a rule keeps track of the places where a token was refused, and it takes fuel. What a
rule comes to does not depend on them: `Rule.Gives` says what it gives at a cursor, and it gives one
thing there (`Rule.Gives.unique`). Reading comes to just that if the fuel is enough
(`Ranking.gives_run`), which is a matter of how deep the rules of a grammar are nested before they
take a character.
-/

namespace EntityCompiler

/-! ## Gaps -/

lemma comment?_splits {cs text behind : List Char} (h : comment? cs = some (text, behind)) :
    text ++ behind = cs := by
  unfold comment? at h
  split at h
  · obtain ⟨rfl, rfl⟩ := Prod.mk.inj (Option.some.inj h)
    rw [List.cons_append, List.cons_append, List.takeWhile_append_dropWhile]
  · obtain ⟨⟨inner, after⟩, hinner, h⟩ := Option.map_eq_some_iff.mp h
    obtain ⟨rfl, rfl⟩ := Prod.mk.inj h
    rw [← Text.splitAt?_splits hinner]
    simp
  · contradiction

lemma length_pos_of_comment? {cs text behind : List Char} (h : comment? cs = some (text, behind)) :
    0 < text.length := by
  unfold comment? at h
  split at h
  · obtain ⟨rfl, rfl⟩ := Prod.mk.inj (Option.some.inj h)
    exact Nat.succ_pos _
  · obtain ⟨⟨inner, after⟩, -, h⟩ := Option.map_eq_some_iff.mp h
    obtain ⟨rfl, rfl⟩ := Prod.mk.inj h
    exact Nat.succ_pos _
  · contradiction

/-- A text starts with a comment that has white space in front of it. -/
structure GapComment.IsAt (cs : List Char) (comment : GapComment) : Prop where
  chars_eq : cs = comment.blank ++ comment.text ++ comment.behind
  blank : ∀ c ∈ comment.blank, isScriptBlank c = true
  isComment : comment? (comment.text ++ comment.behind) = some (comment.text, comment.behind)

/-- `GapComment.AreAt cs comments rest`: a text starts with these comments, and `rest` is behind
them. -/
def GapComment.AreAt : (cs : List Char) → List GapComment → (rest : List Char) → Prop
  | cs, [], rest => cs = rest
  | cs, comment :: others, rest => comment.IsAt cs ∧ AreAt comment.behind others rest

lemma GapComment.AreAt.of_append {cs rest : List Char} {comments others : List GapComment}
    (h : AreAt cs (comments ++ others) rest) : ∃ behind, AreAt cs comments behind := by
  induction comments generalizing cs with
  | nil => exact ⟨cs, rfl⟩
  | cons comment comments ih =>
    obtain ⟨hcomment, hothers⟩ := h
    obtain ⟨behind, hcomments⟩ := ih hothers
    exact ⟨behind, hcomment, hcomments⟩

/-- A text starts with a gap: comments, and white space behind them. -/
structure Gap.IsAt (cs : List Char) (gap : Gap) : Prop where
  comments : GapComment.AreAt cs gap.comments (gap.blank ++ gap.rest)
  blank : ∀ c ∈ gap.blank, isScriptBlank c = true

namespace Gap

lemma isAt_read (bound cs : List Char) : IsAt cs (read bound cs) := by
  have hblank : ∀ c ∈ cs.takeWhile isScriptBlank, isScriptBlank c = true :=
    fun _ => List.mem_takeWhile_imp
  induction bound generalizing cs with
  | nil => exact ⟨rfl, fun _ h => absurd h List.not_mem_nil⟩
  | cons _ bound ih =>
    rw [read]
    split
    · exact ⟨(List.takeWhile_append_dropWhile).symm, hblank⟩
    · rename_i text behind hcomment
      have hothers := ih behind fun _ => List.mem_takeWhile_imp
      have hsplit := comment?_splits hcomment
      refine ⟨⟨⟨?_, hblank, by rw [hsplit, hcomment]⟩, hothers.comments⟩, hothers.blank⟩
      rw [List.append_assoc, hsplit, List.takeWhile_append_dropWhile]

/-- A text starts with the gap that is read there. -/
lemma isAt_before (cs : List Char) : IsAt cs (before cs) := by
  have hnone : ∀ rest, IsAt rest ⟨[], [], rest⟩ := fun _ =>
    ⟨rfl, fun _ h => absurd h List.not_mem_nil⟩
  unfold before
  split
  · exact hnone []
  · split
    · exact isAt_read _ _
    · exact hnone _

lemma comment?_rest_read {bound cs : List Char} (hbound : cs.length ≤ bound.length) :
    comment? (read bound cs).rest = none := by
  induction bound generalizing cs with
  | nil => rw [read, List.length_eq_zero_iff.mp (Nat.le_zero.mp hbound)]; rfl
  | cons _ bound ih =>
    rw [read]
    split
    · rename_i hnone
      exact hnone
    · rename_i text behind hcomment
      refine ih ?_
      -- a comment is not empty, so what is behind it is shorter
      have hlength := congrArg List.length (comment?_splits hcomment)
      have hafter := (List.dropWhile_suffix (l := cs) isScriptBlank).length_le
      have htext := length_pos_of_comment? hcomment
      rw [List.length_append] at hlength
      rw [List.length_cons] at hbound
      omega

/-- No comment starts behind a gap. -/
lemma comment?_rest_before (cs : List Char) : comment? (before cs).rest = none := by
  unfold before
  split
  · rfl
  · rename_i c rest
    split
    · exact comment?_rest_read (Nat.le_refl _)
    · rename_i hother
      have hslash : c ≠ '/' := by simpa using fun hc => hother (by rw [hc]; simp)
      exact comment?_eq_none hslash rest

end Gap

/-- Where a statement ends by itself, the first comments of the gap have been passed. -/
lemma LineEnd.prefix_of_within {atComment : Bool} {cs : List Char} {comments : List GapComment}
    (h : within atComment cs = some comments) : comments <+: (Gap.before cs).comments := by
  have hbehind : ∀ found earlier : List GapComment,
      within.behind atComment earlier found = some comments → comments <+: earlier ++ found := by
    intro found
    induction found with
    | nil => intro earlier h; contradiction
    | cons comment found ih =>
      intro earlier h
      rw [within.behind] at h
      split at h
      · rw [← Option.some.inj h]
        exact ⟨found, by simp⟩
      · simpa using ih _ h
  rw [within] at h
  split at h
  · rw [← Option.some.inj h]
    exact List.nil_prefix
  · exact hbehind _ [] h

/-! ## Reading on -/

/-- `p.Reads q`: between the two cursors, characters are taken off the text and counted. -/
def Cursor.Reads (p q : Cursor) : Prop :=
  ∃ taken, p.rest = taken ++ q.rest ∧ q.place = p.place + Text.size taken

namespace Cursor

variable {p q r : Cursor}

lemma Reads.refl (p : Cursor) : p.Reads p :=
  ⟨[], rfl, rfl⟩

lemma Reads.trans (h : p.Reads q) (hnext : q.Reads r) : p.Reads r := by
  obtain ⟨taken, hrest, hplace⟩ := h
  obtain ⟨more, hmore, hlast⟩ := hnext
  refine ⟨taken ++ more, ?_, ?_⟩
  · rw [hrest, hmore, List.append_assoc]
  · rw [hlast, hplace, Text.size_append, Nat.add_assoc]

lemma Reads.length_le (h : p.Reads q) : q.rest.length ≤ p.rest.length := by
  obtain ⟨taken, hrest, -⟩ := h
  rw [hrest, List.length_append]
  exact Nat.le_add_left _ _

/-- The text that is left gets shorter as the place moves on. -/
lemma Reads.length_lt_iff (h : p.Reads q) : q.rest.length < p.rest.length ↔ p.place < q.place := by
  obtain ⟨taken, hrest, hplace⟩ := h
  have hsize := Text.length_le_size taken
  rw [hrest, hplace, List.length_append]
  cases taken with
  | nil => simp
  | cons c taken =>
    rw [List.length_cons] at hsize ⊢
    exact iff_of_true (by omega) (by omega)

lemma reads_passComments {comments : List GapComment} {rest : List Char}
    (h : GapComment.AreAt p.rest comments rest) : p.Reads (p.passComments comments) := by
  induction comments generalizing p with
  | nil => exact .refl p
  | cons comment comments ih =>
    obtain ⟨hcomment, hothers⟩ := h
    have hfirst : p.Reads (p.passComment comment) := by
      refine ⟨comment.blank ++ comment.text, hcomment.chars_eq, ?_⟩
      rw [Text.size_append, ← Nat.add_assoc]
      rfl
    exact hfirst.trans (ih hothers)

lemma rest_passComments {comments : List GapComment} {rest : List Char}
    (h : GapComment.AreAt p.rest comments rest) : (p.passComments comments).rest = rest := by
  induction comments generalizing p with
  | nil => exact h
  | cons comment comments ih => exact ih h.2

lemma reads_pass {gap : Gap} (h : gap.IsAt p.rest) : p.Reads (p.pass gap) :=
  (reads_passComments h.comments).trans ⟨gap.blank, rest_passComments h.comments, rfl⟩

lemma reads_takeToken {lexeme : Lexeme} (h : p.takeToken lexeme = some q) : p.Reads q := by
  obtain ⟨⟨taken, rest⟩, hscan, rfl⟩ := Option.map_eq_some_iff.mp h
  exact ⟨taken, (lexeme.scan_splits hscan).symm, rfl⟩

lemma length_lt_of_takeToken {lexeme : Lexeme} (hlexeme : lexeme.takes = true)
    (h : p.takeToken lexeme = some q) : q.rest.length < p.rest.length := by
  obtain ⟨⟨taken, rest⟩, hscan, rfl⟩ := Option.map_eq_some_iff.mp h
  exact Lexeme.length_lt_of_scan hlexeme hscan

lemma reads_endStatement {atComment : Bool} (h : p.endStatement atComment = some q) :
    p.Reads q := by
  obtain ⟨comments, hwithin, rfl⟩ := Option.map_eq_some_iff.mp h
  split
  · exact .refl p
  · obtain ⟨others, hcomments⟩ := LineEnd.prefix_of_within hwithin
    have hgap := (Gap.isAt_before p.rest).comments
    rw [← hcomments] at hgap
    obtain ⟨behind, hpassed⟩ := hgap.of_append
    exact reads_passComments hpassed

end Cursor

namespace Rule

variable {σ : Type} {grammar : σ → Rule σ}

/-- What a rule gives at a cursor: the cursor where it ends, if it applies. -/
inductive Gives (grammar : σ → Rule σ) : Rule σ → Cursor → Option Cursor → Prop
  | nothing {p : Cursor} : Gives grammar .nothing p (some p)
  | token {lexeme : Lexeme} {p : Cursor} :
      Gives grammar (.token lexeme) p ((p.pass (Gap.before p.rest)).takeToken lexeme)
  | glued {lexeme : Lexeme} {p : Cursor} : Gives grammar (.glued lexeme) p (p.takeToken lexeme)
  | node {kind : String} {body : Rule σ} {p : Cursor} {inner : Option Cursor}
      (h : Gives grammar body (p.pass (Gap.before p.rest)).inside inner) :
      Gives grammar (.node kind body) p (inner.map ((p.pass (Gap.before p.rest)).inNode kind))
  | wrapNone {kind : String} {role : Option String} {body : Rule σ} {p : Cursor}
      (hdone : p.done.head?.all SyntaxNode.isComment = true) :
      Gives grammar (.wrap kind role body) p none
  | wrap {kind : String} {role : Option String} {body : Rule σ} {p : Cursor} {first : SyntaxNode}
      {others : List SyntaxNode} {inner : Option Cursor} (hdone : p.done = first :: others)
      (hfirst : first.isComment = false) (h : Gives grammar body (p.behindFirst first role) inner) :
      Gives grammar (.wrap kind role body) p (inner.map (Cursor.around first others kind))
  | field {name : String} {body : Rule σ} {p : Cursor} {inner : Option Cursor}
      (h : Gives grammar body p.inside inner) :
      Gives grammar (.field name body) p (inner.map (p.withField name))
  | bothNone {first second : Rule σ} {p : Cursor} (h : Gives grammar first p none) :
      Gives grammar (.both first second) p none
  | both {first second : Rule σ} {p q : Cursor} {out : Option Cursor}
      (h : Gives grammar first p (some q)) (hsecond : Gives grammar second q out) :
      Gives grammar (.both first second) p out
  | eitherFirst {first second : Rule σ} {p q : Cursor} (h : Gives grammar first p (some q)) :
      Gives grammar (.either first second) p (some q)
  | eitherSecond {first second : Rule σ} {p : Cursor} {out : Option Cursor}
      (h : Gives grammar first p none) (hsecond : Gives grammar second p out) :
      Gives grammar (.either first second) p out
  | manyNone {body : Rule σ} {p : Cursor} (h : Gives grammar body p none) :
      Gives grammar (.many body) p (some p)
  | manyIdle {body : Rule σ} {p q : Cursor} (h : Gives grammar body p (some q))
      (hidle : q.place ≤ p.place) : Gives grammar (.many body) p (some p)
  | many {body : Rule σ} {p q : Cursor} {out : Option Cursor} (h : Gives grammar body p (some q))
      (hless : p.place < q.place) (hothers : Gives grammar (.many body) q out) :
      Gives grammar (.many body) p out
  | ahead {body : Rule σ} {p q : Cursor} (h : Gives grammar body p (some q)) :
      Gives grammar (.ahead body) p (some p)
  | aheadNone {body : Rule σ} {p : Cursor} (h : Gives grammar body p none) :
      Gives grammar (.ahead body) p none
  | notAhead {body : Rule σ} {p : Cursor} (h : Gives grammar body p none) :
      Gives grammar (.notAhead body) p (some p)
  | notAheadNone {body : Rule σ} {p q : Cursor} (h : Gives grammar body p (some q)) :
      Gives grammar (.notAhead body) p none
  | given {condition : Condition} {p : Cursor} (h : p.done.head?.any condition.holds = true) :
      Gives grammar (.given condition) p (some p)
  | givenNone {condition : Condition} {p : Cursor}
      (h : ¬p.done.head?.any condition.holds = true) : Gives grammar (.given condition) p none
  | lineEnd {atComment : Bool} {p : Cursor} :
      Gives grammar (.lineEnd atComment) p (p.endStatement atComment)
  | symbol {s : σ} {p : Cursor} {out : Option Cursor} (h : Gives grammar (grammar s) p out) :
      Gives grammar (.symbol s) p out

/-- A rule gives one thing at a cursor. -/
theorem Gives.unique {rule : Rule σ} {p : Cursor} {out other : Option Cursor}
    (h : Gives grammar rule p out) (hother : Gives grammar rule p other) : out = other := by
  induction h generalizing other with
  | nothing | token | glued | lineEnd => cases hother; rfl
  | node _ ih => cases hother with | node hother => rw [ih hother]
  | wrapNone hnone =>
    cases hother with
    | wrapNone => rfl
    | wrap hdone hfirst => simp [hdone, hfirst] at hnone
  | wrap hdone hfirst _ ih =>
    cases hother with
    | wrapNone hnone => simp [hdone, hfirst] at hnone
    | wrap hdone' _ hother =>
      obtain ⟨rfl, rfl⟩ := List.cons.inj (hdone.symm.trans hdone')
      rw [ih hother]
  | field _ ih => cases hother with | field hother => rw [ih hother]
  | ahead _ ih =>
    cases hother with
    | ahead => rfl
    | aheadNone hbody => cases ih hbody
  | aheadNone _ ih =>
    cases hother with
    | ahead hbody => cases ih hbody
    | aheadNone => rfl
  | notAhead _ ih =>
    cases hother with
    | notAhead => rfl
    | notAheadNone hbody => cases ih hbody
  | notAheadNone _ ih =>
    cases hother with
    | notAhead hbody => cases ih hbody
    | notAheadNone => rfl
  | given h =>
    cases hother with
    | given => rfl
    | givenNone hnot => exact absurd h hnot
  | givenNone hnot =>
    cases hother with
    | given h => exact absurd h hnot
    | givenNone => rfl
  | symbol _ ih => cases hother with | symbol hother => exact ih hother
  | bothNone _ ih =>
    cases hother with
    | bothNone => rfl
    | both hfirst => cases ih hfirst
  | both _ _ ih ihsecond =>
    cases hother with
    | bothNone hfirst => cases ih hfirst
    | both hfirst hsecond =>
      cases ih hfirst
      exact ihsecond hsecond
  | eitherFirst _ ih =>
    cases hother with
    | eitherFirst hfirst => exact ih hfirst
    | eitherSecond hfirst => cases ih hfirst
  | eitherSecond _ _ ih ihsecond =>
    cases hother with
    | eitherFirst hfirst => cases ih hfirst
    | eitherSecond _ hsecond => exact ihsecond hsecond
  | manyNone _ ih =>
    cases hother with
    | manyNone => rfl
    | manyIdle => rfl
    | many hbody => cases ih hbody
  | manyIdle _ hidle ih =>
    cases hother with
    | manyNone => rfl
    | manyIdle => rfl
    | many hbody hless =>
      cases ih hbody
      omega
  | many _ hless _ ih ihothers =>
    cases hother with
    | manyNone hbody => cases ih hbody
    | manyIdle hbody hidle =>
      cases ih hbody
      omega
    | many hbody _ hothers =>
      cases ih hbody
      exact ihothers hothers

/-- A rule that is read as often as it applies gives something everywhere. -/
lemma Gives.isSome_of_many {body : Rule σ} {p : Cursor} {out : Option Cursor}
    (h : Gives grammar (.many body) p out) : out.isSome = true := by
  generalize hrule : Rule.many body = rule at h
  induction h with
  | manyNone | manyIdle => rfl
  | many _ _ _ _ ih => exact ih hrule
  | _ => contradiction

/-! ## What is left of a text -/

/-- A rule takes characters off the text and counts them. -/
theorem Gives.reads {rule : Rule σ} {p : Cursor} {out : Option Cursor}
    (h : Gives grammar rule p out) : ∀ q, out = some q → p.Reads q := by
  induction h with
  | nothing | manyNone | manyIdle | ahead | notAhead | given => rintro q ⟨⟩; exact .refl _
  | wrapNone | bothNone | aheadNone | notAheadNone | givenNone => rintro q ⟨⟩
  | token =>
    exact fun q hq => (Cursor.reads_pass (Gap.isAt_before _)).trans (Cursor.reads_takeToken hq)
  | glued => exact fun q hq => Cursor.reads_takeToken hq
  | node _ ih =>
    intro q hq
    obtain ⟨inner, hinner, rfl⟩ := Option.map_eq_some_iff.mp hq
    exact (Cursor.reads_pass (Gap.isAt_before _)).trans (ih inner hinner)
  | wrap _ _ _ ih | field _ ih =>
    intro q hq
    obtain ⟨inner, hinner, rfl⟩ := Option.map_eq_some_iff.mp hq
    exact ih inner hinner
  | both _ _ ih ihsecond => exact fun q hq => (ih _ rfl).trans (ihsecond q hq)
  | eitherFirst _ ih => exact ih
  | eitherSecond _ _ _ ih => exact ih
  | many _ _ _ ih ihothers => exact fun q hq => (ih _ rfl).trans (ihothers q hq)
  | lineEnd => exact fun q hq => Cursor.reads_endStatement hq
  | symbol _ ih => exact ih

/-- Does a rule take a character off the text whenever it applies, if every symbol does? -/
def takes : Rule σ → Bool
  -- this rule never applies
  | notAhead nothing => true
  | nothing | many _ | ahead _ | notAhead _ | given _ | lineEnd _ => false
  | token lexeme | glued lexeme => lexeme.takes
  | node _ body | wrap _ _ body | field _ body => body.takes
  | both first second => first.takes || second.takes
  | either first second => first.takes && second.takes
  | symbol _ => true

/-- A rule that takes a character leaves a shorter text. -/
theorem Gives.length_lt (hgrammar : ∀ s, (grammar s).takes = true) {rule : Rule σ} {p : Cursor}
    {out : Option Cursor} (h : Gives grammar rule p out) (hrule : rule.takes = true) :
    ∀ q, out = some q → q.rest.length < p.rest.length := by
  induction h with
  | nothing | manyNone | manyIdle | many | ahead | given | lineEnd => contradiction
  | wrapNone | bothNone | aheadNone | notAheadNone | givenNone => rintro q ⟨⟩
  | @notAhead body _ hbody _ =>
    cases body with
    | nothing => cases hbody
    | _ => contradiction
  | token =>
    exact fun q hq => Nat.lt_of_lt_of_le (Cursor.length_lt_of_takeToken hrule hq)
      (Cursor.reads_pass (Gap.isAt_before _)).length_le
  | glued => exact fun q hq => Cursor.length_lt_of_takeToken hrule hq
  | node _ ih =>
    intro q hq
    obtain ⟨inner, hinner, rfl⟩ := Option.map_eq_some_iff.mp hq
    exact Nat.lt_of_lt_of_le (ih hrule inner hinner)
      (Cursor.reads_pass (Gap.isAt_before _)).length_le
  | wrap _ _ _ ih | field _ ih =>
    intro q hq
    obtain ⟨inner, hinner, rfl⟩ := Option.map_eq_some_iff.mp hq
    exact ih hrule inner hinner
  | both hfirst hsecond ih ihsecond =>
    intro q hq
    rcases Bool.or_eq_true_iff.mp hrule with htakes | htakes
    · exact Nat.lt_of_le_of_lt (hsecond.reads q hq).length_le (ih htakes _ rfl)
    · exact Nat.lt_of_lt_of_le (ihsecond htakes q hq) (hfirst.reads _ rfl).length_le
  | eitherFirst _ ih => exact ih (Bool.and_eq_true_iff.mp hrule).1
  | eitherSecond _ _ _ ih => exact ih (Bool.and_eq_true_iff.mp hrule).2
  | symbol _ ih => exact ih (hgrammar _)

/-! ## Enough fuel -/

/-- How deep rules are nested from a rule on before a character is taken, given how deep they are
from each symbol on. -/
def rank (ranks : σ → Nat) : Rule σ → Nat
  | nothing | token _ | glued _ | given _ | lineEnd _ => 1
  | node _ body | wrap _ _ body | field _ body | many body | ahead body | notAhead body =>
    body.rank ranks + 1
  | both first second =>
    max (first.rank ranks) (if first.takes then 0 else second.rank ranks) + 1
  | either first second => max (first.rank ranks) (second.rank ranks) + 1
  | symbol s => ranks s + 1

/-- Is no rule in a rule nested deeper than a bound? -/
def fits (ranks : σ → Nat) (bound : Nat) (rule : Rule σ) : Bool :=
  rule.rank ranks ≤ bound && match rule with
    | node _ body | wrap _ _ body | field _ body | many body | ahead body | notAhead body =>
      body.fits ranks bound
    | both first second | either first second =>
      first.fits ranks bound && second.fits ranks bound
    | _ => true

end Rule

/-- How deep the rules of a grammar are nested before a character is taken. -/
structure Ranking {σ : Type} (grammar : σ → Rule σ) where
  /-- How deep rules are nested from a symbol on. -/
  ranks : σ → Nat
  /-- How deep they are nested at most. -/
  bound : Nat
  takes_rule : ∀ s, (grammar s).takes = true
  rank_rule : ∀ s, (grammar s).rank ranks ≤ ranks s
  fits_rule : ∀ s, (grammar s).fits ranks bound = true

namespace Ranking

open Rule

variable {σ : Type} {grammar : σ → Rule σ} (ranking : Ranking grammar)

/-- The fuel that a rule needs for a text. -/
def need (rule : Rule σ) (cs : List Char) : Nat :=
  ranking.bound * (cs.length + 1) + rule.rank ranking.ranks

variable {ranking}

/-- A rule that begins after a character was taken needs less fuel than any rule before. -/
lemma need_lt {rule other : Rule σ} {cs rest : List Char} (hrank : 0 < other.rank ranking.ranks)
    (hfits : rule.fits ranking.ranks ranking.bound = true) (hless : rest.length < cs.length) :
    ranking.need rule rest < ranking.need other cs := by
  have hrule : rule.rank ranking.ranks ≤ ranking.bound := by
    unfold fits at hfits
    exact of_decide_eq_true (Bool.and_eq_true_iff.mp hfits).1
  have hmul :
      ranking.bound * (rest.length + 1) + ranking.bound ≤ ranking.bound * (cs.length + 1) := by
    rw [← Nat.mul_succ]
    exact Nat.mul_le_mul_left _ (by omega)
  unfold need
  omega

lemma rank_pos (rule : Rule σ) : 0 < rule.rank ranking.ranks := by
  cases rule <;> simp [rank]

lemma found_ofToken (cursor : Cursor) (lexeme : Lexeme) (refused : Nat) :
    (Reply.ofToken cursor lexeme refused).found = cursor.takeToken lexeme := by
  unfold Reply.ofToken
  split
  · rename_i next hnext
    exact hnext.symm
  · rename_i hnone
    exact hnone.symm

lemma fits_parts {first second : Rule σ} {ranks : σ → Nat} {bound rank : Nat}
    (h : (rank ≤ bound && (first.fits ranks bound && second.fits ranks bound)) = true) :
    first.fits ranks bound = true ∧ second.fits ranks bound = true :=
  Bool.and_eq_true_iff.mp (Bool.and_eq_true_iff.mp h).2

lemma fits_body {body : Rule σ} {ranks : σ → Nat} {bound rank : Nat}
    (h : (rank ≤ bound && body.fits ranks bound) = true) : body.fits ranks bound = true :=
  (Bool.and_eq_true_iff.mp h).2

/-- With enough fuel, reading by a rule comes to what the rule gives. -/
theorem gives_run (ranking : Ranking grammar) (fuel : Nat) {rule : Rule σ}
    (hfits : rule.fits ranking.ranks ranking.bound = true) (cursor : Cursor) (refused : Nat)
    (hfuel : ranking.need rule cursor.rest ≤ fuel) :
    Gives grammar rule cursor (run grammar fuel rule cursor refused).found := by
  induction fuel generalizing rule cursor refused with
  | zero =>
    have hpos := @rank_pos _ _ ranking rule
    unfold need at hfuel
    omega
  | succ fuel ih =>
    -- a rule at the same place needs less fuel, one behind a character any
    have hsame : ∀ {other : Rule σ} {rest : List Char}, rest.length ≤ cursor.rest.length →
        other.rank ranking.ranks < rule.rank ranking.ranks →
        ranking.need other rest ≤ fuel := by
      intro other rest hrest hrank
      have hmul : ranking.bound * (rest.length + 1) ≤ ranking.bound * (cursor.rest.length + 1) :=
        Nat.mul_le_mul_left _ (Nat.succ_le_succ hrest)
      unfold need at hfuel ⊢
      omega
    have hlater : ∀ {other : Rule σ} {rest : List Char}, rest.length < cursor.rest.length →
        other.fits ranking.ranks ranking.bound = true → ranking.need other rest ≤ fuel := by
      intro other rest hrest hother
      have hless := need_lt (rank_pos rule) hother hrest
      omega
    cases rule with
    | nothing => exact .nothing
    | token lexeme => rw [run, found_ofToken]; exact .token
    | glued lexeme => rw [run, found_ofToken]; exact .glued
    | node kind body =>
      rw [run]
      exact .node (ih (fits_body hfits) _ refused
        (hsame (Cursor.reads_pass (Gap.isAt_before _)).length_le (Nat.lt_succ_self _)))
    | wrap kind role body =>
      rw [run]
      split
      · rename_i hdone
        exact .wrapNone (by rw [hdone]; rfl)
      · rename_i first others hdone
        split
        · rename_i hcomment
          exact .wrapNone (by rw [hdone]; exact hcomment)
        · rename_i hcomment
          exact .wrap hdone (Bool.not_eq_true _ ▸ hcomment)
            (ih (fits_body hfits) _ refused (hsame (Nat.le_refl _) (Nat.lt_succ_self _)))
    | field name body =>
      rw [run]
      exact .field (ih (fits_body hfits) _ refused (hsame (Nat.le_refl _) (Nat.lt_succ_self _)))
    | both first second =>
      obtain ⟨hfirst, hsecond⟩ := fits_parts hfits
      have hgives :=
        ih hfirst cursor refused (hsame (Nat.le_refl _) (Nat.lt_succ_of_le (Nat.le_max_left _ _)))
      rw [run]
      split
      · rename_i hnone
        rw [hnone] at hgives ⊢
        exact .bothNone hgives
      · rename_i next hnext
        rw [hnext] at hgives
        have hneed : ranking.need second next.rest ≤ fuel := by
          cases htakes : first.takes with
          | true => exact hlater (hgives.length_lt ranking.takes_rule htakes _ rfl) hsecond
          | false =>
            refine hsame (hgives.reads _ rfl).length_le ?_
            simp only [rank, htakes, Bool.false_eq_true, if_false]
            omega
        exact .both hgives (ih hsecond next _ hneed)
    | either first second =>
      obtain ⟨hfirst, hsecond⟩ := fits_parts hfits
      have hgives :=
        ih hfirst cursor refused (hsame (Nat.le_refl _) (Nat.lt_succ_of_le (Nat.le_max_left _ _)))
      rw [run]
      split
      · rename_i hnone
        rw [hnone] at hgives
        exact .eitherSecond hgives
          (ih hsecond cursor _ (hsame (Nat.le_refl _) (Nat.lt_succ_of_le (Nat.le_max_right _ _))))
      · rename_i next hnext
        rw [hnext] at hgives ⊢
        exact .eitherFirst hgives
    | many body =>
      have hgives :=
        ih (fits_body hfits) cursor refused (hsame (Nat.le_refl _) (Nat.lt_succ_self _))
      rw [run]
      split
      · rename_i hnone
        rw [hnone] at hgives
        exact .manyNone hgives
      · rename_i next hnext
        rw [hnext] at hgives
        split
        · rename_i hidle
          exact .manyIdle hgives hidle
        · rename_i hidle
          have hless := Nat.lt_of_not_le hidle
          have hshorter := (hgives.reads _ rfl).length_lt_iff.mpr hless
          exact .many hgives hless (ih hfits next _ (hlater hshorter hfits))
    | ahead body =>
      have hgives :=
        ih (fits_body hfits) cursor refused (hsame (Nat.le_refl _) (Nat.lt_succ_self _))
      rw [run]
      split
      · rename_i hnone
        rw [hnone] at hgives
        exact .aheadNone hgives
      · rename_i next hnext
        rw [hnext] at hgives
        exact .ahead hgives
    | notAhead body =>
      have hgives :=
        ih (fits_body hfits) cursor refused (hsame (Nat.le_refl _) (Nat.lt_succ_self _))
      rw [run]
      split
      · rename_i hnone
        rw [hnone] at hgives
        exact .notAhead hgives
      · rename_i next hnext
        rw [hnext] at hgives
        exact .notAheadNone hgives
    | given condition =>
      rw [run]
      split
      · rename_i hholds
        exact .given hholds
      · rename_i hholds
        exact .givenNone hholds
    | lineEnd atComment => exact .lineEnd
    | symbol s =>
      have hrank := ranking.rank_rule s
      rw [run]
      exact .symbol (ih (ranking.fits_rule s) cursor refused
        (hsame (Nat.le_refl _) (Nat.lt_succ_of_le hrank)))

end Ranking

end EntityCompiler
