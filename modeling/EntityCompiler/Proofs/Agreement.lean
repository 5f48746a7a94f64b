import EntityCompiler.Document.Access
import EntityCompiler.Proofs.Outcome

/-!
# Computations that agree

Two computations agree if both have a result, or both meet a problem, whichever that is, or both
break the same contract. Each operation that puts computations together has one rule, so it is
enough to compare their parts. Where two objects have the same under a key, what is read under it is
the same.
-/

namespace EntityCompiler

/-! ## What is read under a key -/

namespace Document

variable {raw raw' : Fields} {key : String}

lemma fields_congr (h : raw.getD key = raw'.getD key) (location : Option String) :
    fields raw key location = fields raw' key location := by
  unfold fields
  rw [h]

lemma text?_congr (h : raw.getD key = raw'.getD key) : text? raw key = text? raw' key := by
  unfold text?
  rw [h]

lemma flag_congr (h : raw.getD key = raw'.getD key) : flag raw key = flag raw' key := by
  unfold flag
  rw [h]

lemma number?_congr (h : raw.getD key = raw'.getD key) (location : Option String) :
    number? raw key location = number? raw' key location := by
  unfold number?
  rw [h]

end Document

namespace Outcome

variable {α β γ δ : Type}

/-- Both lists of problems are empty, or neither is. -/
def AlikeProblems (problems problems' : List Problem) : Prop :=
  problems = [] ↔ problems' = []

namespace AlikeProblems

lemma refl (problems : List Problem) : AlikeProblems problems problems := Iff.rfl

lemma cons (p q : Problem) (problems problems' : List Problem) :
    AlikeProblems (p :: problems) (q :: problems') :=
  ⟨fun h => absurd h (List.cons_ne_nil _ _), fun h => absurd h (List.cons_ne_nil _ _)⟩

lemma append {first first' second second' : List Problem} (hfirst : AlikeProblems first first')
    (hsecond : AlikeProblems second second') :
    AlikeProblems (first ++ second) (first' ++ second') := by
  unfold AlikeProblems at *
  rw [List.append_eq_nil_iff, List.append_eq_nil_iff, hfirst, hsecond]

lemma cases {problems problems' : List Problem} (h : AlikeProblems problems problems') :
    (problems = [] ∧ problems' = [])
    ∨ ∃ p rest q rest', problems = p :: rest ∧ problems' = q :: rest' := by
  cases problems with
  | nil => exact .inl ⟨rfl, h.mp rfl⟩
  | cons p rest =>
    cases problems' with
    | nil => exact absurd (h.mpr rfl) (List.cons_ne_nil p rest)
    | cons q rest' => exact .inr ⟨p, rest, q, rest', rfl, rfl⟩

end AlikeProblems

/-- Two computations that both have a result, and these are related, or both meet a problem, or both
break the same contract. -/
def Agrees (R : α → β → Prop) : Outcome α → Outcome β → Prop
  | .ok a, .ok b => R a b
  | .error (.problem _), .error (.problem _) => True
  | .error (.broken c), .error (.broken c') => c = c'
  | _, _ => False

namespace Agrees

variable {R : α → β → Prop} {S : γ → δ → Prop} {x : Outcome α} {y : Outcome β}

lemma refl (x : Outcome α) : Agrees Eq x x := by
  cases x with
  | ok a => exact rfl
  | error fault =>
    cases fault with
    | problem p => trivial
    | broken c => exact rfl

lemma of_eq {x y : Outcome α} (h : x = y) : Agrees Eq x y := h ▸ refl x

lemma problem (location location' : Option String) (cause cause' : Cause) :
    Agrees R (Outcome.problem location cause) (Outcome.problem location' cause') := trivial

/-- Two computations that agree have both a result, or both a fault. -/
lemma cases (h : Agrees R x y) : (∃ a b, x = .ok a ∧ y = .ok b ∧ R a b)
    ∨ (∃ p q, x = .error (.problem p) ∧ y = .error (.problem q))
    ∨ ∃ c, x = .error (.broken c) ∧ y = .error (.broken c) := by
  match x, y, h with
  | .ok a, .ok b, h => exact .inl ⟨a, b, rfl, rfl, h⟩
  | .error (.problem p), .error (.problem q), _ => exact .inr (.inl ⟨p, q, rfl, rfl⟩)
  | .error (.broken c), .error (.broken c'), h =>
    exact .inr (.inr ⟨c, rfl, congrArg _ (congrArg _ h.symm)⟩)

lemma mono {R' : α → β → Prop} (h : Agrees R x y) (hR : ∀ a b, R a b → R' a b) : Agrees R' x y := by
  obtain ⟨a, b, rfl, rfl, hab⟩ | ⟨p, q, rfl, rfl⟩ | ⟨c, rfl, rfl⟩ := h.cases
  · exact hR a b hab
  · trivial
  · exact rfl

lemma bind {f : α → Outcome γ} {g : β → Outcome δ} (h : Agrees R x y)
    (hfg : ∀ a b, R a b → Agrees S (f a) (g b)) : Agrees S (x >>= f) (y >>= g) := by
  obtain ⟨a, b, rfl, rfl, hab⟩ | ⟨p, q, rfl, rfl⟩ | ⟨c, rfl, rfl⟩ := h.cases
  · exact hfg a b hab
  · trivial
  · exact rfl

lemma ok_bind {f : α → Outcome γ} {g : β → Outcome δ} {a : α} {b : β} (h : Agrees S (f a) (g b)) :
    Agrees S (.ok a >>= f) (.ok b >>= g) := h

lemma map {f : α → γ} {g : β → δ} (h : Agrees R x y) (hfg : ∀ a b, R a b → S (f a) (g b)) :
    Agrees S (Except.map f x) (Except.map g y) := by
  obtain ⟨a, b, rfl, rfl, hab⟩ | ⟨p, q, rfl, rfl⟩ | ⟨c, rfl, rfl⟩ := h.cases
  · exact hfg a b hab
  · trivial
  · exact rfl

lemma within (h : Agrees R x y) (location : Option String) (cause : Cause) :
    Agrees R (Outcome.within location cause x) (Outcome.within location cause y) := by
  obtain ⟨a, b, rfl, rfl, hab⟩ | ⟨p, q, rfl, rfl⟩ | ⟨c, rfl, rfl⟩ := h.cases
  · exact hab
  · trivial
  · exact rfl

/-- A collected result is there in both cases, or a problem is there in both. -/
lemma collected (h : Agrees R x y) :
    Agrees (fun found found' => Option.Rel R found.1 found'.1 ∧ AlikeProblems found.2 found'.2)
      (Outcome.collected x) (Outcome.collected y) := by
  obtain ⟨a, b, rfl, rfl, hab⟩ | ⟨p, q, rfl, rfl⟩ | ⟨c, rfl, rfl⟩ := h.cases
  · exact ⟨.some hab, .refl _⟩
  · exact ⟨.none, .cons p q [] []⟩
  · exact rfl

/-- Where the items agree one by one, so do the gathered results. -/
lemma gather {ι κ : Type} {f : ι → Outcome α} {g : κ → Outcome β} {xs : List ι} {ys : List κ}
    (h : List.Forall₂ (fun x y => Agrees R (f x) (g y)) xs ys) :
    Agrees (fun found found' => List.Forall₂ R found.1 found'.1 ∧ AlikeProblems found.2 found'.2)
      (Outcome.gather f xs) (Outcome.gather g ys) := by
  induction h with
  | nil => exact ⟨.nil, .refl _⟩
  | @cons x y xs ys hxy _ ih =>
    unfold Outcome.gather
    obtain ⟨a, b, hx, hy, hab⟩ | ⟨p, q, hx, hy⟩ | ⟨c, hx, hy⟩ := hxy.cases
    · rw [hx, hy]
      exact ih.bind fun found found' hfound => ⟨.cons hab hfound.1, hfound.2⟩
    · -- a problem is kept, and the other items are gathered all the same
      rw [hx, hy]
      exact ih.bind fun found found' hfound => ⟨hfound.1, .cons p q _ _⟩
    · -- a broken contract ends the gathering, whatever is left
      rw [hx, hy]
      exact rfl

/-- What is done without a problem agrees, and so does what is done with one. -/
lemma ite_isEmpty {problems problems' : List Problem} {x' : Outcome α} {y' : Outcome β}
    (h : AlikeProblems problems problems') (hquiet : Agrees R x y) (hfails : Agrees R x' y') :
    Agrees R (if problems.isEmpty then x else x') (if problems'.isEmpty then y else y') := by
  have hempty : problems.isEmpty = true ↔ problems'.isEmpty = true := by
    rw [List.isEmpty_iff, List.isEmpty_iff]
    exact h
  by_cases hnone : problems.isEmpty = true
  · rw [if_pos hnone, if_pos (hempty.mp hnone)]
    exact hquiet
  · rw [if_neg hnone, if_neg fun h => hnone (hempty.mpr h)]
    exact hfails

lemma of_forall₂_eq {P : γ → δ → Prop} {x : Outcome (List α × γ)} {y : Outcome (List α × δ)}
    (h : Agrees (fun found found' => List.Forall₂ Eq found.1 found'.1 ∧ P found.2 found'.2) x y) :
    Agrees (fun found found' => found.1 = found'.1 ∧ P found.2 found'.2) x y :=
  h.mono fun _ _ hfound => ⟨List.forall₂_eq_eq_eq ▸ hfound.1, hfound.2⟩

end Agrees

/-- The items of two lists that come to the same one by one come to the same together. -/
lemma gather_congr {ι κ : Type} {f : ι → Outcome α} {g : κ → Outcome α} {xs : List ι} {ys : List κ}
    (h : List.Forall₂ (fun x y => f x = g y) xs ys) : gather f xs = gather g ys := by
  induction h with
  | nil => rfl
  | cons hxy _ ih => rw [gather, gather, hxy, ih]

end Outcome

end EntityCompiler
