import EntityCompiler.Contract
import Mathlib.Data.List.Forall2
import Mathlib.Tactic.Lemma

/-!
# Outcomes

How an outcome is taken apart. The first half reads a successful run backwards: a step after another
one succeeds only on the result of that one, and items are gathered without a problem exactly if
each of them succeeds.

The second half goes forwards. `Outcome.Sound` says of a computation all that its callers count on:
it breaks no contract, every problem it meets is worded, and its result is as expected. Each
operation that puts computations together has one rule here, so what the parts ensure carries over
to the whole.
-/

namespace EntityCompiler

/-! ## Wordings -/

/-- A cause with a wording of its own, rather than one given in words. -/
def Cause.IsWorded : Cause → Prop
  | .stated _ => False
  | _ => True

/-- A problem that is worded, and so are all problems below it. -/
inductive Problem.Worded : Problem → Prop
  | plain {location : Option String} {cause : Cause} (h : cause.IsWorded) :
    Worded (.mk location cause none)
  | dueTo {location : Option String} {cause : Cause} {below : List Problem} (h : cause.IsWorded)
    (hbelow : ∀ p ∈ below, Worded p) : Worded (.mk location cause (some below))

namespace Outcome

variable {α β γ : Type}

/-! ## Successful runs, read backwards -/

lemma bind_eq_ok {x : Outcome α} {f : α → Outcome β} {b : β} :
    x >>= f = .ok b ↔ ∃ a, x = .ok a ∧ f a = .ok b := by
  cases x with
  | error fault => simp [bind, Except.bind]
  | ok a => simp [bind, Except.bind]

lemma map_eq_ok {x : Outcome α} {f : α → β} {b : β} :
    Except.map f x = .ok b ↔ ∃ a, x = .ok a ∧ f a = b := by
  cases x with
  | error fault => simp [Except.map]
  | ok a => simp [Except.map]

lemma pure_eq_ok {a b : α} : (pure a : Outcome α) = .ok b ↔ a = b := by
  simp [pure, Except.pure]

lemma toOption_eq_some {x : Outcome α} {a : α} : x.toOption = some a ↔ x = .ok a := by
  cases x with
  | ok b => simp [Except.toOption]
  | error fault => simp [Except.toOption]

/-- A problem that is put below another one is a problem still. -/
lemma within_eq_ok {location : Option String} {cause : Cause} {x : Outcome α} {a : α} :
    within location cause x = .ok a ↔ x = .ok a := by
  cases x with
  | ok b => rfl
  | error fault => cases fault <;> simp [within]

lemma require_eq_ok {contract : Contract} {holds : Bool} :
    require contract holds = .ok () ↔ holds = true := by
  cases holds <;> simp [require]

/-- A computation whose problem was collected met none exactly if it has a result. -/
lemma collected_eq_ok_nil {x : Outcome α} {found : Option α} :
    collected x = .ok (found, []) ↔ ∃ a, x = .ok a ∧ found = some a := by
  unfold collected caught
  cases x with
  | ok a => simp [bind, Except.bind, pure, Except.pure, eq_comm]
  | error fault => cases fault <;> simp [bind, Except.bind, pure, Except.pure]

lemma collected_eq_ok_some {x : Outcome α} {a : α} {problems : List Problem}
    (h : collected x = .ok (some a, problems)) : x = .ok a ∧ problems = [] := by
  unfold collected caught at h
  cases x with
  | ok b => simpa [bind, Except.bind, pure, Except.pure, eq_comm] using h
  | error fault => cases fault <;> simp [bind, Except.bind, pure, Except.pure] at h

/-- No problem was met with the items of a list exactly if each of them has a result. -/
lemma gather_eq_ok_nil {f : α → Outcome β} {xs : List α} {ys : List β} :
    gather f xs = .ok (ys, []) ↔ List.Forall₂ (fun x y => f x = .ok y) xs ys := by
  induction xs generalizing ys with
  | nil => simp [gather, eq_comm]
  | cons x xs ih =>
    rw [gather, bind_eq_ok, List.forall₂_cons_left_iff]
    constructor
    · intro h
      obtain ⟨first, hfirst, hrest⟩ := h
      obtain ⟨⟨found, problems⟩, hgather, hlast⟩ := bind_eq_ok.mp hrest
      cases first with
      | error p =>
        -- this problem would be among those gathered
        simp at hlast
      | ok y =>
        obtain ⟨rfl, rfl⟩ : y :: found = ys ∧ problems = [] := by
          simpa [pure, Except.pure] using hlast
        refine ⟨y, found, ?_, ih.mp hgather, rfl⟩
        unfold caught at hfirst
        split at hfirst <;> simp_all
    · intro h
      obtain ⟨y, found, hx, hrest, rfl⟩ := h
      refine ⟨.ok y, by rw [hx]; rfl, ?_⟩
      rw [ih.mpr hrest]
      rfl

/-- What is gathered has been made of some item, whatever problems there are with others. -/
lemma exists_of_gather {f : α → Outcome β} {xs : List α} {ys : List β} {problems : List Problem}
    (h : gather f xs = .ok (ys, problems)) : ∀ y ∈ ys, ∃ x ∈ xs, f x = .ok y := by
  induction xs generalizing ys problems with
  | nil =>
    obtain ⟨rfl, -⟩ := Prod.mk.inj (Except.ok.inj h)
    simp
  | cons x xs ih =>
    obtain ⟨first, hfirst, h⟩ := bind_eq_ok.mp h
    obtain ⟨⟨found, others⟩, hfound, h⟩ := bind_eq_ok.mp h
    have hrest : ∀ y ∈ found, ∃ z ∈ x :: xs, f z = .ok y := by
      intro y hy
      obtain ⟨z, hz, hzy⟩ := ih hfound y hy
      exact ⟨z, List.mem_cons_of_mem x hz, hzy⟩
    cases first with
    | error p =>
      obtain ⟨rfl, -⟩ := Prod.mk.inj (pure_eq_ok.mp h)
      exact hrest
    | ok a =>
      obtain ⟨rfl, -⟩ := Prod.mk.inj (pure_eq_ok.mp h)
      have hx : f x = .ok a := by
        unfold caught at hfirst
        split at hfirst <;> simp_all
      exact List.forall_mem_cons.mpr ⟨⟨x, List.mem_cons_self, hx⟩, hrest⟩

lemma mapM_eq_ok {f : α → Outcome β} {xs : List α} {ys : List β} :
    xs.mapM f = .ok ys ↔ List.Forall₂ (fun x y => f x = .ok y) xs ys := by
  induction xs generalizing ys with
  | nil => simp [pure, Except.pure, eq_comm]
  | cons x xs ih =>
    rw [List.mapM_cons, bind_eq_ok, List.forall₂_cons_left_iff]
    constructor
    · intro h
      obtain ⟨y, hx, hrest⟩ := h
      obtain ⟨found, hmap, hlast⟩ := bind_eq_ok.mp hrest
      exact ⟨y, found, hx, ih.mp hmap, (pure_eq_ok.mp hlast).symm⟩
    · intro h
      obtain ⟨y, found, hx, hrest, rfl⟩ := h
      refine ⟨y, hx, ?_⟩
      rw [ih.mpr hrest]
      rfl

/-! ## Sound computations -/

/-- A computation that breaks no contract. A problem that it meets is worded, and its result is as
expected. -/
def Sound (post : α → Prop) : Outcome α → Prop
  | .ok a => post a
  | .error (.problem p) => p.Worded
  | .error (.broken _) => False

/-- All problems of a list are worded. -/
def AllWorded (problems : List Problem) : Prop :=
  ∀ p ∈ problems, p.Worded

lemma AllWorded.nil : AllWorded [] := by
  intro p hp
  contradiction

lemma AllWorded.singleton {p : Problem} (h : p.Worded) : AllWorded [p] := by
  intro q hq
  rw [List.mem_singleton.mp hq]
  exact h

lemma AllWorded.append {first second : List Problem} (hfirst : AllWorded first)
    (hsecond : AllWorded second) : AllWorded (first ++ second) := by
  intro p hp
  rcases List.mem_append.mp hp with hp | hp
  · exact hfirst p hp
  · exact hsecond p hp

namespace Sound

variable {P Q : α → Prop} {x : Outcome α}

lemma ok {a : α} (h : P a) : Sound P (.ok a) := h

lemma pure {a : α} (h : P a) : Sound P (Pure.pure a) := h

lemma mono (hx : Sound P x) (h : ∀ a, P a → Q a) : Sound Q x := by
  cases x with
  | ok a => exact h a hx
  | error fault =>
    cases fault with
    | problem p => exact hx
    | broken contract => exact hx

lemma post (hx : Sound P x) {a : α} (h : x = .ok a) : P a := by
  rw [h] at hx
  exact hx

/-- A sound computation has a result or a problem, and no third way to end. -/
lemma total (hx : Sound P x) :
    (∃ a, x = .ok a ∧ P a) ∨ ∃ p, x = .error (.problem p) ∧ p.Worded := by
  cases x with
  | ok a => exact .inl ⟨a, rfl, hx⟩
  | error fault =>
    cases fault with
    | problem p => exact .inr ⟨p, rfl, hx⟩
    | broken contract => contradiction

/-- What is expected of a result may take into account which result it is. -/
lemma with_eq (hx : Sound P x) : Sound (fun a => P a ∧ x = .ok a) x := by
  cases x with
  | ok a => exact ⟨hx, rfl⟩
  | error fault => cases fault <;> exact hx

lemma bind {R : β → Prop} {f : α → Outcome β} (hx : Sound P x) (hf : ∀ a, P a → Sound R (f a)) :
    Sound R (x >>= f) := by
  cases x with
  | ok a => exact hf a hx
  | error fault => cases fault <;> exact hx

/-- A result and the problems met on the way to it are gone on with one by one. -/
lemma bind_pair {P : α × β → Prop} {R : γ → Prop} {x : Outcome (α × β)} {f : α × β → Outcome γ}
    (hx : Sound P x) (hf : ∀ a b, P (a, b) → Sound R (f (a, b))) : Sound R (x >>= f) :=
  hx.bind fun found hfound => hf found.1 found.2 hfound

lemma map {R : β → Prop} {f : α → β} (hx : Sound P x) (hf : ∀ a, P a → R (f a)) :
    Sound R (Except.map f x) := by
  cases x with
  | ok a => exact hf a hx
  | error fault => cases fault <;> exact hx

lemma problem {location : Option String} {cause : Cause} (h : cause.IsWorded) :
    Sound P (Outcome.problem location cause) :=
  Problem.Worded.plain h

lemma dueTo {location : Option String} {cause : Cause} {problems : List Problem}
    (h : cause.IsWorded) (hproblems : AllWorded problems) :
    Sound P (.error (.problem (.dueTo location cause problems))) :=
  Problem.Worded.dueTo h hproblems

/-- A computation goes on as if a contract that holds were not there. -/
lemma require_bind {contract : Contract} {holds : Bool} {f : Unit → Outcome α}
    (h : holds = true) (hf : Sound P (f ())) : Sound P (Outcome.require contract holds >>= f) := by
  rw [Outcome.require, if_pos h]
  exact hf

lemma within {location : Option String} {cause : Cause} (h : cause.IsWorded) (hx : Sound P x) :
    Sound P (Outcome.within location cause x) := by
  cases x with
  | ok a => exact hx
  | error fault =>
    cases fault with
    | problem p => exact dueTo h (.singleton hx)
    | broken contract => exact hx

lemma caught (hx : Sound P x) :
    Sound (fun found => match found with | .ok a => P a | .error p => p.Worded) (caught x) := by
  cases x with
  | ok a => exact hx
  | error fault => cases fault <;> exact hx

/-- A collected result is as expected if it is there, and else some problem was met. -/
lemma collected (hx : Sound P x) :
    Sound (fun (found, problems) => AllWorded problems ∧ (∀ a, found = some a → P a)
      ∧ (found = none → problems ≠ [])) (collected x) := by
  refine bind hx.caught fun found hfound => ?_
  cases found with
  | ok a => exact ⟨.nil, by simpa using hfound, by simp⟩
  | error p => exact ⟨.singleton hfound, by simp, by simp⟩

/-- The gathered results belong to some of the items, in their order. -/
lemma gather {f : α → Outcome β} {R : α → β → Prop} {xs : List α}
    (h : ∀ x ∈ xs, Sound (R x) (f x)) :
    Sound (fun (ys, problems) => AllWorded problems
      ∧ ∃ kept, kept.Sublist xs ∧ List.Forall₂ R kept ys) (gather f xs) := by
  -- an item is kept exactly if it has a result, so the items that are kept grow along the list
  induction xs with
  | nil => exact ⟨.nil, [], .slnil, .nil⟩
  | cons x xs ih =>
    refine bind (h x List.mem_cons_self).caught fun first hfirst => ?_
    refine bind_pair (ih fun y hy => h y (List.mem_cons_of_mem x hy)) fun ys problems hrest => ?_
    obtain ⟨hproblems, kept, hkept, hys⟩ := hrest
    cases first with
    | ok y => exact ⟨hproblems, x :: kept, hkept.cons_cons x, .cons hfirst hys⟩
    | error p =>
      refine ⟨?_, kept, hkept.cons x, hys⟩
      intro q hq
      rcases List.mem_cons.mp hq with rfl | hq
      · exact hfirst
      · exact hproblems q hq

lemma mapM {f : α → Outcome β} {R : β → Prop} {xs : List α} (h : ∀ x ∈ xs, Sound R (f x)) :
    Sound (fun ys => ∀ y ∈ ys, R y) (xs.mapM f) := by
  induction xs with
  | nil => exact fun y hy => absurd hy (List.not_mem_nil)
  | cons x xs ih =>
    rw [List.mapM_cons]
    refine bind (h x List.mem_cons_self) fun y hy => ?_
    refine bind (ih fun z hz => h z (List.mem_cons_of_mem x hz)) fun ys hys => ?_
    exact fun z hz => (List.mem_cons.mp hz).elim (fun hz => hz ▸ hy) (hys z)

end Sound

/-- What belongs to the items of a list, one by one, and has something of theirs, has it in their
order. -/
lemma map_eq_of_forall₂ {R : α → β → Prop} {f : α → γ} {g : β → γ} {xs : List α} {ys : List β}
    (h : List.Forall₂ R xs ys) (hR : ∀ x y, R x y → g y = f x) : ys.map g = xs.map f := by
  induction h with
  | nil => rfl
  | cons hxy _ ih => rw [List.map_cons, List.map_cons, hR _ _ hxy, ih]

/-- Gathered results that each are as expected, whichever item they belong to. -/
lemma forall_of_forall₂ {R : α → β → Prop} {P : β → Prop} {xs : List α} {ys : List β}
    (h : List.Forall₂ R xs ys) (hP : ∀ x y, R x y → P y) : ∀ y ∈ ys, P y := by
  induction h with
  | nil => exact fun y hy => absurd hy (List.not_mem_nil)
  | cons hxy _ ih =>
    intro z hz
    rcases List.mem_cons.mp hz with rfl | hz
    · exact hP _ _ hxy
    · exact ih z hz

/-- Results for all items, if each of them has one. -/
lemma exists_forall₂ {R : α → β → Prop} {xs : List α} (h : ∀ x ∈ xs, ∃ y, R x y) :
    ∃ ys, List.Forall₂ R xs ys := by
  induction xs with
  | nil => exact ⟨[], .nil⟩
  | cons x xs ih =>
    rw [List.forall_mem_cons] at h
    obtain ⟨y, hy⟩ := h.1
    obtain ⟨ys, hys⟩ := ih h.2
    exact ⟨y :: ys, .cons hy hys⟩

end Outcome

end EntityCompiler
