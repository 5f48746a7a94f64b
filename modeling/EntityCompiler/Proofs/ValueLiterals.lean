import EntityCompiler.Declaration.Literal
import EntityCompiler.Proofs.Outcome

/-!
# Literals of values

A value has a literal exactly if all numbers in it are finite, and the literal stands for this very
value. If some are not, the problem leads along the keys and indices on the way to the first of
them, in the order in which the numbers are written in the document
(`Expression.jsonLiteral_faithful`).
-/

namespace EntityCompiler

/-! ## Numbers and their places -/

namespace Value

/-- A step into a value: to what is under a key of an object, or at an index of a list. -/
inductive Step where
  | key (key : String)
  | index (index : Nat)
deriving DecidableEq

/-- A number stands in a value, at the end of the given steps. -/
inductive Holds : Value → List Step → Number → Prop
  | number {n : Number} : Holds (.number n) [] n
  | entry {entries : List (String × Value)} {key : String} {v : Value}
      {path : List Step} {n : Number}
    (hentry : (key, v) ∈ entries) (h : Holds v path n) :
    Holds (.object entries) (.key key :: path) n
  | item {items : List Value} {i : Nat} {v : Value} {path : List Step} {n : Number}
    (hitem : items[i]? = some v) (h : Holds v path n) : Holds (.list items) (.index i :: path) n

/-- What stands at a place, seen from one step farther out. -/
def behind (step : Step) (found : List (List Step × Number)) : List (List Step × Number) :=
  found.map fun (path, n) => (step :: path, n)

mutual

/-- The numbers in a value with their places, in the order of the document. -/
def numbers : Value → List (List Step × Number)
  | .number n => [([], n)]
  | .list items => itemNumbers 0 items
  | .object entries => entryNumbers entries
  | _ => []

/-- The numbers in the items of a list, the first of which has the given index. -/
def itemNumbers (index : Nat) : List Value → List (List Step × Number)
  | [] => []
  | v :: rest => behind (.index index) v.numbers ++ itemNumbers (index + 1) rest

/-- The numbers in the entries of an object. -/
def entryNumbers : List (String × Value) → List (List Step × Number)
  | [] => []
  | (key, v) :: rest => behind (.key key) v.numbers ++ entryNumbers rest

end

lemma mem_behind {step : Step} {found : List (List Step × Number)} {path : List Step} {n : Number} :
    (path, n) ∈ behind step found ↔ ∃ inner, path = step :: inner ∧ (inner, n) ∈ found := by
  rw [behind, List.mem_map]
  constructor
  · rintro ⟨⟨inner, m⟩, hmem, heq⟩
    obtain ⟨rfl, rfl⟩ := Prod.mk.inj heq
    exact ⟨inner, rfl, hmem⟩
  · rintro ⟨inner, rfl, hmem⟩
    exact ⟨(inner, n), hmem, rfl⟩

mutual

/-- The numbers that are listed are those that stand in the value, each with its place. -/
theorem mem_numbers_iff {n : Number} : ∀ (v : Value) (path : List Step),
    (path, n) ∈ v.numbers ↔ v.Holds path n
  | .null, path => by
    refine iff_of_false List.not_mem_nil fun h => ?_
    cases h
  | .bool b, path => by
    refine iff_of_false List.not_mem_nil fun h => ?_
    cases h
  | .text s, path => by
    refine iff_of_false List.not_mem_nil fun h => ?_
    cases h
  | .number m, path => by
    rw [numbers, List.mem_singleton, Prod.mk.injEq]
    constructor
    · rintro ⟨rfl, rfl⟩
      exact .number
    · intro h
      cases h
      exact ⟨rfl, rfl⟩
  | .list items, path => by
    rw [numbers, mem_itemNumbers_iff 0 items path]
    constructor
    · rintro ⟨i, v, inner, rfl, hitem, h⟩
      rw [Nat.zero_add]
      exact .item hitem h
    · intro h
      cases h with
      | @item _ i v inner _ hitem h => exact ⟨i, v, inner, by rw [Nat.zero_add], hitem, h⟩
  | .object entries, path => by
    rw [numbers, mem_entryNumbers_iff entries path]
    constructor
    · rintro ⟨key, v, inner, rfl, hentry, h⟩
      exact .entry hentry h
    · intro h
      cases h with
      | entry hentry h => exact ⟨_, _, _, rfl, hentry, h⟩

theorem mem_itemNumbers_iff {n : Number} : ∀ (index : Nat) (items : List Value) (path : List Step),
    (path, n) ∈ itemNumbers index items ↔ ∃ i v inner, path = .index (index + i) :: inner
      ∧ items[i]? = some v ∧ v.Holds inner n
  | index, [], path => by simp [itemNumbers]
  | index, first :: rest, path => by
    rw [itemNumbers, List.mem_append, mem_behind, mem_itemNumbers_iff (index + 1) rest path]
    constructor
    · intro h
      rcases h with ⟨inner, rfl, hmem⟩ | ⟨i, v, inner, rfl, hitem, h⟩
      · exact ⟨0, first, inner, rfl, rfl, (mem_numbers_iff first inner).mp hmem⟩
      · exact ⟨i + 1, v, inner, by rw [Nat.add_right_comm, Nat.add_assoc], hitem, h⟩
    · rintro ⟨i, v, inner, rfl, hitem, h⟩
      cases i with
      | zero =>
        obtain rfl : first = v := Option.some.inj hitem
        exact .inl ⟨inner, rfl, (mem_numbers_iff first inner).mpr h⟩
      | succ i => exact .inr ⟨i, v, inner, by rw [Nat.add_right_comm, Nat.add_assoc], hitem, h⟩

theorem mem_entryNumbers_iff {n : Number} : ∀ (entries : List (String × Value)) (path : List Step),
    (path, n) ∈ entryNumbers entries ↔ ∃ key v inner, path = .key key :: inner
      ∧ (key, v) ∈ entries ∧ v.Holds inner n
  | [], path => by simp [entryNumbers]
  | (key, first) :: rest, path => by
    rw [entryNumbers, List.mem_append, mem_behind, mem_entryNumbers_iff rest path]
    constructor
    · intro h
      rcases h with ⟨inner, rfl, hmem⟩ | ⟨other, v, inner, rfl, hentry, h⟩
      · exact ⟨key, first, inner, rfl, List.mem_cons_self, (mem_numbers_iff first inner).mp hmem⟩
      · exact ⟨other, v, inner, rfl, List.mem_cons_of_mem _ hentry, h⟩
    · rintro ⟨other, v, inner, rfl, hentry, h⟩
      rcases List.mem_cons.mp hentry with heq | hentry
      · obtain ⟨rfl, rfl⟩ := Prod.mk.inj heq
        exact .inl ⟨inner, rfl, (mem_numbers_iff v inner).mpr h⟩
      · exact .inr ⟨other, v, inner, rfl, hentry, h⟩

end

/-- The first number in the order of the document that is not finite, with its place. -/
def firstNonFinite? (found : List (List Step × Number)) : Option (List Step × Number) :=
  found.find? fun (_, n) => !n.isFinite

lemma firstNonFinite?_append (first second : List (List Step × Number)) :
    firstNonFinite? (first ++ second) = (firstNonFinite? first).or (firstNonFinite? second) :=
  List.find?_append

lemma firstNonFinite?_behind (step : Step) (found : List (List Step × Number)) :
    firstNonFinite? (behind step found)
      = (firstNonFinite? found).map fun (path, n) => (step :: path, n) :=
  List.find?_map

lemma firstNonFinite?_eq_none_iff (v : Value) :
    firstNonFinite? v.numbers = none ↔ ∀ path n, v.Holds path n → n.isFinite = true := by
  rw [firstNonFinite?, List.find?_eq_none]
  constructor
  · intro h path n hholds
    simpa using h (path, n) ((mem_numbers_iff v path).mpr hholds)
  · intro h found hfound
    obtain ⟨path, n⟩ := found
    simpa using h path n ((mem_numbers_iff v path).mp hfound)

/-- The first number that is not finite stands in the value, and the numbers in front of it are
finite. -/
lemma firstNonFinite?_eq_some {v : Value} {path : List Step} {n : Number}
    (h : firstNonFinite? v.numbers = some (path, n)) : ∃ before after,
      v.numbers = before ++ (path, n) :: after ∧ (∀ other ∈ before, other.2.isFinite = true)
        ∧ v.Holds path n ∧ n.isFinite = false := by
  obtain ⟨hinfinite, before, after, hsplit, hbefore⟩ := List.find?_eq_some_iff_append.mp h
  have hholds : v.Holds path n := by
    rw [← mem_numbers_iff, hsplit]
    exact List.mem_append_right _ List.mem_cons_self
  refine ⟨before, after, hsplit, fun other hother => ?_, hholds, ?_⟩
  · simpa using hbefore other hother
  · simpa using hinfinite

end Value

/-! ## What a literal stands for -/

mutual

/-- The value that an expression stands for, if it is a literal. -/
def Expression.value? : Expression → Option Value
  | .null => some .null
  | .boolean b => some (.bool b)
  | .number n => some (.number n)
  | .string s => some (.text s)
  | .array elements => (Expression.values? elements).map .list
  | .object properties => (PropertyAssignment.entries? properties).map .object
  | _ => none

/-- The values that some expressions stand for. -/
def Expression.values? : List Expression → Option (List Value)
  | [] => some []
  | element :: rest => do
    let first ← element.value?
    let others ← Expression.values? rest
    return first :: others

/-- The entries that the properties of an object stand for. -/
def PropertyAssignment.entries? : List PropertyAssignment → Option (List (String × Value))
  | [] => some []
  | ⟨name, value⟩ :: rest => do
    let first ← value.value?
    let others ← PropertyAssignment.entries? rest
    return (name, first) :: others

end

/-! ## The first number that has no literal -/

open Value (Step firstNonFinite? behind)

/-- What is said of a step on the way to a number without a literal. -/
def Value.Step.cause : Step → Cause
  | .key k => .entryLiteral k
  | .index i => .itemLiteral i

/-- The problem with a number that is not finite: one problem for each step on the way to it, and
below them the one about the number. -/
def Problem.nonFinite (n : Number) : List Step → Problem
  | [] => .plain none (.nonFiniteLiteral n)
  | step :: path => .dueTo none step.cause [nonFinite n path]

namespace Outcome

variable {α β γ : Type}

/-- A computation has an expected result if all the given numbers are finite, and else the problem
with the first one that is not. -/
def BlamesFirst (found : List (List Step × Number)) (post : α → Prop) (x : Outcome α) : Prop :=
  match firstNonFinite? found with
  | none => ∃ a, x = .ok a ∧ post a
  | some (path, n) => x = .error (.problem (.nonFinite n path))

namespace BlamesFirst

variable {found others : List (List Step × Number)} {P : α → Prop} {Q : β → Prop} {R : γ → Prop}
  {x : Outcome α} {y : Outcome β}

lemma ok {a : α} (h : P a) : BlamesFirst [] P (.ok a) :=
  ⟨a, rfl, h⟩

lemma map {f : α → β} (hx : BlamesFirst found P x) (h : ∀ a, P a → Q (f a)) :
    BlamesFirst found Q (Except.map f x) := by
  unfold BlamesFirst at hx ⊢
  cases hfirst : firstNonFinite? found with
  | none =>
    rw [hfirst] at hx
    obtain ⟨a, rfl, ha⟩ := hx
    exact ⟨f a, rfl, h a ha⟩
  | some blamed =>
    rw [hfirst] at hx
    dsimp only at hx ⊢
    rw [hx]
    rfl

/-- What is put together from one part and the others fails on account of the part before it looks
at the others. -/
lemma cons (step : Step) {f : α → β → γ} (hx : BlamesFirst found P x) (hy : BlamesFirst others Q y)
    (h : ∀ a b, P a → Q b → R (f a b)) : BlamesFirst (behind step found ++ others) R (do
      let first ← within none step.cause x
      let rest ← y
      return f first rest) := by
  unfold BlamesFirst at hx hy ⊢
  rw [Value.firstNonFinite?_append, Value.firstNonFinite?_behind]
  cases hfirst : firstNonFinite? found with
  | some blamed =>
    rw [hfirst] at hx
    dsimp only at hx
    rw [hx]
    rfl
  | none =>
    rw [hfirst] at hx
    obtain ⟨a, rfl, ha⟩ := hx
    cases hrest : firstNonFinite? others with
    | some blamed =>
      rw [hrest] at hy
      dsimp only at hy
      rw [hy]
      rfl
    | none =>
      rw [hrest] at hy
      obtain ⟨b, rfl, hb⟩ := hy
      exact ⟨f a b, rfl, h a b ha hb⟩

end BlamesFirst

end Outcome

namespace Expression

open Outcome (BlamesFirst)

lemma literal_number (n : Number) :
    BlamesFirst [([], n)] (fun e => e.value? = some (.number n)) (literal (.number n)) := by
  unfold BlamesFirst firstNonFinite? literal
  cases hfinite : n.isFinite with
  | true => simp [hfinite, value?]
  | false => simp [hfinite, Outcome.problem, Problem.nonFinite]

mutual

/-- The literal of a value stands for it, or the first number in it that is not finite is to blame.
-/
theorem jsonLiteral_blamesFirst : ∀ v : Value,
    BlamesFirst v.numbers (fun e => e.value? = some v) (jsonLiteral v)
  | .null => .ok rfl
  | .bool b => ⟨.boolean b, rfl, rfl⟩
  | .number n => by
    rw [jsonLiteral, Value.numbers]
    · exact literal_number n
    all_goals simp
  | .text s => ⟨.string s, rfl, rfl⟩
  | .list items => by
    rw [jsonLiteral, Value.numbers]
    refine (itemLiterals_blamesFirst 0 items).map fun elements helements => ?_
    rw [value?, helements]
    rfl
  | .object entries => by
    rw [jsonLiteral, Value.numbers]
    refine (entryLiterals_blamesFirst entries).map fun properties hproperties => ?_
    rw [value?, hproperties]
    rfl

theorem itemLiterals_blamesFirst : ∀ (index : Nat) (items : List Value),
    BlamesFirst (Value.itemNumbers index items) (fun elements => values? elements = some items)
      (itemLiterals index items)
  | _, [] => .ok rfl
  | index, v :: rest => by
    rw [itemLiterals, Value.itemNumbers]
    refine .cons (.index index) (jsonLiteral_blamesFirst v)
      (itemLiterals_blamesFirst (index + 1) rest) ?_
    intro first others hfirst hothers
    rw [values?, hfirst, hothers]
    rfl

theorem entryLiterals_blamesFirst : ∀ entries : List (String × Value),
    BlamesFirst (Value.entryNumbers entries)
      (fun properties => PropertyAssignment.entries? properties = some entries)
      (entryLiterals entries)
  | [] => .ok rfl
  | (key, v) :: rest => by
    rw [entryLiterals, Value.entryNumbers]
    refine .cons (.key key) (jsonLiteral_blamesFirst v) (entryLiterals_blamesFirst rest) ?_
    intro first others hfirst hothers
    rw [PropertyAssignment.entries?, hfirst, hothers]
    rfl

end

/-- A value has a literal exactly if all numbers that stand in it are finite. The literal stands for
the value. Without one, the problem is that with the first number that is not finite: it has one
problem for each key and index on the way to this number. -/
theorem jsonLiteral_faithful (v : Value) :
    ((∃ e, jsonLiteral v = .ok e) ↔ ∀ path n, v.Holds path n → n.isFinite = true)
      ∧ (∀ e, jsonLiteral v = .ok e → e.value? = some v)
      ∧ ∀ fault, jsonLiteral v = .error fault → ∃ before path n after,
        v.numbers = before ++ (path, n) :: after ∧ (∀ other ∈ before, other.2.isFinite = true)
          ∧ v.Holds path n ∧ n.isFinite = false ∧ fault = .problem (.nonFinite n path) := by
  have hliteral := jsonLiteral_blamesFirst v
  unfold BlamesFirst at hliteral
  cases hfirst : firstNonFinite? v.numbers with
  | none =>
    rw [hfirst] at hliteral
    obtain ⟨e, he, hvalue⟩ := hliteral
    refine ⟨iff_of_true ⟨e, he⟩ ((Value.firstNonFinite?_eq_none_iff v).mp hfirst),
      fun other hother => ?_,
      fun fault hfault => ?_⟩
    · rw [he] at hother
      rw [← Except.ok.inj hother, hvalue]
    · rw [he] at hfault
      contradiction
  | some blamed =>
    obtain ⟨path, n⟩ := blamed
    rw [hfirst] at hliteral
    dsimp only at hliteral
    obtain ⟨before, after, hsplit, hbefore, hholds, hinfinite⟩ :=
      Value.firstNonFinite?_eq_some hfirst
    rw [hliteral]
    refine ⟨iff_of_false ?_ fun hall => ?_, fun e he => ?_, fun fault hfault => ?_⟩
    · rintro ⟨e, he⟩
      contradiction
    · rw [hall path n hholds] at hinfinite
      contradiction
    · contradiction
    · exact ⟨before, path, n, after, hsplit, hbefore, hholds, hinfinite,
        (Except.error.inj hfault).symm⟩

/-- Rows of a table, the second of which has two numbers that are not finite. -/
def brokenRows : Value :=
  .object [("rows", .list [
    .object [("a", .number (.integer 1)), ("b", .bool true)],
    .object [("a", .number (.double .nan)), ("b", .number (.double (.infinite true)))]])]

/-- The problem leads to the first of the two. -/
theorem brokenRows_faithful :
    jsonLiteral brokenRows
        = .error (.problem (.nonFinite (.double .nan) [.key "rows", .index 1, .key "a"]))
      ∧ brokenRows.Holds [.key "rows", .index 1, .key "a"] (.double .nan)
      ∧ ¬ ∃ e, jsonLiteral brokenRows = .ok e := by
  obtain ⟨hliteral, -, -⟩ := jsonLiteral_faithful brokenRows
  have hholds : brokenRows.Holds [.key "rows", .index 1, .key "a"] (.double .nan) :=
    .entry List.mem_cons_self (.item rfl (.entry List.mem_cons_self .number))
  refine ⟨rfl, hholds, fun hsome => ?_⟩
  have hfinite := hliteral.mp hsome _ _ hholds
  contradiction

end Expression

end EntityCompiler
