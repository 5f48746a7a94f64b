import EntityCompiler.Proofs.ClassNames
import Mathlib.Data.List.Chain
import Mathlib.Data.List.SplitBy

/-!
# Names, run by run

The name of an entity falls into what stands in front of the first character that can start an
identifier, and behind it the longest runs of characters that can stand in an identifier, or cannot.
Its class name keeps the runs that can and puts one separator in the place of each other one
(`className_runs`). Only the front may hold digits that are replaced. An identifier is one such run,
so it stays as it is.
-/

namespace EntityCompiler

namespace ClassName

open Identifier (isStart isPart)

/-! ## Names and their runs -/

/-- A name in its parts: the longest front in which nothing can start an identifier, and the longest
runs of the characters behind it that are alike. -/
structure Divides (name front : List Char) (runs : List (List Char)) : Prop where
  whole : name = front ++ runs.flatten
  front_excluded : ∀ c ∈ front, isStart c = false
  starts : ∀ c ∈ runs.flatten.head?, isStart c = true
  nonempty : ∀ run ∈ runs, run ≠ []
  uniform : ∀ run ∈ runs, ∀ a ∈ run, ∀ b ∈ run, isPart a = isPart b
  maximal : runs.IsChain fun run next => ∀ a ∈ run.getLast?, ∀ b ∈ next.head?, isPart a ≠ isPart b

/-- A run as the class name shows it. -/
def shown (separator run : List Char) : List Char :=
  if run.all isPart then run else separator

/-- Characters that are alike, one after the other, are all alike. -/
lemma uniform_of_isChain {run : List Char}
    (h : run.IsChain fun a b => (isPart a == isPart b) = true) :
    ∀ a ∈ run, ∀ b ∈ run, isPart a = isPart b := by
  have hchain : (run.map isPart).IsChain (· = ·) := by
    rw [List.isChain_map]
    exact h.imp fun a b hab => beq_iff_eq.mp hab
  rw [List.isChain_eq_iff_eq_replicate] at hchain
  cases run with
  | nil => simp
  | cons c cs =>
    have hsame : ∀ a ∈ c :: cs, isPart a = isPart c := by
      intro a ha
      have hmem := List.mem_map_of_mem (f := isPart) ha
      rw [hchain (isPart c) rfl] at hmem
      exact List.eq_of_mem_replicate hmem
    intro a ha b hb
    rw [hsame a ha, hsame b hb]

/-- Every name has its parts. -/
lemma exists_divides (name : List Char) : ∃ front runs, Divides name front runs := by
  refine ⟨name.takeWhile (!isStart ·),
    (name.dropWhile (!isStart ·)).splitBy fun a b => isPart a == isPart b, ?_⟩
  have hflatten := List.flatten_splitBy (fun a b => isPart a == isPart b)
    (name.dropWhile (!isStart ·))
  constructor
  case whole => rw [hflatten, List.takeWhile_append_dropWhile]
  case front_excluded =>
    intro c hc
    simpa using List.mem_takeWhile_imp hc
  case starts =>
    rw [hflatten]
    exact head_dropWhile_isStart name
  case nonempty => exact fun run hrun => List.ne_nil_of_mem_splitBy hrun
  case uniform => exact fun run hrun => uniform_of_isChain (List.isChain_of_mem_splitBy hrun)
  case maximal =>
    refine (List.isChain_getLast_head_splitBy _ _).imp fun run next hseam => ?_
    obtain ⟨hrun, hnext, hdiffer⟩ := hseam
    intro a ha b hb
    rw [← List.getLast_of_mem_getLast? ha, ← List.head_of_mem_head? hb]
    simpa using hdiffer

/-! ## Filling a name -/

variable {separator : List Char}

lemma fill_append_word {word : List Char} (h : ∀ c ∈ word, isPart c = true) (rest : List Char) :
    fill separator false (word ++ rest) = word ++ fill separator false rest := by
  induction word with
  | nil => rfl
  | cons c cs ih =>
    rw [List.forall_mem_cons] at h
    rw [List.cons_append, fill, if_pos h.1, ih h.2, List.cons_append]

/-- Once a run is replaced, nothing comes of the rest of it. -/
lemma fill_append_gap {gap : List Char} (h : ∀ c ∈ gap, isPart c = false) (rest : List Char) :
    fill separator true (gap ++ rest) = fill separator true rest := by
  induction gap with
  | nil => rfl
  | cons c cs ih =>
    rw [List.forall_mem_cons] at h
    rw [List.cons_append, fill, h.1]
    exact ih h.2

lemma shown_of_part {run : List Char} (h : ∀ c ∈ run, isPart c = true) :
    shown separator run = run := by
  rw [shown, if_pos (List.all_eq_true.mpr h)]

lemma shown_of_gap {run : List Char} {c : Char} (hc : c ∈ run) (h : isPart c = false) :
    shown separator run = separator := by
  rw [shown, if_neg]
  intro hall
  rw [List.all_eq_true.mp hall c hc] at h
  contradiction

/-- Runs are filled one by one. After a run that has been replaced comes one that is kept. -/
lemma fill_flatten {runs : List (List Char)} (hnonempty : ∀ run ∈ runs, run ≠ [])
    (huniform : ∀ run ∈ runs, ∀ a ∈ run, ∀ b ∈ run, isPart a = isPart b)
    (hmaximal : runs.IsChain fun run next => ∀ a ∈ run.getLast?, ∀ b ∈ next.head?,
      isPart a ≠ isPart b)
    (inRun : Bool) (hfirst : inRun = true → ∀ c ∈ runs.flatten.head?, isPart c = true) :
    fill separator inRun runs.flatten = runs.flatMap (shown separator) := by
  induction runs generalizing inRun with
  | nil => cases inRun <;> rfl
  | cons run runs ih =>
    rw [List.forall_mem_cons] at hnonempty huniform
    have hrest := ih hnonempty.2 huniform.2 hmaximal.tail
    obtain ⟨c, cs, rfl⟩ := List.exists_cons_of_ne_nil hnonempty.1
    have hlike : ∀ d ∈ c :: cs, isPart d = isPart c :=
      fun d hd => huniform.1 d hd c List.mem_cons_self
    rw [List.flatten_cons, List.flatMap_cons, List.cons_append, fill]
    cases hc : isPart c with
    | true =>
      have hword : ∀ d ∈ c :: cs, isPart d = true := fun d hd => (hlike d hd).trans hc
      have hcs : ∀ d ∈ cs, isPart d = true := fun d hd => hword d (List.mem_cons_of_mem c hd)
      rw [if_pos rfl, fill_append_word hcs, hrest false (by simp), shown_of_part hword,
        List.cons_append]
    | false =>
      have hgap : ∀ d ∈ c :: cs, isPart d = false := fun d hd => (hlike d hd).trans hc
      have hcs : ∀ d ∈ cs, isPart d = false := fun d hd => hgap d (List.mem_cons_of_mem c hd)
      have hout : inRun = false := by
        cases inRun with
        | false => rfl
        | true => rw [hfirst rfl c rfl] at hc; contradiction
      -- the next run differs from this one, so it is kept
      have hnext : ∀ d ∈ runs.flatten.head?, isPart d = true := by
        cases runs with
        | nil => simp
        | cons next runs =>
          obtain ⟨e, es, rfl⟩ := List.exists_cons_of_ne_nil (hnonempty.2 next List.mem_cons_self)
          have hseam := (List.isChain_cons_cons.mp hmaximal).1
          intro d hd
          obtain rfl : e = d := Option.some.inj hd
          have hlast := List.getLast?_eq_some_getLast (List.cons_ne_nil c cs)
          have hdiffer := hseam _ hlast e rfl
          rw [hgap _ (List.getLast_mem _)] at hdiffer
          simpa using hdiffer.symm
      rw [hout, if_neg Bool.false_ne_true, if_neg Bool.false_ne_true, fill_append_gap hcs,
        hrest true fun _ => hnext, shown_of_gap List.mem_cons_self hc]

/-- The class name shows a separator for the front, if there is one, and then each run. -/
lemma Divides.ofName_eq {name front : List Char} {runs : List (List Char)}
    (h : Divides name front runs) :
    ofName separator name
      = (if front = [] then [] else separator) ++ runs.flatMap (shown separator) := by
  have hfront : ∀ c ∈ front, (!isStart c) = true := by
    intro c hc
    rw [h.front_excluded c hc]
    rfl
  have hrest : runs.flatten.dropWhile (!isStart ·) = runs.flatten := by
    rw [List.dropWhile_eq_self_iff]
    intro hpos
    have hhead := h.starts _ (List.head?_eq_some_head (List.ne_nil_of_length_pos hpos))
    simpa [List.head_eq_getElem] using hhead
  have hkept : name.dropWhile (!isStart ·) = runs.flatten := by
    rw [h.whole, List.dropWhile_append_of_pos hfront, hrest]
  have hfilled : fill separator false runs.flatten = runs.flatMap (shown separator) :=
    fill_flatten h.nonempty h.uniform h.maximal false (by simp)
  unfold ofName
  dsimp only
  rw [hkept, hfilled, h.whole, List.length_append]
  cases front with
  | nil => simp
  | cons c cs => simp

/-- An identifier is its own class name. -/
lemma ofName_of_isIdentifier {name : List Char} (h : isIdentifier name = true) :
    ofName separator name = name := by
  cases name with
  | nil => contradiction
  | cons c cs =>
    rw [isIdentifier, Bool.and_eq_true] at h
    have hword : ∀ d ∈ c :: cs, isPart d = true :=
      List.forall_mem_cons.mpr ⟨Identifier.isPart_of_isStart h.1, List.all_eq_true.mp h.2⟩
    have hdivides : Divides (c :: cs) [] [c :: cs] := by
      constructor
      case whole => simp
      case front_excluded => simp
      case starts => simpa using h.1
      case nonempty => simp
      case uniform =>
        intro run hrun a ha b hb
        rw [List.mem_singleton.mp hrun] at ha hb
        rw [hword a ha, hword b hb]
      case maximal => simp
    rw [hdivides.ofName_eq, if_pos rfl, List.flatMap_singleton, shown_of_part hword,
      List.nil_append]

end ClassName

open ClassName (Divides shown)

/-- A class name that is empty or an identifier keeps its contract. -/
lemma className_eq {separator : Separator} {name : String}
    (h : ClassName.IsFit (ClassName.ofName separator.text.toList name.toList)) :
    className separator name
      = .ok (String.ofList (ClassName.ofName separator.text.toList name.toList)) := by
  unfold className
  dsimp only
  rcases h with hempty | hidentifier
  · rw [hempty]
    rfl
  · rw [hidentifier, Bool.or_true]
    rfl

lemma className_of_isIdentifier {name : String} (h : isIdentifier name.toList = true)
    (separator : Separator) : className separator name = .ok name := by
  have hname : ClassName.ofName separator.text.toList name.toList = name.toList :=
    ClassName.ofName_of_isIdentifier h
  rw [className_eq (by rw [hname]; exact .inr h), hname, String.ofList_toList]

/-- Nothing is left of a name exactly if there is nothing, or the separator is empty and nothing in
the name can start an identifier. -/
lemma ofList_ofName_eq_empty_iff (separator : Separator) (name : String) :
    String.ofList (ClassName.ofName separator.text.toList name.toList) = ""
      ↔ name = "" ∨ separator.text = "" ∧ ∀ c ∈ name.toList, Identifier.isStart c = false := by
  by_cases hname : name = ""
  · subst hname
    exact iff_of_true rfl (.inl rfl)
  · have hnonempty : name.toList ≠ [] := by simpa using hname
    have hempty : ClassName.ofName separator.text.toList name.toList = []
        ↔ separator.text.toList = [] ∧ ∀ c ∈ name.toList, Identifier.isStart c = false :=
      ClassName.ofName_eq_nil_iff hnonempty
    simpa [hname] using hempty

/-- With a separator that fits, every name has a class name, which is empty or an identifier. It is
empty exactly if the name is, or if the separator is and nothing in the name can start an
identifier. It is the name with one separator in the place of the front, if there is one, and of
each run that cannot stand in an identifier. A name that is an identifier stays as it is, and so
does a class name, with any separator. -/
theorem className_runs {separator : Separator} (hseparator : separator.Fits = true)
    (name : String) :
    ∃ result, className separator name = .ok result
      ∧ (result = "" ∨ isIdentifier result.toList = true)
      ∧ (result = "" ↔ name = "" ∨ separator.text = "" ∧ ∀ c ∈ name.toList,
        Identifier.isStart c = false)
      ∧ (∃ front runs, Divides name.toList front runs)
      ∧ (∀ front runs, Divides name.toList front runs →
        result.toList = (if front = [] then [] else separator.text.toList)
          ++ runs.flatMap (shown separator.text.toList))
      ∧ (isIdentifier name.toList = true → result = name)
      ∧ (result ≠ "" → ∀ other : Separator, className other result = .ok result) := by
  have hfit := ClassName.isFit_ofName (Separator.isFit hseparator) name.toList
  have hresult :
      ∀ result, result = String.ofList (ClassName.ofName separator.text.toList name.toList) →
      result = "" ∨ isIdentifier result.toList = true := by
    rintro result rfl
    rw [String.toList_ofList]
    apply hfit.imp_left
    intro hempty
    rw [hempty]
  refine ⟨_, className_eq hfit, hresult _ rfl, ofList_ofName_eq_empty_iff separator name,
    ClassName.exists_divides name.toList, ?_, ?_, ?_⟩
  · intro front runs h
    rw [String.toList_ofList]
    exact h.ofName_eq
  · intro h
    rw [ClassName.ofName_of_isIdentifier h, String.ofList_toList]
  · intro hne other
    exact className_of_isIdentifier ((hresult _ rfl).resolve_left hne) other

/-- With an empty separator, no digit of the front comes to stand first. -/
example : className ⟨""⟩ "7.1 2b" = .ok "b" := rfl

/-- The name of a printer, which starts with a digit and has a letter that is not ASCII. -/
def printerName : String := "3-D Printér_2.x"

/-- The runs of the name behind its front. -/
def printerRuns : List (List Char) :=
  [['D'], [' '], ['P', 'r', 'i', 'n', 't'], ['é'], ['r', '_', '2'], ['.'], ['x']]

lemma printerName_divides : Divides printerName.toList ['3', '-'] printerRuns where
  whole := rfl
  front_excluded := by simp [Identifier.isStart]
  starts := by simp [printerRuns, Identifier.isStart]
  nonempty := by simp [printerRuns]
  uniform := by simp [printerRuns, Identifier.isPart, Identifier.isStart]
  maximal := by simp [printerRuns, Identifier.isPart, Identifier.isStart]

/-- In its class name, the front leaves one separator, digits behind it stay, and so does the
underscore. -/
theorem printerName_runs :
    Separator.default.Fits = true
      ∧ className .default printerName = .ok "_D_Print_r_2_x"
      ∧ "_D_Print_r_2_x".toList = ['_'] ++ printerRuns.flatMap (shown ['_'])
      ∧ ∀ other : Separator, className other "_D_Print_r_2_x" = .ok "_D_Print_r_2_x" := by
  have hseparator : Separator.default.Fits = true := rfl
  obtain ⟨result, hresult, -, -, -, hruns, -, hagain⟩ := className_runs hseparator printerName
  obtain rfl : "_D_Print_r_2_x" = result := Except.ok.inj hresult
  exact ⟨hseparator, hresult, hruns _ _ printerName_divides, hagain (by decide)⟩

end EntityCompiler
