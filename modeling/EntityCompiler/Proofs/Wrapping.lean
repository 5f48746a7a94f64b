import EntityCompiler.Script.Wrapper
import Mathlib.Data.List.DropRight
import Mathlib.Tactic.Lemma

/-!
# Wrapping and stripping

Code is wrapped by putting the opening in front of it and one of the two endings behind it; white
space may surround the whole, and a semicolon may follow. Stripping undoes exactly this
(`Wrapper.strip_wrapped_iff`): it gives back the code that was wrapped with all its own white space,
and refuses any other code that starts with the opening.
-/

namespace EntityCompiler

namespace Text

/-! ## Trimming -/

/-- A text that neither starts nor ends with white space, and is not empty. -/
def IsSolid (cs : List Char) : Prop :=
  cs.head?.any (!isBlank ·) = true ∧ cs.getLast?.any (!isBlank ·) = true

lemma trimEnd_prefix (cs : List Char) : trimEnd cs <+: cs :=
  List.rdropWhile_prefix isBlank cs

/-- What is trimmed off the end of a text is white space. -/
lemma exists_trimEnd (cs : List Char) :
    ∃ behind, allBlank behind = true ∧ cs = trimEnd cs ++ behind := by
  refine ⟨cs.rtakeWhile isBlank, ?_, List.rdropWhile_append_rtakeWhile.symm⟩
  exact List.all_eq_true.mpr fun c hc => List.mem_rtakeWhile_imp hc

lemma dropWhile_append {cs : List Char} (hhead : cs.head?.any (!isBlank ·) = true)
    {before : List Char}
    (hbefore : allBlank before = true) : (before ++ cs).dropWhile isBlank = cs := by
  have hall : ∀ c ∈ before, isBlank c = true := List.all_eq_true.mp hbefore
  rw [List.dropWhile_append_of_pos hall]
  cases cs with
  | nil => rfl
  | cons c cs =>
    have hc : isBlank c = false := by simpa using hhead
    rw [List.dropWhile_cons_of_neg (by simp [hc])]

/-- Nothing but the white space behind it is trimmed off the end of a text that ends with something
else. -/
lemma trimEnd_append {cs : List Char} (hlast : cs.getLast?.any (!isBlank ·) = true)
    {behind : List Char}
    (hbehind : allBlank behind = true) : trimEnd (cs ++ behind) = cs := by
  have hhead : cs.reverse.head?.any (!isBlank ·) = true := by rwa [List.head?_reverse]
  have hreverse : allBlank behind.reverse = true := by rwa [allBlank, List.all_reverse]
  rw [trimEnd, List.reverse_append, dropWhile_append hhead hreverse, List.reverse_reverse]

/-- What is trimmed off a text is white space. -/
lemma exists_trim (cs : List Char) :
    ∃ before behind, allBlank before = true ∧ allBlank behind = true
    ∧ cs = before ++ trim cs ++ behind := by
  obtain ⟨behind, hbehind, hrest⟩ := exists_trimEnd (cs.dropWhile isBlank)
  refine ⟨cs.takeWhile isBlank, behind, List.all_takeWhile, hbehind, ?_⟩
  rw [trim, List.append_assoc, ← hrest, List.takeWhile_append_dropWhile]

lemma trim_append {cs : List Char} (hsolid : IsSolid cs) {before behind : List Char}
    (hbefore : allBlank before = true) (hbehind : allBlank behind = true) :
    trim (before ++ cs ++ behind) = cs := by
  obtain ⟨hhead, hlast⟩ := hsolid
  have hhead' : (cs ++ behind).head?.any (!isBlank ·) = true := by
    cases cs with
    | nil => contradiction
    | cons c cs => exact hhead
  rw [trim, List.append_assoc, dropWhile_append hhead' hbefore, trimEnd_append hlast hbehind]

end Text

namespace Wrapper

open Text (allBlank IsSolid)

/-! ## Wrapped code -/

/-- The two endings of wrapped code. -/
def endings : List String := [closing, closingApplied]

/-- Code between the opening and an ending. -/
def wrapped (inner : List Char) (ending : String) : List Char :=
  opening.toList ++ inner ++ ending.toList

/-- What may follow an ending: white space, with one semicolon in it or none. -/
def IsTail (behind : List Char) : Prop :=
  allBlank behind = true
    ∨ ∃ gap rest, allBlank gap = true ∧ allBlank rest = true ∧ behind = gap ++ ';' :: rest

/-- The code is some inner code in a wrapper. -/
def IsWrapped (inner code : List Char) : Prop :=
  ∃ before ending behind, allBlank before = true ∧ ending ∈ endings ∧ IsTail behind
    ∧ code = before ++ wrapped inner ending ++ behind

lemma getLast?_ending : ∀ ending ∈ endings, ending.toList.getLast? = some ')' := by
  decide

lemma getLast?_wrapped (inner : List Char) {ending : String} (hending : ending ∈ endings) :
    (wrapped inner ending).getLast? = some ')' := by
  rw [wrapped, List.getLast?_append, getLast?_ending ending hending]
  rfl

lemma isSolid_wrapped (inner : List Char) {ending : String} (hending : ending ∈ endings) :
    IsSolid (wrapped inner ending) := by
  have hopening : ∃ c cs, opening.toList = c :: cs ∧ Text.isBlank c = false := ⟨'v', _, rfl, rfl⟩
  obtain ⟨c, cs, hopening, hc⟩ := hopening
  constructor
  · rw [wrapped, hopening, List.append_assoc, List.cons_append]
    simp [hc]
  · rw [getLast?_wrapped inner hending]
    rfl

/-- Wrapped code has one ending only: neither of the two ends with the other one. -/
lemma ending_unique {ending other : String} (hending : ending ∈ endings) (hother : other ∈ endings)
    {cs : List Char} (hcs : ending.toList <:+ cs) (hcs' : other.toList <:+ cs) :
    ending = other := by
  have hnone : ∀ e ∈ endings, ∀ e' ∈ endings, e.toList <:+ e'.toList → e = e' := by decide
  rcases Nat.le_total ending.toList.length other.toList.length with hle | hle
  · exact hnone ending hending other hother (List.suffix_of_suffix_length_le hcs hcs' hle)
  · exact (hnone other hother ending hending (List.suffix_of_suffix_length_le hcs' hcs hle)).symm

/-! ## Taking the semicolon and the ending off -/

lemma withoutSemicolon_isPrefix (cs : List Char) : withoutSemicolon cs <+: cs := by
  unfold withoutSemicolon
  split
  · exact (Text.trimEnd_prefix _).trans (List.dropLast_prefix cs)
  · exact List.prefix_refl cs

/-- The semicolon, if there is one, is taken off together with the white space in front of it. -/
lemma isTail_withoutSemicolon (cs : List Char) :
    ∃ behind, IsTail behind ∧ cs = withoutSemicolon cs ++ behind := by
  unfold withoutSemicolon
  split
  next hlast =>
    obtain ⟨gap, hgap, hrest⟩ := Text.exists_trimEnd cs.dropLast
    refine ⟨gap ++ [';'], .inr ⟨gap, [], hgap, rfl, rfl⟩, ?_⟩
    rw [← List.append_assoc, ← hrest]
    exact (List.dropLast_append_getLast? ';' (eq_of_beq hlast)).symm
  next => exact ⟨[], .inl rfl, (List.append_nil cs).symm⟩

lemma withoutSemicolon_of_isSolid {cs : List Char}
    (hlast : cs.getLast?.any (!Text.isBlank ·) = true)
    {gap : List Char} (hgap : allBlank gap = true) :
    withoutSemicolon (cs ++ gap ++ [';']) = cs := by
  rw [withoutSemicolon, if_pos (by simp), List.dropLast_concat, Text.trimEnd_append hlast hgap]

/-- Code is found in front of an ending if there is room for the opening in front of it. -/
lemma between?_eq_some_iff {ending cs inner : List Char} : between? ending cs = some inner
    ↔ ∃ front, front.length = opening.toList.length ∧ cs = front ++ inner ++ ending := by
  unfold between?
  dsimp only
  constructor
  · intro h
    split at h
    next hfits =>
      rw [Bool.and_eq_true, decide_eq_true_eq, List.isSuffixOf_iff_suffix] at hfits
      obtain ⟨hlength, before, rfl⟩ := hfits
      rw [List.length_append] at hlength
      have htake :
          (before ++ ending).take ((before ++ ending).length - ending.length) = before := by
        rw [List.length_append, Nat.add_sub_cancel, List.take_left]
      rw [htake] at h
      refine ⟨before.take opening.toList.length, ?_, ?_⟩
      · rw [List.length_take]
        omega
      · rw [← Option.some.inj h, List.take_append_drop]
    next => contradiction
  · intro h
    obtain ⟨front, hlength, rfl⟩ := h
    have htake : (front ++ inner ++ ending).take ((front ++ inner ++ ending).length - ending.length)
        = front ++ inner := by
      rw [List.length_append, Nat.add_sub_cancel, List.take_left]
    have hfits : (opening.toList.length + ending.length ≤ (front ++ inner ++ ending).length
        && ending.isSuffixOf (front ++ inner ++ ending)) = true := by
      rw [Bool.and_eq_true, decide_eq_true_eq, List.isSuffixOf_iff_suffix]
      refine ⟨?_, List.suffix_append _ _⟩
      simp only [List.length_append]
      omega
    rw [if_pos hfits, htake, ← hlength, List.drop_left]

/-- In wrapped code exactly the inner code is found. -/
lemma findSome?_wrapped (inner : List Char) {ending : String} (hending : ending ∈ endings) :
    endings.findSome? (fun e => between? e.toList (wrapped inner ending)) = some inner := by
  have hfound : between? ending.toList (wrapped inner ending) = some inner :=
    between?_eq_some_iff.mpr ⟨opening.toList, rfl, rfl⟩
  cases hsome : endings.findSome? fun e => between? e.toList (wrapped inner ending) with
  | none => rw [List.findSome?_eq_none_iff.mp hsome ending hending] at hfound; contradiction
  | some found =>
    obtain ⟨other, hother, hbetween⟩ := List.exists_of_findSome?_eq_some hsome
    obtain ⟨front, -, hsplit⟩ := between?_eq_some_iff.mp hbetween
    have hsame : other = ending :=
      ending_unique hother hending ⟨front ++ found, hsplit.symm⟩ ⟨opening.toList ++ inner, rfl⟩
    rw [hsame, hfound] at hbetween
    exact hbetween.symm

/-- If the code starts with the opening, what is found in front of an ending is wrapped in it. -/
lemma exists_of_findSome? {trimmed inner : List Char} (hopening : opening.toList <+: trimmed)
    (hsome : endings.findSome? (fun e => between? e.toList (withoutSemicolon trimmed))
      = some inner) :
    ∃ ending ∈ endings, withoutSemicolon trimmed = wrapped inner ending := by
  obtain ⟨ending, hending, hbetween⟩ := List.exists_of_findSome?_eq_some hsome
  obtain ⟨front, hlength, hsplit⟩ := between?_eq_some_iff.mp hbetween
  have hfront : front <+: trimmed := by
    refine List.IsPrefix.trans ?_ (withoutSemicolon_isPrefix trimmed)
    rw [hsplit, List.append_assoc]
    exact List.prefix_append _ _
  have hsame : front = opening.toList :=
    (List.prefix_of_prefix_length_le hfront hopening hlength.le).eq_of_length hlength
  exact ⟨ending, hending, by rw [hsplit, hsame, wrapped]⟩

/-! ## Stripping -/

lemma strip_of_opening {code : List Char} (hopening : opening.toList <+: Text.trim code)
    (resultType : BaseType) : strip code resultType
      = match endings.findSome? fun e => between? e.toList (withoutSemicolon (Text.trim code)) with
        | some inner => .ok inner
        | none => .error (.openWrapper opening closing closingApplied) := by
  rw [strip]
  exact if_pos (List.isPrefixOf_iff_prefix.mpr hopening)

/-- White space and a semicolon around wrapped code are taken off it. -/
lemma IsWrapped.withoutSemicolon_trim {inner code : List Char} (h : IsWrapped inner code) :
    ∃ ending ∈ endings, wrapped inner ending <+: Text.trim code
      ∧ withoutSemicolon (Text.trim code) = wrapped inner ending := by
  obtain ⟨before, ending, behind, hbefore, hending, htail, rfl⟩ := h
  have hsolid := isSolid_wrapped inner hending
  refine ⟨ending, hending, ?_⟩
  rcases htail with hbehind | ⟨gap, rest, hgap, hrest, rfl⟩
  · rw [Text.trim_append hsolid hbefore hbehind]
    refine ⟨List.prefix_refl _, ?_⟩
    rw [withoutSemicolon, getLast?_wrapped inner hending]
    rfl
  · -- the semicolon belongs to the text that is left after trimming
    have hends : IsSolid (wrapped inner ending ++ gap ++ [';']) := by
      refine ⟨?_, by simp; rfl⟩
      cases hcs : wrapped inner ending with
      | nil => rw [hcs] at hsolid; exact absurd hsolid.1 Bool.false_ne_true
      | cons c cs => rw [hcs] at hsolid; exact hsolid.1
    have hcode : before ++ wrapped inner ending ++ (gap ++ ';' :: rest)
        = before ++ (wrapped inner ending ++ gap ++ [';']) ++ rest := by simp
    rw [hcode, Text.trim_append hends hbefore hrest]
    refine ⟨?_, withoutSemicolon_of_isSolid hsolid.2 hgap⟩
    rw [List.append_assoc]
    exact List.prefix_append _ _

lemma IsWrapped.strip_eq {inner code : List Char} (h : IsWrapped inner code)
    (resultType : BaseType) :
    opening.toList <+: Text.trim code ∧ strip code resultType = .ok inner := by
  obtain ⟨ending, hending, hprefix, hwrapped⟩ := h.withoutSemicolon_trim
  have hopening : opening.toList <+: Text.trim code := by
    refine List.IsPrefix.trans ?_ hprefix
    rw [wrapped, List.append_assoc]
    exact List.prefix_append _ _
  refine ⟨hopening, ?_⟩
  rw [strip_of_opening hopening, hwrapped, findSome?_wrapped inner hending]

lemma isWrapped_of_strip {inner code : List Char} {resultType : BaseType}
    (hopening : opening.toList <+: Text.trim code) (h : strip code resultType = .ok inner) :
    IsWrapped inner code := by
  rw [strip_of_opening hopening] at h
  split at h
  next found hsome =>
    obtain rfl : found = inner := Except.ok.inj h
    obtain ⟨ending, hending, hwrapped⟩ := exists_of_findSome? hopening hsome
    obtain ⟨before, rest, hbefore, hrest, hcode⟩ := Text.exists_trim code
    obtain ⟨behind, htail, htrimmed⟩ := isTail_withoutSemicolon (Text.trim code)
    refine ⟨before, ending, behind ++ rest, hbefore, hending, ?_, ?_⟩
    · rcases htail with hbehind | ⟨gap, last, hgap, hlast, rfl⟩
      · exact .inl (by rw [allBlank, List.all_append, Bool.and_eq_true]; exact ⟨hbehind, hrest⟩)
      · refine .inr ⟨gap, last ++ rest, hgap, ?_, by simp⟩
        rw [allBlank, List.all_append, Bool.and_eq_true]
        exact ⟨hlast, hrest⟩
    · rw [hwrapped] at htrimmed
      rw [hcode, htrimmed]
      simp only [List.append_assoc]
  next => contradiction

/-- Stripping undoes wrapping, whatever code is wrapped, with either ending, with or without a
semicolon, and it is the only code in this wrapper. Of code that starts with the opening nothing
else is stripped: if no code is wrapped in it, it is refused. -/
theorem strip_wrapped_iff (code : List Char) (resultType : BaseType) :
    (∀ inner, IsWrapped inner code →
        opening.toList <+: Text.trim code ∧ strip code resultType = .ok inner)
      ∧ (∀ inner other, IsWrapped inner code → IsWrapped other code → inner = other)
      ∧ (opening.toList <+: Text.trim code →
        (∀ inner, strip code resultType = .ok inner ↔ IsWrapped inner code)
          ∧ ((∀ inner, ¬ IsWrapped inner code) →
            strip code resultType = .error (.openWrapper opening closing closingApplied))) := by
  refine ⟨fun inner h => h.strip_eq resultType, fun inner other h hother => ?_,
    fun hopening => ⟨?_, ?_⟩⟩
  · have hinner := (h.strip_eq resultType).2
    rw [(hother.strip_eq resultType).2] at hinner
    exact (Except.ok.inj hinner).symm
  · exact fun inner => ⟨isWrapped_of_strip hopening, fun h => (h.strip_eq resultType).2⟩
  · intro hnone
    have hwrapped : ∀ inner, strip code resultType ≠ .ok inner :=
      fun inner h => hnone inner (isWrapped_of_strip hopening h)
    rw [strip_of_opening hopening] at hwrapped ⊢
    split
    next inner hsome =>
      rw [hsome] at hwrapped
      exact absurd rfl (hwrapped inner)
    next => rfl

/-- Wrapped code that ends like a wrapper itself, with a semicolon and white space around it. -/
def nestedWrapper : List Char :=
  "\n var result = (function () \x7b f(); \x7d)() \x7d).apply(me) ;\t".toList

/-- Only the outer ending is taken off, and all white space of the inner code stays. -/
theorem nestedWrapper_strip :
    opening.toList <+: Text.trim nestedWrapper
      ∧ IsWrapped " f(); \x7d)() ".toList nestedWrapper
      ∧ strip nestedWrapper .number = .ok " f(); \x7d)() ".toList
      ∧ ∀ inner, IsWrapped inner nestedWrapper → inner = " f(); \x7d)() ".toList := by
  have hwrapped : IsWrapped " f(); \x7d)() ".toList nestedWrapper :=
    ⟨"\n ".toList, closingApplied, " ;\t".toList, rfl,
      by decide, .inr ⟨[' '], ['\t'], rfl, rfl, rfl⟩, rfl⟩
  obtain ⟨hundone, hunique, honly⟩ := strip_wrapped_iff nestedWrapper .number
  obtain ⟨hopening, -⟩ := hundone _ hwrapped
  exact ⟨hopening, hwrapped, ((honly hopening).1 _).mpr hwrapped, fun inner h =>
    hunique _ _ h hwrapped⟩

end Wrapper

end EntityCompiler
