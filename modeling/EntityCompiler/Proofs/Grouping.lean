import EntityCompiler.Proofs.Grant

/-!
# Grouping of permissions

A permission has at most one decorator that allows and one that denies. Either is there exactly if
some entry is of its polarity, however the resource is named, and lists these entries kind by kind
(`RuntimePermission.decorators_grouped`). So the entries of each kind can be read back, those that
allow and those that deny, each in their order.
-/

namespace EntityCompiler

lemma Decorator.ofName_of_ne_nil (name : String) {arguments : List Expression}
    (h : arguments ≠ []) :
    ofName name arguments = ⟨.call (.name name) arguments⟩ := by
  cases arguments with
  | nil => contradiction
  | cons first rest => rfl

namespace RuntimePermission

variable (permission : RuntimePermission) (permitted : Bool)

/-! ## The groups of a polarity -/

/-- The entries for a kind that allow something, or that deny it, in their order. -/
def entriesWith (kind : PermissionKind) : List PermissionEntry :=
  (permission.entries kind).filter (·.isPermitted == permitted)

/-- The kinds that have entries of a polarity, in the order of all kinds. -/
def kindsWith : List PermissionKind :=
  PermissionKind.all.filter fun kind => !(permission.entriesWith permitted kind).isEmpty

/-- The tag of a kind, and behind it the principals of its entries of a polarity. -/
def group (kind : PermissionKind) : List Expression :=
  kind.reference :: (permission.entriesWith permitted kind).map PermissionEntry.reference

lemma kindArguments_eq (kind : PermissionKind) : permission.kindArguments permitted kind
    = if !(permission.entriesWith permitted kind).isEmpty then permission.group permitted kind
      else [] := by
  unfold kindArguments group entriesWith
  split
  next hnone => rw [hnone]; rfl
  next hsome =>
    rw [if_pos]
    simpa using hsome

/-- The arguments are the groups of the kinds that have entries of the polarity. -/
lemma arguments_eq :
    permission.arguments permitted
      = (permission.kindsWith permitted).flatMap (permission.group permitted) := by
  unfold arguments kindsWith
  induction PermissionKind.all with
  | nil => rfl
  | cons kind kinds ih =>
    rw [List.flatMap_cons, ih, kindArguments_eq, List.filter_cons]
    split
    next => rw [List.flatMap_cons]
    next => rfl

lemma mem_entriesWith {kind : PermissionKind} {entry : PermissionEntry} :
    entry ∈ permission.entriesWith permitted kind
      ↔ entry ∈ permission.entries kind ∧ entry.isPermitted = permitted := by
  rw [entriesWith, List.mem_filter, beq_iff_eq]

/-- There are arguments exactly if some kind has an entry of the polarity. -/
lemma arguments_ne_nil_iff : permission.arguments permitted ≠ []
    ↔ ∃ kind, ∃ entry ∈ permission.entries kind, entry.isPermitted = permitted := by
  rw [arguments_eq, Ne, List.flatMap_eq_nil_iff]
  constructor
  · intro h
    push Not at h
    obtain ⟨kind, hkind, -⟩ := h
    have hsome : permission.entriesWith permitted kind ≠ [] := by
      simpa using (List.mem_filter.mp hkind).2
    obtain ⟨entry, hentry⟩ := List.exists_mem_of_ne_nil _ hsome
    exact ⟨kind, entry, (mem_entriesWith permission permitted).mp hentry⟩
  · intro h hnone
    obtain ⟨kind, entry, hentry⟩ := h
    have hmem := (mem_entriesWith permission permitted).mpr hentry
    have hkind : kind ∈ permission.kindsWith permitted := by
      refine List.mem_filter.mpr ⟨kind.mem_all, ?_⟩
      rw [Bool.not_eq_true', ← Bool.not_eq_true, List.isEmpty_iff]
      exact List.ne_nil_of_mem hmem
    exact absurd (hnone kind hkind) (List.cons_ne_nil _ _)

/-! ## The decorators of a permission -/

variable (resource : String) (explicit forInstances : Bool)

/-- The decorator of a polarity is there exactly if some kind has an entry of this polarity. It
names the resource if this is wanted and the resource is not the wildcard; then the groups of these
kinds follow. -/
structure IsGrouped (decorator? : Option Decorator) : Prop where
  isSome_iff : decorator?.isSome = true
    ↔ ∃ kind, ∃ entry ∈ permission.entries kind, entry.isPermitted = permitted
  eq_call :
    ∀ decorator ∈ decorator?, decorator = ⟨.call (.name (decoratorName permitted forInstances))
    ((if explicit = true ∧ resource ≠ wildcardResource then [.string resource] else [])
      ++ (permission.kindsWith permitted).flatMap (permission.group permitted))⟩

/-- The decorator of a polarity, if there is one. -/
def decorator? : Option Decorator :=
  if permission.arguments permitted = [] then none
  else some (.ofName (decoratorName permitted forInstances)
    (permission.decoratorArguments resource explicit permitted))

lemma decorators_eq : permission.decorators resource explicit forInstances
    = (permission.decorator? true resource explicit forInstances).toList
      ++ (permission.decorator? false resource explicit forInstances).toList := by
  unfold decorators decorator?
  simp only [Grant.one_lt_length_decoratorArguments, List.filterMap_cons, List.filterMap_nil]
  cases permission.arguments true <;> cases permission.arguments false <;> rfl

lemma isGrouped_decorator? : permission.IsGrouped permitted resource explicit forInstances
    (permission.decorator? permitted resource explicit forInstances) where
  isSome_iff := by
    rw [← arguments_ne_nil_iff, decorator?]
    split
    next hnone => simp [hnone]
    next hsome => simp [hsome]
  eq_call := by
    intro decorator hdecorator
    unfold decorator? at hdecorator
    split at hdecorator
    next => contradiction
    next hsome =>
      obtain rfl := Option.some.inj hdecorator
      have hnamed : (explicit && resource != wildcardResource) = true
          ↔ explicit = true ∧ resource ≠ wildcardResource := by simp
      rw [← arguments_eq, decoratorArguments, if_congr hnamed rfl rfl]
      exact Decorator.ofName_of_ne_nil _ (List.append_ne_nil_of_right_ne_nil _ hsome)

end RuntimePermission

/-! ## Reading entries off decorators -/

/-- The entries for a kind that a decorator allows, or that it denies; none if it is of the other
polarity. What stands in front of the first kind names the resource. -/
def Decorator.entriesRead (permitted : Bool) (kind : PermissionKind) (decorator : Decorator) :
    List PermissionEntry :=
  match Grant.polarityOf? decorator.name with
  | none => []
  | some (isPermitted, _) =>
    if isPermitted = permitted then
      (Grant.principals none decorator.arguments).filterMap fun (tag, type, principal) =>
        if tag = kind then some ⟨principal, type, permitted⟩ else none
    else []

namespace RuntimePermission

variable (permission : RuntimePermission) (permitted : Bool) (resource : String)
  (explicit forInstances : Bool)

/-- The name of the resource is no principal. -/
lemma principals_named :
    Grant.principals none (permission.decoratorArguments resource explicit permitted)
      = Grant.principals none (permission.arguments permitted) := by
  unfold decoratorArguments
  split <;> rfl

/-- Under the tag of a kind stand the principals of its entries. -/
lemma principals_ofKind (kind : PermissionKind) :
    ((Grant.principals none (permission.arguments permitted)).filterMap
      fun (tag, type, principal) =>
        if tag = kind then some (⟨principal, type, permitted⟩ : PermissionEntry) else none)
      = permission.entriesWith permitted kind := by
  have hkind : ∀ tag, (((permission.entries tag).filter (·.isPermitted == permitted)).map
        fun entry => (tag, entry.principalType, entry.principal)).filterMap
          (fun (tag, type, principal) =>
            if tag = kind then some (⟨principal, type, permitted⟩ : PermissionEntry) else none)
      = if tag = kind then permission.entriesWith permitted tag else [] := by
    intro tag
    rw [List.filterMap_map]
    split
    next hsame =>
      have hentry : ∀ entry ∈ permission.entriesWith permitted tag,
          some (⟨entry.principal, entry.principalType, permitted⟩ : PermissionEntry)
            = some entry := by
        intro entry hentry
        rw [← ((mem_entriesWith permission permitted).mp hentry).2]
      simp only [Function.comp_def, if_pos hsame]
      exact (List.filterMap_congr hentry).trans List.filterMap_some
    next hother => simp [hother]
  rw [arguments, Grant.principals_arguments, List.filterMap_flatMap]
  simp only [hkind]
  cases kind <;> simp [PermissionKind.all]

/-- From the decorator of a polarity the entries of this polarity are read, and none of the other.
-/
lemma flatMap_entriesRead (isPermitted : Bool) (kind : PermissionKind) :
    (permission.decorator? isPermitted resource explicit forInstances).toList.flatMap
        (Decorator.entriesRead permitted kind)
      = if isPermitted = permitted then permission.entriesWith permitted kind else [] := by
  unfold decorator?
  split
  next hnone =>
    have hempty := principals_ofKind permission isPermitted kind
    rw [hnone] at hempty
    split
    next hsame => rw [← hsame, ← hempty]; rfl
    next => rfl
  next =>
    rw [Option.toList_some, List.flatMap_singleton, Decorator.entriesRead, Decorator.name_ofName,
      Grant.polarityOf?_decoratorName, Decorator.arguments_ofName, principals_named]
    dsimp only
    split
    next hsame => rw [← hsame, principals_ofKind]
    next => rfl

/-- A permission has one decorator for what it allows and one for what it denies, each only if there
are entries of its polarity; it lists these kind by kind, each kind with its tag and its principals.
So the entries for a kind that allow, and those that deny, can be read back in their order. -/
theorem decorators_grouped :
    (∃ allow deny, permission.decorators resource explicit forInstances = allow.toList
      ++ deny.toList
        ∧ permission.IsGrouped true resource explicit forInstances allow
        ∧ permission.IsGrouped false resource explicit forInstances deny)
      ∧ ∀ permitted kind, (permission.decorators resource explicit forInstances).flatMap
          (Decorator.entriesRead permitted kind) = permission.entriesWith permitted kind := by
  refine ⟨⟨_, _, permission.decorators_eq resource explicit forInstances,
    permission.isGrouped_decorator? .., permission.isGrouped_decorator? ..⟩,
      fun permitted kind => ?_⟩
  rw [decorators_eq, List.flatMap_append, flatMap_entriesRead, flatMap_entriesRead]
  cases permitted <;> simp

/-- Nothing is allowed here, so a name that is wanted makes no decorator that allows. -/
example : (⟨"level", [(.eventSubscribe, [⟨"Guest", .user, false⟩])]⟩ : RuntimePermission).decorators
      "level" true false
    = [⟨.call (.name "deny") [.string "level", .access (.name "Permission") "EventSubscribe",
        .access (.name "Users") "Guest"]⟩] := rfl

end RuntimePermission

end EntityCompiler
