import EntityCompiler.Document.Permission
import EntityCompiler.Proofs.Outcome

/-!
# What becomes of the entries of a list of permissions

A list of permissions may hold several items on one resource. The readers here say what each item
states, without regard to problems. `Document.runtimePermissions_entries` then says which of the
statements are in the index that the list is read into: those of the last item on each resource. So
the index has all that the list states exactly if the earlier items on each resource state nothing.
-/

namespace EntityCompiler

namespace PermissionIndex

/-- The entries for a kind of permission on a resource; none if there is no permission on it. -/
def entriesOn (index : PermissionIndex) (resource : String) (kind : PermissionKind) :
    List PermissionEntry :=
  ((index.get? resource).map (·.entries kind)).getD []

lemma get?_put (index : PermissionIndex) (name resource : String) (permission : RuntimePermission) :
    get? (Fields.put index name permission) resource
      = if name = resource then some permission else get? index resource := by
  unfold get?
  induction index with
  | nil =>
    by_cases h : name = resource <;> simp [Fields.put, h]
  | cons entry rest ih =>
    obtain ⟨k, v⟩ := entry
    rw [Fields.put]
    by_cases hk : k = name
    · -- the entry in front is replaced, and all entries behind it stay
      subst hk
      by_cases h : k = resource <;> simp [h]
    · rw [if_neg (by simpa using hk), List.find?_cons, List.find?_cons]
      by_cases h : k = resource
      · subst h
        simp [Ne.symm hk]
      · rw [beq_false_of_ne h]
        exact ih

end PermissionIndex

namespace Document

/-! ## What an item states -/

/-- The items of the list under a key; none if there is no list. -/
def listUnder (raw : Fields) (key : String) : List Value :=
  (raw.getD key).items?.getD []

/-- The entry of a permission that a value states. -/
def entryOf? (raw : Value) : Option PermissionEntry := do
  let entries ← raw.fields?
  let name ← text? entries "name"
  let type ← (entries.getD "type").text?.bind PrincipalType.ofLabel?
  return ⟨name, type, flag entries "isPermitted"⟩

/-- The resource that an item is on. -/
def resourceOf? (item : Value) : Option String :=
  item.fields?.bind (text? · "resourceName")

/-- The entries that an item states for a kind of permission. -/
def entriesOf (item : Value) (kind : PermissionKind) : List PermissionEntry :=
  (listUnder (item.fields?.getD []) kind.label).filterMap entryOf?

/-- The permission that an item states. -/
def permissionOf? (item : Value) : Option RuntimePermission :=
  (resourceOf? item).map fun resource =>
    ⟨resource, PermissionKind.all.map fun kind => (kind, entriesOf item kind)⟩

/-- The items on a resource, in their order. -/
def itemsOn (items : List Value) (resource : String) : List Value :=
  items.filter fun item => resourceOf? item == some resource

/-- The items of the list of permissions under a key of a document. -/
def permissionItems (raw : Fields) (key : String) : List Value :=
  listUnder ((raw.getD key).fields?.getD []) "permissions"

lemma permissionOf?_of_resourceOf? {item : Value} {resource : String}
    (h : resourceOf? item = some resource) :
    ∃ permission, permissionOf? item = some permission ∧ permission.resourceName = resource
      ∧ ∀ kind, permission.entries kind = entriesOf item kind := by
  refine ⟨_, by rw [permissionOf?, h]; rfl, rfl, ?_⟩
  intro kind
  cases kind <;> rfl

/-! ## Reading an item without a problem -/

lemma fields_eq_ok {raw entries : Fields} {key : String} {location : Option String}
    (h : fields raw key location = .ok entries) : (raw.getD key).fields?.getD [] = entries := by
  unfold fields at h
  split at h
  all_goals simp_all [Value.fields?, Outcome.problem]

lemma items_eq_ok {raw : Fields} {key : String} {location : Option String} {found : List Value}
    (h : items raw key location = .ok found) : listUnder raw key = found := by
  unfold items at h
  unfold listUnder
  split at h
  all_goals simp_all [Value.items?, Outcome.problem]

lemma permissionEntry_eq_ok {raw : Value} {location : String} {entry : PermissionEntry}
    (h : permissionEntry raw location = .ok entry) : entryOf? raw = some entry := by
  unfold permissionEntry at h
  split at h
  · simp [Outcome.problem] at h
  · rename_i entries hfields
    split at h
    · rename_i name type hname htype
      rw [entryOf?, hfields]
      simpa [hname, htype] using h
    · simp [Outcome.problem] at h

/-- Values that each state an entry state these entries. -/
lemma filterMap_entryOf? {items : List (Value × Nat)} {entries : List PermissionEntry}
    {place : Value × Nat → String}
    (h : List.Forall₂ (fun item entry => permissionEntry item.1 (place item) = .ok entry)
      items entries) :
    (items.map (·.1)).filterMap entryOf? = entries := by
  induction h with
  | nil => rfl
  | cons hentry _ ih => rw [List.map_cons, List.filterMap_cons, permissionEntry_eq_ok hentry, ih]

lemma permissionEntries_eq_ok {raw : Fields} {kind : PermissionKind} {location : String}
    {found : Option (List PermissionEntry)}
    (h : permissionEntries raw kind location = .ok (found, [])) :
    found = some ((listUnder raw kind.label).filterMap entryOf?) := by
  unfold permissionEntries at h
  rw [Outcome.bind_eq_ok] at h
  obtain ⟨⟨list, problems⟩, hlist, h⟩ := h
  cases list with
  | none =>
    obtain ⟨rfl, rfl⟩ : none = found ∧ problems = [] := by simpa using Outcome.pure_eq_ok.mp h
    simp [Outcome.collected_eq_ok_nil] at hlist
  | some values =>
    simp only at h
    rw [Outcome.bind_eq_ok] at h
    obtain ⟨⟨entries, others⟩, hentries, h⟩ := h
    obtain ⟨rfl, rfl⟩ : some entries = found ∧ others = [] := by
      simpa using Outcome.pure_eq_ok.mp h
    have hvalues := items_eq_ok (Outcome.collected_eq_ok_some hlist).1
    have hread := filterMap_entryOf? (Outcome.gather_eq_ok_nil.mp hentries)
    rw [List.zipIdx_map_fst] at hread
    rw [hvalues, hread]

lemma permissionKinds_eq_ok {raw : Fields} {location : String} {kinds : List PermissionKind}
    {found : List (PermissionKind × List PermissionEntry)}
    (h : permissionKinds raw location kinds = .ok (found, [])) :
    found = kinds.map fun kind =>
      (kind, (listUnder raw kind.label).filterMap entryOf?) := by
  induction kinds generalizing found with
  | nil =>
    have hnone : [] = found := by simpa [permissionKinds] using h
    rw [← hnone, List.map_nil]
  | cons kind kinds ih =>
    rw [permissionKinds, Outcome.bind_eq_ok] at h
    obtain ⟨⟨entries, problems⟩, hentries, h⟩ := h
    simp only at h
    rw [Outcome.bind_eq_ok] at h
    obtain ⟨⟨others, otherProblems⟩, hothers, h⟩ := h
    rw [Outcome.pure_eq_ok, Prod.mk.injEq, List.append_eq_nil_iff] at h
    obtain ⟨rfl, rfl, rfl⟩ := h
    rw [permissionEntries_eq_ok hentries, ih hothers]
    rfl

/-- An item that is read without a problem states a permission, and gives it. -/
lemma runtimePermission_eq_ok {raw : Value} {location : String} {found : Option RuntimePermission}
    (h : runtimePermission raw location = .ok (found, [])) :
    ∃ resource, resourceOf? raw = some resource ∧ found = permissionOf? raw := by
  unfold runtimePermission at h
  split at h
  · simp at h
  · rename_i entries hentries
    split at h
    · simp at h
    · rename_i resource hresource
      have hitem : resourceOf? raw = some resource := by
        rw [resourceOf?, hentries]
        exact hresource
      refine ⟨resource, hitem, ?_⟩
      rw [Outcome.bind_eq_ok] at h
      obtain ⟨⟨kinds, problems⟩, hkinds, h⟩ := h
      simp only at h
      split at h
      · rename_i hempty
        rw [List.isEmpty_iff.mp hempty] at hkinds
        rw [Outcome.bind_eq_ok] at h
        obtain ⟨permission, hchecked, h⟩ := h
        rw [RuntimePermission.checked, Outcome.bind_eq_ok] at hchecked
        obtain ⟨_, -, hchecked⟩ := hchecked
        rw [Outcome.pure_eq_ok] at hchecked h
        rw [Prod.mk.injEq] at h
        rw [← h.1, ← hchecked, permissionKinds_eq_ok hkinds, permissionOf?, hitem]
        unfold entriesOf
        rw [hentries]
        rfl
      · rename_i hsome
        rw [Outcome.pure_eq_ok, Prod.mk.injEq] at h
        rw [h.2] at hsome
        contradiction

/-! ## Reading a list -/

/-- Reading one more item without a problem puts the permission that it states into the index. -/
lemma permissionIndex_cons_eq_ok {location : String} {item : Value} {position : Nat}
    {rest : List (Value × Nat)} {index all : PermissionIndex}
    (h : permissionIndex location ((item, position) :: rest) index = .ok (all, [])) :
    ∃ resource permission, resourceOf? item = some resource ∧ permissionOf? item = some permission
      ∧ permissionIndex location rest (Fields.put index resource permission) = .ok (all, []) := by
  rw [permissionIndex, Outcome.bind_eq_ok] at h
  obtain ⟨⟨found, problems⟩, hitem, h⟩ := h
  simp only at h
  rw [Outcome.bind_eq_ok] at h
  obtain ⟨⟨extended, others⟩, hrest, h⟩ := h
  rw [Outcome.pure_eq_ok, Prod.mk.injEq, List.append_eq_nil_iff] at h
  obtain ⟨rfl, rfl, rfl⟩ := h
  obtain ⟨resource, hresource, rfl⟩ := runtimePermission_eq_ok hitem
  obtain ⟨permission, hpermission, rfl, -⟩ := permissionOf?_of_resourceOf? hresource
  rw [hpermission] at hrest
  exact ⟨_, permission, hresource, hpermission, hrest⟩

/-- Reading a list without a problem leaves on each resource the permission of the last item on it,
and what was there before if there is no such item. -/
lemma permissionIndex_eq_ok {location : String} {items : List (Value × Nat)}
    {index all : PermissionIndex} (h : permissionIndex location items index = .ok (all, []))
    (resource : String) :
    all.get? resource = match (itemsOn (items.map (·.1)) resource).getLast? with
      | some item => permissionOf? item
      | none => index.get? resource := by
  -- each item puts its permission into the index, so the induction is for all indexes at once
  induction items generalizing index with
  | nil =>
    have hsame : index = all := by simpa [permissionIndex] using h
    rw [hsame]
    rfl
  | cons entry rest ih =>
    obtain ⟨item, position⟩ := entry
    obtain ⟨name, permission, hname, hpermission, hrest⟩ := permissionIndex_cons_eq_ok h
    rw [ih hrest, PermissionIndex.get?_put, itemsOn, itemsOn, List.map_cons, List.filter_cons,
      hname]
    by_cases hsame : name = resource
    · rw [if_pos hsame, if_pos (by simpa using hsame), List.getLast?_cons]
      cases (List.filter (fun item => resourceOf? item == some resource)
        (rest.map (·.1))).getLast? with
      | none => exact hpermission.symm
      | some last => rfl
    · rw [if_neg hsame, if_neg (by simpa using hsame)]

lemma runtimePermissions_eq_ok {raw : Fields} {key : String} {index : PermissionIndex}
    (h : runtimePermissions raw key = .ok index) :
    permissionIndex key (permissionItems raw key).zipIdx [] = .ok (index, []) := by
  unfold runtimePermissions at h
  rw [Outcome.bind_eq_ok] at h
  obtain ⟨container, hcontainer, h⟩ := h
  rw [Outcome.bind_eq_ok] at h
  obtain ⟨items, hitems, h⟩ := h
  rw [Outcome.bind_eq_ok] at h
  obtain ⟨⟨found, problems⟩, hfound, h⟩ := h
  simp only at h
  rw [permissionItems, fields_eq_ok hcontainer, items_eq_ok hitems, hfound]
  split at h
  · rename_i hempty
    rw [Outcome.pure_eq_ok] at h
    rw [List.isEmpty_iff.mp hempty, h]
  · contradiction

/-- The index that a list of permissions is read into has a resource exactly if some item is on it.
The entries on a resource are those of the last item on it. They are all entries that the items on
it state, in their order, exactly if the items before the last one state none: entries of these are
lost. -/
theorem runtimePermissions_entries {raw : Fields} {key : String} {index : PermissionIndex}
    (h : runtimePermissions raw key = .ok index) (resource : String) (kind : PermissionKind) :
    let items := itemsOn (permissionItems raw key) resource
    (index.get? resource).isSome = !items.isEmpty
      ∧ index.entriesOn resource kind = (items.getLast?.map (entriesOf · kind)).getD []
      ∧ (index.entriesOn resource kind = items.flatMap (entriesOf · kind)
          ↔ ∀ item ∈ items.dropLast, entriesOf item kind = []) := by
  intro items
  have hget := permissionIndex_eq_ok (runtimePermissions_eq_ok h) resource
  rw [List.zipIdx_map_fst] at hget
  change _ = match items.getLast? with | some item => _ | none => _ at hget
  rcases List.eq_nil_or_concat items with hnil | ⟨earlier, last, hitems⟩
  · rw [hnil] at hget ⊢
    have hnone : index.get? resource = none := hget
    simp [PermissionIndex.entriesOn, hnone]
  · -- the last item alone decides what is in the index
    have hlast : last ∈ items := by rw [hitems]; simp
    have hresource : resourceOf? last = some resource := by
      simpa using (List.mem_filter.mp hlast).2
    obtain ⟨permission, hpermission, -, hentries⟩ := permissionOf?_of_resourceOf? hresource
    rw [hitems, List.concat_eq_append] at hget ⊢
    rw [List.getLast?_concat] at hget ⊢
    have hsome : index.get? resource = some permission := by rw [hget]; exact hpermission
    have hon : index.entriesOn resource kind = entriesOf last kind := by
      rw [PermissionIndex.entriesOn, hsome]
      exact hentries kind
    rw [hsome, hon, List.dropLast_concat, List.flatMap_append, List.flatMap_singleton]
    refine ⟨by simp, rfl, ?_⟩
    rw [List.self_eq_append_left, List.flatMap_eq_nil_iff]

/-- An item on a resource that lets one user read it or keeps the user from reading it. -/
def readItem (resource user : String) (isPermitted : Bool) : Value :=
  .object [("resourceName", .text resource), ("PropertyRead", .list [
    .object [("name", .text user), ("type", .text "User"), ("isPermitted", .bool isPermitted)]])]

/-- A document with two items on one resource. -/
def repeatedResource : Fields :=
  [("name", .text "Sensors"), ("runTimePermissions", .object [("permissions",
    .list [readItem "level" "ann" false, readItem "level" "bob" true])])]

/-- The two items state a denial and a grant. Only the grant is in the index. -/
theorem repeatedResource_loses_denial :
    (itemsOn (permissionItems repeatedResource "runTimePermissions") "level").flatMap
        (entriesOf · .propertyRead) = [⟨"ann", .user, false⟩, ⟨"bob", .user, true⟩]
      ∧ ∃ index, runtimePermissions repeatedResource "runTimePermissions" = .ok index
        ∧ index.entriesOn "level" .propertyRead = [⟨"bob", .user, true⟩]
        ∧ index.entriesOn "level" .propertyRead
          ≠ (itemsOn (permissionItems repeatedResource "runTimePermissions") "level").flatMap
            (entriesOf · .propertyRead) := by
  refine ⟨rfl, _, rfl, rfl, ?_⟩
  exact fun h => absurd (congrArg List.length h) (by decide)

/-- On the document with two items, the entries to read the resource are those of the second item,
and are not all that the items state. -/
theorem repeatedResource_entries :
    ∃ index, runtimePermissions repeatedResource "runTimePermissions" = .ok index
      ∧ (index.get? "level").isSome = true
      ∧ index.entriesOn "level" .propertyRead
        = entriesOf (readItem "level" "bob" true) .propertyRead
      ∧ (index.entriesOn "level" .propertyRead
          = (itemsOn (permissionItems repeatedResource "runTimePermissions") "level").flatMap
            (entriesOf · .propertyRead)
          ↔ ∀ item ∈ [readItem "level" "ann" false], entriesOf item .propertyRead = []) := by
  refine ⟨_, rfl, ?_⟩
  exact @runtimePermissions_entries repeatedResource "runTimePermissions" _ rfl "level"
    .propertyRead

end Document

end EntityCompiler
