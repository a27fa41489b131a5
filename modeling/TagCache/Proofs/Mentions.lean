import Mathlib.Data.List.Nodup
import TagCache.Portal.Registry

/-!
# What a view mentions, and what reaches it

A result of the portal mentions an entity by its own id or by the id in a link, as the owner of a
data output or as the role of an assignment. A view of one entity provides the tags of all that it
mentions. A view of many provides the collection it reads, and its own items, but not what they link
to. So a change reaches every view that mentions an entity if it invalidates the entity and every
collection in which such entities are mentioned, the *shelves* of its kind.

Removals invalidate the entity and, for the most part, all of its shelves. Two are missing: the
datasets of a user mention data products, and the data products of a user mention datasets, and
neither is reached when what they mention is removed.
-/

namespace TagCache.Portal

open TagKind (dataProduct dataset dataOutput role user globalAssignments environment auditLog
  userDataProducts userDatasets userPendingActions)

/-! ## Mentions -/

/-- Itself and the datasets it is linked to. -/
def DataProduct.mentions (p : DataProduct) : List (Tag TagKind) :=
  dataProduct.entity p.id :: p.datasetLinks.map fun link => dataset.entity link.datasetId

/-- Itself and the data products it is linked to. -/
def Dataset.mentions (d : Dataset) : List (Tag TagKind) :=
  dataset.entity d.id :: d.dataProductLinks.map fun link => dataProduct.entity link.dataProductId

/-- Itself, its owner if it has one, and the datasets it is linked to. -/
def DataOutput.mentions (o : DataOutput) : List (Tag TagKind) :=
  dataOutput.entity o.id
    :: (if o.ownerId = "" then [] else [dataProduct.entity o.ownerId])
    ++ o.datasetLinks.map fun link => dataset.entity link.datasetId

/-- Itself. -/
def Role.mentions (r : Role) : List (Tag TagKind) := [role.entity r.id]

/-- Itself. -/
def User.mentions (u : User) : List (Tag TagKind) := [user.entity u.id]

/-- Itself and its role. -/
def GlobalRoleAssignment.mentions (a : GlobalRoleAssignment) : List (Tag TagKind) :=
  [globalAssignments.entity a.id, role.entity a.roleId]

/-- Itself. -/
def Environment.mentions (e : Environment) : List (Tag TagKind) := [environment.entity e.id]

/-- Itself. -/
def AuditLog.mentions (l : AuditLog) : List (Tag TagKind) := [auditLog.entity l.id]

/-- No entity that has tags. -/
def PendingAction.mentions (_ : PendingAction) : List (Tag TagKind) := []

/-- A query of the portal, read as a view of entities. -/
structure Reading where
  {α ρ : Type}
  query : Query TagKind α ρ
  /-- The entities that a result mentions. -/
  mentions : ρ → List (Tag TagKind)
  /-- The collection that is read, if not a single entity. -/
  shelf : Option TagKind

/-- A view of one entity. -/
def Reading.single {α ρ : Type} (q : Query TagKind α ρ) (mentions : ρ → List (Tag TagKind)) :
    Reading :=
  ⟨q, mentions, none⟩

/-- A view of the entities in a collection. -/
def Reading.many {α ρ : Type} (q : Query TagKind α (List ρ)) (mentions : ρ → List (Tag TagKind))
    (shelf : TagKind) : Reading :=
  ⟨q, fun items => items.flatMap mentions, some shelf⟩

/-- Every query of the portal. -/
def readings : List Reading :=
  [.many getAllDataProducts DataProduct.mentions dataProduct,
    .single getDataProductById DataProduct.mentions,
    .many getUserDataProducts DataProduct.mentions userDataProducts,
    .many getAllDatasets Dataset.mentions dataset,
    .single getDatasetById Dataset.mentions,
    .many getUserDatasets Dataset.mentions userDatasets,
    .single getDataOutputById DataOutput.mentions,
    .many getDataOutputsByDataProduct DataOutput.mentions dataOutput,
    .many getRoles Role.mentions role,
    .single getCurrentUser User.mentions,
    .many getAllUsers User.mentions user,
    .many getUserPendingActions PendingAction.mentions userPendingActions,
    .many getGlobalRoleAssignments GlobalRoleAssignment.mentions globalAssignments,
    .many getAllEnvironments Environment.mentions environment,
    .many getAuditLogs AuditLog.mentions auditLog]

/-- No query is left out. -/
theorem query_readings :
    readings.map (fun w => Endpoint.query w.query) = registry.filter Endpoint.isQuery := rfl

theorem reading_eq_of_name {v w : Reading} (hv : v ∈ readings) (hw : w ∈ readings)
    (h : v.query.name = w.query.name) : v = w :=
  List.inj_on_of_nodup_map
    (show (readings.map fun w => w.query.name).Nodup by decide) hv hw h

/-! ## Shelves -/

/-- The collections in which entities of a kind are mentioned. -/
def shelves : TagKind → List TagKind
  | dataProduct | dataset => [dataProduct, userDataProducts, dataset, userDatasets, dataOutput]
  | role => [role, globalAssignments]
  | k => [k]

/-- What a result mentions is provided by a view of one entity. A view of many provides its
collection, which is a shelf of what is mentioned. -/
def Reading.Files (w : Reading) : Prop :=
  ∀ result arg, ∀ t ∈ w.mentions result, match w.shelf with
    | none => t ∈ w.query.provides result arg
    | some k => k ∈ shelves t.kind ∧ k.collection ∈ w.query.provides result arg

section

variable {α ρ : Type} {t : Tag TagKind}

theorem files_single {q : Query TagKind α ρ} {mentions : ρ → List (Tag TagKind)}
    (h : ∀ result arg, ∀ t ∈ mentions result, t ∈ q.provides result arg) :
    (Reading.single q mentions).Files := h

theorem files_many {q : Query TagKind α (List ρ)} {mentions : ρ → List (Tag TagKind)}
    {kinds : List TagKind} {k : TagKind} (hkinds : ∀ item, ∀ t ∈ mentions item, t.kind ∈ kinds)
    (hshelf : ∀ kind ∈ kinds, k ∈ shelves kind)
    (hprovides : ∀ items arg, k.collection ∈ q.provides items arg) :
    (Reading.many q mentions k).Files := by
  intro items arg t ht
  obtain ⟨item, _, ht⟩ := List.mem_flatMap.mp ht
  exact ⟨hshelf _ (hkinds item t ht), hprovides items arg⟩

theorem kind_of_dataProduct (p : DataProduct) :
    ∀ t ∈ p.mentions, t.kind ∈ [dataProduct, dataset] := by
  intro t ht
  rcases List.mem_cons.mp ht with rfl | ht
  · exact List.mem_cons_self
  · obtain ⟨_, _, rfl⟩ := List.mem_map.mp ht
    exact List.mem_cons_of_mem _ List.mem_cons_self

theorem kind_of_dataset (d : Dataset) : ∀ t ∈ d.mentions, t.kind ∈ [dataset, dataProduct] := by
  intro t ht
  rcases List.mem_cons.mp ht with rfl | ht
  · exact List.mem_cons_self
  · obtain ⟨_, _, rfl⟩ := List.mem_map.mp ht
    exact List.mem_cons_of_mem _ List.mem_cons_self

theorem kind_of_dataOutput (o : DataOutput) :
    ∀ t ∈ o.mentions, t.kind ∈ [dataOutput, dataProduct, dataset] := by
  intro t ht
  unfold DataOutput.mentions at ht
  rw [List.cons_append, List.mem_cons, List.mem_append] at ht
  rcases ht with rfl | ht | ht
  · exact List.mem_cons_self
  · split at ht
    · exact absurd ht List.not_mem_nil
    · rw [List.mem_singleton.mp ht]
      exact List.mem_cons_of_mem _ List.mem_cons_self
  · obtain ⟨_, _, rfl⟩ := List.mem_map.mp ht
    exact List.mem_cons_of_mem _ (List.mem_cons_of_mem _ List.mem_cons_self)

theorem kind_of_assignment (a : GlobalRoleAssignment) :
    ∀ t ∈ a.mentions, t.kind ∈ [globalAssignments, role] := by
  intro t ht
  rcases List.mem_pair.mp ht with rfl | rfl
  · exact List.mem_cons_self
  · exact List.mem_cons_of_mem _ List.mem_cons_self

/-- A view that mentions nothing but its items. -/
theorem files_items {q : Query TagKind α (List ρ)} {id : ρ → String} {k : TagKind}
    (hshelf : k ∈ shelves k) (hprovides : ∀ items arg, k.collection ∈ q.provides items arg) :
    (Reading.many q (fun item => [k.entity (id item)]) k).Files := by
  refine files_many (fun item t ht => ?_) (List.forall_mem_singleton.mpr hshelf) hprovides
  rw [List.mem_singleton.mp ht]
  exact List.mem_singleton_self _

/-- **Every view files what it mentions.** -/
theorem files_readings : ∀ w ∈ readings, w.Files := by
  have head : ∀ {k : TagKind} {ts : List (Tag TagKind)}, k.collection ∈ k.collection :: ts :=
    List.mem_cons_self
  simp only [readings, List.forall_mem_cons]
  and_intros
  -- data products
  · exact files_many kind_of_dataProduct (by decide) fun _ _ => head
  · exact files_single fun _ _ _ ht => ht
  · exact files_many kind_of_dataProduct (by decide) fun _ _ => head
  -- datasets
  · exact files_many kind_of_dataset (by decide) fun _ _ => head
  · exact files_single fun _ _ _ ht => ht
  · exact files_many kind_of_dataset (by decide) fun _ _ => head
  -- data outputs
  · exact files_single fun _ _ _ ht => ht
  · exact files_many kind_of_dataOutput (by decide) fun _ _ => head
  -- roles and users
  · exact files_items (by decide) fun _ _ => head
  · exact files_single fun _ _ _ ht => ht
  · exact files_items (by decide) fun _ _ => head
  · exact files_many (fun _ _ ht => absurd ht List.not_mem_nil)
      (fun _ hkind => absurd hkind List.not_mem_nil) fun _ _ => head
  · exact files_many kind_of_assignment (by decide) fun _ _ => head
  -- the platform
  · exact files_items (by decide) fun _ _ => head
  · exact files_items (by decide) fun _ _ => head
  · exact fun _ h => absurd h List.not_mem_nil

end

/-! ## Removals -/

/-- Two lists of tags have one in common. -/
def Meets (ts us : List (Tag TagKind)) : Prop := ∃ t ∈ ts, t ∈ us

instance (ts us : List (Tag TagKind)) : Decidable (Meets ts us) :=
  inferInstanceAs (Decidable (∃ _ ∈ _, _))

/-- Tags reach a view that mentions one of them, if they have the shelf that the view reads. -/
theorem Reading.Files.meets {w : Reading} (h : w.Files) {result : w.ρ} {t : Tag TagKind}
    {tags : List (Tag TagKind)} (ht : t ∈ w.mentions result) (hself : t ∈ tags)
    (hshelf : ∀ k ∈ w.shelf, k ∈ shelves t.kind → k.collection ∈ tags) (arg : w.α) :
    Meets tags (w.query.provides result arg) := by
  have hfiled := h result arg t ht
  cases hw : w.shelf with
  | none =>
      rw [hw] at hfiled
      exact ⟨t, hself, hfiled⟩
  | some k =>
      rw [hw] at hfiled
      exact ⟨k.collection, hshelf k hw hfiled.1, hfiled.2⟩

/-- A mutation of the portal, and the entities that an argument names. -/
structure Change where
  {α ρ : Type}
  mutation : Mutation TagKind α ρ
  names : α → List (Tag TagKind)

/-- The mutations that remove an entity. -/
def removals : List Change :=
  [⟨removeDataProduct, fun id => [dataProduct.entity id]⟩,
    ⟨removeDataset, fun id => [dataset.entity id]⟩,
    ⟨removeDataOutput, fun removal => [dataOutput.entity removal.dataOutputId]⟩,
    ⟨deleteRole, fun id => [role.entity id]⟩,
    ⟨deleteGlobalRoleAssignment, fun a => [globalAssignments.entity a.assignmentId]⟩]

/-- The removals that miss a view of what they remove, and the views that they miss. -/
def missed : List (String × String) :=
  [("removeDataProduct", "getUserDatasets"), ("removeDataset", "getUserDataProducts")]

theorem name_of_userDataProducts :
    ∀ w ∈ readings, w.shelf = some userDataProducts → w.query.name = "getUserDataProducts" := by
  decide

theorem name_of_userDatasets :
    ∀ w ∈ readings, w.shelf = some userDatasets → w.query.name = "getUserDatasets" := by
  decide

/-- A removal reaches every view that it is not known to miss. -/
theorem removal_meets {c : Change} (hc : c ∈ removals) {w : Reading} (hw : w ∈ readings)
    (hreached : (c.mutation.name, w.query.name) ∉ missed) {arg : c.α} {result : w.ρ}
    (hm : Meets (c.names arg) (w.mentions result)) (response : c.ρ) (warg : w.α) :
    Meets (c.mutation.invalidates response arg) (w.query.provides result warg) := by
  obtain ⟨t, hnamed, ht⟩ := hm
  have hfiles := files_readings w hw
  simp only [removals, List.mem_cons, List.not_mem_nil, or_false] at hc
  rcases hc with rfl | rfl | rfl | rfl | rfl <;> obtain rfl := List.mem_singleton.mp hnamed
  · -- a data product: every shelf but the datasets of a user
    refine hfiles.meets ht List.mem_cons_self (fun k hk hshelf => ?_) warg
    have hother : k ≠ userDatasets := by
      rintro rfl
      exact hreached (by rw [name_of_userDatasets w hw hk]; exact List.mem_cons_self)
    simp only [shelves, TagKind.entity, Tag.entity, List.mem_cons, List.not_mem_nil, or_false]
      at hshelf
    rcases hshelf with rfl | rfl | rfl | rfl | rfl <;> simp at hother ⊢
  · -- a dataset: every shelf but the data products of a user
    refine hfiles.meets ht List.mem_cons_self (fun k hk hshelf => ?_) warg
    have hother : k ≠ userDataProducts := by
      rintro rfl
      exact hreached (by rw [name_of_userDataProducts w hw hk]; simp [missed, removeDataset])
    simp only [shelves, TagKind.entity, Tag.entity, List.mem_cons, List.not_mem_nil, or_false]
      at hshelf
    rcases hshelf with rfl | rfl | rfl | rfl | rfl <;> simp at hother ⊢
  · refine hfiles.meets ht List.mem_cons_self (fun k _ hshelf => ?_) warg
    obtain rfl := List.mem_singleton.mp hshelf
    exact List.mem_cons_of_mem _ List.mem_cons_self
  · refine hfiles.meets ht List.mem_cons_self (fun k _ hshelf => ?_) warg
    rcases List.mem_pair.mp hshelf with rfl | rfl
    · exact List.mem_cons_of_mem _ List.mem_cons_self
    · exact List.mem_cons_of_mem _ (List.mem_cons_of_mem _ List.mem_cons_self)
  · refine hfiles.meets ht List.mem_cons_self (fun k _ hshelf => ?_) warg
    obtain rfl := List.mem_singleton.mp hshelf
    exact List.mem_cons_of_mem _ List.mem_cons_self

/-- The datasets of a user are told of no data product. -/
theorem not_meets_getUserDatasets (id : String) (response : Unit) (datasets : List Dataset)
    (userId : String) :
    ¬ Meets (removeDataProduct.invalidates response id)
      (getUserDatasets.provides datasets userId) := by
  simp [Meets, removeDataProduct, getUserDatasets, TagKind.entity, TagKind.collection, Tag.entity,
    Tag.collection]

/-- The data products of a user are told of no dataset. -/
theorem not_meets_getUserDataProducts (id : String) (response : Unit)
    (products : List DataProduct) (userId : String) :
    ¬ Meets (removeDataset.invalidates response id)
      (getUserDataProducts.provides products userId) := by
  simp [Meets, removeDataset, getUserDataProducts, TagKind.entity, TagKind.collection, Tag.entity,
    Tag.collection]

theorem change_eq_of_name {b c : Change} (hb : b ∈ removals) (hc : c ∈ removals)
    (h : b.mutation.name = c.mutation.name) : b = c :=
  List.inj_on_of_nodup_map
    (show (removals.map fun c => c.mutation.name).Nodup by decide) hb hc h

/-- **What a removal reaches.** A removal invalidates a tag of every view that mentions what is
removed, whatever the arguments and results, with two exceptions: removing a data product misses the
datasets of a user, and removing a dataset misses the data products of a user. -/
theorem removal_meets_iff {c : Change} (hc : c ∈ removals) {w : Reading} (hw : w ∈ readings)
    {arg : c.α} {result : w.ρ} (hm : Meets (c.names arg) (w.mentions result)) (response : c.ρ)
    (warg : w.α) :
    Meets (c.mutation.invalidates response arg) (w.query.provides result warg) ↔
      (c.mutation.name, w.query.name) ∉ missed := by
  refine ⟨fun hmeets hmissed => ?_, fun h => removal_meets hc hw h hm response warg⟩
  rcases List.mem_pair.mp hmissed with h | h
  · obtain ⟨hcname, hwname⟩ := Prod.mk.inj h
    have hremoval : c = ⟨removeDataProduct, fun id => [dataProduct.entity id]⟩ :=
      change_eq_of_name hc (by simp [removals]) hcname
    have hview : w = .many getUserDatasets Dataset.mentions userDatasets :=
      reading_eq_of_name hw (by simp [readings]) hwname
    subst hremoval hview
    exact not_meets_getUserDatasets _ _ _ _ hmeets
  · obtain ⟨hcname, hwname⟩ := Prod.mk.inj h
    have hremoval : c = ⟨removeDataset, fun id => [dataset.entity id]⟩ :=
      change_eq_of_name hc (by simp [removals]) hcname
    have hview : w = .many getUserDataProducts DataProduct.mentions userDataProducts :=
      reading_eq_of_name hw (by simp [readings]) hwname
    subst hremoval hview
    exact not_meets_getUserDataProducts _ _ _ _ hmeets

/-- The assignments of a role are told that the role is removed. -/
theorem removal_meets_iff_role :
    let assignments : List GlobalRoleAssignment := [⟨"a-1", "u-1", "r-1", .approved⟩]
    Meets [role.entity "r-1"] (assignments.flatMap GlobalRoleAssignment.mentions) ∧
      Meets (deleteRole.invalidates () "r-1")
        (getGlobalRoleAssignments.provides assignments ⟨some "u-1", none⟩) := by
  intro assignments
  have hremoval : (⟨deleteRole, fun id => [role.entity id]⟩ : Change) ∈ removals := by
    simp [removals]
  have hview : Reading.many getGlobalRoleAssignments GlobalRoleAssignment.mentions
      globalAssignments ∈ readings := by
    simp [readings]
  have hm : Meets (Change.names ⟨deleteRole, fun id => [role.entity id]⟩ "r-1")
      (Reading.mentions (.many getGlobalRoleAssignments GlobalRoleAssignment.mentions
        globalAssignments) assignments) := by
    decide
  exact ⟨hm, (removal_meets_iff hremoval hview hm () ⟨some "u-1", none⟩).mpr (by decide)⟩

/-- A user goes on seeing a data product that reads a dataset after the dataset is removed, and a
dataset that a removed data product reads. -/
theorem removal_misses :
    (let products : List DataProduct :=
      [⟨"dp-1", "", "", "", none, [], [⟨"l-1", "ds-1", .approved⟩]⟩]
     Meets [dataset.entity "ds-1"] (products.flatMap DataProduct.mentions) ∧
      ¬ Meets (removeDataset.invalidates () "ds-1")
        (getUserDataProducts.provides products "u-1")) ∧
    (let datasets : List Dataset :=
      [⟨"ds-1", "", "", "", .everyone, [⟨"l-1", "dp-1", .approved⟩]⟩]
     Meets [dataProduct.entity "dp-1"] (datasets.flatMap Dataset.mentions) ∧
      ¬ Meets (removeDataProduct.invalidates () "dp-1")
        (getUserDatasets.provides datasets "u-1")) := by
  decide

end TagCache.Portal
