import Mathlib.Data.List.TakeWhile
import Mathlib.Tactic.MkIffOfInductiveProp
import TagCache.Proofs.BaseUrl

/-!
# Ordinary ids

Letters, digits, hyphens and underscores stand for themselves wherever they occur in a reference,
and slashes stand between its segments. So a path with no other characters is appended to the base
url as it is: there is nothing in it to be trimmed, encoded, or taken for a scheme, a host, a query
or a dot segment. The paths of the portal have such characters, and besides them only those of the
ids in them.
-/

namespace TagCache

/-! ## Characters that stand for themselves -/

/-- Whether a character is ordinary in an id. -/
def isOrdinary (c : Char) : Bool := c.isAlphanum || c = '-' || c = '_'

/-- Whether a character is ordinary in a path. -/
def isPathChar (c : Char) : Bool := isOrdinary c || c = '/'

/-- A text with no other characters. -/
def Plain (cs : List Char) : Prop := ∀ c ∈ cs, isPathChar c = true

instance (cs : List Char) : Decidable (Plain cs) :=
  decidable_of_iff (cs.all isPathChar = true) List.all_eq_true

/-- Reading a reference finds nothing in a character but the character. -/
@[mk_iff]
structure StandsForItself (c : Char) : Prop where
  /-- It is not trimmed off an end. -/
  printed : ¬ c ≤ ' '
  /-- It is not dropped as a line break. -/
  unbroken : isBreak c = false
  /-- It does not end a scheme. -/
  schemeless : c ≠ ':'
  /-- It begins neither a query nor a fragment. -/
  within : Url.endsPath c = false
  /-- It is not another spelling of a slash. -/
  forward : c ≠ '\\'
  /-- It is not encoded in a path. -/
  kept : Percent.pathSet c = false
  /-- It is not in any spelling of a dot segment. -/
  dotless : c.toLower ≠ '.' ∧ c.toLower ≠ '%'

instance (c : Char) : Decidable (StandsForItself c) :=
  decidable_of_iff' _ (standsForItself_iff c)

theorem toNat_lt_of_isPathChar {c : Char} (h : isPathChar c = true) : c.toNat < 128 := by
  simp only [isPathChar, isOrdinary, Bool.or_eq_true, decide_eq_true_eq] at h
  obtain ((h | rfl) | rfl) | rfl := h
  · delta Char.isAlphanum Char.isAlpha Char.isUpper Char.isLower Char.isDigit at h
    simp [UInt32.le_iff_toNat_le] at h
    omega
  all_goals decide

namespace StandsForItself

theorem of_isPathChar {c : Char} (h : isPathChar c = true) : StandsForItself c := by
  -- all of these are in ASCII, so there are finitely many characters to look at
  have hall : ∀ n < 128, isPathChar (Char.ofNat n) = true → StandsForItself (Char.ofNat n) := by
    decide +kernel
  have hc := hall c.toNat (toNat_lt_of_isPathChar h)
  rw [Char.ofNat_toNat] at hc
  exact hc h

theorem ne_hash {c : Char} (h : StandsForItself c) : c ≠ '#' := by
  rintro rfl
  exact absurd h.within (by decide)

end StandsForItself

namespace Plain

variable {cs : List Char}

theorem standsForItself (h : Plain cs) {c : Char} (hc : c ∈ cs) : StandsForItself c :=
  .of_isPathChar (h c hc)

theorem append {ds : List Char} (hc : Plain cs) (hd : Plain ds) : Plain (cs ++ ds) :=
  fun c hmem => (List.mem_append.mp hmem).elim (hc c) (hd c)

end Plain

/-! ## References that stand for themselves -/

theorem dropWhile_of_all_not {α : Type} {p : α → Bool} {xs : List α} (h : ∀ x ∈ xs, p x = false) :
    xs.dropWhile p = xs := by
  cases xs with
  | nil => rfl
  | cons x xs => exact List.dropWhile_cons_of_neg (by simp [h x List.mem_cons_self])

theorem Text.trimChars_of_all_not {p : Char → Bool} {cs : List Char} (h : ∀ c ∈ cs, p c = false) :
    Text.trimChars p cs = cs := by
  have hreverse : ∀ c ∈ cs.reverse, p c = false := fun c hc => h c (List.mem_reverse.mp hc)
  rw [Text.trimChars, dropWhile_of_all_not h, dropWhile_of_all_not hreverse, List.reverse_reverse]

/-- Every separator is written before the part behind it. -/
theorem Path.segmentChars_pieces (cs : List Char) :
    segmentChars (pieces (· = '/') cs) = '/' :: cs := by
  induction cs with
  | nil => rfl
  | cons c cs ih =>
      obtain ⟨part, parts, hparts⟩ := exists_pieces_eq (· = '/') cs
      rw [hparts] at ih
      by_cases hslash : c = '/'
      · subst hslash
        simpa [pieces, hparts, segmentChars] using ih
      · have hrest : part ++ segmentChars parts = cs := (List.cons.inj ih).2
        have hpieces : pieces (· = '/') (c :: cs) = (c :: part) :: parts := by
          simp [pieces, hslash, hparts]
        rw [hpieces]
        exact congrArg ('/' :: c :: ·) hrest

namespace Url

variable {cs : List Char}

theorem trim_of_plain (h : Plain cs) : trim cs = cs :=
  Text.trimChars_of_all_not fun _ hc => decide_eq_false (h.standsForItself hc).printed

theorem unbroken_of_plain (h : Plain cs) : unbroken cs = cs :=
  List.filter_eq_self.mpr fun _ hc => by simp [(h.standsForItself hc).unbroken]

theorem readScheme?_of_plain (h : Plain cs) : readScheme? cs = none := by
  have hcolon : cs.dropWhile (· ≠ ':') = [] :=
    List.dropWhile_eq_nil_iff.mpr fun _ hc => decide_eq_true (h.standsForItself hc).schemeless
  simp only [readScheme?, hcolon]

theorem takeWhile_endsPath_of_plain (h : Plain cs) : cs.takeWhile (!endsPath ·) = cs :=
  List.takeWhile_eq_self_iff.mpr fun _ hc => by simp [(h.standsForItself hc).within]

theorem readSegments_of_plain (scheme : Scheme) (h : Plain cs) :
    readSegments scheme cs = pieces (· = '/') cs := by
  have hslash : pieces scheme.isSlash cs = pieces (· = '/') cs :=
    pieces_congr fun c hc => by simp [Scheme.isSlash, (h.standsForItself hc).forward]
  rw [readSegments, hslash]
  refine (List.map_congr_left fun part hpart => ?_).trans (List.map_id _)
  exact Percent.encode_of_clean fun c hc =>
    (h.standsForItself (mem_of_mem_pieces hpart hc)).kept

/-- No part of a plain text is one of the spellings of dots. -/
theorem not_dots_of_plain (h : Plain cs) :
    ∀ s ∈ pieces (· = '/') cs, Path.isSingleDot s = false ∧ Path.isDoubleDot s = false := by
  intro s hs
  have hdot : '.' ∉ s.map Char.toLower ∧ '%' ∉ s.map Char.toLower := by
    constructor <;> intro hmem <;> obtain ⟨c, hc, hlower⟩ := List.mem_map.mp hmem
    · exact (h.standsForItself (mem_of_mem_pieces hs hc)).dotless.1 hlower
    · exact (h.standsForItself (mem_of_mem_pieces hs hc)).dotless.2 hlower
  have hnone {dots : List (List Char)} (hdots : ∀ d ∈ dots, '.' ∈ d ∨ '%' ∈ d) :
      decide (s.map Char.toLower ∈ dots) = false :=
    decide_eq_false fun hmem => (hdots _ hmem).elim hdot.1 hdot.2
  exact ⟨hnone (by decide), hnone (by decide)⟩

/-- **A plain path is appended to the segments of a directory.** -/
theorem join_of_plain {base : Url} (hbase : base.IsDirectory) {c : Char} (hc : c ≠ '/')
    (h : Plain (c :: cs)) :
    base.join (c :: cs) = .ok ⟨base.scheme, base.authority,
      .rooted (base.directories ++ pieces (· = '/') (c :: cs)), none, none⟩ := by
  have hnetwork := Scheme.isNetwork_of_isWeb hbase.web
  have hfirst := h.standsForItself List.mem_cons_self
  have hslash : base.scheme.isSlash c = false := by simp [Scheme.isSlash, hc, hfirst.forward]
  have hjoin : base.join (c :: cs) = base.resolve (c :: cs) := by
    simp only [join, trim_of_plain h, readScheme?_of_plain h, unbroken_of_plain h]
  have hresolve : base.resolve (c :: cs) = .ok (base.resolveBelow (c :: cs)) := by
    simp [resolve, hnetwork, hslash]
  have hpath : (resolveBelow base (c :: cs)).path =
      .rooted (base.directories ++ pieces (· = '/') (c :: cs)) := by
    rw [path_resolveBelow hbase, takeWhile_endsPath_of_plain h, readSegments_of_plain _ h,
      Path.extend_eq_append _ (not_dots_of_plain h)]
  have hhash : (c :: cs).head?.all (· = '#') = false := by
    simp [hfirst.ne_hash]
  -- nothing is left behind the path for a query or a fragment
  have htail : (c :: cs).dropWhile (!endsPath ·) = [] :=
    List.dropWhile_eq_nil_iff.mpr fun _ hd => by simp [(h.standsForItself hd).within]
  have hrest : resolveBelow base (c :: cs) = ⟨base.scheme, base.authority,
      (resolveBelow base (c :: cs)).path, none, none⟩ := by
    simp only [resolveBelow, hhash, readRest, htail, readTail]
    rfl
  rw [hjoin, hresolve, hrest, hpath]

/-! ### Texts -/

/-- The text of a url that is all origin and path. -/
theorem chars_of_path {u : Url} {path : Path} (hpath : u.path = path) (hquery : u.query = none)
    (hfragment : u.fragment = none) : u.chars = u.originChars ++ path.chars := by
  simp [chars, queryChars, fragmentChars, hpath, hquery, hfragment]

/-- Behind an authority the path does not matter for the text of the origin. -/
theorem originChars_congr {u v : Url} (hscheme : u.scheme = v.scheme)
    (hauthority : u.authority = v.authority) (hsome : v.authority.isSome = true) :
    u.originChars = v.originChars := by
  obtain ⟨a, ha⟩ := Option.isSome_iff_exists.mp hsome
  rw [ha] at hauthority
  simp [originChars, hscheme, hauthority, ha]

/-- A base url that is all origin and path, as a directory. -/
structure IsBase (u : Url) : Prop extends IsDirectory u where
  authority : u.authority.isSome = true
  query : u.query = none
  fragment : u.fragment = none

namespace IsBase

variable {base : Url}

theorem chars_eq (h : base.IsBase) :
    base.chars = base.originChars ++ Path.segmentChars base.directories ++ ['/'] := by
  rw [chars_of_path h.path h.query h.fragment, Path.chars, Path.segmentChars_append,
    List.append_assoc]
  rfl

/-- **The text of a base url goes on with that of a plain path.** -/
theorem text_join (h : base.IsBase) {c : Char} (hc : c ≠ '/') (hplain : Plain (c :: cs)) :
    ∃ u, base.join (c :: cs) = .ok u ∧ u.text = base.text ++ String.ofList (c :: cs) := by
  refine ⟨_, join_of_plain h.toIsDirectory hc hplain, ?_⟩
  have horigin : originChars ⟨base.scheme, base.authority,
      .rooted (base.directories ++ pieces (· = '/') (c :: cs)), none, none⟩ = base.originChars :=
    originChars_congr rfl rfl h.authority
  rw [text, text, ← String.ofList_append, chars_of_path rfl rfl rfl, horigin, h.chars_eq,
    Path.chars, Path.segmentChars_append, Path.segmentChars_pieces]
  simp

end IsBase

end Url

theorem ClientConfig.isBase_of_new {text : String} {config : ClientConfig}
    (h : ClientConfig.new text = .ok config) : config.apiBaseUrl.IsBase := by
  obtain ⟨u, -, -, hhost, hquery, hfragment, hconfig⟩ := ClientConfig.parse_of_new h
  have hauthority : u.authority.isSome = true := by
    rw [Url.host?] at hhost
    cases hu : u.authority with
    | none => simp [hu] at hhost
    | some a => rfl
  have hbase := ClientConfig.isDirectory_of_new h
  subst hconfig
  exact ⟨hbase, hauthority, hquery, hfragment⟩

/-! ## The paths of the portal -/

namespace Portal

/-- A part of a path: a text, one of a few names, or an id in the argument. Texts and names are
plain, ids may be anything. -/
inductive PathPart (α : Type) where
  | text (s : String) (plain : Plain s.toList := by decide)
  | name (read : α → String) (plain : ∀ arg, Plain (read arg).toList)
  | id (read : α → String)

namespace PathPart

variable {α : Type}

/-- How a part is written for an argument. -/
def write (arg : α) : PathPart α → String
  | text s _ => s
  | name read _ | id read => read arg

/-- The id that a part takes from an argument. -/
def id? (arg : α) : PathPart α → Option String
  | text _ _ | name _ _ => none
  | id read => some (read arg)

/-- The path with some parts. -/
def path (parts : List (PathPart α)) (arg : α) : String := String.join (parts.map (write arg))

/-- A path is plain if the ids in it are. -/
theorem plain_path {arg : α} : {parts : List (PathPart α)} →
    (∀ id ∈ parts.filterMap (id? arg), Plain id.toList) → Plain (path parts arg).toList
  | [], _ => fun _ hc => absurd hc List.not_mem_nil
  | part :: parts, h => by
      have hparts : Plain (path parts arg).toList := by
        refine plain_path fun id hid => h id ?_
        obtain ⟨other, hother, hread⟩ := List.mem_filterMap.mp hid
        exact List.mem_filterMap.mpr ⟨other, List.mem_cons_of_mem _ hother, hread⟩
      have hpart : Plain (part.write arg).toList := by
        cases part with
        | text s plain => exact plain
        | name read plain => exact plain arg
        | id read => exact h (read arg) List.mem_cons_self
      rw [path, List.map_cons, String.join_cons, String.toList_append]
      exact hpart.append hparts

end PathPart

/-- An endpoint and the parts of the paths that it asks for. -/
inductive Route : Type 1 where
  | query {α ρ : Type} (q : Query TagKind α ρ) (parts : List (PathPart α))
  | mutation {α ρ : Type} (m : Mutation TagKind α ρ) (parts : List (PathPart α))

namespace Route

/-- The endpoint of a route. -/
def endpoint : Route → Endpoint TagKind
  | query q _ => .query q
  | mutation m _ => .mutation m

/-- The arguments of the endpoint. -/
def Arg : Route → Type
  | @query α _ _ _ | @mutation α _ _ _ => α

/-- The request that the endpoint makes. -/
def request : (r : Route) → r.Arg → Except String Request
  | query q _ => q.request
  | mutation m _ => m.request

/-- The path that the parts make. -/
def path : (r : Route) → r.Arg → String
  | query _ parts | mutation _ parts => PathPart.path parts

/-- The ids that the path takes from an argument. -/
def ids : (r : Route) → r.Arg → List String
  | query _ parts | mutation _ parts => fun arg => parts.filterMap (PathPart.id? arg)

end Route

theorem plain_scope : ∀ scope : RoleScope, Plain scope.name.toList := by
  intro scope
  cases scope <;> decide

/-- The path of every endpoint. -/
def routes : List Route :=
  [.query getAllDataProducts [.text "/api/data_products"],
    .query getDataProductById [.text "/api/data_products/", .id id],
    .query getUserDataProducts [.text "/api/users/", .id id, .text "/data_products"],
    .mutation createDataProduct [.text "/api/data_products"],
    .mutation updateDataProduct [.text "/api/data_products/", .id (·.dataProductId)],
    .mutation removeDataProduct [.text "/api/data_products/", .id id],
    .mutation updateMembershipRole
      [.text "/api/data_product_memberships/", .id (·.membershipId), .text "/role"],
    .query getAllDatasets [.text "/api/datasets"],
    .query getDatasetById [.text "/api/datasets/", .id id],
    .query getUserDatasets [.text "/api/users/", .id id, .text "/datasets"],
    .mutation createDataset [.text "/api/datasets"],
    .mutation removeDataset [.text "/api/datasets/", .id id],
    .query getDataOutputById [.text "/api/data_outputs/", .id id],
    .query getDataOutputsByDataProduct
      [.text "/api/data_products/", .id id, .text "/data_outputs"],
    .mutation createDataOutput
      [.text "/api/data_products/", .id (·.dataProductId), .text "/data_output"],
    .mutation removeDataOutput [.text "/api/data_outputs/", .id (·.dataOutputId)],
    .mutation requestDatasetAccessForDataOutput
      [.text "/api/data_outputs/", .id (·.dataOutputId), .text "/dataset/", .id (·.datasetId)],
    .mutation approveDataOutputLink
      [.text "/api/data_output_dataset_links/approve/", .id (·.datasetLinkId)],
    .mutation rejectDataOutputLink
      [.text "/api/data_output_dataset_links/deny/", .id (·.datasetLinkId)],
    .mutation removeDataOutputDatasetLink
      [.text "/api/data_output_dataset_links/", .id (·.datasetLinkId)],
    .query getRoles [.text "/api/v2/authz/roles/", .name RoleScope.name plain_scope],
    .mutation createRole [.text "/api/v2/authz/roles"],
    .mutation updateRole [.text "/api/v2/authz/roles/", .id (·.id)],
    .mutation deleteRole [.text "/api/v2/authz/roles/", .id id],
    .query getCurrentUser [.text "/api/auth/user"],
    .query getAllUsers [.text "/api/users"],
    .query getUserPendingActions [.text "/api/v2/users/current/pending_actions"],
    .query getGlobalRoleAssignments [.text globalAssignmentsPath],
    .mutation createGlobalRoleAssignment [.text globalAssignmentsPath],
    .mutation decideGlobalRoleAssignment
      [.text globalAssignmentsPath, .text "/", .id (·.assignmentId), .text "/decide"],
    .mutation deleteGlobalRoleAssignment
      [.text globalAssignmentsPath, .text "/", .id (·.assignmentId)],
    .query getAllEnvironments [.text "/api/envs"],
    .query getAuditLogs [.text "/api/audit_logs"]]

/-- No endpoint is left out. -/
theorem endpoint_routes : routes.map Route.endpoint = registry := rfl

section

variable {α ρ : Type} {parts : List (PathPart α)}

theorem path_query {q : Query TagKind α ρ}
    (h : ∀ arg, ∃ request, q.request arg = .ok request ∧ request.path = PathPart.path parts arg)
    (arg : (Route.query q parts).Arg) : ∃ request, (Route.query q parts).request arg = .ok request ∧
      request.path = (Route.query q parts).path arg := h arg

theorem path_mutation {m : Mutation TagKind α ρ}
    (h : ∀ arg, ∃ request, m.request arg = .ok request ∧ request.path = PathPart.path parts arg)
    (arg : (Route.mutation m parts).Arg) :
    ∃ request, (Route.mutation m parts).request arg = .ok request ∧
      request.path = (Route.mutation m parts).path arg := h arg

end

/-- **Every endpoint asks for the path of its route.** -/
theorem path_routes : ∀ route ∈ routes, ∀ arg, ∃ request,
    route.request arg = .ok request ∧ request.path = route.path arg := by
  simp only [routes, List.forall_mem_cons]
  and_intros
  all_goals first
    | exact fun _ h => absurd h List.not_mem_nil
    | refine path_query fun arg => ⟨_, rfl, ?_⟩
      simp [PathPart.path, PathPart.write, Request.get, Request.of, Request.withQuery,
        String.append_assoc]
    | refine path_mutation fun arg => ⟨_, rfl, ?_⟩
      simp [PathPart.path, PathPart.write, Request.of, Request.withJson, String.append_assoc]

theorem Route.plain_path {route : Route} {arg : route.Arg}
    (h : ∀ id ∈ route.ids arg, Plain id.toList) : Plain (route.path arg).toList := by
  cases route <;> exact PathPart.plain_path h

theorem Route.asks {route : Route} {arg : route.Arg} {request : Request}
    (h : route.request arg = .ok request) : route.endpoint.Asks request := by
  cases route <;> exact ⟨arg, h⟩

/-- An id of letters, digits, hyphens and underscores. -/
def OrdinaryId (id : String) : Prop := ∀ c ∈ id.toList, isOrdinary c = true

namespace Sample

/-- A base url with a user, a port and a path. -/
def deepUrl : Url :=
  ⟨.https, some ⟨"user".toList, some "pw".toList, some (.domain "example.com".toList), some 8443⟩,
    .rooted ["portal".toList, "v1".toList, []], none, none⟩

end Sample

end Portal

end TagCache
