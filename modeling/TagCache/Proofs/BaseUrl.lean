import TagCache.Client.Basic
import TagCache.Portal.Registry
import TagCache.Proofs.Records
import TagCache.Proofs.Routes

/-!
# Requests and the base url

The path of a request is a reference that is resolved against the base url of a client. The slashes
at its start are taken off, but nothing in it is encoded: dots, blanks, backslashes and colons keep
the meaning that they have in references. So a text with a scheme or a host in it is a url of its
own, whatever the base is, and any other stays on the host of the base, but below the path of the
base only if it goes down again through what it has left.

The requests of the portal never name a host, whatever the ids in them are.
-/

namespace TagCache

instance decidableEqExcept {ε α : Type} [DecidableEq ε] [DecidableEq α] :
    DecidableEq (Except ε α)
  | .ok a, .ok b => decidable_of_iff (a = b) ⟨congrArg _, Except.ok.inj⟩
  | .error a, .error b => decidable_of_iff (a = b) ⟨congrArg _, Except.error.inj⟩
  | .ok _, .error _ => isFalse nofun
  | .error _, .ok _ => isFalse nofun

/-! ## Base urls -/

theorem Text.trimChars_sublist (p : Char → Bool) (cs : List Char) :
    (Text.trimChars p cs).Sublist cs := by
  have hfront : (cs.dropWhile p).Sublist cs := List.dropWhile_sublist p
  have hback : ((cs.dropWhile p).reverse.dropWhile p).Sublist (cs.dropWhile p).reverse :=
    List.dropWhile_sublist p
  exact (List.reverse_sublist.mpr hback).trans (by rwa [List.reverse_reverse])

theorem Scheme.isNetwork_of_isWeb {s : Scheme} (h : s.isWeb = true) : s.isNetwork = true := by
  cases s <;> first | rfl | exact absurd h (by simp [isWeb])

namespace Url

/-- The segments of a directory. -/
def directories (u : Url) : List (List Char) :=
  match u.path with
  | .rooted segments => segments.dropLast
  | .bare _ => []

/-- A url that references are resolved below. -/
structure IsDirectory (u : Url) : Prop where
  web : u.scheme.isWeb = true
  path : u.path = .rooted (u.directories ++ [[]])
  clear : Path.Clear u.directories

section

variable (scheme : Scheme) (authority : Option Authority) (readPath : List Char → Path)
  (cs : List Char)

@[simp] theorem scheme_readRest : (readRest scheme authority readPath cs).scheme = scheme := rfl

@[simp] theorem authority_readRest :
    (readRest scheme authority readPath cs).authority = authority := rfl

@[simp] theorem path_readRest :
    (readRest scheme authority readPath cs).path = readPath (cs.takeWhile (!endsPath ·)) := rfl

end

theorem clear_readRooted (scheme : Scheme) (cs : List Char) :
    ∃ segments, readRooted scheme cs = .rooted segments ∧ Path.Clear segments := by
  cases cs with
  | nil =>
      refine ⟨_, rfl, ?_⟩
      split
      · exact .singleton List.not_mem_nil
      · exact fun _ hs => absurd hs List.not_mem_nil
  | cons c cs =>
      refine ⟨_, rfl, ?_⟩
      rw [Trail.extend_eq_lead]
      have htop : Path.Clear [] := fun _ hs => absurd hs List.not_mem_nil
      exact (htop.of_isPrefix (Trail.top_isPrefix _ _)).append
        (Trail.clear_down (clear_readSegments _ _))

theorem clear_readFromAuthority {scheme : Scheme} {cs : List Char} {u : Url}
    (h : readFromAuthority scheme cs = .ok u) :
    ∃ segments, u.path = .rooted segments ∧ Path.Clear segments := by
  obtain ⟨⟨authority, rest⟩, _, hrest⟩ := bind_eq_ok.mp h
  obtain rfl := Except.ok.inj hrest
  exact clear_readRooted _ _

theorem scheme_readFile {cs : List Char} {u : Url} (h : readFile cs = .ok u) :
    u.scheme = .file := by
  unfold readFile at h
  split at h
  · exact congrArg scheme (Except.ok.inj h).symm
  · dsimp only at h
    split at h
    · exact congrArg scheme (Except.ok.inj h).symm
    · obtain ⟨host, _, hrest⟩ := bind_eq_ok.mp h
      cases host <;> exact congrArg scheme (Except.ok.inj hrest).symm

/-- What is behind the scheme of a text is a part of the text. -/
theorem sublist_readScheme? {cs rest : List Char} {scheme : Scheme}
    (h : readScheme? cs = some (scheme, rest)) : rest.Sublist cs := by
  unfold readScheme? at h
  split at h
  · rename_i c rest' hrest
    dsimp only at h
    split_ifs at h
    obtain ⟨-, rfl⟩ := Prod.mk.inj (Option.some.inj h)
    exact (List.sublist_cons_self c rest').trans (hrest ▸ List.dropWhile_sublist _)
  · exact absurd h (by simp)

/-- A url of the web is read as an authority and what is behind it. -/
theorem readFromAuthority_of_parse {cs : List Char} {u : Url} (h : parse cs = .ok u)
    (hweb : u.scheme.isWeb = true) :
    ∃ scheme rest, readFromAuthority scheme rest = .ok u ∧ rest.Sublist cs := by
  unfold parse at h
  split at h
  · rename_i scheme rest hread
    have hrest : (unbroken rest).Sublist cs :=
      List.filter_sublist.trans ((sublist_readScheme? hread).trans (Text.trimChars_sublist _ cs))
    unfold readAbsolute at h
    split at h
    · rw [scheme_readFile h] at hweb
      exact absurd hweb (by decide)
    · unfold readUnbroken at h
      split at h
      · exact ⟨scheme, _, h, (List.dropWhile_sublist _).trans hrest⟩
      · rename_i hnetwork
        split at h
        · rename_i behind heq
          have hbehind : behind.Sublist ('/' :: '/' :: behind) :=
            (List.sublist_cons_self _ _).trans (List.sublist_cons_self _ _)
          exact ⟨scheme, behind, h, hbehind.trans (heq ▸ hrest)⟩
        -- the schemes of the web are those of networks, whose urls all have an authority
        · obtain rfl := Except.ok.inj h
          exact absurd (Scheme.isNetwork_of_isWeb hweb) hnetwork
        · obtain rfl := Except.ok.inj h
          exact absurd (Scheme.isNetwork_of_isWeb hweb) hnetwork
  · exact absurd h (by simp)

/-- The path of a url of the web is a list of segments. -/
theorem clear_parse {cs : List Char} {u : Url} (h : parse cs = .ok u)
    (hweb : u.scheme.isWeb = true) :
    ∃ segments, u.path = .rooted segments ∧ Path.Clear segments := by
  obtain ⟨scheme, rest, hread, -⟩ := readFromAuthority_of_parse h hweb
  exact clear_readFromAuthority hread

/-- The place of a base as a directory. -/
theorem isDirectory_asDirectory {u : Url} {segments : List (List Char)}
    (hweb : u.scheme.isWeb = true) (hpath : u.path = .rooted segments)
    (hclear : Path.Clear segments) : IsDirectory { u with path := u.path.asDirectory } := by
  simp only [hpath, Path.asDirectory]
  split_ifs with hlast
  · obtain ⟨init, rfl⟩ := List.getLast?_eq_some_iff.mp hlast
    refine ⟨hweb, ?_, ?_⟩
    · simp [directories]
    · simpa [directories] using hclear.of_isPrefix (List.prefix_append init [[]])
  · refine ⟨hweb, ?_, ?_⟩
    · simp [directories]
    · simpa [directories] using hclear

end Url

namespace ClientConfig

variable {text : String} {config : ClientConfig}

/-- The base url of a configuration is what its text is read as, but for the slash at its end. -/
theorem parse_of_new (h : ClientConfig.new text = .ok config) :
    ∃ u, Url.parse (Text.trim text).toList = .ok u ∧ u.scheme.isWeb = true ∧
      u.host?.isSome = true ∧ u.query = none ∧ u.fragment = none ∧
      config = { apiBaseUrl := { u with path := u.path.asDirectory } } := by
  obtain ⟨u, hread, hconfig⟩ := bind_eq_ok.mp h
  obtain rfl := Except.ok.inj hconfig
  unfold readWebUrl at hread
  split at hread
  · exact absurd hread (by simp)
  · rename_i u' hparse
    split_ifs at hread with hweb hhost htail
    obtain rfl := Except.ok.inj hread
    obtain ⟨hquery, hfragment⟩ : u'.query = none ∧ u'.fragment = none := by simpa using htail
    exact ⟨u', hparse, by simpa using hweb, by simpa [Option.isSome_iff_ne_none] using hhost,
      hquery, hfragment, rfl⟩

/-- **The base url of a configuration is a directory of the web.** -/
theorem isDirectory_of_new (h : ClientConfig.new text = .ok config) :
    config.apiBaseUrl.IsDirectory := by
  obtain ⟨u, hparse, hweb, -, -, -, rfl⟩ := parse_of_new h
  obtain ⟨segments, hpath, hclear⟩ := Url.clear_parse hparse hweb
  exact Url.isDirectory_asDirectory hweb hpath hclear

end ClientConfig

/-! ## References next to a base -/

namespace Url

variable {base other : Url} {cs : List Char} {r : Reference}

theorem scheme_resolveBelow (base : Url) (cs : List Char) :
    (resolveBelow base cs).scheme = base.scheme := by
  unfold resolveBelow
  dsimp only
  split_ifs <;> rfl

theorem authority_resolveBelow (base : Url) (cs : List Char) :
    (resolveBelow base cs).authority = base.authority := by
  unfold resolveBelow
  dsimp only
  split_ifs <;> rfl

/-- An empty path stays at the base, as its only segment does. -/
theorem path_resolveBelow (hbase : base.IsDirectory) :
    (resolveBelow base cs).path = .rooted (Path.extend base.directories
      (readSegments base.scheme (cs.takeWhile (!endsPath ·)))) := by
  unfold resolveBelow
  simp only [hbase.path, List.dropLast_concat]
  generalize hpath : cs.takeWhile (!endsPath ·) = path
  split_ifs
  all_goals
    simp only [path_readRest, hpath]
    split_ifs with hempty
    · rw [List.isEmpty_iff.mp hempty]
      rfl
    · rfl

theorem endsPath_of_isSlash {scheme : Scheme} {c : Char} (h : scheme.isSlash c = true) :
    (!endsPath c) = true := by
  simp only [Scheme.isSlash, Bool.or_eq_true, Bool.and_eq_true, decide_eq_true_eq] at h
  rcases h with rfl | ⟨_, rfl⟩ <;> decide

/-- A reference without a scheme leads to a place on the host of the base. -/
theorem resolve_of_ofText (hbase : base.IsDirectory)
    (h : Reference.ofText base.scheme cs = some r) :
    ∃ u, base.resolve cs = .ok u ∧ u.scheme = base.scheme ∧ u.authority = base.authority ∧
      u.path = .rooted (r.lead base.directories) := by
  have hnetwork := Scheme.isNetwork_of_isWeb hbase.web
  obtain ⟨hslashes, rfl⟩ | ⟨hslashes, rfl⟩ := Reference.ofText_cases h
  · have hresolve : base.resolve cs = .ok (base.resolveBelow cs) := by
      simp [resolve, hnetwork, hslashes]
    refine ⟨_, hresolve, scheme_resolveBelow base cs, authority_resolveBelow base cs, ?_⟩
    rw [path_resolveBelow hbase, Trail.extend_eq_lead]
    rfl
  · have hresolve : base.resolve cs =
        .ok (readRest base.scheme base.authority (readRooted base.scheme) cs) := by
      simp [resolve, hnetwork, hslashes]
    refine ⟨_, hresolve, rfl, rfl, ?_⟩
    obtain ⟨c, rest, rfl⟩ : ∃ c rest, cs = c :: rest := by
      cases cs with
      | nil => exact absurd hslashes (by simp)
      | cons c rest => exact ⟨c, rest, rfl⟩
    have hslash : base.scheme.isSlash c = true := by
      by_contra hc
      rw [List.takeWhile_cons_of_neg hc] at hslashes
      exact absurd hslashes (by simp)
    -- the slash itself does not end the path, so it is all that is taken off its start
    rw [path_readRest, List.takeWhile_cons_of_pos (p := (!endsPath ·)) (endsPath_of_isSlash hslash)]
    simp only [readRooted, hslash, if_true, Trail.extend_eq_lead]
    rfl

/-- A text that names a host is read alike next to all bases of a scheme. -/
theorem resolve_eq_of_ofText (h : Reference.ofText base.scheme cs = none)
    (hscheme : other.scheme = base.scheme) : other.resolve cs = base.resolve cs := by
  obtain ⟨n, hslashes⟩ := Reference.ofText_eq_none h
  simp only [resolve, hscheme, hslashes]

/-- **A text that names neither another scheme nor a host leads to a place on the host of the
base.** -/
theorem join_of_read? (hbase : base.IsDirectory) (h : Reference.read? base.scheme cs = some r) :
    ∃ u, base.join cs = .ok u ∧ u.scheme = base.scheme ∧ u.authority = base.authority ∧
      u.path = .rooted (r.lead base.directories) := by
  have hnetwork := Scheme.isNetwork_of_isWeb hbase.web
  unfold Reference.read? at h
  cases hread : readScheme? (trim cs) with
  | none =>
      rw [hread] at h
      have hjoin : base.join cs = base.resolve (unbroken (trim cs)) := by
        simp only [join, hread]
      exact hjoin ▸ resolve_of_ofText hbase h
  | some read =>
      obtain ⟨own, rest⟩ := read
      rw [hread] at h
      obtain ⟨hown, h⟩ : own = base.scheme ∧
          Reference.ofText base.scheme (unbroken rest) = some r := by
        simpa using h
      have hslashes : ((unbroken rest).takeWhile base.scheme.isSlash).length < 2 := by
        obtain ⟨hslashes, _⟩ | ⟨hslashes, _⟩ := Reference.ofText_cases h <;> omega
      have hjoin : base.join cs = base.resolve (unbroken rest) := by
        simp [join, hread, hown, hnetwork, hslashes]
      exact hjoin ▸ resolve_of_ofText hbase h

/-- A text that is no reference is read alike next to all bases of a scheme. -/
theorem join_eq_of_read? (h : Reference.read? base.scheme cs = none)
    (hscheme : other.scheme = base.scheme) : other.join cs = base.join cs := by
  unfold Reference.read? at h
  cases hread : readScheme? (trim cs) with
  | none =>
      rw [hread] at h
      simp only [join, hread]
      exact resolve_eq_of_ofText h hscheme
  | some read =>
      obtain ⟨own, rest⟩ := read
      rw [hread] at h
      simp only [join, hread, hscheme]
      split_ifs with hown
      · simp only [Bool.and_eq_true, decide_eq_true_eq] at hown
        have htext : Reference.ofText base.scheme (unbroken rest) = none := by
          simpa [hown.1.1] using h
        exact resolve_eq_of_ofText htext hscheme
      · rfl

end Url

/-! ## Requests -/

/-- A url on the host of a base, whose path begins with that of the base. -/
structure Url.Below (base u : Url) : Prop where
  scheme : u.scheme = base.scheme
  host : u.host? = base.host?
  port : u.port? = base.port?
  path : base.path.chars <+: u.path.chars

/-- The path of a request without the slashes at its start. -/
def Request.relativePath (r : Request) : List Char := r.path.toList.dropWhile (· = '/')

/-- An endpoint makes a request for some argument. -/
def Endpoint.Asks {κ : Type} : Endpoint κ → Request → Prop
  | .query q, request => ∃ arg, q.request arg = .ok request
  | .mutation m, request => ∃ arg, m.request arg = .ok request

theorem Client.url_of_read? {client : Client} {request : Request} {r : Reference}
    (hbase : client.baseUrl.IsDirectory)
    (h : Reference.read? client.baseUrl.scheme request.relativePath = some r) :
    ∃ u, client.url request = .ok u ∧ u.scheme = client.baseUrl.scheme ∧
      u.authority = client.baseUrl.authority ∧
      (client.baseUrl.Below u ↔ r.Returns client.baseUrl.directories) := by
  obtain ⟨u, hjoin, hscheme, hauthority, hpath⟩ := Url.join_of_read? hbase h
  refine ⟨u, ?_, hscheme, hauthority, ?_⟩
  · unfold Client.url
    rw [← Request.relativePath, hjoin]
    rfl
  · rw [← r.below_iff_returns hbase.clear]
    have hchars : client.baseUrl.path.chars <+: u.path.chars ↔
        Path.segmentChars (client.baseUrl.directories ++ [[]]) <+:
          Path.segmentChars (r.lead client.baseUrl.directories) := by
      rw [hpath, hbase.path]
      simp [Path.chars, Url.directories]
    rw [← hchars]
    refine ⟨Url.Below.path, fun hstarts => ⟨hscheme, ?_, ?_, hstarts⟩⟩
    · rw [Url.host?, hauthority, Url.host?]
    · rw [Url.port?, hauthority, Url.port?]

namespace Portal

theorem api_append {a : String} (b : String) (h : "/api/".toList <+: a.toList) :
    "/api/".toList <+: (a ++ b).toList := by
  rw [String.toList_append]
  exact h.trans (List.prefix_append _ _)

/-- The path of every request begins in the same place, whatever the ids in it are. -/
theorem api_registry : ∀ endpoint ∈ registry, ∀ request, endpoint.Asks request →
    "/api/".toList <+: request.path.toList := by
  simp only [registry, List.forall_mem_cons]
  and_intros
  all_goals first
    | exact fun _ h => absurd h List.not_mem_nil
    | rintro request ⟨arg, h⟩
      obtain rfl := Except.ok.inj h
      simp only [Request.get, Request.of, Request.withJson, Request.withQuery]
      first
        | decide
        | exact api_append _ (by decide)
        | exact api_append _ (api_append _ (by decide))
        | exact api_append _ (api_append _ (api_append _ (by decide)))

/-- **Where requests lead next to the base url.** A request whose path names neither another scheme
nor a host leads to a url with the scheme, the user, the host and the port of the base url, and its
path begins with the path of the base url if and only if it goes down again through every level that
it leaves. Any other request leads where it would lead next to every base of the scheme. No request
of the portal names a scheme or a host, whatever the ids in it are, and one without double dots
stays below the base url, as all do if the base url is the root of its host. -/
theorem below_base_iff {text : String} {config : ClientConfig}
    (hconfig : ClientConfig.new text = .ok config) (token : Option String) :
    let base := config.apiBaseUrl
    let client : Client := ⟨base, token⟩
    (∀ (request : Request) (r : Reference),
      Reference.read? base.scheme request.relativePath = some r →
      ∃ u, client.url request = .ok u ∧ u.scheme = base.scheme ∧ u.authority = base.authority ∧
        (base.Below u ↔ r.Returns base.directories)) ∧
    (∀ request : Request, Reference.read? base.scheme request.relativePath = none →
      ∀ other : Client, other.baseUrl.scheme = base.scheme →
        other.url request = client.url request) ∧
    ∀ endpoint ∈ registry, ∀ request, endpoint.Asks request →
      ∃ r, Reference.read? base.scheme request.relativePath = some r ∧
        (base.directories = [] ∨ (∀ s ∈ r.segments, Path.isDoubleDot s = false) →
          r.Returns base.directories) := by
  intro base client
  have hbase : base.IsDirectory := ClientConfig.isDirectory_of_new hconfig
  refine ⟨fun request r hread => Client.url_of_read? hbase hread, ?_, ?_⟩
  · intro request hread other hscheme
    unfold Client.url
    rw [← Request.relativePath, Url.join_eq_of_read? hread hscheme]
  · intro endpoint hendpoint request hasks
    obtain ⟨rest, hrest⟩ := api_registry endpoint hendpoint request hasks
    have hpath : request.relativePath = ['a', 'p', 'i'] ++ '/' :: rest := by
      rw [Request.relativePath, ← hrest]
      rfl
    have hname : ∀ c ∈ ['a', 'p', 'i'], c.isAlphanum = true := List.all_eq_true.mp (by decide)
    obtain ⟨r, hread, hrooted⟩ :=
      Reference.read?_of_name base.scheme hname (List.cons_ne_nil _ _) rest
    refine ⟨r, hpath ▸ hread, fun hsafe => Reference.returns_of_left_eq_nil ?_⟩
    rcases hsafe with hroot | hlevel
    · rw [hroot, Reference.left, List.drop_nil]
    · exact Reference.left_of_level hrooted hlevel

/-! ### Ways out -/

namespace Sample

/-- A base url with a path of its own. -/
def portalUrl : Url :=
  ⟨.https, some ⟨[], none, some (.domain "example.com".toList), none⟩,
    .rooted ["portal".toList, []], none, none⟩

/-- A client with a token. -/
def portalClient : Client := ⟨portalUrl, some "t"⟩

/-- The request for a data product. -/
def requestFor (id : String) : Request := .get ("/api/data_products/" ++ id)

/-- A page elsewhere. -/
def elsewhere : Url :=
  ⟨.http, some ⟨[], none, some (.domain "elsewhere.example".toList), none⟩,
    .rooted ["x".toList], none, none⟩

/-- What the client sends to a url. -/
def sentTo (url : Url) : HttpRequest := ⟨.get, url, [("authorization", "Bearer t")], none⟩

/-- The reference to a data product. -/
def referenceTo (id : String) : Reference :=
  .ofPath .https false ("api/data_products/" ++ id).toList

end Sample

/-- An id, an id that leaves the base url, and one that leaves it and returns; a path with a host in
it. -/
theorem below_base_iff_ids :
    ClientConfig.new "https://example.com/portal" = .ok { apiBaseUrl := Sample.portalUrl } ∧
    (∃ u, Sample.portalClient.url (Sample.requestFor "dp-1") = .ok u ∧ Sample.portalUrl.Below u) ∧
    (∃ u, Sample.portalClient.url (Sample.requestFor "../../../secret") = .ok u ∧
      u.authority = Sample.portalUrl.authority ∧ ¬ Sample.portalUrl.Below u) ∧
    (∃ u, Sample.portalClient.url (Sample.requestFor "../../../portal/dp-1") = .ok u ∧
      Sample.portalUrl.Below u) ∧
    ∀ other : Client, other.baseUrl.scheme = .https →
      other.url (.get "/http://elsewhere.example/x") =
        Sample.portalClient.url (.get "/http://elsewhere.example/x") := by
  have hconfig : ClientConfig.new "https://example.com/portal" =
      .ok { apiBaseUrl := Sample.portalUrl } := by decide +kernel
  obtain ⟨hreference, hforeign, hportal⟩ := below_base_iff hconfig (some "t")
  refine ⟨hconfig, ?_, ?_, ?_, fun other hother => ?_⟩
  · obtain ⟨r, hread, hstays⟩ := hportal (.query getDataProductById) (by simp [registry])
      (Sample.requestFor "dp-1") ⟨"dp-1", rfl⟩
    have hpath : Reference.read? .https (Sample.requestFor "dp-1").relativePath =
      some (Sample.referenceTo "dp-1") := by decide +kernel
    obtain rfl := Option.some.inj (hpath.symm.trans hread)
    obtain ⟨u, hurl, _, _, hbelow⟩ := hreference _ _ hread
    exact ⟨u, hurl, hbelow.mpr (hstays (.inr (by decide +kernel)))⟩
  · obtain ⟨u, hurl, _, hauthority, hbelow⟩ := hreference (Sample.requestFor "../../../secret")
      (Sample.referenceTo "../../../secret") (by decide +kernel)
    exact ⟨u, hurl, hauthority, hbelow.not.mpr (by decide +kernel)⟩
  · obtain ⟨u, hurl, _, _, hbelow⟩ := hreference (Sample.requestFor "../../../portal/dp-1")
      (Sample.referenceTo "../../../portal/dp-1") (by decide +kernel)
    exact ⟨u, hurl, hbelow.mpr (by decide +kernel)⟩
  · exact hforeign (.get "/http://elsewhere.example/x") (by decide +kernel) other hother

/-- **Requests leave the base url.** An id leads out of the path of the base url, and a path leads
to another host. The token goes along. -/
theorem requests_leave_base :
    let secret : Url := { Sample.portalUrl with path := .rooted ["secret".toList] }
    ClientConfig.new "https://example.com/portal" = .ok { apiBaseUrl := Sample.portalUrl } ∧
    (∃ request, getDataProductById.request "../../../secret" = .ok request ∧
      Sample.portalClient.url request = .ok secret ∧ ¬ Sample.portalUrl.Below secret ∧
      Sample.portalClient.build request = .ok (Sample.sentTo secret)) ∧
    ∃ request, request.path = "/http://elsewhere.example/x" ∧
      Sample.portalClient.url request = .ok Sample.elsewhere ∧
      ¬ Sample.portalUrl.Below Sample.elsewhere ∧
      Sample.portalClient.build request = .ok (Sample.sentTo Sample.elsewhere) := by
  intro secret
  refine ⟨by decide +kernel, ⟨_, rfl, ?_, ?_, ?_⟩, .get "/http://elsewhere.example/x", rfl,
    ?_, ?_, ?_⟩
  · decide +kernel
  · exact fun h => absurd h.path (by decide +kernel)
  · decide +kernel
  · decide +kernel
  · exact fun h => absurd h.host (by decide +kernel)
  · decide +kernel

end Portal

end TagCache
