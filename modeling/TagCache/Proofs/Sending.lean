import Mathlib.Data.List.TakeWhile
import TagCache.Client.Basic
import TagCache.Proofs.BaseUrl
import TagCache.Proofs.FormText

/-!
# What a client sends

A client sends the pairs of a request behind those that the path brings along, and nothing is lost
on the way: the query is read back as the one list behind the other, so it tells requests apart that
differ in their pairs only.

Who is calling is said in headers. A user name or a password in the base url and the token of the
client are two answers to that question, and a client that has both gives both.
-/

namespace TagCache

namespace Client

variable {client : Client} {request : Request} {sent : HttpRequest}

/-- What is sent to a url. -/
def sends (client : Client) (u : Url) (request : Request) : HttpRequest where
  method := request.method
  url := (if u.credentials?.isSome then u.withoutUserinfo else u).withPairs request.query
  headers := client.authorization u ++
    if request.body.isSome then [("content-type", "application/json")] else []
  body := request.body.map Json.canonical

/-- A request is built for a url with a host, unless the token cannot stand in a header. -/
theorem build_eq_ok : client.build request = .ok sent ↔ ∃ u, client.url request = .ok u ∧
    u.host?.isSome = true ∧ (client.token.all fun token => token.toList.all isHeaderChar) = true ∧
    client.sends u request = sent := by
  unfold build
  simp only [bind_eq_ok]
  refine exists_congr fun u => and_congr_right fun _ => ?_
  cases u.host? with
  | none => exact iff_of_false nofun (by simp)
  | some host =>
      cases client.token.all fun token => token.toList.all isHeaderChar with
      | false => exact iff_of_false nofun (by simp)
      | true => exact ⟨fun h => ⟨rfl, rfl, Except.ok.inj h⟩, fun h => congrArg Except.ok h.2.2⟩

end Client

/-! ## Queries -/

namespace Url

variable {u : Url} {pairs pairs' : List (String × String)}

theorem withPairs_eq (u : Url) (pairs : List (String × String)) :
    u.withPairs pairs = { u with query := (u.withPairs pairs).query } := by
  unfold withPairs
  split <;> rfl

theorem queryChars_inj {v : Url} (h : u.queryChars = v.queryChars) : u.query = v.query := by
  unfold queryChars at h
  cases hu : u.query <;> cases hv : v.query <;> simp_all

/-- The text of a url tells its query. -/
theorem query_eq_of_text {q q' : Option (List Char)}
    (h : { u with query := q }.text = { u with query := q' }.text) : q = q' := by
  have hchars := String.ofList_injective h
  have hquery : { u with query := q }.queryChars = { u with query := q' }.queryChars :=
    List.append_cancel_left (List.append_cancel_right hchars)
  exact queryChars_inj hquery

/-- **Urls with the same text have been given the same pairs.** -/
theorem withPairs_inj_of_text (h : (u.withPairs pairs).text = (u.withPairs pairs').text) :
    pairs = pairs' := by
  rw [withPairs_eq u pairs, withPairs_eq u pairs'] at h
  have hquery := query_eq_of_text h
  have hpairs : (u.withPairs pairs).pairs = (u.withPairs pairs').pairs := by
    rw [Url.pairs, Url.pairs, hquery]
  rw [pairs_withPairs, pairs_withPairs] at hpairs
  exact List.append_cancel_left hpairs

end Url

theorem Client.url_sends (client : Client) (u : Url) (request : Request) :
    ∃ bare : Url, bare.pairs = u.pairs ∧
      (client.sends u request).url = bare.withPairs request.query := by
  refine ⟨if u.credentials?.isSome then u.withoutUserinfo else u, ?_, rfl⟩
  split_ifs <;> rfl

/-- **Pairs survive.** The query of what a client sends is read back as the pairs that the path
brings along and behind them those of the request. So requests with the same path and different
pairs are sent to different urls, whoever is calling. -/
theorem Client.pairs_of_build {client : Client} {request : Request} {sent : HttpRequest}
    (h : client.build request = .ok sent) :
    (∃ u, client.url request = .ok u ∧ sent.url.pairs = u.pairs ++ request.query) ∧
    ∀ (token : Option String) (other : Request) (sent' : HttpRequest),
      other.path = request.path → other.query ≠ request.query →
      Client.build ⟨client.baseUrl, token⟩ other = .ok sent' → sent'.url.text ≠ sent.url.text := by
  obtain ⟨u, hurl, _, _, rfl⟩ := build_eq_ok.mp h
  constructor
  · obtain ⟨bare, hpairs, hsent⟩ := client.url_sends u request
    exact ⟨u, hurl, by rw [hsent, Url.pairs_withPairs, hpairs]⟩
  · intro token other sent' hpath hquery h' htext
    obtain ⟨u', hurl', _, _, rfl⟩ := build_eq_ok.mp h'
    -- where a request leads depends on its path only
    have hsame : u' = u := by
      have hboth : client.url request = .ok u' := by
        simpa only [Client.url, hpath] using hurl'
      exact Except.ok.inj (hboth.symm.trans hurl)
    subst hsame
    exact hquery (Url.withPairs_inj_of_text htext)

namespace Sample

/-- A base url with a user name and a password. -/
def guardedUrl : Url :=
  ⟨.http, some ⟨"user".toList, some "pw".toList, some (.domain "localhost".toList), some 5050⟩,
    .rooted ["base".toList, []], none, none⟩

/-- A path with a query and a fragment. -/
def oddPath : String := "/api/envs?k=v&&x=%20#part"

/-- The url that the path leads to. -/
def oddUrl : Url :=
  { guardedUrl with
    path := .rooted ["base".toList, "api".toList, "envs".toList]
    query := some "k=v&&x=%20".toList
    fragment := some "part".toList }

/-- Pairs with signs that have a meaning in a query, a pair twice, and one without texts. -/
def oddPairs : List (String × String) :=
  [("a&b=c", "1+1 = 50%#é🦀"), ("", ""), ("x", ""), ("", "%41"), ("x", ""), ("x", "y")]

end Sample

/-- Pairs behind the query and before the fragment of a path. -/
theorem Client.pairs_of_build_odd :
    let client : Client := ⟨Sample.guardedUrl, some "abc"⟩
    let request : Request := ⟨.get, Sample.oddPath, Sample.oddPairs, none⟩
    let other : Request := ⟨.get, Sample.oddPath, Sample.oddPairs.drop 1, none⟩
    ∃ sent sent', client.build request = .ok sent ∧
      Client.build ⟨client.baseUrl, none⟩ other = .ok sent' ∧
      sent.url.pairs = [("k", "v"), ("x", " ")] ++ Sample.oddPairs ∧
      sent'.url.text ≠ sent.url.text := by
  intro client request other
  have hurl : client.url request = .ok Sample.oddUrl := by decide +kernel
  have hpairs : Sample.oddUrl.pairs = [("k", "v"), ("x", " ")] := by decide +kernel
  have hbuild : client.build request = .ok (client.sends Sample.oddUrl request) := by
    decide +kernel
  have hbuild' : Client.build ⟨client.baseUrl, none⟩ other =
      .ok (Client.sends ⟨client.baseUrl, none⟩ Sample.oddUrl other) := by
    decide +kernel
  obtain ⟨⟨u, hu, hsent⟩, hdistinct⟩ := Client.pairs_of_build hbuild
  obtain rfl := Except.ok.inj (hu.symm.trans hurl)
  exact ⟨_, _, hbuild, hbuild', hpairs ▸ hsent, hdistinct none other _ rfl (by decide) hbuild'⟩

/-! ## Who is calling -/

theorem splitLast?_eq_none {α : Type} [DecidableEq α] {x : α} {xs : List α} (h : x ∉ xs) :
    splitLast? x xs = none := by
  have hnone : xs.reverse.dropWhile (· ≠ x) = [] :=
    List.dropWhile_eq_nil_iff.mpr fun y hy => decide_eq_true fun hyx =>
      h (hyx ▸ List.mem_reverse.mp hy)
  simp only [splitLast?, hnone]

namespace Url

variable {u v : Url}

theorem credentials?_congr (h : u.authority = v.authority) : u.credentials? = v.credentials? := by
  simp only [credentials?, h]

theorem credentials?_of_anonymous {host : Option Host} {port : Option Nat}
    (h : u.authority = some ⟨[], none, host, port⟩) : u.credentials? = none := by
  simp [credentials?, h, Percent.decode, Utf8.decode?, Utf8.read]

/-- Without an at sign there is no user information. -/
theorem authority_readFromAuthority_of_notMem {scheme : Scheme} {cs : List Char} (hat : '@' ∉ cs)
    (h : readFromAuthority scheme cs = .ok u) :
    ∃ host port, u.authority = some ⟨[], none, host, port⟩ := by
  have hsplit : splitLast? '@' (cs.takeWhile (!endsAuthority scheme ·)) = none :=
    splitLast?_eq_none fun hmem => hat ((List.takeWhile_sublist _).mem hmem)
  obtain ⟨⟨authority, rest⟩, hread, hu⟩ := bind_eq_ok.mp h
  simp only [readAuthority, hsplit] at hread
  obtain ⟨⟨host, port, rest'⟩, -, hauthority⟩ := bind_eq_ok.mp hread
  obtain ⟨rfl, rfl⟩ := Prod.mk.inj (Except.ok.inj hauthority)
  obtain rfl := Except.ok.inj hu
  exact ⟨host, port, rfl⟩

/-- The basic credentials of a url. -/
def basic? (u : Url) : Option String :=
  u.credentials?.map fun (username, password) => basicCredentials username password

end Url

/-- A base url without an at sign has no credentials. -/
theorem ClientConfig.credentials?_of_new {text : String} {config : ClientConfig}
    (h : ClientConfig.new text = .ok config) (hat : '@' ∉ text.toList) :
    config.apiBaseUrl.credentials? = none := by
  obtain ⟨u, hparse, hweb, -, -, -, rfl⟩ := ClientConfig.parse_of_new h
  obtain ⟨scheme, rest, hread, hrest⟩ := Url.readFromAuthority_of_parse hparse hweb
  have htrim : (Text.trim text).toList = Text.trimChars Text.isBlank text.toList :=
    String.toList_ofList
  have hnotMem : '@' ∉ rest := fun hmem =>
    hat ((Text.trimChars_sublist _ _).mem (htrim ▸ hrest.mem hmem))
  obtain ⟨host, port, hauthority⟩ := Url.authority_readFromAuthority_of_notMem hnotMem hread
  exact Url.credentials?_of_anonymous hauthority

namespace Client

theorem header_sends (client : Client) (u : Url) (request : Request) :
    (client.sends u request).header "authorization" =
      u.basic?.toList ++ (client.token.map bearerCredentials).toList := by
  have hown : (client.authorization u).filter (fun header => header.1 = "authorization") =
      client.authorization u := by
    refine List.filter_eq_self.mpr fun header hmem => ?_
    obtain ⟨_, -, rfl⟩ := List.mem_map.mp hmem
    rfl
  have hcontent : (if request.body.isSome then [("content-type", "application/json")]
      else []).filter (fun header => header.1 = "authorization") = [] := by
    split_ifs <;> rfl
  rw [HttpRequest.header, sends, List.filter_append, hown, hcontent, List.append_nil,
    authorization, List.map_map]
  exact List.map_id _

/-- **How often a caller is named.** What a client sends names the user of the url, if there is
one, and then the token, if there is one. So it has at most one header that says who is calling
unless both are given, and a token is the only answer if and only if the url has no user. A
reference has the user of the base url, and a base url has none unless there is an at sign in its
text. -/
theorem authorization_of_build {text : String} {config : ClientConfig}
    (hconfig : ClientConfig.new text = .ok config) {token : Option String} {request : Request}
    {sent : HttpRequest} (h : Client.build ⟨config.apiBaseUrl, token⟩ request = .ok sent) :
    let base := config.apiBaseUrl
    let answers := sent.header "authorization"
    (∃ u, Client.url ⟨base, token⟩ request = .ok u ∧
      answers = u.basic?.toList ++ (token.map bearerCredentials).toList ∧
      (answers.length ≤ 1 ↔ token = none ∨ u.credentials? = none) ∧
      (∀ t, token = some t → (answers = ["Bearer " ++ t] ↔ u.credentials? = none)) ∧
      ∀ r, Reference.read? base.scheme request.relativePath = some r →
        u.credentials? = base.credentials?) ∧
    ('@' ∉ text.toList → base.credentials? = none) := by
  intro base answers
  obtain ⟨u, hurl, -, -, rfl⟩ := build_eq_ok.mp h
  have hanswers : answers = u.basic?.toList ++ (token.map bearerCredentials).toList :=
    header_sends _ u request
  refine ⟨⟨u, hurl, hanswers, ?_, ?_, ?_⟩, ClientConfig.credentials?_of_new hconfig⟩
  · rw [hanswers, Url.basic?]
    cases token <;> cases u.credentials? <;> simp
  · rintro t rfl
    rw [hanswers, Url.basic?]
    cases u.credentials? <;> simp [bearerCredentials]
  · intro r hread
    obtain ⟨v, hv, -, hauthority, -⟩ :=
      @Client.url_of_read? ⟨base, token⟩ request r (ClientConfig.isDirectory_of_new hconfig) hread
    obtain rfl := Except.ok.inj (hv.symm.trans hurl)
    exact Url.credentials?_congr hauthority

end Client

namespace Sample

/-- The base url without its user. -/
def openUrl : Url :=
  { guardedUrl with authority := some ⟨[], none, some (.domain "localhost".toList), some 5050⟩ }

/-- The url of a request next to a base url. -/
def envsUrl (base : Url) : Url :=
  { base with path := .rooted ["base".toList, "api".toList, "envs".toList] }

/-- What a client sends for a request. -/
def envsSent (client : Client) : HttpRequest :=
  client.sends (envsUrl client.baseUrl) (.get "/api/envs")

end Sample

namespace Client

/-- A base url with a user, without a token and with one; a base url without a user. -/
theorem authorization_of_build_guarded :
    let guarded : Client := ⟨Sample.guardedUrl, none⟩
    let twice : Client := ⟨Sample.guardedUrl, some "abc"⟩
    let plain : Client := ⟨Sample.openUrl, some "abc"⟩
    ClientConfig.new " http://user:pw@localhost:5050/base " =
        .ok { apiBaseUrl := Sample.guardedUrl } ∧
      ClientConfig.new "http://localhost:5050/base" = .ok { apiBaseUrl := Sample.openUrl } ∧
      guarded.build (.get "/api/envs") = .ok (Sample.envsSent guarded) ∧
      ((Sample.envsSent guarded).header "authorization").length ≤ 1 ∧
      twice.build (.get "/api/envs") = .ok (Sample.envsSent twice) ∧
      ¬ ((Sample.envsSent twice).header "authorization").length ≤ 1 ∧
      plain.build (.get "/api/envs") = .ok (Sample.envsSent plain) ∧
      (Sample.envsSent plain).header "authorization" = ["Bearer abc"] := by
  intro guarded twice plain
  have hguarded : ClientConfig.new " http://user:pw@localhost:5050/base " =
      .ok { apiBaseUrl := Sample.guardedUrl } := by decide +kernel
  have hopen : ClientConfig.new "http://localhost:5050/base" =
      .ok { apiBaseUrl := Sample.openUrl } := by decide +kernel
  have hbuild : guarded.build (.get "/api/envs") = .ok (Sample.envsSent guarded) := by
    decide +kernel
  have hbuild₂ : twice.build (.get "/api/envs") = .ok (Sample.envsSent twice) := by
    decide +kernel
  have hbuild₃ : plain.build (.get "/api/envs") = .ok (Sample.envsSent plain) := by
    decide +kernel
  refine ⟨hguarded, hopen, hbuild, ?_, hbuild₂, ?_, hbuild₃, ?_⟩
  · obtain ⟨⟨u, -, -, honce, -⟩, -⟩ := authorization_of_build hguarded hbuild
    exact honce.mpr (.inl rfl)
  · obtain ⟨⟨u, hurl, -, honce, -⟩, -⟩ := authorization_of_build hguarded hbuild₂
    have hu : twice.url (.get "/api/envs") = .ok (Sample.envsUrl Sample.guardedUrl) := by
      decide +kernel
    obtain rfl := Except.ok.inj (hurl.symm.trans hu)
    exact honce.not.mpr (by decide +kernel)
  · obtain ⟨⟨u, -, -, -, htoken, hbase⟩, hclean⟩ := authorization_of_build hopen hbuild₃
    have hread := hbase (.ofPath .http false "api/envs".toList) (by decide +kernel)
    exact (htoken "abc" rfl).mpr (hread.trans (hclean (by decide)))

/-- **A caller is named twice.** Next to a base url with a user, the token is the second answer. -/
theorem named_twice :
    let client := (Client.new { apiBaseUrl := Sample.guardedUrl }).setToken "abc"
    ClientConfig.new "http://user:pw@localhost:5050/base" =
        .ok { apiBaseUrl := Sample.guardedUrl } ∧
      client.build (.get "/api/envs") = .ok (Sample.envsSent client) ∧
      (Sample.envsSent client).header "authorization" =
        ["Basic dXNlcjpwdw==", "Bearer abc"] := by
  intro client
  exact ⟨by decide +kernel, by decide +kernel, by decide +kernel⟩

end Client

end TagCache
