import TagCache.Text.Blank
import TagCache.Url.Parser

/-!
# Configuration

A client is configured by the base url of the API and, if calls are authenticated, by the settings
of a token provider. Every url of a configuration is an `http` or `https` url without query and
fragment, and the base url is a directory: relative paths are resolved below it. Settings are
looked up by name; a blank one counts as missing.
-/

namespace TagCache

/-! ## Settings -/

/-- What can be configured. -/
inductive Setting where
  | apiBaseUrl
  | oidcClientId
  | oidcClientSecret
  | oidcAuthority
  | oidcRedirectUri
  | oidcPostLogoutRedirectUri
  deriving DecidableEq, Repr

/-- The name that a setting is looked up by. -/
def Setting.name : Setting → String
  | apiBaseUrl => "API_BASE_URL"
  | oidcClientId => "OIDC_CLIENT_ID"
  | oidcClientSecret => "OIDC_CLIENT_SECRET"
  | oidcAuthority => "OIDC_AUTHORITY"
  | oidcRedirectUri => "OIDC_REDIRECT_URI"
  | oidcPostLogoutRedirectUri => "OIDC_POST_LOGOUT_REDIRECT_URI"

/-- The values of settings. -/
abbrev Lookup := Setting → Option String

/-- The value of a setting without white space at its ends, unless nothing else is there. -/
def Lookup.value? (lookup : Lookup) (setting : Setting) : Option String :=
  ((lookup setting).map Text.trim).filter (· ≠ "")

/-! ## Errors -/

/-- Why a text cannot be the url of a configuration. -/
inductive UrlFault where
  | malformed (error : UrlError)
  | unsupportedScheme (scheme : Scheme)
  | missingHost
  | queryOrFragment
  deriving DecidableEq, Repr

/-- The wording of a fault. -/
def UrlFault.message : UrlFault → String
  | malformed error => error.message
  | unsupportedScheme scheme => "unsupported scheme " ++ scheme.text
  | missingHost => "missing host"
  | queryOrFragment => "query and fragment are not allowed"

/-- Why there is no configuration. -/
inductive ConfigError where
  | missing (setting : Setting)
  | invalidUrl (setting : Setting) (value : String) (fault : UrlFault)
  deriving DecidableEq, Repr

/-- The wording of an error. -/
def ConfigError.message : ConfigError → String
  | missing setting => "missing configuration value " ++ setting.name
  | invalidUrl setting value fault =>
    setting.name ++ " is not a valid http(s) url \"" ++ value ++ "\": " ++ fault.message

/-! ## Urls of a configuration -/

/-- The url of a setting. -/
def readWebUrl (setting : Setting) (value : String) : Except ConfigError Url :=
  let refuse (fault : UrlFault) : Except ConfigError Url :=
    .error (.invalidUrl setting value fault)
  match Url.parse (Text.trim value).toList with
  | .error e => refuse (.malformed e)
  | .ok url =>
    if !url.scheme.isWeb then refuse (.unsupportedScheme url.scheme)
    else if url.host?.isNone then refuse .missingHost
    else if url.query.isSome || url.fragment.isSome then refuse .queryOrFragment
    else .ok url

/-! ## Configurations -/

/-- The settings of a provider of access tokens. -/
structure OidcConfig where
  clientId : String
  clientSecret : Option String
  authority : Url
  redirectUri : Url
  postLogoutRedirectUri : Option Url
  deriving DecidableEq, Repr

/-- The settings of a provider, if a client id is given. What is missing is reported before what is
invalid. -/
def OidcConfig.ofLookup (lookup : Lookup) : Except ConfigError (Option OidcConfig) := do
  let some clientId := lookup.value? .oidcClientId | return none
  let some authority := lookup.value? .oidcAuthority | throw (.missing .oidcAuthority)
  let some redirectUri := lookup.value? .oidcRedirectUri | throw (.missing .oidcRedirectUri)
  return some {
    clientId := clientId
    clientSecret := lookup.value? .oidcClientSecret
    authority := ← readWebUrl .oidcAuthority authority
    redirectUri := ← readWebUrl .oidcRedirectUri redirectUri
    postLogoutRedirectUri := ← (lookup.value? .oidcPostLogoutRedirectUri).mapM
      (readWebUrl .oidcPostLogoutRedirectUri) }

/-- The configuration of a client. -/
structure ClientConfig where
  /-- The url that the paths of requests are resolved against. Its path ends with a slash. -/
  apiBaseUrl : Url
  /-- The provider of tokens, unless calls are anonymous. -/
  oidc : Option OidcConfig := none
  /-- How long an answer may take, in milliseconds. -/
  timeout : Nat := 30000
  deriving DecidableEq, Repr

namespace ClientConfig

/-- The configuration for a base url, without authentication. -/
def new (apiBaseUrl : String) : Except ConfigError ClientConfig := do
  let url ← readWebUrl .apiBaseUrl apiBaseUrl
  return { apiBaseUrl := { url with path := url.path.asDirectory } }

/-- The configuration that settings describe. -/
def ofLookup (lookup : Lookup) : Except ConfigError ClientConfig := do
  let some apiBaseUrl := lookup.value? .apiBaseUrl | throw (.missing .apiBaseUrl)
  let config ← new apiBaseUrl
  return { config with oidc := ← OidcConfig.ofLookup lookup }

/-- The configuration with a provider of tokens. -/
def withOidc (config : ClientConfig) (oidc : OidcConfig) : ClientConfig :=
  { config with oidc := some oidc }

/-- The configuration with another timeout. -/
def withTimeout (config : ClientConfig) (milliseconds : Nat) : ClientConfig :=
  { config with timeout := milliseconds }

end ClientConfig

end TagCache
