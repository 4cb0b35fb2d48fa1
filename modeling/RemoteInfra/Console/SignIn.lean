import RemoteInfra.Console.TeleopPage
import RemoteInfra.Library.Base64Encoding

/-!
# The sign-in of the operator's page

`startOidcLogin` and `completeOidcRedirect` of `index.html`, over all that one tab of the browser
loads.  The page comes back from the authorization server by a load of its own; what lasts from
load to load is the storage of the tab.
-/

namespace RemoteInfra.Console

open RemoteInfra.Library RemoteInfra.JavaScript

/-! ## Parameters -/

/-- The names and values of a query, in order. -/
abbrev URLSearchParams := List (JSString × JSString)

namespace URLSearchParams

def get (params : URLSearchParams) (name : String) : Option JSString := params.lookup (text name)

/-- `params.get(name) || default`. -/
def getOr (params : URLSearchParams) (name : String) (default : JSString) : JSString :=
  (filled (params.get name)).getD default

def backendURL (params : URLSearchParams) : JSString :=
  params.getOr "backend" (text "https://gateway.wheelos.cn")

def requestedAccess (params : URLSearchParams) : JSString :=
  params.getOr "access" (text "controller")

def casdoorURL (params : URLSearchParams) : JSString :=
  params.getOr "casdoor" (text "https://casdoor.wheelos.cn")

def casdoorClientID (params : URLSearchParams) : JSString :=
  params.getOr "clientId" (text "cfeff3105319b0ac309b")

def oidcAuthorizeURL (params : URLSearchParams) : JSString :=
  params.getOr "authorize" (params.casdoorURL ++ text "/login/oauth/authorize")

def oidcTokenURL (params : URLSearchParams) : JSString :=
  params.getOr "tokenEndpoint" (params.casdoorURL ++ text "/api/login/oauth/access_token")

def dev (params : URLSearchParams) : Bool := params.get "dev" = some (text "1")

end URLSearchParams

/-- What the sign-in of a page uses. -/
structure Browser (Key : Type) where
  /-- the signature of a text in base64 -/
  sign : Key → JSString → JSString
  /-- the SHA-256 of a text in UTF-8 -/
  sha256 : JSString → List UInt8
  /-- the page's own address, without a query -/
  redirectURI : JSString

def Browser.config {Key : Type} (browser : Browser Key) (params : URLSearchParams) :
    PageConfig Key where
  sign := browser.sign
  dev := params.dev
  controller := params.requestedAccess = text "controller"

def toBase64Url (bytes : List UInt8) : JSString := ofChars (Base64.encodeUrl bytes)

/-- The query that goes to the authorization server. -/
def authorizeQuery {Key : Type} (browser : Browser Key) (params : URLSearchParams)
    (state verifier : JSString) : URLSearchParams :=
  [(text "response_type", text "code"),
    (text "client_id", params.casdoorClientID),
    (text "redirect_uri", browser.redirectURI),
    (text "scope", text "openid profile teleop:observe teleop:control"),
    (text "state", state),
    (text "code_challenge", toBase64Url (browser.sha256 verifier)),
    (text "code_challenge_method", text "S256")]

/-- The body that goes to the token endpoint. -/
def tokenBody {Key : Type} (browser : Browser Key) (params : URLSearchParams)
    (code verifier : JSString) : URLSearchParams :=
  [(text "grant_type", text "authorization_code"),
    (text "client_id", params.casdoorClientID),
    (text "code", code),
    (text "redirect_uri", browser.redirectURI),
    (text "code_verifier", verifier)]

/-! ## The tab -/

/-- What is left of a function of the sign-in after an await. -/
inductive SignInRest
  | startOidcLogin (verifier : JSString)
  | completeOidcRedirect

inductive SignInRequest
  | authorize (url : JSString) (query : URLSearchParams)
  | token (url : JSString) (body : URLSearchParams)

structure Tab (Key : Type) where
  /-- `teleop.oidc.state` -/
  storedState : Option JSString
  /-- `teleop.oidc.verifier` -/
  storedVerifier : Option JSString
  /-- what the page was loaded with -/
  params : URLSearchParams
  page : TeleopPage Key
  rest : Arena SignInRest
  /-- every request of a sign-in so far, whatever load it was made by -/
  requests : List SignInRequest

namespace Tab

variable {Key : Type}

/-- A new tab, with nothing loaded. -/
def initial : Tab Key where
  storedState := none
  storedVerifier := none
  params := []
  page := .initial
  rest := .empty
  requests := []

def checkLoginState (t : Tab Key) : Tab Key := { t with page := t.page.checkLoginState }

/-- `completeOidcRedirect` up to its request, and `checkLoginState` where it ends before. -/
def completeOidcRedirect (browser : Browser Key) (t : Tab Key) : Tab Key :=
  match filled (t.params.get "code") with
  | none => t.checkLoginState
  | some code =>
      let cleared := { t with storedState := none, storedVerifier := none }
      match filled t.storedVerifier, filled t.storedState with
      | some verifier, some expectedState =>
          if t.params.get "state" = some expectedState then
            { cleared with
              requests := cleared.requests ++
                [.token t.params.oidcTokenURL (tokenBody browser t.params code verifier)]
              rest := cleared.rest.add .completeOidcRedirect }
          else cleared.checkLoginState
      | _, _ => cleared.checkLoginState

/-- A load of the page and its `window.onload`. -/
def load (browser : Browser Key) (t : Tab Key) (params : URLSearchParams) : Tab Key :=
  let loaded := { t with params := params, page := .initial, rest := .empty }
  if params.dev then loaded.checkLoginState else loaded.completeOidcRedirect browser

/-- `handleAuth`, where `verifierBytes` are what `startOidcLogin` draws first. -/
def handleAuth (browser : Browser Key) (t : Tab Key) (prompted : Option JSString)
    (verifierBytes : Vector UInt8 32) : Tab Key :=
  let handled := { t with page := t.page.handle (browser.config t.params) (.handleAuth prompted) }
  match filled t.page.accessToken, t.params.dev with
  | none, false =>
      { handled with rest := handled.rest.add (.startOidcLogin (toBase64Url verifierBytes.toList)) }
  | _, _ => handled

/-- `startOidcLogin` from its digest on; `stateBytes` are what it draws then. -/
def leave (browser : Browser Key) (t : Tab Key) (verifier : JSString)
    (stateBytes : Vector UInt8 24) : Tab Key :=
  let state := toBase64Url stateBytes.toList
  { t with
    storedVerifier := some verifier
    storedState := some state
    requests := t.requests ++
      [.authorize t.params.oidcAuthorizeURL (authorizeQuery browser t.params state verifier)] }

/-- `completeOidcRedirect` from its answer on, which has no token if anything failed. -/
def signedIn (browser : Browser Key) (t : Tab Key) (answer : Option JSString) : Tab Key :=
  match filled answer with
  | none => t.checkLoginState
  | some token =>
      { t with page := t.page.handle (browser.config t.params) (.signedIn token) }.checkLoginState

end Tab

/-- What may happen to the tab. -/
inductive TabEvent (Key : Type)
  | load (params : URLSearchParams)
  | handleAuth (prompted : Option JSString) (verifierBytes : Vector UInt8 32)
  /-- any other event of the page -/
  | page (e : PageEvent Key) (hsignedIn : ∀ token, e ≠ .signedIn token)
    (hhandleAuth : ∀ prompted, e ≠ .handleAuth prompted)
  | digested (i : ℕ) (stateBytes : Vector UInt8 24)
  | exchanged (i : ℕ) (answer : Option JSString)

def Tab.handle {Key : Type} (browser : Browser Key) (t : Tab Key) : TabEvent Key → Tab Key
  | .load params => t.load browser params
  | .handleAuth prompted verifierBytes => t.handleAuth browser prompted verifierBytes
  | .page e _ _ => { t with page := t.page.handle (browser.config t.params) e }
  | .digested i stateBytes =>
      match t.rest.get i with
      | some (.startOidcLogin verifier) =>
          { t with rest := t.rest.remove i }.leave browser verifier stateBytes
      | _ => t
  | .exchanged i answer =>
      match t.rest.get i with
      | some .completeOidcRedirect => { t with rest := t.rest.remove i }.signedIn browser answer
      | _ => t

/-! ## The tab and the authorization server -/

/-- The code that the authorization server grants for an authorization request. -/
structure Grant where
  query : URLSearchParams
  code : JSString

/-- The parameters of the redirect by which the server answers. -/
def Grant.callback (g : Grant) (state : JSString) : URLSearchParams :=
  [(text "code", g.code), (text "state", state)]

structure SignInWorld (Key : Type) where
  tab : Tab Key
  grants : List Grant

inductive SignInLabel (Key : Type)
  | tab (e : TabEvent Key)
  /-- the server of the page's own configuration grants a code, whoever asks -/
  | grant (g : Grant)

def signInSystem {Key : Type} (browser : Browser Key) :
    TransitionSystem (SignInWorld Key) (SignInLabel Key) where
  Init w := w.tab = .initial ∧ w.grants = []
  Step w l w' :=
    match l with
    | .tab e => w' = { w with tab := w.tab.handle browser e }
    | .grant g => w' = { w with grants := w.grants ++ [g] }

/-- The tab has sent the query to the authorization server of the page's own configuration. -/
def SignInWorld.Asked {Key : Type} (w : SignInWorld Key) (query : URLSearchParams) : Prop :=
  .authorize (URLSearchParams.oidcAuthorizeURL []) query ∈ w.tab.requests

/-- Asked of every step: nobody guesses a state.  A draw is new; with a state that only the server
was told, a code comes by the redirect of that server, and a request is the tab's own. -/
def Unguessed {Key : Type} :
    TransitionSystem.StepCondition (SignInWorld Key) (SignInLabel Key)
  | ls, w, .tab (.digested _ stateBytes) =>
      (∀ i earlier, .tab (.digested i earlier) ∈ ls → earlier ≠ stateBytes) ∧
        ∀ g ∈ w.grants, g.query.get "state" ≠ some (toBase64Url stateBytes.toList)
  | _, w, .tab (.load params) =>
      (filled (params.get "code")).isSome → ∀ query state, w.Asked query →
        query.get "state" = some state → params.get "state" = some state →
          ∃ g ∈ w.grants, g.query.get "state" = some state ∧ params = g.callback state
  | _, w, .grant g =>
      ∀ query state, w.Asked query → query.get "state" = some state →
        g.query.get "state" = some state → w.Asked g.query
  | _, _, _ => True

end RemoteInfra.Console
