import RemoteInfra.Console.PageMoves
import RemoteInfra.Console.SignIn

/-!
# Whom the operator's page signs in

Every exchange of a code answers the authorization request that the tab sent right before it, and
a page bears a token only after an exchange of its own.  As nobody guesses a state, a login that
began at the server of the page's own configuration ends with a code that this server granted for
it, on a page that was loaded with nothing but that code.
-/

namespace RemoteInfra.Console

open RemoteInfra.Library RemoteInfra.JavaScript RemoteInfra.Python

variable {Key : Type} {browser : Browser Key}

/-! ## Texts -/

theorem eq_some_of_filled {x : Option JSString} {s : JSString} (h : filled x = some s) :
    x = some s := by
  unfold filled at h
  split at h
  · exact h
  · cases h

theorem letter_code_lt : ∀ n < 64, (Base64.urlSafe (Base64.letter n)).toNat < 0xD800 := by decide

theorem toBase64Url_injective : Function.Injective toBase64Url := by
  intro bytes bytes' h
  have hcode : ∀ bytes, codePoints (toBase64Url bytes) = PyStr.ofList (Base64.encodeUrl bytes) := by
    intro bytes
    have hcodes : ∀ c ∈ Base64.encodeUrl bytes, c.toNat < 0xD800 := by
      intro c hc
      obtain ⟨body, hbody⟩ := Base64.encodes bytes
      rw [hbody.encodeUrl_eq] at hc
      obtain ⟨_, hletter, rfl⟩ := List.mem_map.mp hc
      obtain ⟨n, hn, rfl⟩ := hbody.mem _ hletter
      exact letter_code_lt n hn
    simpa [toBase64Url, codePoints] using codePoints_ofChars hcodes []
  apply Base64.encodeUrl_injective
  apply PyStr.ofList_injective
  rw [← hcode, h, hcode]

/-! ## A page without a token -/

/-- The requests of the page that bear its token; those of a sender bear the one that the sender
was made with. -/
def PageEffect.bears : PageEffect Key → Bool
  | .acquire _ _ _ _ | .renew _ _ | .release _ _ | .observe _ _ | .identity _ => true
  | .sign _ _ _ _ | .publish _ _ | .connect _ _ | .disconnect _ => false

namespace TeleopPage

/-- No token has reached the page. -/
structure Tokenless (p : TeleopPage Key) : Prop where
  accessToken : p.accessToken = none
  secureSender : p.secureSender = none
  senders : ∀ s, p.senders.get s = none
  effects : ∀ x ∈ p.effects, x.bears = false

theorem tokenless_initial : (initial : TeleopPage Key).Tokenless :=
  ⟨rfl, rfl, fun _ ↦ rfl, fun _ hx ↦ nomatch hx⟩

variable {p p' : TeleopPage Key}

theorem Tokenless.congr (h : p.Tokenless) (htoken : p'.accessToken = p.accessToken)
    (hsender : p'.secureSender = p.secureSender) (hsenders : p'.senders = p.senders)
    (heffects : p'.effects = p.effects) : p'.Tokenless :=
  ⟨htoken.trans h.accessToken, hsender.trans h.secureSender,
    fun s ↦ hsenders ▸ h.senders s, heffects ▸ h.effects⟩

theorem Tokenless.emit (h : p.Tokenless) {x : PageEffect Key} (hx : x.bears = false) :
    (p.emit x).Tokenless where
  accessToken := h.accessToken
  secureSender := h.secureSender
  senders := h.senders
  effects := by
    intro y hy
    rcases List.mem_append.mp hy with hold | hnew
    · exact h.effects y hold
    · exact List.mem_singleton.mp hnew ▸ hx

theorem Tokenless.suspend (h : p.Tokenless) (rest : Suspended Key) : (p.suspend rest).Tokenless :=
  h.congr rfl rfl rfl rfl

theorem Tokenless.clearInterval (h : p.Tokenless) (timer : Option ℕ) :
    (p.clearInterval timer).Tokenless := by
  cases timer <;> exact h.congr rfl rfl rfl rfl

theorem Tokenless.modifySender (h : p.Tokenless) (s : ℕ)
    (f : ConsoleSender Key → ConsoleSender Key) : (p.modifySender s f).Tokenless where
  accessToken := h.accessToken
  secureSender := h.secureSender
  senders := by
    intro u
    by_contra hsome
    obtain ⟨sender, hsender⟩ := Option.ne_none_iff_exists'.mp hsome
    rcases (Arena.get_modify_iff f).mp hsender with ⟨-, sender, hget, -⟩ | ⟨-, hget⟩
    · cases (h.senders s).symm.trans hget
    · cases (h.senders u).symm.trans hget
  effects := h.effects

theorem Tokenless.clearActiveCommand (h : p.Tokenless) : p.clearActiveCommand.Tokenless :=
  (h.clearInterval p.activeCommandTimer).congr rfl rfl rfl rfl

theorem Tokenless.stopControlSession (h : p.Tokenless) : p.stopControlSession.Tokenless := by
  have hstopped : ({ p with secureSender := none, canControl := false } :
      TeleopPage Key).Tokenless := h.congr rfl h.secureSender.symm rfl rfl
  simp only [TeleopPage.stopControlSession, h.secureSender]
  exact hstopped.clearActiveCommand

theorem Tokenless.sendCommand (h : p.Tokenless) (sign : Key → JSString → JSString)
    (command : ControlCommand) (now : SafeInteger) :
    p.sendCommand sign command now = p := by
  obtain heq | ⟨s, -, hcurrent, -⟩ := sendCommand_cases p sign command now
  · exact heq
  · cases h.secureSender.symm.trans hcurrent

theorem Tokenless.endCommand (h : p.Tokenless) (sign : Key → JSString → JSString)
    (now : SafeInteger) : (p.endCommand sign now).Tokenless := by
  rw [TeleopPage.endCommand, h.clearActiveCommand.sendCommand]
  exact h.clearActiveCommand

theorem Tokenless.beginCommand (h : p.Tokenless) (sign : Key → JSString → JSString)
    (command : ControlCommand) (ended begun : SafeInteger) :
    (p.beginCommand sign command ended begun).Tokenless := by
  have hheld : ({ p.endCommand sign ended with activeCommand := some command } :
      TeleopPage Key).Tokenless := (h.endCommand sign ended).congr rfl rfl rfl rfl
  rw [TeleopPage.beginCommand, hheld.sendCommand]
  exact hheld.congr rfl rfl rfl rfl

theorem Tokenless.checkLoginState (h : p.Tokenless) : p.checkLoginState = p := by
  rw [TeleopPage.checkLoginState, h.accessToken]
  rfl

theorem Tokenless.leaveRoom (h : p.Tokenless) (room : ℕ) :
    ({ p with currentRoom := none }.emit (.disconnect room)).Tokenless := by
  have hleft : ({ p with currentRoom := none } : TeleopPage Key).Tokenless :=
    h.congr rfl rfl rfl rfl
  exact hleft.emit rfl

theorem Tokenless.catchFailure (h : p.Tokenless) : p.catchFailure.Tokenless :=
  h.stopControlSession.suspend _

theorem Tokenless.joinRoom (h : p.Tokenless) (controls : Bool) (token : Option JSString) :
    ({ p with canControl := controls }.joinRoom token).Tokenless := by
  have hjoined : ({ p with
      canControl := controls
      currentRoom := some p.rooms
      rooms := p.rooms + 1 } : TeleopPage Key).Tokenless := h.congr rfl rfl rfl rfl
  exact (hjoined.emit rfl).suspend _

theorem Tokenless.tick (h : p.Tokenless) (sign : Key → JSString → JSString) (now : SafeInteger)
    (callback : Interval) : (p.tick sign now callback).Tokenless := by
  cases callback with
  | renew s =>
      simp only [TeleopPage.tick, TeleopPage.renew, sessionOf, h.senders s]
      exact h
  | sendActiveCommand =>
      cases hactive : p.activeCommand with
      | some command =>
          simp only [TeleopPage.tick, hactive, h.sendCommand]
          exact h
      | none =>
          simp only [TeleopPage.tick, hactive]
          split
          · cases h.secureSender.symm.trans ‹_›
          · exact h

theorem Tokenless.resume (h : p.Tokenless) (rest : Suspended Key) (answer : Answer Key) :
    (p.resume rest answer).Tokenless := by
  unfold TeleopPage.resume
  split
  · exact (h.modifySender _ _).suspend _
  · exact (h.modifySender _ _).suspend _
  · simp only [h.secureSender]
    exact h.catchFailure
  · exact (h.modifySender _ _).suspend _
  · exact h.joinRoom true _
  · exact h.joinRoom false _
  · unfold roomConnected
    split_ifs
    · simp only [h.secureSender]
      exact h.catchFailure
    · exact h
  · exact h.suspend _
  · exact h.suspend _
  · exact h.suspend _
  · exact h.catchFailure
  · exact h.catchFailure
  · exact h.catchFailure
  · split
    · exact h
    · exact h.leaveRoom _
  · split
    · exact h
    · exact h.emit rfl
  · exact h.congr h.accessToken.symm rfl rfl rfl
  · exact h
  · exact h

/-- Only a sign-in brings a page its token. -/
theorem Tokenless.handle (h : p.Tokenless) {config : PageConfig Key} {e : PageEvent Key}
    (hsignedIn : ∀ token, e ≠ .signedIn token)
    (hprompted : ∀ prompted, e = .handleAuth prompted → config.dev = false) :
    (p.handle config e).Tokenless := by
  cases e with
  | signedIn token => exact absurd rfl (hsignedIn token)
  | checkLoginState =>
      rw [TeleopPage.handle, h.checkLoginState]
      exact h
  | handleAuth prompted =>
      simp only [TeleopPage.handle, handleAuth, h.accessToken, hprompted prompted rfl]
      exact h
  | startTeleop vehicleID =>
      simp only [TeleopPage.handle, startTeleop, h.accessToken]
      exact h
  | stopTeleop =>
      simp only [TeleopPage.handle, stopTeleop]
      split
      · exact h.stopControlSession
      · exact (h.leaveRoom _).stopControlSession
  | send press now =>
      rw [TeleopPage.handle, h.sendCommand]
      exact h
  | beginCommand press ended begun => exact h.beginCommand _ _ _ _
  | endCommand now => exact h.endCommand _ _
  | setCommandMode mode now =>
      simp only [TeleopPage.handle, setCommandMode]
      split_ifs
      · exact h
      · exact h.endCommand _ _
      · exact h
  | pagehide =>
      simp only [TeleopPage.handle, h.secureSender]
      exact h
  | disconnected => exact h.stopControlSession.congr rfl rfl rfl rfl
  | interval id now =>
      simp only [TeleopPage.handle]
      split
      · exact h
      · exact h.tick _ _ _
  | resume i answer =>
      simp only [TeleopPage.handle]
      split
      · exact h
      · have htaken : ({ p with suspended := p.suspended.remove i } :
            TeleopPage Key).Tokenless := h.congr rfl rfl rfl rfl
        exact htaken.resume _ _

end TeleopPage

/-! ## What an exchange completes -/

/-- An exchange on a page with these parameters completes the login that the query began: it
verifies the query's challenge, and the page came back with a code granted for the query if that
went to the server of the page's own configuration. -/
structure Completes (browser : Browser Key) (grants : List Grant) (authorizeURL : JSString)
    (query params : URLSearchParams) (url : JSString) (body : URLSearchParams) : Prop where
  verifies : ∃ verifier, body.get "code_verifier" = some verifier ∧
    query.get "code_challenge" = some (toBase64Url (browser.sha256 verifier))
  url_eq : url = params.oidcTokenURL
  granted : authorizeURL = URLSearchParams.oidcAuthorizeURL [] →
    ∃ g ∈ grants, g.query = query ∧ body.get "code" = some g.code ∧
      ∃ state, params = g.callback state

theorem Completes.mono {grants grants' : List Grant} {authorizeURL url : JSString}
    {query params body : URLSearchParams}
    (h : Completes browser grants authorizeURL query params url body) (hle : grants ⊆ grants') :
    Completes browser grants' authorizeURL query params url body where
  verifies := h.verifies
  url_eq := h.url_eq
  granted hown := by
    obtain ⟨g, hg, hrest⟩ := h.granted hown
    exact ⟨g, hle hg, hrest⟩

/-- The page in the tab has completed a login that the tab began. -/
def OwnLogin (browser : Browser Key) (w : SignInWorld Key) : Prop :=
  ∃ earlier authorizeURL query url body after,
    w.tab.requests = earlier ++ .authorize authorizeURL query :: .token url body :: after ∧
      Completes browser w.grants authorizeURL query w.tab.params url body

theorem OwnLogin.mono {w w' : SignInWorld Key} (h : OwnLogin browser w)
    (hparams : w'.tab.params = w.tab.params) (hrequests : w.tab.requests <+: w'.tab.requests)
    (hgrants : w.grants ⊆ w'.grants) : OwnLogin browser w' := by
  obtain ⟨earlier, authorizeURL, query, url, body, after, heq, hcompletes⟩ := h
  obtain ⟨more, hmore⟩ := hrequests
  refine ⟨earlier, authorizeURL, query, url, body, after ++ more, ?_, ?_⟩
  · rw [← hmore, heq]
    simp
  · rw [hparams]
    exact hcompletes.mono hgrants

/-- The requests that the tab has made, in the light of what was drawn and granted. -/
structure RequestsSound (browser : Browser Key) (ls : List (SignInLabel Key))
    (w : SignInWorld Key) : Prop where
  drawn : ∀ url query, .authorize url query ∈ w.tab.requests → ∃ i stateBytes,
    .tab (.digested i stateBytes) ∈ ls ∧
      query.get "state" = some (toBase64Url stateBytes.toList)
  unique : ∀ url query url' query', .authorize url query ∈ w.tab.requests →
    .authorize url' query' ∈ w.tab.requests → query.get "state" = query'.get "state" →
      query = query'
  granted : ∀ g ∈ w.grants, ∀ query, w.Asked query →
    g.query.get "state" = query.get "state" → g.query = query
  stored : ∀ state verifier, w.tab.storedState = some state →
    w.tab.storedVerifier = some verifier → ∃ earlier url query,
      w.tab.requests = earlier ++ [.authorize url query] ∧ query.get "state" = some state ∧
        query.get "code_challenge" = some (toBase64Url (browser.sha256 verifier))
  completed : ∀ before url body after, w.tab.requests = before ++ .token url body :: after →
    ∃ earlier authorizeURL query params, before = earlier ++ [.authorize authorizeURL query] ∧
      Completes browser w.grants authorizeURL query params url body

/-- A page bears a token only once it has completed a login of the tab. -/
structure PageSound (browser : Browser Key) (w : SignInWorld Key) : Prop where
  pending : ∀ i, w.tab.rest.get i = some .completeOidcRedirect → OwnLogin browser w
  signedIn : w.tab.params.dev = false → w.tab.page.Tokenless ∨ OwnLogin browser w

section Steps

variable {ls : List (SignInLabel Key)} {w w' : SignInWorld Key} {l : SignInLabel Key}

/-! ### The requests -/

theorem RequestsSound.keep (h : RequestsSound browser ls w)
    (hrequests : w'.tab.requests = w.tab.requests) (hgrants : w'.grants = w.grants)
    (hstored : w'.tab.storedState = w.tab.storedState ∧
      w'.tab.storedVerifier = w.tab.storedVerifier ∨ w'.tab.storedState = none) :
    RequestsSound browser (ls ++ [l]) w' where
  drawn url query hmem := by
    obtain ⟨i, stateBytes, hdrawn, heq⟩ := h.drawn url query (hrequests ▸ hmem)
    exact ⟨i, stateBytes, List.mem_append_left _ hdrawn, heq⟩
  unique := by
    rw [hrequests]
    exact h.unique
  granted := by
    intro g hg query hasked
    rw [hgrants] at hg
    rw [SignInWorld.Asked, hrequests] at hasked
    exact h.granted g hg query hasked
  stored := by
    intro state verifier hstate hverifier
    rw [hrequests]
    rcases hstored with ⟨hsame, hsame'⟩ | hnone
    · exact h.stored state verifier (hsame ▸ hstate) (hsame' ▸ hverifier)
    · cases hnone.symm.trans hstate
  completed := by
    rw [hrequests, hgrants]
    exact h.completed

/-- A login begins with a state that nothing had before. -/
theorem RequestsSound.leave (h : RequestsSound browser ls w) {i : ℕ} {verifier : JSString}
    {stateBytes : Vector UInt8 24}
    (hnew : Unguessed ls w (.tab (.digested i stateBytes)))
    (hrequests : w'.tab.requests = w.tab.requests ++ [.authorize w.tab.params.oidcAuthorizeURL
      (authorizeQuery browser w.tab.params (toBase64Url stateBytes.toList) verifier)])
    (hgrants : w'.grants = w.grants)
    (hstate : w'.tab.storedState = some (toBase64Url stateBytes.toList))
    (hverifier : w'.tab.storedVerifier = some verifier) :
    RequestsSound browser (ls ++ [.tab (.digested i stateBytes)]) w' := by
  set asked := authorizeQuery browser w.tab.params (toBase64Url stateBytes.toList) verifier
  have hstateOf : asked.get "state" = some (toBase64Url stateBytes.toList) := rfl
  have hfresh : ∀ url query, .authorize url query ∈ w.tab.requests →
      query.get "state" ≠ asked.get "state" := by
    intro url query hmem hsame
    obtain ⟨j, earlier, hdrawn, heq⟩ := h.drawn url query hmem
    have hbytes := toBase64Url_injective (Option.some.inj (heq.symm.trans hsame))
    exact hnew.1 j earlier hdrawn (Vector.toList_inj.mp hbytes)
  have hcases : ∀ url query, .authorize url query ∈ w'.tab.requests →
      .authorize url query ∈ w.tab.requests ∨ query = asked := by
    intro url query hmem
    rw [hrequests] at hmem
    rcases List.mem_append.mp hmem with hold | hlast
    · exact .inl hold
    · obtain ⟨-, rfl⟩ := SignInRequest.authorize.inj (List.mem_singleton.mp hlast)
      exact .inr rfl
  constructor
  · intro url query hmem
    rcases hcases url query hmem with hold | rfl
    · obtain ⟨j, earlier, hdrawn, heq⟩ := h.drawn url query hold
      exact ⟨j, earlier, List.mem_append_left _ hdrawn, heq⟩
    · exact ⟨i, stateBytes, by simp, rfl⟩
  · intro url query url' query' hmem hmem' hsame
    rcases hcases url query hmem with hold | rfl
    · rcases hcases url' query' hmem' with hold' | rfl
      · exact h.unique url query url' query' hold hold' hsame
      · exact absurd hsame (hfresh url query hold)
    · rcases hcases url' query' hmem' with hold' | rfl
      · exact absurd hsame.symm (hfresh url' query' hold')
      · rfl
  · intro g hg query hasked hsame
    rw [hgrants] at hg
    rcases hcases _ query hasked with hold | rfl
    · exact h.granted g hg query hold hsame
    · exact absurd (hsame.trans hstateOf) (hnew.2 g hg)
  · intro state verifier' hstate' hverifier'
    obtain rfl := Option.some.inj (hstate.symm.trans hstate')
    obtain rfl := Option.some.inj (hverifier.symm.trans hverifier')
    exact ⟨_, _, _, hrequests, rfl, rfl⟩
  · intro before url body after hsplit
    rw [hrequests] at hsplit
    rcases List.eq_nil_or_concat after with rfl | ⟨after, last, rfl⟩
    · cases (List.append_inj' hsplit rfl).2
    · have hsplit' : w.tab.requests ++ [.authorize w.tab.params.oidcAuthorizeURL asked] =
          (before ++ .token url body :: after) ++ [last] := by
        simpa using hsplit
      rw [hgrants]
      exact h.completed before url body after (List.append_inj' hsplit' rfl).1

/-- A grant for a state of the tab is one for the tab's own request. -/
theorem RequestsSound.grant (h : RequestsSound browser ls w) {g : Grant}
    (hasked : Unguessed ls w (.grant g)) :
    RequestsSound browser (ls ++ [.grant g]) { w with grants := w.grants ++ [g] } where
  drawn url query hmem := by
    obtain ⟨i, stateBytes, hdrawn, heq⟩ := h.drawn url query hmem
    exact ⟨i, stateBytes, List.mem_append_left _ hdrawn, heq⟩
  unique := h.unique
  granted := by
    intro g' hg' query hown hsame
    rcases List.mem_append.mp hg' with hold | hlast
    · exact h.granted g' hold query hown hsame
    · obtain rfl := List.mem_singleton.mp hlast
      obtain ⟨i, stateBytes, -, hstate⟩ := h.drawn _ query hown
      have hown' := hasked query _ hown hstate (hsame.trans hstate)
      exact h.unique _ _ _ _ hown' hown hsame
  stored := h.stored
  completed := by
    intro before url body after hsplit
    obtain ⟨earlier, authorizeURL, query, params, heq, hcompletes⟩ :=
      h.completed before url body after hsplit
    exact ⟨earlier, authorizeURL, query, params, heq,
      hcompletes.mono (List.subset_append_left _ _)⟩

/-- The exchange that a callback leads to completes the login that the tab has stored. -/
theorem RequestsSound.completes (h : RequestsSound browser ls w) {params : URLSearchParams}
    {code state verifier : JSString} (hload : Unguessed ls w (.tab (.load params)))
    (hcode : filled (params.get "code") = some code) (hstate : params.get "state" = some state)
    (hstored : w.tab.storedState = some state) (hverifier : w.tab.storedVerifier = some verifier) :
    ∃ earlier authorizeURL query, w.tab.requests = earlier ++ [.authorize authorizeURL query] ∧
      Completes browser w.grants authorizeURL query params params.oidcTokenURL
        (tokenBody browser params code verifier) := by
  obtain ⟨earlier, authorizeURL, query, hrequests, hqueryState, hchallenge⟩ :=
    h.stored state verifier hstored hverifier
  refine ⟨earlier, authorizeURL, query, hrequests, ⟨verifier, rfl, hchallenge⟩, rfl, ?_⟩
  rintro rfl
  have hasked : w.Asked query := by
    rw [SignInWorld.Asked, hrequests]
    simp
  obtain ⟨g, hg, hgranted, rfl⟩ :=
    hload (by rw [hcode, Option.isSome_some]) query state hasked hqueryState hstate
  refine ⟨g, hg, h.granted g hg query hasked (hgranted.trans hqueryState.symm), ?_, state, rfl⟩
  exact (eq_some_of_filled hcode).symm

theorem RequestsSound.exchange (h : RequestsSound browser ls w) {url : JSString}
    {body : URLSearchParams}
    (hcompletes : ∃ earlier authorizeURL query params,
      w.tab.requests = earlier ++ [.authorize authorizeURL query] ∧
        Completes browser w.grants authorizeURL query params url body)
    (hrequests : w'.tab.requests = w.tab.requests ++ [.token url body])
    (hgrants : w'.grants = w.grants) (hstored : w'.tab.storedState = none) :
    RequestsSound browser (ls ++ [l]) w' := by
  have hold : ∀ url' query, .authorize url' query ∈ w'.tab.requests →
      .authorize url' query ∈ w.tab.requests := by
    intro url' query hmem
    rw [hrequests] at hmem
    rcases List.mem_append.mp hmem with hold | hlast
    · exact hold
    · cases List.mem_singleton.mp hlast
  constructor
  · intro url' query hmem
    obtain ⟨i, stateBytes, hdrawn, heq⟩ := h.drawn url' query (hold _ _ hmem)
    exact ⟨i, stateBytes, List.mem_append_left _ hdrawn, heq⟩
  · exact fun _ _ _ _ hmem hmem' ↦ h.unique _ _ _ _ (hold _ _ hmem) (hold _ _ hmem')
  · intro g hg query hasked
    exact h.granted g (hgrants ▸ hg) query (hold _ _ hasked)
  · intro state verifier hstate
    cases hstored.symm.trans hstate
  · intro before url' body' after hsplit
    rw [hgrants]
    rw [hrequests] at hsplit
    rcases List.eq_nil_or_concat after with rfl | ⟨after, last, rfl⟩
    · obtain ⟨rfl, hlast⟩ := List.append_inj' hsplit rfl
      obtain ⟨rfl, rfl⟩ := SignInRequest.token.inj (List.singleton_inj.mp hlast)
      exact hcompletes
    · have hsplit' : w.tab.requests ++ [.token url body] =
          (before ++ .token url' body' :: after) ++ [last] := by
        simpa using hsplit
      exact h.completed before url' body' after (List.append_inj' hsplit' rfl).1

/-! ### Every step -/

/-- What holds of every world that a run reaches. -/
structure SignInSound (browser : Browser Key) (ls : List (SignInLabel Key))
    (w : SignInWorld Key) : Prop where
  requests : RequestsSound browser ls w
  page : PageSound browser w

/-- A callback changes nothing, or takes the login that is stored and may exchange its code. -/
theorem completeOidcRedirect_cases (browser : Browser Key) (t : Tab Key) :
    t.completeOidcRedirect browser = t.checkLoginState ∨
      t.completeOidcRedirect browser =
        { t with storedState := none, storedVerifier := none }.checkLoginState ∨
      ∃ code state verifier, filled (t.params.get "code") = some code ∧
        t.params.get "state" = some state ∧ t.storedState = some state ∧
          t.storedVerifier = some verifier ∧
            t.completeOidcRedirect browser =
              { t with
                storedState := none
                storedVerifier := none
                requests := t.requests ++
                  [.token t.params.oidcTokenURL (tokenBody browser t.params code verifier)]
                rest := t.rest.add .completeOidcRedirect } := by
  unfold Tab.completeOidcRedirect
  split
  · exact .inl rfl
  · rename_i code hcode
    right
    simp only
    split
    · rename_i verifier state hverifier hstate
      split_ifs with hsame
      · exact .inr ⟨code, state, verifier, hcode, hsame, eq_some_of_filled hstate,
          eq_some_of_filled hverifier, rfl⟩
      · exact .inl rfl
    · exact .inl rfl

/-- A page that has just been loaded bears no token, and waits for one only if it completes a
login. -/
theorem pageSound_loaded (hpage : w.tab.page = .initial)
    (hrest : w.tab.rest = .empty ∨ OwnLogin browser w) : PageSound browser w where
  pending := by
    intro i hi
    rcases hrest with hempty | hown
    · rw [hempty] at hi
      cases hi
    · exact hown
  signedIn := fun _ ↦ .inl (hpage ▸ TeleopPage.tokenless_initial)

theorem sound_load (h : SignInSound browser ls w) {params : URLSearchParams}
    (hload : Unguessed ls w (.tab (.load params))) :
    SignInSound browser (ls ++ [.tab (.load params)])
      { w with tab := w.tab.load browser params } := by
  unfold Tab.load
  simp only
  split_ifs
  · exact ⟨h.requests.keep rfl rfl (.inl ⟨rfl, rfl⟩), pageSound_loaded rfl (.inl rfl)⟩
  · set loaded : Tab Key := { w.tab with params := params, page := .initial, rest := .empty }
    rcases completeOidcRedirect_cases browser loaded with
      heq | heq | ⟨code, state, verifier, hcode, hstate, hstored, hverifier, heq⟩
    · rw [heq]
      exact ⟨h.requests.keep rfl rfl (.inl ⟨rfl, rfl⟩), pageSound_loaded rfl (.inl rfl)⟩
    · rw [heq]
      exact ⟨h.requests.keep rfl rfl (.inr rfl), pageSound_loaded rfl (.inl rfl)⟩
    · rw [heq]
      obtain ⟨earlier, authorizeURL, query, hrequests, hcompletes⟩ :=
        h.requests.completes hload hcode hstate hstored hverifier
      refine ⟨h.requests.exchange ⟨earlier, authorizeURL, query, params, hrequests, hcompletes⟩
        rfl rfl rfl, pageSound_loaded rfl (.inr ?_)⟩
      refine ⟨earlier, authorizeURL, query, _, _, [], ?_, hcompletes⟩
      simp only [loaded, hrequests, List.append_assoc, List.cons_append, List.nil_append]

theorem sound_page (h : SignInSound browser ls w) {e : PageEvent Key}
    (hsignedIn : ∀ token, e ≠ .signedIn token)
    (hhandleAuth : ∀ prompted, e ≠ .handleAuth prompted) :
    SignInSound browser (ls ++ [l])
      { w with tab.page := w.tab.page.handle (browser.config w.tab.params) e } where
  requests := h.requests.keep rfl rfl (.inl ⟨rfl, rfl⟩)
  page := by
    refine ⟨h.page.pending, fun hdev ↦ ?_⟩
    rcases h.page.signedIn hdev with htokenless | hown
    · exact .inl (htokenless.handle hsignedIn fun prompted he ↦ absurd he (hhandleAuth prompted))
    · exact .inr hown

theorem sound_handleAuth (h : SignInSound browser ls w) (prompted : Option JSString)
    (verifierBytes : Vector UInt8 32) :
    SignInSound browser (ls ++ [l])
      { w with tab := w.tab.handleAuth browser prompted verifierBytes } := by
  have hpage : w.tab.params.dev = false →
      (w.tab.page.handle (browser.config w.tab.params) (.handleAuth prompted)).Tokenless ∨
        OwnLogin browser w := by
    intro hdev
    rcases h.page.signedIn hdev with htokenless | hown
    · exact .inl (htokenless.handle (by simp) fun _ _ ↦ hdev)
    · exact .inr hown
  unfold Tab.handleAuth
  simp only
  split
  · refine ⟨h.requests.keep rfl rfl (.inl ⟨rfl, rfl⟩), fun i hi ↦ ?_, hpage⟩
    rcases Arena.get_add_iff.mp hi with ⟨-, hrest⟩ | hold
    · cases hrest
    · exact h.page.pending i hold
  · exact ⟨h.requests.keep rfl rfl (.inl ⟨rfl, rfl⟩), h.page.pending, hpage⟩

theorem sound_digested (h : SignInSound browser ls w) {i : ℕ} {stateBytes : Vector UInt8 24}
    (hnew : Unguessed ls w (.tab (.digested i stateBytes))) :
    SignInSound browser (ls ++ [.tab (.digested i stateBytes)])
      { w with tab := w.tab.handle browser (.digested i stateBytes) } := by
  simp only [Tab.handle]
  split
  · have hown : OwnLogin browser w → OwnLogin browser { w with
        tab := { w.tab with rest := w.tab.rest.remove i }.leave browser ‹_› stateBytes } :=
      fun hown ↦ hown.mono rfl (List.prefix_append _ _) (List.Subset.refl _)
    refine ⟨h.requests.leave hnew rfl rfl rfl rfl, fun j hj ↦ ?_, fun hdev ↦ ?_⟩
    · exact hown (h.page.pending j (Arena.get_remove_iff.mp hj).2)
    · exact (h.page.signedIn hdev).imp_right hown
  · exact ⟨h.requests.keep rfl rfl (.inl ⟨rfl, rfl⟩), h.page.pending, h.page.signedIn⟩

theorem sound_exchanged (h : SignInSound browser ls w) (i : ℕ) (answer : Option JSString) :
    SignInSound browser (ls ++ [l])
      { w with tab := w.tab.handle browser (.exchanged i answer) } := by
  simp only [Tab.handle]
  split
  · rename_i hi
    have hown := h.page.pending i hi
    unfold Tab.signedIn
    split
    · exact ⟨h.requests.keep rfl rfl (.inl ⟨rfl, rfl⟩), fun _ _ ↦ hown, fun _ ↦ .inr hown⟩
    · exact ⟨h.requests.keep rfl rfl (.inl ⟨rfl, rfl⟩), fun _ _ ↦ hown, fun _ ↦ .inr hown⟩
  · exact ⟨h.requests.keep rfl rfl (.inl ⟨rfl, rfl⟩), h.page.pending, h.page.signedIn⟩

theorem sound_grant (h : SignInSound browser ls w) {g : Grant}
    (hasked : Unguessed ls w (.grant g)) :
    SignInSound browser (ls ++ [.grant g]) { w with grants := w.grants ++ [g] } where
  requests := h.requests.grant hasked
  page := by
    have hkeep : OwnLogin browser w → OwnLogin browser { w with grants := w.grants ++ [g] } :=
      fun hown ↦ hown.mono rfl (List.prefix_rfl) (List.subset_append_left _ _)
    exact ⟨fun i hi ↦ hkeep (h.page.pending i hi),
      fun hdev ↦ (h.page.signedIn hdev).imp_right hkeep⟩

theorem signInSound_of_run (hrun : (signInSystem browser).RunWhere Unguessed ls w) :
    SignInSound browser ls w := by
  induction hrun with
  | @init w hinit =>
      obtain ⟨tab, grants⟩ := w
      obtain ⟨rfl, rfl⟩ := hinit
      refine ⟨⟨?_, ?_, ?_, ?_, ?_⟩, pageSound_loaded rfl (.inl rfl)⟩
      · exact fun _ _ hmem ↦ nomatch hmem
      · exact fun _ _ _ _ hmem ↦ nomatch hmem
      · exact fun _ hg ↦ nomatch hg
      · exact fun _ _ hstored ↦ nomatch hstored
      · intro before url body after hsplit
        simp [Tab.initial] at hsplit
  | @step ls w w' l _ hcond hstep ih =>
      cases l with
      | grant g =>
          obtain rfl := hstep
          exact sound_grant ih hcond
      | tab e =>
          obtain rfl := hstep
          cases e with
          | load params => exact sound_load ih hcond
          | handleAuth prompted verifierBytes => exact sound_handleAuth ih prompted verifierBytes
          | page e hsignedIn hhandleAuth => exact sound_page ih hsignedIn hhandleAuth
          | digested i stateBytes => exact sound_digested ih hcond
          | exchanged i answer => exact sound_exchanged ih i answer

end Steps

/-! ## The results -/

/-- Every exchange follows right after the authorization request that it completes; if that went
to the server of the page's own configuration, so does the exchange. -/
theorem exchange_completes_login {ls : List (SignInLabel Key)} {w : SignInWorld Key}
    {before after : List SignInRequest} {url : JSString} {body : URLSearchParams}
    (hrun : (signInSystem browser).RunWhere Unguessed ls w)
    (hrequests : w.tab.requests = before ++ .token url body :: after) :
    ∃ earlier authorizeURL query params, before = earlier ++ [.authorize authorizeURL query] ∧
      Completes browser w.grants authorizeURL query params url body ∧
        (authorizeURL = URLSearchParams.oidcAuthorizeURL [] →
          url = URLSearchParams.oidcTokenURL []) := by
  obtain ⟨earlier, authorizeURL, query, params, hbefore, hcompletes⟩ :=
    (signInSound_of_run hrun).requests.completed before url body after hrequests
  refine ⟨earlier, authorizeURL, query, params, hbefore, hcompletes, fun hown ↦ ?_⟩
  obtain ⟨g, -, -, -, state, hcallback⟩ := hcompletes.granted hown
  rw [hcompletes.url_eq, hcallback]
  rfl

/-- A page that bears a token outside of development has completed a login of its tab; if that
began at the server of the page's own configuration, the page runs under this configuration,
whatever the link had said that led to the login. -/
theorem token_after_own_login {ls : List (SignInLabel Key)} {w : SignInWorld Key}
    (hrun : (signInSystem browser).RunWhere Unguessed ls w) (hdev : w.tab.params.dev = false)
    (hbears : w.tab.page.accessToken.isSome ∨ ∃ x ∈ w.tab.page.effects, x.bears = true) :
    ∃ earlier authorizeURL query url body after,
      w.tab.requests = earlier ++ .authorize authorizeURL query :: .token url body :: after ∧
        Completes browser w.grants authorizeURL query w.tab.params url body ∧
          (authorizeURL = URLSearchParams.oidcAuthorizeURL [] →
            w.tab.params.backendURL = text "https://gateway.wheelos.cn" ∧
              w.tab.params.requestedAccess = text "controller") := by
  rcases (signInSound_of_run hrun).page.signedIn hdev with htokenless | hown
  · exfalso
    rcases hbears with htoken | ⟨x, hx, htoken⟩
    · rw [htokenless.accessToken] at htoken
      cases htoken
    · rw [htokenless.effects x hx] at htoken
      cases htoken
  · obtain ⟨earlier, authorizeURL, query, url, body, after, hrequests, hcompletes⟩ := hown
    refine ⟨earlier, authorizeURL, query, url, body, after, hrequests, hcompletes, fun hown ↦ ?_⟩
    obtain ⟨g, -, -, -, state, hcallback⟩ := hcompletes.granted hown
    rw [hcallback]
    exact ⟨rfl, rfl⟩

/-! ### A login that is completed -/

section Sample

/-- The digest is that of the verifier that is drawn as zeros. -/
def sampleBrowser : Browser Unit where
  sign := fun _ _ ↦ []
  sha256 := fun _ ↦ [15, 0, 115, 133, 182, 249, 212, 183, 238, 178, 116, 134, 5, 175, 225, 169,
    132, 160, 163, 191, 163, 240, 20, 208, 158, 42, 120, 76, 233, 229, 205, 26]
  redirectURI := text "https://console.wheelos.cn/"

def drawnVerifier : Vector UInt8 32 := Vector.replicate 32 0

def drawnState : Vector UInt8 24 := Vector.replicate 24 0

def sampleState : JSString := toBase64Url drawnState.toList

/-- The page was opened for an observer. -/
def observing : URLSearchParams := [(text "access", text "observer")]

def sampleGrant : Grant where
  query := authorizeQuery sampleBrowser observing sampleState (toBase64Url drawnVerifier.toList)
  code := text "c-1"

def leavingPage : List (TabEvent Unit) :=
  [.load observing, .handleAuth none drawnVerifier, .digested 0 drawnState]

def comingBack : List (TabEvent Unit) :=
  [.load (sampleGrant.callback sampleState), .exchanged 0 (some (text "token"))]

def signInLabels : List (SignInLabel Unit) :=
  leavingPage.map .tab ++ .grant sampleGrant :: comingBack.map .tab

def signedInTab : Tab Unit := (leavingPage ++ comingBack).foldl (Tab.handle sampleBrowser) .initial

theorem signedIn_run :
    (signInSystem sampleBrowser).RunWhere Unguessed signInLabels ⟨signedInTab, [sampleGrant]⟩ := by
  let S := signInSystem sampleBrowser
  let handle (t : Tab Unit) (e : TabEvent Unit) := t.handle sampleBrowser e
  let loaded := handle .initial (.load observing)
  let clicked := handle loaded (.handleAuth none drawnVerifier)
  let left := handle clicked (.digested 0 drawnState)
  let back := handle left (.load (sampleGrant.callback sampleState))
  have hinit : S.RunWhere Unguessed [] ⟨.initial, []⟩ := .init ⟨rfl, rfl⟩
  have hloaded : S.RunWhere Unguessed [.tab (.load observing)] ⟨loaded, []⟩ := by
    refine hinit.step ?_ rfl
    intro hcode
    cases hcode
  have hclicked : S.RunWhere Unguessed
      [.tab (.load observing), .tab (.handleAuth none drawnVerifier)] ⟨clicked, []⟩ :=
    hloaded.step trivial rfl
  have hleft : S.RunWhere Unguessed (leavingPage.map .tab) ⟨left, []⟩ := by
    refine hclicked.step ?_ rfl
    exact ⟨by simp, fun _ hg ↦ nomatch hg⟩
  have hgranted : S.RunWhere Unguessed (leavingPage.map .tab ++ [.grant sampleGrant])
      ⟨left, [sampleGrant]⟩ := by
    refine hleft.step ?_ rfl
    intro query state hasked hstate hgrant
    exact List.mem_singleton.mpr rfl
  have hback : S.RunWhere Unguessed
      (leavingPage.map .tab ++ [.grant sampleGrant] ++ [.tab (.load (sampleGrant.callback sampleState))])
      ⟨back, [sampleGrant]⟩ := by
    refine hgranted.step ?_ rfl
    intro hcode query state hasked hquery hstate
    obtain rfl : sampleState = state := Option.some.inj hstate
    exact ⟨sampleGrant, List.mem_singleton.mpr rfl, rfl, rfl⟩
  exact hback.step trivial rfl

/-- The only exchange is for the login that began before it. -/
theorem exchange_completes_login_observer :
    ∃ request url body, signedInTab.requests = [request, .token url body] ∧
      ∃ earlier authorizeURL query params, [request] = earlier ++ [.authorize authorizeURL query] ∧
        Completes sampleBrowser [sampleGrant] authorizeURL query params url body ∧
          (authorizeURL = URLSearchParams.oidcAuthorizeURL [] →
            url = URLSearchParams.oidcTokenURL []) :=
  ⟨_, _, _, rfl, @exchange_completes_login _ _ _ _ [_] [] _ _ signedIn_run rfl⟩

/-- Though the link was for an observer, the page now asks for control. -/
theorem token_after_own_login_observer :
    signedInTab.page.accessToken = some (text "token") ∧
      ∃ earlier authorizeURL query url body after,
        signedInTab.requests = earlier ++ .authorize authorizeURL query :: .token url body :: after ∧
          Completes sampleBrowser [sampleGrant] authorizeURL query signedInTab.params url body ∧
            (authorizeURL = URLSearchParams.oidcAuthorizeURL [] →
              signedInTab.params.backendURL = text "https://gateway.wheelos.cn" ∧
                signedInTab.params.requestedAccess = text "controller") :=
  ⟨rfl, token_after_own_login signedIn_run rfl (.inl rfl)⟩

end Sample

end RemoteInfra.Console
