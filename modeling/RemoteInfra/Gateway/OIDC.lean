import RemoteInfra.Gateway.OIDCKeys
import RemoteInfra.Gateway.VehicleEndpoints

/-!
# Bearer tokens

`OIDCAuthenticator.Authenticate` of `oidc_auth.go` over go-jose.  The library checks the times
of a token only where it carries them, and nothing else asks for its expiry.
-/

namespace RemoteInfra.Gateway

open RemoteInfra.Library

/-! ## go-jose -/

structure JOSEHeader where
  keyID : GoString
  algorithm : GoString

/-- `jwt.Claims`, its dates in seconds; `none` is a claim that is absent. -/
structure JWTClaims where
  issuer : GoString
  subject : GoString
  audience : List GoString
  expiry : Option ℤ
  notBefore : Option ℤ
  issuedAt : Option ℤ

/-- A JSON value as far as `ScopeClaim` tells it apart. -/
inductive ScopeJSON
  | null
  | text (s : GoString)
  | items (values : List ScopeJSON)
  | other

/-- `oidcTokenClaims` before its scope is unmarshalled; `none` where the token has no scope. -/
structure OIDCPayload where
  claims : JWTClaims
  organization : GoString
  tenant : GoString
  roles : List GoString
  role : GoString
  scope : Option ScopeJSON

/-- What the gateway uses of go-jose: parsing, a token's payload under a key, and the check of
its registered claims against an issuer at a time. -/
class GoJose (Key : Type) where
  Token : Type
  parseSigned : GoString → Option Token
  headers : Token → List JOSEHeader
  verifies : Token → Key → Bool
  payload : Token → Key → Option OIDCPayload
  validate : JWTClaims → GoString → ℤ → Bool

def oneMinute : ℤ := 60 * 10 ^ 9

def seconds : ℤ := 10 ^ 9

/-- Its documentation: a payload is handed out only if the signature verifies; an expected issuer
is compared; a token's expiry is checked if it has one, with a minute's leeway. -/
class LawfulGoJose (Key : Type) [GoJose Key] : Prop where
  verifies_of_payload : ∀ (token : GoJose.Token Key) (key : Key) (p : OIDCPayload),
    GoJose.payload token key = some p → GoJose.verifies token key = true
  issuer_of_validate : ∀ (c : JWTClaims) (issuer : GoString) (now : ℤ),
    GoJose.validate Key c issuer now = true → issuer ≠ [] → c.issuer = issuer
  expiry_of_validate : ∀ (c : JWTClaims) (issuer : GoString) (now exp : ℤ),
    GoJose.validate Key c issuer now = true → c.expiry = some exp →
      now - oneMinute ≤ exp * seconds

/-! ## Claims -/

/-- `json.Unmarshal` into a `string`, which a `null` leaves empty. -/
def unmarshalString : ScopeJSON → Option GoString
  | .null => some []
  | .text s => some s
  | _ => none

/-- `json.Unmarshal` into a `[]string`. -/
def unmarshalStrings : ScopeJSON → Option (List GoString)
  | .null => some []
  | .items values => values.mapM unmarshalString
  | _ => none

/-- `strings.Fields`. -/
def fields (s : GoString) : List GoString := (s.splitOnP isSpace).filter fun field ↦ field ≠ []

/-- `ScopeClaim.UnmarshalJSON`. -/
def unmarshalScope (data : ScopeJSON) : Option (List GoString) :=
  match unmarshalString data with
  | some value => some (fields value)
  | none => unmarshalStrings data

/-- The scope of a payload; a claim that is absent stays empty. -/
def OIDCPayload.scopes (p : OIDCPayload) : Option (List GoString) :=
  match p.scope with
  | none => some []
  | some data => unmarshalScope data

def audienceAllowed (tokenAudience allowedAudience : List GoString) : Bool :=
  allowedAudience.any fun allowed ↦ tokenAudience.contains allowed

def allowedOIDCAlgorithm (algorithm : GoString) : Bool :=
  ["RS256", "RS384", "RS512", "ES256", "ES384", "ES512", "EdDSA"].any fun name ↦
    algorithm = GoString.ofString name

def firstNonEmpty (values : List GoString) : GoString :=
  (values.find? fun value ↦ value ≠ []).getD []

/-- The role a scope stands for. -/
def scopeRole (scope : GoString) : List GoString :=
  if scope = GoString.ofString "teleop:observe" then [GoString.ofString "observer"]
  else if scope = GoString.ofString "teleop:control" then [GoString.ofString "controller"]
  else if scope = GoString.ofString "teleop:supervise" then [GoString.ofString "supervisor"]
  else if scope = GoString.ofString "teleop:vehicle" then [GoString.ofString "vehicle"]
  else []

def claimRoles (p : OIDCPayload) (scopes : List GoString) : List GoString :=
  p.roles ++ (if p.role ≠ [] then [p.role] else []) ++ scopes.flatMap scopeRole

/-- The tenant, for which a vehicle's scope stands in. -/
def tenantOf (p : OIDCPayload) (scopes : List GoString) : GoString :=
  let tenant := firstNonEmpty [p.tenant, p.organization]
  if tenant = [] ∧ hasScope scopes (GoString.ofString "teleop:vehicle") = true then
    GoString.ofString "vehicle"
  else tenant

def userClaims (p : OIDCPayload) (scopes : List GoString) : UserClaims where
  name := p.claims.subject
  roles := claimRoles p scopes
  scopes := scopes
  organization := tenantOf p scopes

/-! ## Authentication -/

/-- `ErrInvalidToken`, or what it wraps. -/
inductive AuthError
  | invalidToken
  | wrapped (e : FormattedError)

section

variable {Key : Type} [GoJose Key]

namespace OIDCAuthenticator

/-- The checks of a payload at `now`. -/
def checkPayload (a : OIDCAuthenticator Key) (p : OIDCPayload) (scopes : List GoString)
    (now : ℤ) : Except AuthError UserClaims :=
  if !audienceAllowed p.claims.audience a.audiences ||
      !GoJose.validate Key p.claims a.issuer now || p.claims.subject = [] || scopes = [] then
    .error .invalidToken
  else .ok (userClaims p scopes)

/-- `token.Claims(key.Key, &claims)` and what follows. -/
def checkToken (a : OIDCAuthenticator Key) (token : GoJose.Token Key) (key : Key) (now : ℤ) :
    Except AuthError UserClaims :=
  match GoJose.payload token key with
  | none => .error .invalidToken
  | some p =>
      match p.scopes with
      | none => .error .invalidToken
      | some scopes => a.checkPayload p scopes now

/-- The key id of a token whose header is acceptable. -/
def checkHeader (rawToken : GoString) : Option (GoJose.Token Key × GoString) :=
  match (GoJose.parseSigned rawToken : Option (GoJose.Token Key)) with
  | none => none
  | some token =>
      match GoJose.headers token with
      | [header] =>
          if header.keyID = [] || !allowedOIDCAlgorithm header.algorithm then none
          else some (token, header.keyID)
      | _ => none

/-- `Authenticate`: the keys are asked for at `askedAt` with the requests `fetches`, and the
claims are checked at `now`; `none` where it would make other requests. -/
def authenticate (a : OIDCAuthenticator Key) (rawToken : GoString) (askedAt : ℤ)
    (fetches : List (Fetch Key)) (now : ℤ) :
    Option (OIDCAuthenticator Key × Except AuthError UserClaims) :=
  match (checkHeader rawToken : Option (GoJose.Token Key × GoString)) with
  | none => if fetches.isEmpty then some (a, .error .invalidToken) else none
  | some (token, keyID) =>
      match a.keyFor keyID askedAt fetches with
      | none => none
      | some (a', .error e) => some (a', .error (.wrapped e))
      | some (a', .ok key) => some (a', a.checkToken token key.key now)

/-! ## What acceptance says -/

/-- The token parses, with one header; `key` is the only key of its id, and under it the token
has the payload `p`. -/
structure Decodes (a : OIDCAuthenticator Key) (rawToken : GoString) (askedAt : ℤ)
    (fetches : List (Fetch Key)) (token : GoJose.Token Key) (header : JOSEHeader)
    (key : JSONWebKey Key) (p : OIDCPayload) : Prop where
  parsed : GoJose.parseSigned rawToken = some token
  headers_eq : GoJose.headers token = [header]
  key_eq : ∃ a', a.keyFor header.keyID askedAt fetches = some (a', .ok key) ∧
    a'.keysNamed header.keyID = [key]
  payload_eq : GoJose.payload token key.key = some p

/-- Everything that the gateway is to check of a token. -/
structure Sound (a : OIDCAuthenticator Key) (rawToken : GoString) (askedAt : ℤ)
    (fetches : List (Fetch Key)) (now : ℤ) (token : GoJose.Token Key) (header : JOSEHeader)
    (key : JSONWebKey Key) (p : OIDCPayload) : Prop where
  decodes : a.Decodes rawToken askedAt fetches token header key p
  keyID_ne : header.keyID ≠ []
  algorithm : allowedOIDCAlgorithm header.algorithm = true
  verifies : GoJose.verifies token key.key = true
  issuer : p.claims.issuer = a.issuer
  audience : ∃ allowed ∈ a.audiences, allowed ∈ p.claims.audience
  expiry : ∃ exp, p.claims.expiry = some exp ∧ now - oneMinute ≤ exp * seconds
  subject : p.claims.subject ≠ []
  scope : ∃ scopes, p.scopes = some scopes ∧ scopes ≠ []

/-- Configured by `NewOIDCAuthenticator`, with any keys cached since. -/
def Configured (a : OIDCAuthenticator Key) : Prop :=
  ∃ (issuer audience jwksURL : GoString) (b : OIDCAuthenticator Key),
    newOIDCAuthenticator issuer audience jwksURL = .ok b ∧
      a.issuer = b.issuer ∧ a.audiences = b.audiences

omit [GoJose Key] in
theorem Configured.issuer_ne {a : OIDCAuthenticator Key} (h : a.Configured) : a.issuer ≠ [] := by
  obtain ⟨issuer, audience, jwksURL, b, hnew, hissuer, -⟩ := h
  unfold newOIDCAuthenticator at hnew
  dsimp only at hnew
  split_ifs at hnew with hmissing
  obtain rfl := Except.ok.inj hnew
  rw [hissuer]
  exact fun h ↦ hmissing (.inl h)

theorem checkHeader_eq_some {rawToken : GoString} {token : GoJose.Token Key} {keyID : GoString}
    (h : checkHeader rawToken = some (token, keyID)) :
    ∃ header, GoJose.parseSigned rawToken = some token ∧ GoJose.headers token = [header] ∧
      header.keyID = keyID ∧ keyID ≠ [] ∧ allowedOIDCAlgorithm header.algorithm = true := by
  unfold checkHeader at h
  split at h
  · cases h
  · rename_i parsed hparsed
    split at h
    · rename_i header hheaders
      split at h
      · cases h
      · rename_i haccepted
        obtain ⟨rfl, rfl⟩ := Prod.mk.inj (Option.some.inj h)
        simp only [Bool.or_eq_true, decide_eq_true_eq, Bool.not_eq_true', not_or,
          Bool.not_eq_false] at haccepted
        exact ⟨header, hparsed, hheaders, rfl, haccepted.1, haccepted.2⟩
    · cases h

/-- The payload of an accepted token has passed every check there is. -/
theorem checkToken_eq_ok {a : OIDCAuthenticator Key} {token : GoJose.Token Key} {key : Key}
    {now : ℤ} {user : UserClaims} (h : a.checkToken token key now = .ok user) :
    ∃ p scopes, GoJose.payload token key = some p ∧ p.scopes = some scopes ∧ scopes ≠ [] ∧
      audienceAllowed p.claims.audience a.audiences = true ∧
        GoJose.validate Key p.claims a.issuer now = true ∧ p.claims.subject ≠ [] := by
  unfold checkToken at h
  split at h
  · cases h
  · rename_i p hpayload
    split at h
    · cases h
    · rename_i scopes hscopes
      unfold checkPayload at h
      split at h
      · cases h
      · rename_i hchecks
        simp only [Bool.or_eq_true, Bool.not_eq_true', decide_eq_true_eq, not_or,
          Bool.not_eq_false] at hchecks
        obtain ⟨⟨⟨haudience, hvalid⟩, hsubject⟩, hscope⟩ := hchecks
        exact ⟨p, scopes, hpayload, hscopes, hscope, haudience, hvalid, hsubject⟩

/-- The token has been decoded, and carries an expiry. -/
def CarriesExpiry (a : OIDCAuthenticator Key) (rawToken : GoString) (askedAt : ℤ)
    (fetches : List (Fetch Key)) : Prop :=
  ∃ token header key p, a.Decodes rawToken askedAt fetches token header key p ∧
    p.claims.expiry.isSome = true

theorem Decodes.payload_unique {a : OIDCAuthenticator Key} {rawToken : GoString} {askedAt : ℤ}
    {fetches : List (Fetch Key)} {token token' : GoJose.Token Key} {header header' : JOSEHeader}
    {key key' : JSONWebKey Key} {p p' : OIDCPayload}
    (h : a.Decodes rawToken askedAt fetches token header key p)
    (h' : a.Decodes rawToken askedAt fetches token' header' key' p') : p = p' := by
  obtain rfl := Option.some.inj (h.parsed.symm.trans h'.parsed)
  obtain rfl := List.singleton_inj.mp (h.headers_eq.symm.trans h'.headers_eq)
  obtain ⟨b, hb, -⟩ := h.key_eq
  obtain ⟨b', hb', -⟩ := h'.key_eq
  obtain ⟨-, hkey⟩ := Prod.mk.inj (Option.some.inj (hb.symm.trans hb'))
  obtain rfl := Except.ok.inj hkey
  exact Option.some.inj (h.payload_eq.symm.trans h'.payload_eq)

/-- A token that is accepted has passed every check that the gateway is to make, exactly if it
carries an expiry. -/
theorem accepted_soundly_iff [LawfulGoJose Key] {a a' : OIDCAuthenticator Key}
    (hconfigured : a.Configured) {rawToken : GoString} {askedAt now : ℤ}
    {fetches : List (Fetch Key)} {user : UserClaims}
    (h : a.authenticate rawToken askedAt fetches now = some (a', .ok user)) :
    (∃ token header key p, a.Sound rawToken askedAt fetches now token header key p) ↔
      a.CarriesExpiry rawToken askedAt fetches := by
  constructor
  · rintro ⟨token, header, key, p, hsound⟩
    obtain ⟨exp, hexp, -⟩ := hsound.expiry
    exact ⟨token, header, key, p, hsound.decodes, by rw [hexp, Option.isSome_some]⟩
  · rintro ⟨token', header', key', p', hdecodes', hexpiry⟩
    unfold authenticate at h
    split at h
    · split at h <;> cases h
    · rename_i token keyID hheader
      obtain ⟨header, hparsed, hheaders, rfl, hkeyID, halgorithm⟩ := checkHeader_eq_some hheader
      split at h
      · cases h
      · cases h
      · rename_i b key hkey
        obtain ⟨-, hchecked⟩ := Prod.mk.inj (Option.some.inj h)
        obtain ⟨p, scopes, hpayload, hscopes, hscope, haudience, hvalid, hsubject⟩ :=
          checkToken_eq_ok hchecked
        have hdecodes : a.Decodes rawToken askedAt fetches token header key p :=
          { parsed := hparsed
            headers_eq := hheaders
            key_eq := ⟨b, hkey, keysNamed_of_keyFor hkey⟩
            payload_eq := hpayload }
        obtain rfl := hdecodes'.payload_unique hdecodes
        obtain ⟨exp, hexp⟩ := Option.isSome_iff_exists.mp hexpiry
        refine ⟨token, header, key, p', ?_⟩
        exact
          { decodes := hdecodes
            keyID_ne := hkeyID
            algorithm := halgorithm
            verifies := LawfulGoJose.verifies_of_payload token key.key p' hpayload
            issuer := LawfulGoJose.issuer_of_validate p'.claims a.issuer now hvalid
              hconfigured.issuer_ne
            audience := by simpa [audienceAllowed] using haudience
            expiry := ⟨exp, hexp,
              LawfulGoJose.expiry_of_validate p'.claims a.issuer now exp hvalid hexp⟩
            subject := hsubject
            scope := ⟨scopes, hscopes, hscope⟩ }

end OIDCAuthenticator

end

/-! ## A token that never expires -/

section Sample

/-- An Ed25519 public key. -/
def samplePublicKey : List UInt8 :=
  [0x03, 0xa1, 0x07, 0xbf, 0xf3, 0xce, 0x10, 0xbe, 0x1d, 0x70, 0xdd, 0x18, 0xe7, 0x4b, 0xc0, 0x99,
    0x67, 0xe4, 0xd6, 0x30, 0x9b, 0xa5, 0x0d, 0x5f, 0x1d, 0xdc, 0x86, 0x64, 0x12, 0x55, 0x31, 0xb8]

/-- Signed with its private key; the payload names an issuer, a subject, an audience and a
scope. -/
def unexpiringToken : GoString :=
  GoString.ofString "eyJhbGciOiJFZERTQSIsImtpZCI6ImsxIn0.eyJpc3MiOiJodHRwczovL2lzc3Vlci5leGFtcG" ++
    GoString.ofString "xlLmNvbSIsInN1YiI6Im9wZXJhdG9yLTAwMSIsImF1ZCI6InRlbGVvcC1hcGkiLCJzY29wZSI6I" ++
      GoString.ofString "nRlbGVvcDpvYnNlcnZlIn0.99FwKxGPQiYuqfgYSCD8Xar82UGIPgNjSdYfbKswcNQY2CqQl" ++
        GoString.ofString "nVnDwBgaSN37JJRM7-2v9r3p74dehoSCfJSDA"

def unexpiringPayload : OIDCPayload where
  claims :=
    { issuer := GoString.ofString "https://issuer.example.com"
      subject := GoString.ofString "operator-001"
      audience := [GoString.ofString "teleop-api"]
      expiry := none
      notBefore := none
      issuedAt := none }
  organization := []
  tenant := []
  roles := []
  role := []
  scope := some (.text (GoString.ofString "teleop:observe"))

/-- go-jose as far as this token goes. -/
@[reducible] def GoJose.sample : GoJose (List UInt8) where
  Token := Unit
  parseSigned rawToken := if rawToken = unexpiringToken then some () else none
  headers _ := [⟨GoString.ofString "k1", GoString.ofString "EdDSA"⟩]
  verifies _ key := key = samplePublicKey
  payload _ key := if key = samplePublicKey then some unexpiringPayload else none
  validate c issuer now :=
    (issuer = [] || c.issuer = issuer) &&
      (c.notBefore.all fun t ↦ t * seconds ≤ now + oneMinute) &&
        (c.expiry.all fun t ↦ now - oneMinute ≤ t * seconds) &&
          c.issuedAt.all fun t ↦ t * seconds ≤ now + oneMinute

attribute [local instance] GoJose.sample

instance lawfulGoJose_sample : LawfulGoJose (List UInt8) where
  verifies_of_payload := by
    intro token key p h
    have hkey : key = samplePublicKey := by
      by_contra hne
      have hnone : GoJose.payload token key = none := if_neg hne
      cases hnone.symm.trans h
    exact decide_eq_true hkey
  issuer_of_validate := by
    intro c issuer now h hne
    simp only [GoJose.validate, Bool.and_eq_true, Bool.or_eq_true, decide_eq_true_eq] at h
    rcases h.1.1.1 with hempty | heq
    · exact absurd hempty hne
    · exact heq
  expiry_of_validate := by
    intro c issuer now exp h hexp
    simp only [GoJose.validate, Bool.and_eq_true] at h
    have hexpiry := h.1.2
    rw [hexp, Option.all_some] at hexpiry
    exact of_decide_eq_true hexpiry

def sampleAuthenticator : OIDCAuthenticator (List UInt8) where
  issuer := GoString.ofString "https://issuer.example.com"
  audiences := [GoString.ofString "teleop-api"]
  keys := [⟨GoString.ofString "k1", samplePublicKey⟩]
  fetchedAt := some 0

theorem configured_sampleAuthenticator : sampleAuthenticator.Configured :=
  ⟨GoString.ofString "https://issuer.example.com", GoString.ofString "teleop-api",
    GoString.ofString "https://issuer.example.com/jwks",
    { sampleAuthenticator with keys := [], fetchedAt := none }, by decide +kernel, rfl, rfl⟩

theorem authenticate_unexpiringToken : sampleAuthenticator.authenticate unexpiringToken 0 [] 0 =
    some (sampleAuthenticator,
      .ok (userClaims unexpiringPayload [GoString.ofString "teleop:observe"])) := by
  have hheader : @OIDCAuthenticator.checkHeader (List UInt8) _ unexpiringToken =
      some ((), GoString.ofString "k1") := by
    have hparsed : @GoJose.parseSigned (List UInt8) _ unexpiringToken = some () := if_pos rfl
    rw [OIDCAuthenticator.checkHeader, hparsed]
    exact if_neg (by decide +kernel)
  have hkey : sampleAuthenticator.keyFor (GoString.ofString "k1") 0 [] =
      some (sampleAuthenticator, .ok ⟨GoString.ofString "k1", samplePublicKey⟩) := by
    decide +kernel
  have hscopes : unexpiringPayload.scopes = some [GoString.ofString "teleop:observe"] := by
    decide +kernel
  have hchecked : sampleAuthenticator.checkToken () samplePublicKey 0 =
      .ok (userClaims unexpiringPayload [GoString.ofString "teleop:observe"]) := by
    have hpayload : @GoJose.payload (List UInt8) _ () samplePublicKey = some unexpiringPayload :=
      if_pos rfl
    rw [OIDCAuthenticator.checkToken, hpayload]
    simp only [hscopes]
    exact if_neg (by decide +kernel)
  simp only [OIDCAuthenticator.authenticate, hheader, hkey, hchecked]

theorem not_carriesExpiry_unexpiringToken :
    ¬sampleAuthenticator.CarriesExpiry unexpiringToken 0 [] := by
  rintro ⟨token, header, key, p, hdecodes, hexpiry⟩
  have hpayload := hdecodes.payload_eq
  have hp : p = unexpiringPayload := by
    by_cases hkey : key.key = samplePublicKey
    · exact (Option.some.inj ((if_pos hkey).symm.trans hpayload)).symm
    · cases (if_neg hkey).symm.trans hpayload
  subst hp
  cases hexpiry

theorem unexpiring_token_unsound : ¬∃ token header key p,
    sampleAuthenticator.Sound unexpiringToken 0 [] 0 token header key p := fun h ↦
  not_carriesExpiry_unexpiringToken ((OIDCAuthenticator.accepted_soundly_iff
    configured_sampleAuthenticator authenticate_unexpiringToken).mp h)

theorem unexpiring_token_accepted : ¬ ∀ (a a' : OIDCAuthenticator (List UInt8))
    (rawToken : GoString) (askedAt now : ℤ) (fetches : List (Fetch (List UInt8)))
    (user : UserClaims), a.Configured →
      a.authenticate rawToken askedAt fetches now = some (a', .ok user) →
        ∃ token header key p, a.Sound rawToken askedAt fetches now token header key p := by
  intro hall
  obtain ⟨token, header, key, p, hsound⟩ := hall _ _ _ _ _ _ _ configured_sampleAuthenticator
    authenticate_unexpiringToken
  obtain ⟨exp, hexp, -⟩ := hsound.expiry
  exact not_carriesExpiry_unexpiringToken
    ⟨token, header, key, p, hsound.decodes, by rw [hexp, Option.isSome_some]⟩

end Sample

end RemoteInfra.Gateway
