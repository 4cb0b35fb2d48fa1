import Mathlib.Data.List.Sort
import RemoteInfra.Gateway.GoString
import RemoteInfra.Library.Decimal
import RemoteInfra.Library.TransitionSystem

/-!
# The cached signing keys

`OIDCAuthenticator.keyFor` and `refreshKeys` of `oidc_auth.go`.  The keys are fetched again when
they are older than five minutes, and when the key asked for is not among them; a fetch that
fails leaves the cache alone and fails the call.
-/

namespace RemoteInfra.Gateway

open RemoteInfra.Library

structure JSONWebKey (Key : Type) where
  keyID : GoString
  key : Key
  deriving DecidableEq

/-- What a request for the key set meets. -/
inductive JWKSResponse (Key : Type)
  | requestError (err : GoString)
  | transportError (err : GoString)
  | answered (status : ℕ) (body : Except GoString (List (JSONWebKey Key)))

/-- One request, and when it is over. -/
structure Fetch (Key : Type) where
  response : JWKSResponse Key
  completedAt : ℤ

/-- Times are nanoseconds; `fetchedAt` is `none` before the first fetch, the zero time. -/
structure OIDCAuthenticator (Key : Type) where
  issuer : GoString
  audiences : List GoString
  keys : List (JSONWebKey Key)
  fetchedAt : Option ℤ
  deriving DecidableEq

def fiveMinutes : ℤ := 5 * 60 * 10 ^ 9

namespace OIDCAuthenticator

variable {Key : Type}

def refreshKeys (a : OIDCAuthenticator Key) (f : Fetch Key) :
    OIDCAuthenticator Key × Option FormattedError :=
  match f.response with
  | .requestError err => (a, some ⟨"create JWKS request: %w", err⟩)
  | .transportError err => (a, some ⟨"fetch JWKS: %w", err⟩)
  | .answered status body =>
      if status ≠ 200 then
        (a, some ⟨"fetch JWKS: status %d", (Decimal.natText status).map .rune⟩)
      else
        match body with
        | .error err => (a, some ⟨"decode JWKS: %w", err⟩)
        | .ok [] => (a, some ⟨"JWKS contains no keys", []⟩)
        | .ok keys => ({ a with keys := keys, fetchedAt := some f.completedAt }, none)

/-- `time.Since(a.fetchedAt) > 5*time.Minute`. -/
def stale (a : OIDCAuthenticator Key) (now : ℤ) : Bool :=
  match a.fetchedAt with
  | some t => now - t > fiveMinutes
  | none => true

/-- `a.keys.Key(keyID)`. -/
def keysNamed (a : OIDCAuthenticator Key) (keyID : GoString) : List (JSONWebKey Key) :=
  a.keys.filter fun k ↦ k.keyID = keyID

def onlyKey : List (JSONWebKey Key) → Except FormattedError (JSONWebKey Key)
  | [key] => .ok key
  | _ => .error ⟨"signing key not found", []⟩

/-- `keyFor` from its lookup on.  `fetches` are the requests it makes; `none` where it would make
more or fewer. -/
def lookUp (a : OIDCAuthenticator Key) (keyID : GoString) (fetches : List (Fetch Key)) :
    Option (OIDCAuthenticator Key × Except FormattedError (JSONWebKey Key)) :=
  if a.keysNamed keyID = [] then
    match fetches with
    | [f] =>
        match a.refreshKeys f with
        | (a', some e) => some (a', .error e)
        | (a', none) => some (a', onlyKey (a'.keysNamed keyID))
    | _ => none
  else
    match fetches with
    | [] => some (a, onlyKey (a.keysNamed keyID))
    | _ => none

/-- `keyFor` with its age check at `now`. -/
def keyFor (a : OIDCAuthenticator Key) (keyID : GoString) (now : ℤ)
    (fetches : List (Fetch Key)) :
    Option (OIDCAuthenticator Key × Except FormattedError (JSONWebKey Key)) :=
  if a.stale now || a.keys.isEmpty then
    match fetches with
    | [] => none
    | f :: fetches =>
        match a.refreshKeys f with
        | (a', some e) => if fetches.isEmpty then some (a', .error e) else none
        | (a', none) => a'.lookUp keyID fetches
  else a.lookUp keyID fetches

end OIDCAuthenticator

/-! ## What has been fetched -/

section

variable {Key : Type}

/-- The keys and the time of a fetch that succeeds. -/
def Fetch.fetched (f : Fetch Key) : Option (List (JSONWebKey Key) × ℤ) :=
  match f.response with
  | .answered 200 (.ok (key :: keys)) => some (key :: keys, f.completedAt)
  | _ => none

/-- The latest successful fetch, `before` being the one that came before `fetches`. -/
def latest (before : Option (List (JSONWebKey Key) × ℤ)) (fetches : List (Fetch Key)) :
    Option (List (JSONWebKey Key) × ℤ) :=
  fetches.foldl (fun last f ↦ f.fetched.or last) before

@[simp] theorem latest_nil (before : Option (List (JSONWebKey Key) × ℤ)) :
    latest before [] = before := rfl

@[simp] theorem latest_cons (before : Option (List (JSONWebKey Key) × ℤ)) (f : Fetch Key)
    (fetches : List (Fetch Key)) :
    latest before (f :: fetches) = latest (f.fetched.or before) fetches := rfl

theorem latest_append (before : Option (List (JSONWebKey Key) × ℤ))
    (first second : List (Fetch Key)) :
    latest before (first ++ second) = latest (latest before first) second :=
  List.foldl_append

theorem fetched_ne_nil {f : Fetch Key} {keys : List (JSONWebKey Key)} {t : ℤ}
    (h : f.fetched = some (keys, t)) : keys ≠ [] ∧ t = f.completedAt := by
  unfold Fetch.fetched at h
  split at h
  · obtain ⟨rfl, rfl⟩ := Prod.mk.inj (Option.some.inj h)
    exact ⟨List.cons_ne_nil _ _, rfl⟩
  · cases h

namespace OIDCAuthenticator

/-- A fetch either succeeds and is cached, or fails and changes nothing. -/
theorem refreshKeys_cases (a : OIDCAuthenticator Key) (f : Fetch Key) :
    (∃ e, f.fetched = none ∧ a.refreshKeys f = (a, some e)) ∨
      ∃ keys t, f.fetched = some (keys, t) ∧
        a.refreshKeys f = ({ a with keys := keys, fetchedAt := some t }, none) := by
  obtain ⟨response, completedAt⟩ := f
  unfold Fetch.fetched refreshKeys
  cases response with
  | requestError err => exact .inl ⟨_, rfl, rfl⟩
  | transportError err => exact .inl ⟨_, rfl, rfl⟩
  | answered status body =>
      by_cases hstatus : status = 200
      · subst hstatus
        cases body with
        | error err => exact .inl ⟨_, rfl, rfl⟩
        | ok keys =>
            cases keys with
            | nil => exact .inl ⟨_, rfl, rfl⟩
            | cons key keys => exact .inr ⟨_, _, rfl, rfl⟩
      · left
        simp only [hstatus, ne_eq, not_false_eq_true, if_true]
        refine ⟨_, ?_, rfl⟩
        split
        · rename_i h
          cases h
          exact absurd rfl hstatus
        · rfl

/-- The cache is the outcome of the latest successful fetch. -/
structure Reflects (a : OIDCAuthenticator Key) (last : Option (List (JSONWebKey Key) × ℤ)) :
    Prop where
  keys_eq : a.keys = (last.map Prod.fst).getD []
  fetchedAt_eq : a.fetchedAt = last.map Prod.snd
  keys_ne : ∀ keys t, last = some (keys, t) → keys ≠ []

theorem Reflects.refreshed {a : OIDCAuthenticator Key} {f : Fetch Key}
    {keys : List (JSONWebKey Key)} {t : ℤ} (h : f.fetched = some (keys, t)) :
    ({ a with keys := keys, fetchedAt := some t } : OIDCAuthenticator Key).Reflects
      (some (keys, t)) where
  keys_eq := rfl
  fetchedAt_eq := rfl
  keys_ne := by
    rintro keys' t' heq
    obtain ⟨rfl, rfl⟩ := Prod.mk.inj (Option.some.inj heq)
    exact (fetched_ne_nil h).1

theorem Reflects.keys_of_some {a : OIDCAuthenticator Key} {keys : List (JSONWebKey Key)} {t : ℤ}
    (h : a.Reflects (some (keys, t))) : a.keys = keys ∧ a.fetchedAt = some t :=
  ⟨h.keys_eq, h.fetchedAt_eq⟩

/-- The keys of `keys` that are named `keyID`. -/
def named (keyID : GoString) (keys : List (JSONWebKey Key)) : List (JSONWebKey Key) :=
  keys.filter fun k ↦ k.keyID = keyID

/-- What a call comes to whose cache reflects `last`, by its last request if it makes any. -/
inductive Outcome (a : OIDCAuthenticator Key) (last : Option (List (JSONWebKey Key) × ℤ))
    (keyID : GoString) (now : ℤ) :
    List (Fetch Key) → Except FormattedError (JSONWebKey Key) → Prop
  | cached (hfresh : a.stale now = false) (hknown : a.keysNamed keyID ≠ []) :
      Outcome a last keyID now [] (onlyKey (a.keysNamed keyID))
  | served (front : List (Fetch Key)) {f : Fetch Key} {keys : List (JSONWebKey Key)} {t : ℤ}
      (hfetched : f.fetched = some (keys, t)) :
      Outcome a last keyID now (front ++ [f]) (onlyKey (named keyID keys))
  | unrefreshed {f : Fetch Key} {e : FormattedError} (hfailed : f.fetched = none)
      (hneeded : a.stale now = true ∨ a.keys = []) : Outcome a last keyID now [f] (.error e)
  | unknown (front : List (Fetch Key)) {f : Fetch Key} {e : FormattedError}
      (hfailed : f.fetched = none)
      (hunknown : ∀ keys t, latest last front = some (keys, t) → named keyID keys = []) :
      Outcome a last keyID now (front ++ [f]) (.error e)

theorem lookUp_cases {a a' : OIDCAuthenticator Key} {last : Option (List (JSONWebKey Key) × ℤ)}
    {keyID : GoString} {fetches : List (Fetch Key)}
    {result : Except FormattedError (JSONWebKey Key)} (hreflects : a.Reflects last)
    (h : a.lookUp keyID fetches = some (a', result)) :
    a'.Reflects (latest last fetches) ∧
      ((fetches = [] ∧ a.keysNamed keyID ≠ [] ∧ result = onlyKey (a.keysNamed keyID)) ∨
        (∃ f keys t, fetches = [f] ∧ f.fetched = some (keys, t) ∧
          result = onlyKey (named keyID keys)) ∨
        ∃ f e, fetches = [f] ∧ f.fetched = none ∧ a.keysNamed keyID = [] ∧ result = .error e) := by
  unfold lookUp at h
  split at h
  · rename_i hunknown
    split at h
    · rename_i f
      rcases a.refreshKeys_cases f with ⟨e, hfailed, hrefresh⟩ | ⟨keys, t, hfetched, hrefresh⟩
      · simp only [hrefresh] at h
        obtain ⟨rfl, rfl⟩ := Prod.mk.inj (Option.some.inj h)
        exact ⟨by simpa [hfailed] using hreflects, .inr (.inr ⟨f, e, rfl, hfailed, hunknown, rfl⟩)⟩
      · simp only [hrefresh] at h
        obtain ⟨rfl, rfl⟩ := Prod.mk.inj (Option.some.inj h)
        refine ⟨?_, .inr (.inl ⟨f, keys, t, rfl, hfetched, rfl⟩)⟩
        simpa [hfetched] using Reflects.refreshed (a := a) hfetched
    · cases h
  · rename_i hknown
    split at h
    · obtain ⟨rfl, rfl⟩ := Prod.mk.inj (Option.some.inj h)
      exact ⟨hreflects, .inl ⟨rfl, hknown, rfl⟩⟩
    · cases h

/-- After a call the cache reflects the latest successful fetch still, and the call ended in one
of the four ways. -/
theorem keyFor_cases {a a' : OIDCAuthenticator Key} {last : Option (List (JSONWebKey Key) × ℤ)}
    {keyID : GoString} {now : ℤ} {fetches : List (Fetch Key)}
    {result : Except FormattedError (JSONWebKey Key)} (hreflects : a.Reflects last)
    (h : a.keyFor keyID now fetches = some (a', result)) :
    a'.Reflects (latest last fetches) ∧ Outcome a last keyID now fetches result := by
  unfold keyFor at h
  split at h
  · rename_i hneeded
    simp only [Bool.or_eq_true, List.isEmpty_iff] at hneeded
    split at h
    · cases h
    · rename_i f rest
      rcases a.refreshKeys_cases f with ⟨e, hfailed, hrefresh⟩ | ⟨keys, t, hfetched, hrefresh⟩
      · simp only [hrefresh] at h
        split at h
        · rename_i hrest
          obtain rfl := List.isEmpty_iff.mp hrest
          obtain ⟨rfl, rfl⟩ := Prod.mk.inj (Option.some.inj h)
          exact ⟨by simpa [hfailed] using hreflects, .unrefreshed hfailed hneeded⟩
        · cases h
      · simp only [hrefresh] at h
        have hfirst : f.fetched.or last = some (keys, t) := by rw [hfetched, Option.some_or]
        obtain ⟨hreflects', hresult⟩ := lookUp_cases (Reflects.refreshed hfetched) h
        rw [latest_cons, hfirst]
        refine ⟨hreflects', ?_⟩
        rcases hresult with ⟨rfl, -, rfl⟩ | ⟨g, keys', t', rfl, hserved, rfl⟩ |
          ⟨g, e, rfl, hfailed, hunknown, rfl⟩
        · exact .served [] hfetched
        · exact .served [f] hserved
        · refine .unknown [f] hfailed fun keys' t' hlatest ↦ ?_
          rw [latest_cons, hfirst, latest_nil] at hlatest
          obtain ⟨rfl, rfl⟩ := Prod.mk.inj (Option.some.inj hlatest)
          exact hunknown
  · rename_i hneeded
    simp only [Bool.or_eq_true, List.isEmpty_iff, not_or, Bool.not_eq_true] at hneeded
    obtain ⟨hreflects', hresult⟩ := lookUp_cases hreflects h
    refine ⟨hreflects', ?_⟩
    rcases hresult with ⟨rfl, hknown, rfl⟩ | ⟨g, keys, t, rfl, hserved, rfl⟩ |
      ⟨g, e, rfl, hfailed, hunknown, rfl⟩
    · exact .cached hneeded.1 hknown
    · exact .served [] hserved
    · refine .unknown [] hfailed fun keys t hlatest ↦ ?_
      rw [latest_nil] at hlatest
      subst hlatest
      rw [← hreflects.keys_of_some.1]
      exact hunknown

theorem onlyKey_eq_ok_iff {keys : List (JSONWebKey Key)} {key : JSONWebKey Key} :
    onlyKey keys = .ok key ↔ keys = [key] := by
  unfold onlyKey
  split
  · rename_i k
    simp
  · rename_i hne
    exact ⟨fun h ↦ (by cases h), fun h ↦ absurd h (hne key)⟩

/-- A key that is returned is the only cached one of its id. -/
theorem keysNamed_of_keyFor {a a' : OIDCAuthenticator Key} {keyID : GoString} {now : ℤ}
    {fetches : List (Fetch Key)} {key : JSONWebKey Key}
    (h : a.keyFor keyID now fetches = some (a', .ok key)) : a'.keysNamed keyID = [key] := by
  have hlookUp : ∀ (b : OIDCAuthenticator Key) (fetches : List (Fetch Key)),
      b.lookUp keyID fetches = some (a', .ok key) → a'.keysNamed keyID = [key] := by
    intro b fetches h
    unfold lookUp at h
    split at h
    · split at h
      · split at h
        · cases h
        · obtain ⟨rfl, hkey⟩ := Prod.mk.inj (Option.some.inj h)
          exact onlyKey_eq_ok_iff.mp hkey
      · cases h
    · split at h
      · obtain ⟨rfl, hkey⟩ := Prod.mk.inj (Option.some.inj h)
        exact onlyKey_eq_ok_iff.mp hkey
      · cases h
  unfold keyFor at h
  split at h
  · split at h
    · cases h
    · split at h
      · split at h <;> cases h
      · exact hlookUp _ _ h
  · exact hlookUp _ _ h

end OIDCAuthenticator

end

/-! ## Histories of calls -/

/-- `unicode.IsSpace`. -/
def isSpace : GoUnit → Bool
  | .rune c =>
      (9 ≤ c.toNat && c.toNat ≤ 13) || (0x2000 ≤ c.toNat && c.toNat ≤ 0x200A) ||
        c.toNat ∈ [0x20, 0x85, 0xA0, 0x1680, 0x2028, 0x2029, 0x202F, 0x205F, 0x3000]
  | .stray _ => false

/-- `strings.TrimSpace`. -/
def trimSpace (s : GoString) : GoString :=
  ((s.dropWhile isSpace).reverse.dropWhile isSpace).reverse

def newOIDCAuthenticator {Key : Type} (issuer audience jwksURL : GoString) :
    Except FormattedError (OIDCAuthenticator Key) :=
  if issuer = [] ∨ audience = [] ∨ jwksURL = [] then
    .error ⟨"OIDC_ISSUER, OIDC_AUDIENCE, and OIDC_JWKS_URL are required", []⟩
  else
    let audiences := ((audience.splitOn (.rune ',')).map trimSpace).filter fun value ↦ value ≠ []
    if audiences = [] then
      .error ⟨"OIDC_AUDIENCE must contain at least one audience", []⟩
    else .ok { issuer := issuer, audiences := audiences, keys := [], fetchedAt := none }

/-- A call of `keyFor`, its age check at `now`. -/
structure KeyCall (Key : Type) where
  keyID : GoString
  now : ℤ
  fetches : List (Fetch Key)
  result : Except FormattedError (JSONWebKey Key)

structure KeyState (Key : Type) where
  authenticator : OIDCAuthenticator Key
  clock : ℤ

section

variable {Key : Type}

/-- A call's clock readings, in order. -/
def KeyCall.times (call : KeyCall Key) : List ℤ := call.now :: call.fetches.map Fetch.completedAt

/-- The lock makes each call one step. -/
def KeyState.Step (st : KeyState Key) (call : KeyCall Key) (st' : KeyState Key) : Prop :=
  (st.clock :: call.times).Pairwise (· ≤ ·) ∧
    st.authenticator.keyFor call.keyID call.now call.fetches =
      some (st'.authenticator, call.result) ∧
    call.times.getLast? = some st'.clock

def keySystem (Key : Type) : TransitionSystem (KeyState Key) (KeyCall Key) where
  Init st := ∃ issuer audience jwksURL,
    newOIDCAuthenticator issuer audience jwksURL = .ok st.authenticator
  Step := KeyState.Step

/-- Every fetch of the calls, in order. -/
def fetchesOf (calls : List (KeyCall Key)) : List (Fetch Key) := calls.flatMap KeyCall.fetches

/-- The most recently successfully fetched key set and when it was fetched. -/
def lastFetched (fetches : List (Fetch Key)) : Option (List (JSONWebKey Key) × ℤ) :=
  latest none fetches

theorem fetchesOf_append (calls : List (KeyCall Key)) (call : KeyCall Key) :
    fetchesOf (calls ++ [call]) = fetchesOf calls ++ call.fetches := by
  simp [fetchesOf]

theorem reflects_of_run {calls : List (KeyCall Key)} {st : KeyState Key}
    (hrun : (keySystem Key).Run calls st) :
    st.authenticator.Reflects (lastFetched (fetchesOf calls)) := by
  refine hrun.invariant (P := fun calls st ↦
    st.authenticator.Reflects (lastFetched (fetchesOf calls))) ?_ ?_
  · rintro st ⟨issuer, audience, jwksURL, hnew⟩
    unfold newOIDCAuthenticator at hnew
    dsimp only at hnew
    split_ifs at hnew
    obtain hnew := Except.ok.inj hnew
    rw [← hnew]
    exact ⟨rfl, rfl, by rintro keys t ⟨⟩⟩
  · rintro calls st call st' - hreflects - ⟨-, hcall, -⟩
    rw [fetchesOf_append, lastFetched, latest_append]
    exact (OIDCAuthenticator.keyFor_cases hreflects hcall).1

/-- A fetch of a call is over after the call's age check. -/
theorem le_completedAt {st st' : KeyState Key} {call : KeyCall Key} (h : st.Step call st')
    {f : Fetch Key} (hf : f ∈ call.fetches) : call.now ≤ f.completedAt := by
  have htimes := (List.pairwise_cons.mp (List.pairwise_cons.mp h.1).2).1
  exact htimes _ (List.mem_map_of_mem hf)

open OIDCAuthenticator in
/-- While the key sets cannot be fetched any more, a key of the last set is returned exactly
until five minutes after that fetch. -/
theorem key_survives_outage_iff {calls : List (KeyCall Key)} {st st' : KeyState Key}
    {call : KeyCall Key} (hrun : (keySystem Key).Run calls st) (hstep : st.Step call st')
    {keys : List (JSONWebKey Key)} {t : ℤ} {key : JSONWebKey Key}
    (hlast : lastFetched (fetchesOf (calls ++ [call])) = some (keys, t))
    (hkey : named call.keyID keys = [key]) :
    call.result = .ok key ↔ call.now - t ≤ fiveMinutes := by
  have hreflects := reflects_of_run hrun
  obtain ⟨-, houtcome⟩ := keyFor_cases hreflects hstep.2.1
  have hlater : ∀ f ∈ call.fetches, call.now ≤ f.completedAt := fun f hf ↦
    le_completedAt hstep hf
  rw [fetchesOf_append, lastFetched, latest_append] at hlast
  change latest (lastFetched (fetchesOf calls)) call.fetches = _ at hlast
  generalize lastFetched (fetchesOf calls) = last at hreflects houtcome hlast
  generalize call.result = result at houtcome ⊢
  generalize call.fetches = fetches at houtcome hlater hlast
  cases houtcome with
  | cached hfresh hknown =>
      rw [latest_nil] at hlast
      subst hlast
      obtain ⟨hkeys, hfetchedAt⟩ := hreflects.keys_of_some
      have honly : st.authenticator.keysNamed call.keyID = [key] := by
        rw [keysNamed, hkeys]
        exact hkey
      refine iff_of_true (onlyKey_eq_ok_iff.mpr honly) ?_
      simpa [stale, hfetchedAt] using hfresh
  | @served front f keys' t' hfetched =>
      rw [latest_append, latest_cons, latest_nil, hfetched, Option.some_or] at hlast
      obtain ⟨rfl, rfl⟩ := Prod.mk.inj (Option.some.inj hlast)
      refine iff_of_true (onlyKey_eq_ok_iff.mpr hkey) ?_
      have hle := hlater f (by simp)
      rw [(fetched_ne_nil hfetched).2]
      unfold fiveMinutes
      omega
  | @unrefreshed f e hfailed hneeded =>
      rw [latest_cons, latest_nil, hfailed, Option.none_or] at hlast
      subst hlast
      obtain ⟨hkeys, hfetchedAt⟩ := hreflects.keys_of_some
      have hstale : st.authenticator.stale call.now = true := by
        rcases hneeded with hstale | hempty
        · exact hstale
        · exact absurd (hkeys.symm.trans hempty) (hreflects.keys_ne keys t rfl)
      simp only [stale, hfetchedAt, gt_iff_lt, decide_eq_true_eq] at hstale
      exact iff_of_false (by simp) (not_le.mpr hstale)
  | unknown front hfailed hunknown =>
      rw [latest_append, latest_cons, latest_nil, hfailed, Option.none_or] at hlast
      cases hkey.symm.trans (hunknown keys t hlast)

end

/-! ## An outage of six minutes -/

section Outage

def sampleJWK : JSONWebKey ℕ := ⟨GoString.ofString "k1", 1⟩

def freshAuthenticator : OIDCAuthenticator ℕ where
  issuer := GoString.ofString "https://issuer.example.com"
  audiences := [GoString.ofString "teleop-api"]
  keys := []
  fetchedAt := none

def cachedAuthenticator : OIDCAuthenticator ℕ :=
  { freshAuthenticator with keys := [sampleJWK], fetchedAt := some 0 }

def servedFetch : Fetch ℕ := ⟨.answered 200 (.ok [sampleJWK]), 0⟩

def failedFetch : Fetch ℕ := ⟨.transportError (GoString.ofString "EOF"), 6 * 60 * 10 ^ 9⟩

def firstKeyCall : KeyCall ℕ := ⟨sampleJWK.keyID, 0, [servedFetch], .ok sampleJWK⟩

def outageKeyCall : KeyCall ℕ where
  keyID := sampleJWK.keyID
  now := 6 * 60 * 10 ^ 9
  fetches := [failedFetch]
  result := .error ⟨"fetch JWKS: %w", GoString.ofString "EOF"⟩

theorem keySystem_init : (keySystem ℕ).Run [] ⟨freshAuthenticator, 0⟩ :=
  .init ⟨GoString.ofString "https://issuer.example.com", GoString.ofString "teleop-api",
    GoString.ofString "https://issuer.example.com/jwks", by decide +kernel⟩

theorem firstKeyCall_step : KeyState.Step ⟨freshAuthenticator, 0⟩ firstKeyCall
    ⟨cachedAuthenticator, 0⟩ :=
  ⟨by decide, by decide, by decide⟩

theorem firstKeyCall_run : (keySystem ℕ).Run [firstKeyCall] ⟨cachedAuthenticator, 0⟩ :=
  .step keySystem_init trivial firstKeyCall_step

theorem outageKeyCall_step : KeyState.Step ⟨cachedAuthenticator, 0⟩ outageKeyCall
    ⟨cachedAuthenticator, 6 * 60 * 10 ^ 9⟩ :=
  ⟨by decide, by decide, by decide⟩

theorem known_key_lost : outageKeyCall.result ≠ .ok sampleJWK := by
  have hlast : lastFetched (fetchesOf ([firstKeyCall] ++ [outageKeyCall])) =
      some ([sampleJWK], 0) := by decide
  have honly : OIDCAuthenticator.named outageKeyCall.keyID [sampleJWK] = [sampleJWK] := by decide
  have hlost := key_survives_outage_iff firstKeyCall_run outageKeyCall_step hlast honly
  exact fun h ↦ absurd (hlost.mp h) (by decide)

theorem outage_locks_out : ¬ ∀ (calls : List (KeyCall ℕ)) (st st' : KeyState ℕ)
    (call : KeyCall ℕ) (keys : List (JSONWebKey ℕ)) (t : ℤ) (key : JSONWebKey ℕ),
    (keySystem ℕ).Run calls st → st.Step call st' →
      lastFetched (fetchesOf (calls ++ [call])) = some (keys, t) →
        OIDCAuthenticator.named call.keyID keys = [key] → call.result = .ok key := by
  intro hall
  have hkey := hall [firstKeyCall] _ _ outageKeyCall [sampleJWK] 0 sampleJWK firstKeyCall_run
    outageKeyCall_step (by decide) (by decide)
  cases hkey

end Outage

end RemoteInfra.Gateway
