import RemoteInfra.EndToEnd.SignedBytes
import RemoteInfra.Library.Records
import RemoteInfra.Vehicle.FalseBrake

/-!
# Commands over a channel that loses, repeats and reorders

The console publishes with `reliable: false`: a packet may be lost or come late, twice or out of
order, and anybody in the room may send it again.  The vehicle obeys those of the packets it
hears whose sequence is a new record, so it obeys a part of what was sent, in the order in which
it was sent.
-/

namespace RemoteInfra.EndToEnd

open RemoteInfra.Library RemoteInfra.Python RemoteInfra.JavaScript RemoteInfra.Console
  RemoteInfra.Vehicle

/-- A command that was sent, and when. -/
structure Transmission (Key : Type) where
  command : ControlCommand
  timestampMS : SafeInteger
  sent : SentCommand Key

structure Channel (Key : Type) where
  sender : SecureControlSender Key
  sent : List (Transmission Key)
  vehicle : RuntimeState
  /-- what came in time and from the operator while a session was loaded; for the statements
  only -/
  heard : List (Transmission Key)

inductive ChannelLabel
  | send (command : ControlCommand) (now : SafeInteger)
  | deliver (i : ℕ) (senderIdentity : PyStr) (verdict : Except PyExc (Option PyValue))
  /-- also packets that the console did not send -/
  | vehicle (l : RuntimeLabel)

def Transmission.sequence {Key : Type} (t : Transmission Key) : ℤ := t.sent.sender.sequence.val

namespace Channel

variable {Key : Type}

def verifier (c : Channel Key) : SessionCommandVerifier := c.vehicle.runtime.verifier

def applied (c : Channel Key) : List (String × ActuatorCommand) :=
  c.vehicle.runtime.brakeController.applied

/-- The packet comes from the operator of the loaded session and within its time window. -/
def Hears [PythonPlatform] (c : Channel Key) (t : Transmission Key) (senderIdentity : PyStr) :
    Prop :=
  ∃ session, c.verifier.session = some session ∧
    senderIdentity = SessionCommandVerifier.operatorIdentity session ∧
    c.vehicle.nowMS - t.timestampMS.val ≤ c.verifier.maxAgeMS ∧
    t.timestampMS.val - c.vehicle.nowMS ≤ c.verifier.maxFutureSkewMS

open Classical in
/-- What has been heard once a packet has arrived. -/
noncomputable def heardAfter [PythonPlatform] (c : Channel Key) (t : Transmission Key)
    (senderIdentity : PyStr) : List (Transmission Key) :=
  if c.Hears t senderIdentity then c.heard ++ [t] else c.heard

inductive Step [PythonPlatform] [Ed25519] (sign : Key → JSString → JSString) (timeoutMS : ℚ) :
    Channel Key → ChannelLabel → Channel Key → Prop
  | send {c : Channel Key} {command : ControlCommand} {now : SafeInteger} {s : SentCommand Key} :
      c.sender.sendCommand sign command now = .ok s →
        Step sign timeoutMS c (.send command now)
          { c with sender := s.sender, sent := c.sent ++ [⟨command, now, s⟩] }
  | deliver {c : Channel Key} {i : ℕ} {t : Transmission Key} {senderIdentity : PyStr}
      {verdict : Except PyExc (Option PyValue)} {st : RuntimeState} :
      c.sent[i]? = some t →
        RuntimeState.Step timeoutMS c.vehicle (.message t.sent.published senderIdentity verdict)
            st →
          Step sign timeoutMS c (.deliver i senderIdentity verdict)
            { c with vehicle := st, heard := c.heardAfter t senderIdentity }
  | vehicle {c : Channel Key} {l : RuntimeLabel} {st : RuntimeState} :
      RuntimeState.Step timeoutMS c.vehicle l st →
        Step sign timeoutMS c (.vehicle l) { c with vehicle := st }

end Channel

/-- A console in a fresh session and a vehicle that was just started. -/
def channelSystem {Key : Type} [PythonPlatform] [Ed25519] (sign : Key → JSString → JSString)
    (sessionID : JSString) (timeoutMS : ℚ) : TransitionSystem (Channel Key) ChannelLabel where
  Init c := c.sender.sessionID = some sessionID ∧ c.sender.sequence.val = 0 ∧ c.sent = [] ∧
    c.heard = [] ∧ c.vehicle.Initial
  Step := Channel.Step sign timeoutMS

/-! ## A session that is kept -/

/-- The vehicle decodes the signature of a text and verifies it. -/
def Verifies [Ed25519] (key : VerifyKey) (signed signature : JSString) : Prop :=
  ∀ message, encode (codePoints signed) = .ok message →
    ∃ bytes, b64decode (.str (codePoints signature)) = .ok bytes ∧ bytes.length = 64 ∧
      Ed25519.verify key message bytes = true

def Channel.NotExpired {Key : Type} (c : Channel Key) : Prop :=
  ∀ loaded, c.verifier.session = some loaded → c.vehicle.nowMS ≤ loaded.expiresAtMS

def Channel.Refreshing {Key : Type} (c : Channel Key) (i : ℕ)
    (refresh : SessionCommandVerifier.Refresh) : Prop :=
  c.vehicle.flights[i]? = some (some refresh)

/-- Asked of every step: the console sends what both languages read alike, under a signature
that verifies; nobody else signs with its key; one refresh runs at a time and brings the
session, which does not expire. -/
def Connected {Key : Type} [PythonPlatform] [Ed25519] (sign : Key → JSString → JSString)
    (session : ActiveControlSession) (key : VerifyKey) :
    TransitionSystem.StepCondition (Channel Key) ChannelLabel
  | _, c, .send command now => InRange command ∧ ReadAlike command ∧
      c.sender.sequence.val + 1 < 2 ^ 53 ∧ now.val.natAbs < 2 ^ 53 ∧
      ∀ privateKey s, c.sender.privateKey = some privateKey →
        c.sender.sendCommand sign command now = .ok s →
          Verifies key s.signed (sign privateKey s.signed)
  | _, c, .deliver _ _ _ => c.NotExpired
  | _, c, .vehicle (.message rawMessage _ _) =>
      c.NotExpired ∧ signedUnder key rawMessage = false
  | _, c, .vehicle .beginRefresh => ∀ i refresh, ¬c.Refreshing i refresh
  | _, c, .vehicle (.finishRefresh _ outcome _) =>
      ∃ payload loaded, outcome = .answered 200 payload ∧
        SessionCommandVerifier.loadSession c.verifier.vehicleID payload = .ok (loaded, key) ∧
          SameSession loaded session
  | _, _, _ => True

/-- The vehicle did what the command says. -/
def Obeyed {Key : Type} [PythonPlatform] (a : String × ActuatorCommand) (t : Transmission Key) :
    Prop :=
  a.1 = "remote" ∧ resolveCommand (.dict t.command.entries) = .ok a.2

/-! ## What the console sends -/

section Sent

/-- No lone surrogate. -/
def Encodes (s : PyStr) : Prop := ∃ cs, s = PyStr.ofList cs

theorem encode_ofList (cs : List Char) : encode (PyStr.ofList cs) = .ok cs := by
  have hmap : ∀ f : PyChar → Option Char, (∀ c, f (.scalar c) = some c) →
      (PyStr.ofList cs).mapM f = some cs := by
    intro f hf
    induction cs with
    | nil => rfl
    | cons c cs ih =>
        rw [PyStr.ofList] at ih ⊢
        rw [List.map_cons, List.mapM_cons, hf, ih]
        rfl
  unfold encode
  rw [hmap _ fun _ ↦ rfl]

theorem Encodes.encode {s : PyStr} (h : Encodes s) : ∃ message, encode s = .ok message := by
  obtain ⟨cs, rfl⟩ := h
  exact ⟨cs, encode_ofList cs⟩

theorem Encodes.append {s t : PyStr} (hs : Encodes s) (ht : Encodes t) : Encodes (s ++ t) := by
  obtain ⟨cs, rfl⟩ := hs
  obtain ⟨ds, rfl⟩ := ht
  exact ⟨cs ++ ds, by simp [PyStr.ofList]⟩

theorem encodes_ofList (cs : List Char) : Encodes (PyStr.ofList cs) := ⟨cs, rfl⟩

theorem encodes_joinWith {fields : List PyStr} (h : ∀ field ∈ fields, Encodes field) :
    Encodes (joinWith [bar] fields) := by
  induction fields with
  | nil => exact encodes_ofList []
  | cons field fields ih =>
      obtain ⟨hfield, hfields⟩ := List.forall_mem_cons.mp h
      cases fields with
      | nil => exact hfield
      | cons next fields =>
          rw [joinWith_cons _ _ (List.cons_ne_nil _ _)]
          exact hfield.append (.append (encodes_ofList ['|']) (ih hfields))

theorem encodes_shownNumber (x : Number) : Encodes (codePoints (shownNumber x)) := by
  rw [codePoints_shownNumber]
  exact encodes_ofList _

theorem encodes_name {name : String} (h : ∀ c ∈ name.toList, c.toNat < 0xD800) :
    Encodes (codePoints (text name)) := by
  rw [codePoints_name h]
  exact encodes_ofList _

theorem encodes_shown {x : Option JSString} (h : ∀ s ∈ x, Encodes (codePoints s)) :
    Encodes (codePoints (shown x)) := by
  cases x with
  | none => exact encodes_name (by decide)
  | some s => exact h s rfl

theorem encodes_commandFields (command : ControlCommand) :
    ∀ field ∈ (commandFields command).map codePoints, Encodes field := by
  have hnumber : ∀ x : Option Number, Encodes (codePoints (shown (x.map shownNumber))) := by
    intro x
    refine encodes_shown fun s hs ↦ ?_
    obtain ⟨y, -, rfl⟩ := Option.mem_map.mp hs
    exact encodes_shownNumber y
  unfold commandFields
  split_ifs
  · simp only [List.map_cons, List.map_nil, List.forall_mem_cons]
    refine ⟨encodes_name (by decide), encodes_shown fun s hs ↦ ?_, by simp⟩
    obtain ⟨a, -, rfl⟩ := Option.mem_map.mp hs
    exact encodes_name (by cases a <;> decide)
  · simp only [List.map_cons, List.map_nil, List.forall_mem_cons]
    exact ⟨encodes_name (by decide), hnumber _, hnumber _, hnumber _, encodes_shownNumber _,
      by simp⟩

/-- A signed text can be encoded if the session id can. -/
theorem encodes_signMessage {payload : ControlPayload} (htype : payload.type = text "control")
    (hsession : Encodes (codePoints payload.sessionID)) :
    Encodes (codePoints (signMessage payload)) := by
  rw [codePoints_signMessage]
  refine encodes_joinWith fun field hfield ↦ ?_
  rcases List.mem_append.mp hfield with hheader | hcommand
  · revert field
    simp only [headerFields, htype, List.map_cons, List.map_nil]
    intro field hfield hheader
    simp only [List.mem_cons, List.not_mem_nil, or_false] at hheader
    rcases hheader with rfl | rfl | rfl | rfl | rfl
    · exact encodes_shownNumber _
    · exact encodes_name (by decide)
    · exact hsession
    · exact encodes_shownNumber _
    · exact encodes_shownNumber _
  · exact encodes_commandFields _ field hcommand

/-- What the vehicle finds in a packet of the console. -/
structure FromConsole {Key : Type} [PythonPlatform] [Ed25519] (session : ActiveControlSession)
    (key : VerifyKey) (t : Transmission Key) (packet : PyValue) : Prop where
  loads_eq : loads t.sent.published = .ok packet
  version : ∃ x, packet.getItem "version" = .ok x ∧ x.eq PROTOCOL_VERSION = true
  type : ∃ x, packet.getItem "type" = .ok x ∧ x.eq CONTROL_TYPE = true
  sessionID : ∃ x, packet.getItem "session_id" = .ok x ∧ x.eq session.sessionID = true
  timestamp : ∃ x, packet.getItem "timestamp_ms" = .ok x ∧ pyInt x = .ok t.timestampMS.val
  sequence : ∃ x, packet.getItem "sequence" = .ok x ∧ pyInt x = .ok t.sequence
  command : packet.getItem "command" = .ok (.dict t.command.entries)
  valid : validCommand (.dict t.command.entries) = .ok true
  signature : SessionCommandVerifier.checkSignature key packet = .ok ()

variable {Key : Type} [PythonPlatform] [Ed25519] {sign : Key → JSString → JSString}
  {session : ActiveControlSession} {key : VerifyKey} {sessionID : JSString} {timeoutMS : ℚ}

theorem fromConsole_of_payload (hlimit : 2 ≤ PythonPlatform.nestingLimit)
    (hsession : session.sessionID = .str (codePoints sessionID))
    (hencodes : Encodes (codePoints sessionID)) {command : ControlCommand}
    (hrange : InRange command) (halike : ReadAlike command) {n now : SafeInteger} (hn : n.val.natAbs < 2 ^ 53)
    (hnow : now.val.natAbs < 2 ^ 53) {payload : ControlPayload}
    (hpayload : payload = ⟨SafeInteger.toNumber ⟨1, by decide⟩, text "control", sessionID,
      n.toNumber, now.toNumber, command⟩) {signature : JSString}
    (hverifies : Verifies key (signMessage payload) signature)
    {t : Transmission Key} (hcommand : t.command = command) (htime : t.timestampMS = now)
    (hsequence : t.sequence = n.val)
    (hpublished : t.sent.published = stringify (signedPayload payload signature)) :
    FromConsole session key t (packetOf payload signature) := by
  have hcounted : Counted payload := by
    subst hpayload
    exact ⟨⟨_, rfl⟩, ⟨_, rfl⟩, ⟨_, rfl⟩⟩
  have hloads := loads_signedPayload hlimit payload signature
  have hinRange : InRange payload.command := by rwa [hpayload]
  have hreads : ReadAlike payload.command := by rwa [hpayload]
  obtain ⟨packet, sent, hpacket, hitem, hvalid, hbuild⟩ :=
    (@understood_payload_iff _ payload signature hlimit hcounted hinRange).mpr hreads
  obtain rfl := Except.ok.inj (hloads.symm.trans hpacket)
  obtain ⟨hcommandItem, hversion, htype, hsessionItem, hsequenceItem, htimestamp⟩ :=
    getItem_packetOf payload signature
  obtain rfl := Except.ok.inj (hcommandItem.symm.trans hitem)
  have hsigned : Encodes (codePoints (signMessage payload)) :=
    encodes_signMessage (by rw [hpayload]) (by rwa [hpayload])
  obtain ⟨message, hmessage⟩ := hsigned.encode
  obtain ⟨bytes, hdecode, hlength, hverify⟩ := hverifies message hmessage
  have hone : readNumber payload.version = .int 1 := by
    rw [hpayload]
    exact SafeInteger.readNumber_toNumber (by decide)
  have hcontrol : codePoints payload.type = PyStr.ofString "control" := by
    rw [hpayload]
    exact codePoints_name (by decide)
  have hcount : readNumber payload.sequence = .int n.val := by
    rw [hpayload]
    exact SafeInteger.readNumber_toNumber hn
  have hclock : readNumber payload.timestampMS = .int now.val := by
    rw [hpayload]
    exact SafeInteger.readNumber_toNumber hnow
  have hsent : payload.command = command := by rw [hpayload]
  refine
    { loads_eq := by rw [hpublished, hloads]
      version := ⟨_, hversion, ?_⟩
      type := ⟨_, htype, ?_⟩
      sessionID := ⟨_, hsessionItem, ?_⟩
      timestamp := ⟨_, htimestamp, ?_⟩
      sequence := ⟨_, hsequenceItem, ?_⟩
      command := by rw [hcommandItem, hsent, hcommand]
      valid := by rwa [hcommand, ← hsent]
      signature := ?_ }
  · rw [hone]
    rfl
  · rw [hcontrol]
    exact PyValue.eq_str_iff.mpr rfl
  · rw [hsession, hpayload]
    exact PyValue.eq_str_iff.mpr rfl
  · rw [hclock, htime]
    rfl
  · rw [hcount, hsequence]
    rfl
  · have hsignature : (packetOf payload signature).getItem "signature" =
        .ok (.str (codePoints signature)) := rfl
    simp only [SessionCommandVerifier.checkSignature, hbuild, ok_bind, hmessage, hsignature,
      hdecode, hlength, hverify]
    rfl

/-- Sending adds a packet that the vehicle understands, with the next sequence. -/
theorem fromConsole_of_send (hlimit : 2 ≤ PythonPlatform.nestingLimit)
    (hsession : session.sessionID = .str (codePoints sessionID))
    (hencodes : Encodes (codePoints sessionID)) {c : Channel Key} {ls : List ChannelLabel}
    {command : ControlCommand} {now : SafeInteger} {s : SentCommand Key}
    (hid : c.sender.sessionID = some sessionID) (hnonneg : 0 ≤ c.sender.sequence.val)
    (hcond : Connected sign session key ls c (.send command now))
    (hsend : c.sender.sendCommand sign command now = .ok s) :
    (∃ packet, FromConsole session key ⟨command, now, s⟩ packet) ∧
      s.sender.sequence.val = c.sender.sequence.val + 1 ∧ s.sender.sessionID = some sessionID := by
  obtain ⟨hrange, halike, hsequence, hnow, hverifies⟩ := hcond
  have hsent := hsend
  unfold SecureControlSender.sendCommand at hsend
  split at hsend
  · rename_i privateKey unit units hprivate hunits _
    have hsame : unit :: units = sessionID := Option.some.inj (hunits.symm.trans hid)
    have hincrement : c.sender.sequence.increment.val = c.sender.sequence.val + 1 := by
      rw [SafeInteger.increment, dif_pos (by omega)]
    have hsigned := hverifies privateKey s hprivate hsent
    obtain rfl := Except.ok.inj hsend
    refine ⟨⟨_, fromConsole_of_payload hlimit hsession hencodes hrange halike
      (n := c.sender.sequence.increment) ?_ hnow ?_ hsigned rfl rfl rfl rfl⟩, hincrement, hid⟩
    · omega
    · rw [hsame]
  · cases hsend

/-- What the console has sent so far, and that nothing else is heard. -/
structure Sends (session : ActiveControlSession) (key : VerifyKey) (sessionID : JSString)
    (c : Channel Key) : Prop where
  sessionID_eq : c.sender.sessionID = some sessionID
  nonneg : 0 ≤ c.sender.sequence.val
  fromConsole : ∀ t ∈ c.sent, ∃ packet, FromConsole session key t packet
  bounds : ∀ t ∈ c.sent, 0 < t.sequence ∧ t.sequence ≤ c.sender.sequence.val
  increasing : c.sent.Pairwise fun t u ↦ t.sequence < u.sequence
  heard : c.heard ⊆ c.sent

theorem Sends.send (hlimit : 2 ≤ PythonPlatform.nestingLimit)
    (hsession : session.sessionID = .str (codePoints sessionID))
    (hencodes : Encodes (codePoints sessionID)) {c : Channel Key} {ls : List ChannelLabel}
    (h : Sends session key sessionID c) {command : ControlCommand} {now : SafeInteger}
    {s : SentCommand Key} (hcond : Connected sign session key ls c (.send command now))
    (hsend : c.sender.sendCommand sign command now = .ok s) :
    Sends session key sessionID
      { c with sender := s.sender, sent := c.sent ++ [⟨command, now, s⟩] } := by
  obtain ⟨hfrom, hnext, hid⟩ :=
    fromConsole_of_send hlimit hsession hencodes h.sessionID_eq h.nonneg hcond hsend
  have hnonneg := h.nonneg
  have hnew : (⟨command, now, s⟩ : Transmission Key).sequence = c.sender.sequence.val + 1 := hnext
  refine
    { sessionID_eq := hid
      nonneg := by dsimp only; omega
      fromConsole := ?_
      bounds := ?_
      increasing := ?_
      heard := fun t ht ↦ List.mem_append_left _ (h.heard ht) }
  · intro t ht
    rcases List.mem_append.mp ht with hold | hlast
    · exact h.fromConsole t hold
    · obtain rfl := List.mem_singleton.mp hlast
      exact hfrom
  · intro t ht
    dsimp only
    rcases List.mem_append.mp ht with hold | hlast
    · have := h.bounds t hold
      omega
    · obtain rfl := List.mem_singleton.mp hlast
      omega
  · refine List.pairwise_append.mpr ⟨h.increasing, List.pairwise_singleton _ _, ?_⟩
    intro t ht u hu
    obtain rfl := List.mem_singleton.mp hu
    have := h.bounds t ht
    omega

omit [Ed25519] in
theorem Channel.heardAfter_subset {c : Channel Key} {t : Transmission Key} {i : ℕ}
    (ht : c.sent[i]? = some t) (hheard : c.heard ⊆ c.sent) (senderIdentity : PyStr) :
    c.heardAfter t senderIdentity ⊆ c.sent := by
  unfold heardAfter
  split_ifs
  · intro u hu
    rcases List.mem_append.mp hu with hold | hlast
    · exact hheard hold
    · obtain rfl := List.mem_singleton.mp hlast
      exact List.mem_of_getElem? ht
  · exact hheard

theorem Sends.of_run (hlimit : 2 ≤ PythonPlatform.nestingLimit)
    (hsession : session.sessionID = .str (codePoints sessionID))
    (hencodes : Encodes (codePoints sessionID)) {ls : List ChannelLabel} {c : Channel Key}
    (hrun : (channelSystem sign sessionID timeoutMS).RunWhere (Connected sign session key) ls c) :
    Sends session key sessionID c := by
  refine hrun.invariant (P := fun _ c ↦ Sends session key sessionID c) ?_ ?_
  · rintro c ⟨hid, hzero, hsent, hheard, -⟩
    exact ⟨hid, hzero.ge, by simp [hsent], by simp [hsent], by simp [hsent], by simp [hheard]⟩
  · intro ls c l c' _ h hcond hstep
    cases hstep with
    | send hsend => exact h.send hlimit hsession hencodes hcond hsend
    | deliver ht _ =>
        exact { h with heard := Channel.heardAfter_subset ht h.heard _ }
    | vehicle _ =>
        exact
          { sessionID_eq := h.sessionID_eq
            nonneg := h.nonneg
            fromConsole := h.fromConsole
            bounds := h.bounds
            increasing := h.increasing
            heard := h.heard }

end Sent

/-! ## What the vehicle makes of it -/

section Vehicle

variable {Key : Type} [PythonPlatform] [Ed25519] {sign : Key → JSString → JSString}
  {session : ActiveControlSession} {key : VerifyKey} {sessionID : JSString} {timeoutMS : ℚ}
  {c c' : Channel Key}

/-- Until its session expires, a verifier that does not accept a packet stays as it is. -/
theorem verifyPacket_rejected {v v' : SessionCommandVerifier} {rawMessage senderIdentity : PyStr}
    {nowMS : ℤ} {monotonic : ℚ} {verdict : Except PyExc (Option PyValue)}
    (hexpiry : ∀ loaded, v.session = some loaded → nowMS ≤ loaded.expiresAtMS)
    (hverify : v.verifyPacket rawMessage senderIdentity nowMS monotonic = (v', verdict))
    (hrejected : ∀ packet, verdict ≠ .ok (some packet)) : v' = v := by
  unfold SessionCommandVerifier.verifyPacket at hverify
  split at hverify
  · rename_i loaded key hloaded hkey
    split at hverify
    · exact absurd (Prod.mk.inj hverify).2.symm (hrejected _)
    · rename_i hexamine
      have hexpired := (findsExpired_of_examine hloaded hexamine).expired
      have := hexpiry loaded hloaded
      omega
    · exact (Prod.mk.inj hverify).1.symm
    · exact (Prod.mk.inj hverify).1.symm
  · exact (Prod.mk.inj hverify).1.symm

/-- The verifier has nothing but the session loaded, and remembers the highest sequence it has
heard, or the one refresh under way does. -/
structure Keeps (session : ActiveControlSession) (key : VerifyKey) (c : Channel Key) : Prop where
  loaded : ∀ loaded, c.verifier.session = some loaded → SameSession loaded session ∧
    c.verifier.verifyKey = some key ∧
      c.verifier.lastSequence = highest Transmission.sequence 0 c.heard
  unloaded : c.verifier.session = none → c.verifier.lastSequence = 0
  idle : c.verifier.session = none → (∀ i refresh, ¬c.Refreshing i refresh) →
    highest Transmission.sequence 0 c.heard = 0
  refreshing : ∀ i refresh, c.Refreshing i refresh → c.verifier.session = none ∧
    refresh.previousSequence = highest Transmission.sequence 0 c.heard ∧
      (highest Transmission.sequence 0 c.heard = 0 ∨
        refresh.previousSessionID = session.sessionID) ∧
      ∀ j other, c.Refreshing j other → j = i
  applied : List.Forall₂ Obeyed c.applied (records Transmission.sequence 0 c.heard)

omit [Ed25519] in
/-- Steps that change neither verifier, refreshes nor brake, and after which nothing has set a
new record. -/
theorem Keeps.frame (h : Keeps session key c) (hverifier : c'.verifier = c.verifier)
    (hflights : c'.vehicle.flights = c.vehicle.flights) (happlied : c'.applied = c.applied)
    (hhighest : highest Transmission.sequence 0 c'.heard =
      highest Transmission.sequence 0 c.heard)
    (hrecords : records Transmission.sequence 0 c'.heard =
      records Transmission.sequence 0 c.heard) : Keeps session key c' := by
  have hrefreshing : ∀ i refresh, c'.Refreshing i refresh ↔ c.Refreshing i refresh := by
    intro i refresh
    rw [Channel.Refreshing, Channel.Refreshing, hflights]
  refine ⟨?_, ?_, ?_, ?_, ?_⟩
  · rw [hverifier, hhighest]
    exact h.loaded
  · rw [hverifier]
    exact h.unloaded
  · rw [hverifier, hhighest]
    simp only [hrefreshing]
    exact h.idle
  · rw [hverifier, hhighest]
    simp only [hrefreshing]
    exact h.refreshing
  · rw [happlied, hrecords]
    exact h.applied

/-- A packet of the console is accepted when it is heard and its sequence is a new record. -/
theorem verifyPacket_delivered (h : Keeps session key c) (hexpiry : c.NotExpired)
    {t : Transmission Key} {packet : PyValue} (hfrom : FromConsole session key t packet)
    {senderIdentity : PyStr} {v : SessionCommandVerifier}
    {verdict : Except PyExc (Option PyValue)}
    (hverify : c.verifier.verifyPacket t.sent.published senderIdentity c.vehicle.nowMS
      c.vehicle.monotonic = (v, verdict)) :
    (c.Hears t senderIdentity ∧ highest Transmission.sequence 0 c.heard < t.sequence ∧
        verdict = .ok (some packet) ∧
        v = { c.verifier with
          lastSequence := t.sequence
          lastValidCmdTime := c.vehicle.monotonic }) ∨
      ((c.Hears t senderIdentity → t.sequence ≤ highest Transmission.sequence 0 c.heard) ∧
        (∀ packet, verdict ≠ .ok (some packet)) ∧ v = c.verifier) := by
  obtain ⟨time, htime, htimestamp⟩ := hfrom.timestamp
  by_cases hheard : c.Hears t senderIdentity ∧
      highest Transmission.sequence 0 c.heard < t.sequence
  · obtain ⟨⟨loaded, hloaded, hsender, hage, hskew⟩, hrecord⟩ := hheard
    obtain ⟨hsame, hkey, hlast⟩ := h.loaded loaded hloaded
    have hoperator : FromOperator c.verifier session key t.sent.published senderIdentity
        c.vehicle.nowMS packet t.sequence :=
      { loads_eq := hfrom.loads_eq
        version := hfrom.version
        type := hfrom.type
        sessionID := hfrom.sessionID
        sender := by
          rw [hsender, SessionCommandVerifier.operatorIdentity,
            SessionCommandVerifier.operatorIdentity, hsame.2]
        timestamp := ⟨time, t.timestampMS.val, htime, htimestamp, hage, hskew⟩
        sequence := hfrom.sequence
        command := ⟨_, hfrom.command, hfrom.valid⟩
        signature := hfrom.signature }
    have haccepted := hoperator.verifyPacket hloaded hkey hsame (hexpiry loaded hloaded)
      (hlast.symm ▸ hrecord) c.vehicle.monotonic
    obtain ⟨rfl, rfl⟩ := Prod.mk.inj (haccepted.symm.trans hverify)
    exact .inl ⟨⟨loaded, hloaded, hsender, hage, hskew⟩, hrecord, rfl, rfl⟩
  · right
    have hrejected : ∀ packet, verdict ≠ .ok (some packet) := by
      rintro found rfl
      rcases SessionCommandVerifier.verifyPacket_cases hverify with
        ⟨found', loaded, key', n, -, haccepts⟩ | ⟨hnot, -⟩
      · obtain rfl := Except.ok.inj (hfrom.loads_eq.symm.trans haccepts.loads_eq)
        obtain ⟨x, m, hx, hm, hage, hskew⟩ := haccepts.passes.timestamp
        obtain rfl := Except.ok.inj (htime.symm.trans hx)
        obtain rfl := Except.ok.inj (htimestamp.symm.trans hm)
        obtain ⟨y, hy, hn, hlt⟩ := haccepts.passes.sequence
        obtain ⟨z, hz, hsequence⟩ := hfrom.sequence
        obtain rfl := Except.ok.inj (hz.symm.trans hy)
        obtain rfl := Except.ok.inj (hsequence.symm.trans hn)
        obtain ⟨-, -, hlast⟩ := h.loaded loaded haccepts.session_eq
        exact hheard ⟨⟨loaded, haccepts.session_eq, haccepts.passes.sender, hage, hskew⟩,
          hlast ▸ hlt⟩
      · exact hnot found rfl
    exact ⟨fun hhears ↦ not_lt.mp fun hlt ↦ hheard ⟨hhears, hlt⟩, hrejected,
      verifyPacket_rejected hexpiry hverify hrejected⟩

theorem Keeps.deliver (h : Keeps session key c) (hexpiry : c.NotExpired)
    {t : Transmission Key} {packet : PyValue} (hfrom : FromConsole session key t packet)
    {senderIdentity : PyStr} {verdict : Except PyExc (Option PyValue)} {st : RuntimeState}
    (hstep : RuntimeState.Step timeoutMS c.vehicle
      (.message t.sent.published senderIdentity verdict) st) :
    Keeps session key { c with vehicle := st, heard := c.heardAfter t senderIdentity } := by
  cases hstep with
  | @message _ _ v _ r result hverify hmessage =>
      have hbehaves := SessionVehicleRuntime.onDatachannelMessage_cases hverify hmessage
      rcases verifyPacket_delivered h hexpiry hfrom hverify with
        ⟨hhears, hrecord, rfl, rfl⟩ | ⟨hstale, hrejected, rfl⟩
      · rcases hbehaves with ⟨found, loaded, key', n, command, hfound, -, -, hobeys⟩ | ⟨hnot, -⟩
        · obtain rfl := Option.some.inj (Except.ok.inj hfound)
          have hloaded := hhears
          obtain ⟨session', hsession', -⟩ := hloaded
          obtain ⟨hsame, hkey, hlast⟩ := h.loaded session' hsession'
          have hafter : c.heardAfter t senderIdentity = c.heard ++ [t] := if_pos hhears
          have hhighest : highest Transmission.sequence 0 (c.heard ++ [t]) = t.sequence := by
            rw [highest_concat, max_eq_right hrecord.le]
          have hverifier : ∀ c' : Channel Key, c'.vehicle.runtime = r → c'.verifier =
              { c.verifier with
                lastSequence := t.sequence
                lastValidCmdTime := c.vehicle.monotonic } := by
            rintro c' rfl
            exact hobeys.verifier_eq
          have hkept := hverifier
            { c with
              vehicle := { c.vehicle with
                runtime := r
                lastAccepted := c.vehicle.acceptedAt (.ok (some packet)) }
              heard := c.heardAfter t senderIdentity } rfl
          refine ⟨fun loaded' hloaded' ↦ ?_, fun hnone ↦ ?_, fun hnone ↦ ?_,
            fun i refresh hrefresh ↦ ?_, ?_⟩
          · rw [hkept] at hloaded' ⊢
            obtain rfl := Option.some.inj (hsession'.symm.trans hloaded')
            exact ⟨hsame, hkey, by rw [hafter, hhighest]⟩
          · rw [hkept] at hnone
            cases hnone.symm.trans hsession'
          · rw [hkept] at hnone
            cases hnone.symm.trans hsession'
          · cases (h.refreshing i refresh hrefresh).1.symm.trans hsession'
          · have hresolves := hobeys.resolves
            rw [hfrom.command, ok_bind] at hresolves
            have happlied : r.brakeController.applied =
                c.applied ++ [("remote", command)] := by
              rw [hobeys.brakeController_eq]
              rfl
            dsimp only [Channel.applied]
            rw [happlied, hafter, records_concat_of_lt hrecord]
            exact List.rel_append h.applied (.cons ⟨rfl, hresolves⟩ .nil)
        · exact absurd rfl (hnot packet)
      · rcases hbehaves with ⟨found, _, _, _, _, hfound, -⟩ | ⟨-, hverifier, -, -, hbrake⟩
        · exact absurd hfound (hrejected found)
        have happlied : r.brakeController.applied = c.applied := by rw [hbrake]; rfl
        by_cases hhears : c.Hears t senderIdentity
        · have hafter : c.heardAfter t senderIdentity = c.heard ++ [t] := if_pos hhears
          have hle := hstale hhears
          refine h.frame hverifier rfl happlied ?_ ?_
          · dsimp only
            rw [hafter, highest_concat, max_eq_left hle]
          · dsimp only
            rw [hafter, records_concat_of_le hle]
        · have hafter : c.heardAfter t senderIdentity = c.heard := if_neg hhears
          rw [hafter]
          exact h.frame hverifier rfl happlied rfl rfl

/-- Nobody without the key is accepted. -/
theorem not_accepted_of_unsigned (h : Keeps session key c) {rawMessage senderIdentity : PyStr}
    (hunsigned : signedUnder key rawMessage = false) {nowMS : ℤ} {monotonic : ℚ}
    {v : SessionCommandVerifier} {verdict : Except PyExc (Option PyValue)}
    (hverify : c.verifier.verifyPacket rawMessage senderIdentity nowMS monotonic = (v, verdict)) :
    ∀ packet, verdict ≠ .ok (some packet) := by
  rintro packet rfl
  rcases SessionCommandVerifier.verifyPacket_cases hverify with
    ⟨found, loaded, key', n, -, haccepts⟩ | ⟨hnot, -⟩
  · obtain ⟨-, hkey, -⟩ := h.loaded loaded haccepts.session_eq
    obtain rfl := Option.some.inj (hkey.symm.trans haccepts.verifyKey_eq)
    have hsigned : signedUnder key rawMessage = true := by
      rw [signedUnder, haccepts.loads_eq, ok_bind, haccepts.signature]
    cases hunsigned.symm.trans hsigned
  · exact hnot packet rfl

omit [Ed25519] in
theorem Keeps.beginRefresh (h : Keeps session key c)
    (hidle : ∀ i refresh, ¬c.Refreshing i refresh) {refresh : SessionCommandVerifier.Refresh}
    {v : SessionCommandVerifier} (hbegin : c.verifier.beginRefresh = (refresh, v)) :
    Keeps session key
      { c with
        vehicle := { c.vehicle with
          runtime := { c.vehicle.runtime with verifier := v }
          flights := c.vehicle.flights ++ [some refresh] } } := by
  obtain ⟨rfl, rfl⟩ := Prod.mk.inj hbegin
  have hnew : ∀ i other, (c.vehicle.flights ++
      [some (c.verifier.beginRefresh.1)])[i]? = some (some other) →
        i = c.vehicle.flights.length ∧ other = c.verifier.beginRefresh.1 := by
    intro i other hother
    rcases getElem?_append_singleton hother with hold | ⟨hi, heq⟩
    · exact absurd hold (hidle i other)
    · exact ⟨hi, Option.some.inj heq⟩
  refine ⟨fun loaded hloaded ↦ (by cases hloaded), fun _ ↦ rfl, fun _ hnone ↦ ?_,
    fun i other hother ↦ ?_, h.applied⟩
  · exact absurd List.getElem?_concat_length (hnone c.vehicle.flights.length _)
  · obtain ⟨rfl, rfl⟩ := hnew i other hother
    refine ⟨rfl, ?_, ?_, fun j other hother ↦ (hnew j other hother).1⟩
    · cases hsession : c.verifier.session with
      | none =>
          have hzero := h.unloaded hsession
          rw [← h.idle hsession hidle] at hzero
          exact hzero
      | some loaded => exact (h.loaded loaded hsession).2.2
    · cases hsession : c.verifier.session with
      | none => exact .inl (h.idle hsession hidle)
      | some loaded =>
          right
          simp only [SessionCommandVerifier.beginRefresh, hsession, Option.map_some,
            Option.getD_some]
          exact (h.loaded loaded hsession).1.1

omit [Ed25519] in
theorem Keeps.finishRefresh {sessionText : PyStr} (hsession : session.sessionID = .str sessionText)
    (h : Keeps session key c) {i : ℕ} {refresh : SessionCommandVerifier.Refresh}
    (hflight : c.Refreshing i refresh) {loaded : ActiveControlSession}
    (hsame : SameSession loaded session) :
    Keeps session key
      { c with
        vehicle := { c.vehicle with
          runtime :=
            { c.vehicle.runtime with verifier := c.verifier.install refresh loaded key }
          flights := c.vehicle.flights.set i none } } := by
  obtain ⟨hnone, hprevious, hid, honly⟩ := h.refreshing i refresh hflight
  refine ⟨fun found hfound ↦ ?_, fun hempty ↦ (by cases hempty), fun hempty ↦ (by cases hempty),
    fun j other hother ↦ ?_, h.applied⟩
  · obtain rfl : loaded = found := Option.some.inj hfound
    refine ⟨hsame, rfl, ?_⟩
    change (if _ then _ else c.verifier.lastSequence) = _
    split_ifs with hsameID
    · exact hprevious
    · rcases hid with hzero | hid
      · exact (h.unloaded hnone).trans hzero.symm
      · -- the session that was loaded before has the same id
        rw [hid, hsame.1, hsession] at hsameID
        exact absurd (PyValue.eq_str_iff.mpr rfl) hsameID
  · have hold : c.Refreshing j other := by
      rw [Channel.Refreshing, List.getElem?_set] at hother
      split_ifs at hother with hij hlt
      · simp at hother
      · exact hother
    obtain rfl := honly j other hold
    rw [Channel.Refreshing, List.getElem?_set] at hother
    split_ifs at hother with hij hlt
    · simp at hother
    · exact absurd rfl hij

theorem Keeps.vehicle {sessionText : PyStr} (hsession : session.sessionID = .str sessionText)
    {ls : List ChannelLabel} (h : Keeps session key c) {l : RuntimeLabel} {st : RuntimeState}
    (hcond : Connected sign session key ls c (.vehicle l))
    (hstep : RuntimeState.Step timeoutMS c.vehicle l st) :
    Keeps session key { c with vehicle := st } := by
  cases hstep with
  | time _ => exact h.frame rfl rfl rfl rfl rfl
  | beginRefresh hbegin => exact h.beginRefresh hcond hbegin
  | finishRefresh hflight hfinish =>
      obtain ⟨payload, loaded, rfl, hload, hsame⟩ := hcond
      have hload' : SessionCommandVerifier.loadSession c.vehicle.runtime.verifier.vehicleID
        payload = .ok (loaded, key) := hload
      simp only [SessionCommandVerifier.finishRefresh, hload'] at hfinish
      obtain ⟨rfl, -⟩ := Prod.mk.inj hfinish
      exact h.finishRefresh hsession hflight hsame
  | message hverify hmessage =>
      obtain ⟨hexpiry, hunsigned⟩ := hcond
      have hrejected := not_accepted_of_unsigned h hunsigned hverify
      obtain rfl := verifyPacket_rejected hexpiry hverify hrejected
      rcases SessionVehicleRuntime.onDatachannelMessage_cases hverify hmessage with
        ⟨found, _, _, _, _, hfound, -⟩ | ⟨-, hverifier, -, -, hbrake⟩
      · exact absurd hfound (hrejected found)
      · refine h.frame hverifier rfl ?_ rfl rfl
        simp only [Channel.applied, hbrake]
  | watchdog _ =>
      exact h.frame (SessionVehicleRuntime.watchdogRound_verifier _ _ _) rfl
        (SessionVehicleRuntime.watchdogRound_applied _ _ _) rfl rfl
  | audit _ htake =>
      obtain ⟨-, rfl⟩ := Prod.mk.inj htake
      exact h.frame rfl rfl rfl rfl rfl
  | @telemetry report r _ htake =>
      obtain rfl : c.vehicle.runtime.takeTelemetry.2 = r := congrArg Prod.snd htake
      refine h.frame (SessionVehicleRuntime.takeTelemetry_verifier _) rfl ?_ rfl rfl
      simp only [Channel.applied, SessionVehicleRuntime.takeTelemetry_brakeController]
  | stop => exact h.frame rfl rfl rfl rfl rfl

theorem Keeps.of_run (hlimit : 2 ≤ PythonPlatform.nestingLimit)
    (hsession : session.sessionID = .str (codePoints sessionID))
    (hencodes : Encodes (codePoints sessionID)) {ls : List ChannelLabel}
    (hrun : (channelSystem sign sessionID timeoutMS).RunWhere (Connected sign session key) ls c) :
    Keeps session key c := by
  refine hrun.invariant (P := fun _ c ↦ Keeps session key c) ?_ ?_
  · rintro c ⟨-, -, -, hheard, ⟨vehicleID, maxAgeMS, maxFutureSkewMS, hruntime⟩, hflights, -⟩
    refine ⟨fun loaded hloaded ↦ ?_, fun _ ↦ ?_, fun _ _ ↦ ?_, fun i refresh hrefresh ↦ ?_, ?_⟩
    · rw [Channel.verifier, hruntime] at hloaded
      cases hloaded
    · rw [Channel.verifier, hruntime]
      rfl
    · rw [hheard, highest_nil]
    · simp [Channel.Refreshing, hflights] at hrefresh
    · rw [Channel.applied, hruntime, hheard]
      exact .nil
  · intro ls c l c' hrun h hcond hstep
    cases hstep with
    | send _ => exact h.frame rfl rfl rfl rfl rfl
    | deliver ht hmessage =>
        have hsends := Sends.of_run hlimit hsession hencodes hrun
        obtain ⟨packet, hfrom⟩ := hsends.fromConsole _ (List.mem_of_getElem? ht)
        exact h.deliver hcond hfrom hmessage
    | vehicle hvehicle => exact h.vehicle hsession hcond hvehicle

/-- The vehicle has obeyed exactly the records among what it heard.  They are a part of what was
sent, in that order, and all that was heard if that came in order. -/
theorem obeyed_in_order (hlimit : 2 ≤ PythonPlatform.nestingLimit)
    (hsession : session.sessionID = .str (codePoints sessionID))
    (hencodes : Encodes (codePoints sessionID)) {ls : List ChannelLabel}
    (hrun : (channelSystem sign sessionID timeoutMS).RunWhere (Connected sign session key) ls c) :
    List.Forall₂ Obeyed c.applied (records Transmission.sequence 0 c.heard) ∧
      (records Transmission.sequence 0 c.heard).Sublist c.sent ∧
      (c.heard.Sublist c.sent → records Transmission.sequence 0 c.heard = c.heard) := by
  have hsends := Sends.of_run hlimit hsession hencodes hrun
  have hkeeps := Keeps.of_run hlimit hsession hencodes hrun
  refine ⟨hkeeps.applied, records_sublist_of_subset hsends.heard hsends.increasing 0, ?_⟩
  intro hordered
  exact records_eq_self (fun t ht ↦ (hsends.bounds t (hsends.heard ht)).1)
    (hsends.increasing.sublist hordered)

/-- What the vehicle looks at before it reads a packet is the same. -/
structure SameEars (c c' : Channel Key) : Prop where
  nowMS_eq : c'.vehicle.nowMS = c.vehicle.nowMS
  session_eq : c'.verifier.session = c.verifier.session
  maxAgeMS_eq : c'.verifier.maxAgeMS = c.verifier.maxAgeMS
  maxFutureSkewMS_eq : c'.verifier.maxFutureSkewMS = c.verifier.maxFutureSkewMS

omit [Ed25519] in
theorem SameEars.hears (h : SameEars c c') {t : Transmission Key} {senderIdentity : PyStr}
    (hhears : c.Hears t senderIdentity) : c'.Hears t senderIdentity := by
  rw [Channel.Hears, h.nowMS_eq, h.session_eq, h.maxAgeMS_eq, h.maxFutureSkewMS_eq]
  exact hhears

omit [PythonPlatform] [Ed25519] in
theorem SameEars.notExpired (h : SameEars c c') (hexpiry : c.NotExpired) : c'.NotExpired := by
  rw [Channel.NotExpired, h.nowMS_eq, h.session_eq]
  exact hexpiry

/-- A packet that is delivered in time is heard, accepted or not. -/
theorem exists_heard (hlimit : 2 ≤ PythonPlatform.nestingLimit)
    (hsession : session.sessionID = .str (codePoints sessionID))
    (hencodes : Encodes (codePoints sessionID)) {ls : List ChannelLabel}
    (hrun : (channelSystem sign sessionID timeoutMS).RunWhere (Connected sign session key) ls c)
    {i : ℕ} {t : Transmission Key} (ht : c.sent[i]? = some t) (hexpiry : c.NotExpired)
    {senderIdentity : PyStr} (hhears : c.Hears t senderIdentity) :
    ∃ verdict c', (channelSystem sign sessionID timeoutMS).RunWhere (Connected sign session key)
        (ls ++ [.deliver i senderIdentity verdict]) c' ∧
      c'.sent = c.sent ∧ c'.heard = c.heard ++ [t] ∧ SameEars c c' := by
  obtain ⟨packet, hfrom⟩ :=
    (Sends.of_run hlimit hsession hencodes hrun).fromConsole t (List.mem_of_getElem? ht)
  rcases hverify : c.verifier.verifyPacket t.sent.published senderIdentity c.vehicle.nowMS
    c.vehicle.monotonic with ⟨v, verdict⟩
  rcases hmessage : c.vehicle.runtime.onDatachannelMessage t.sent.published senderIdentity
    c.vehicle.nowMS c.vehicle.monotonic with ⟨r, result⟩
  have hverifier : r.verifier = v := onDatachannelMessage_verifier hverify hmessage
  have hsame : v.session = c.verifier.session ∧ v.maxAgeMS = c.verifier.maxAgeMS ∧
      v.maxFutureSkewMS = c.verifier.maxFutureSkewMS := by
    rcases verifyPacket_delivered (Keeps.of_run hlimit hsession hencodes hrun) hexpiry hfrom
      hverify with ⟨-, -, -, rfl⟩ | ⟨-, -, rfl⟩ <;> exact ⟨rfl, rfl, rfl⟩
  refine ⟨verdict, _, hrun.step (l := ChannelLabel.deliver i senderIdentity verdict) hexpiry
    (.deliver ht (.message hverify hmessage)), rfl, if_pos hhears, rfl, ?_, ?_, ?_⟩
  · exact (congrArg _ hverifier).trans hsame.1
  · exact (congrArg _ hverifier).trans hsame.2.1
  · exact (congrArg _ hverifier).trans hsame.2.2

end Vehicle

/-! ### Two commands on their way -/

section Sample

def aliceConsole : SecureControlSender Unit where
  privateKey := some ()
  sessionID := some (text "s-1")
  publishData := true
  sequence := ⟨0, SafeInteger.natAbs_zero_le⟩

def thousand : SafeInteger := ⟨1000, by decide⟩

def driveStop : ControlCommand := { driveForward with action := some .stop }

def forwardText : String := "1|control|s-1|1|1000|high_level|forward"

def stopText : String := "1|control|s-1|2|1000|high_level|stop"

/-- The signatures of the two texts. -/
def signDriving (_ : Unit) (signed : JSString) : JSString :=
  if codePoints signed = PyStr.ofString forwardText then
    text
      "paMjxbPm/E7Qbh/cBAmlxqwZ11vZ3AO4CYRM4wL3qV12s9UGn8yQDrg1T64ZzAaCBdXOQaJGmbbndlXpEJeiAQ=="
  else
    text
      "imya95A7A9KNE1xRAJkpS7EoNHxUXVbyjiftavEuFrSKqV1F53ZLqQASrszpkmzKWe5Yd+CLDlQ8mTK4DXc4Aw=="

theorem signDriving_forward {signed : JSString}
    (h : codePoints signed = PyStr.ofString forwardText) :
    codePoints (signDriving () signed) = drivingSignature 0 := by
  rw [signDriving, if_pos h]
  exact codePoints_name (by decide +kernel)

theorem signDriving_stop {signed : JSString} (h : codePoints signed = PyStr.ofString stopText) :
    codePoints (signDriving () signed) = drivingSignature 3 := by
  have hother : PyStr.ofString stopText ≠ PyStr.ofString forwardText := by decide
  rw [signDriving, if_neg (fun hforward ↦ hother (h.symm.trans hforward))]
  exact codePoints_name (by decide +kernel)

/-- A vehicle that was just started, at the time 1050. -/
def startedVehicle : RuntimeState where
  nowMS := 1050
  monotonic := 0
  runtime := .new (.new (PyStr.ofString "car-001") 100 100 0) .new
  flights := []
  lastAccepted := 0
  lastRound := none

def startedChannel : Channel Unit := ⟨aliceConsole, [], startedVehicle, []⟩

theorem codePoints_shownNumber_int [PythonPlatform] {n : SafeInteger}
    (h : n.val.natAbs < 2 ^ 53) :
    codePoints (shownNumber n.toNumber) = pyText (.int n.val) := by
  rw [← pyText_counted ⟨n, rfl⟩, SafeInteger.readNumber_toNumber h]

def payloadSent (sequence : SafeInteger) (command : ControlCommand) : ControlPayload :=
  ⟨SafeInteger.toNumber ⟨1, SafeInteger.natAbs_one_le⟩, text "control", text "s-1",
    sequence.toNumber, thousand.toNumber, command⟩

theorem codePoints_payloadSent {sequence : SafeInteger} (h : sequence.val.natAbs < 2 ^ 53)
    (command : ControlCommand) :
    codePoints (signMessage (payloadSent sequence command)) =
      joinWith [bar] ([@pyText .ascii (.int 1), codePoints (text "control"),
        codePoints (text "s-1"), @pyText .ascii (.int sequence.val),
        @pyText .ascii (.int 1000)] ++ (commandFields command).map codePoints) := by
  have hversion := @codePoints_shownNumber_int .ascii ⟨1, SafeInteger.natAbs_one_le⟩ (by decide)
  have hsequence := @codePoints_shownNumber_int .ascii sequence h
  have htime := @codePoints_shownNumber_int .ascii thousand (by decide)
  rw [codePoints_signMessage]
  simp only [headerFields, payloadSent, List.map_cons, List.map_nil, hversion, hsequence, htime]
  rfl

def firstSequence : SafeInteger := aliceConsole.sequence.increment

def secondSequence : SafeInteger := firstSequence.increment

theorem codePoints_forward : codePoints (signMessage (payloadSent firstSequence driveForward)) =
    PyStr.ofString forwardText := by
  have hcommand : commandFields driveForward = [text "high_level", text "forward"] := rfl
  rw [codePoints_payloadSent (by decide), hcommand]
  decide +kernel

theorem codePoints_stop : codePoints (signMessage (payloadSent secondSequence driveStop)) =
    PyStr.ofString stopText := by
  have hcommand : commandFields driveStop = [text "high_level", text "stop"] := rfl
  rw [codePoints_payloadSent (by decide), hcommand]
  decide +kernel

/-- What a known signature verifies. -/
theorem verifies_of_known {signed signature : JSString} (i : ℕ) {message : String}
    (signatureB64 : PyStr)
    (hknown : drivingSignatures[i]? = some (drivingKey, message.toList, signatureB64))
    (hsigned : codePoints signed = PyStr.ofString message)
    (hsignature : codePoints signature = signatureB64)
    (hlength : (b64decode (.str signatureB64)).map List.length = .ok 64) :
    @Verifies Ed25519.driving drivingKey signed signature := by
  intro found hfound
  rw [hsigned] at hfound
  obtain rfl : message.toList = found :=
    Except.ok.inj ((encode_ofList message.toList).symm.trans hfound)
  cases hbytes : b64decode (.str signatureB64) with
  | error e =>
      rw [hbytes] at hlength
      cases hlength
  | ok bytes =>
      rw [hbytes] at hlength
      refine ⟨bytes, hsignature ▸ hbytes, Except.ok.inj hlength, ?_⟩
      refine List.any_eq_true.mpr ⟨_, List.mem_of_getElem? hknown, ?_⟩
      simp [hbytes]

def refreshingVehicle : RuntimeState := { startedVehicle with flights := [some ⟨.none, 0⟩] }

def loadedVehicle : RuntimeState :=
  { startedVehicle with
    runtime := { startedVehicle.runtime with verifier := drivingVerifier }
    flights := [none] }

section

attribute [local instance] PythonPlatform.ascii Ed25519.driving

theorem drivingSession_named : drivingSession.sessionID = .str (codePoints (text "s-1")) := by
  rw [codePoints_name (by decide)]
  rfl

theorem verifies_forward {s : SentCommand Unit}
    (hsend : aliceConsole.sendCommand signDriving driveForward thousand = .ok s) :
    Verifies drivingKey s.signed (signDriving () s.signed) := by
  obtain rfl := Except.ok.inj hsend
  have hsigned : codePoints (signMessage (payloadSent firstSequence driveForward)) =
    PyStr.ofString forwardText := codePoints_forward
  exact verifies_of_known 0 (drivingSignature 0) rfl hsigned
    (signDriving_forward hsigned) (by decide +kernel)

theorem verifies_stop {s s' : SentCommand Unit}
    (hsend : aliceConsole.sendCommand signDriving driveForward thousand = .ok s)
    (hnext : s.sender.sendCommand signDriving driveStop thousand = .ok s') :
    Verifies drivingKey s'.signed (signDriving () s'.signed) := by
  obtain rfl := Except.ok.inj hsend
  obtain rfl := Except.ok.inj hnext
  have hsigned : codePoints (signMessage (payloadSent secondSequence driveStop)) =
    PyStr.ofString stopText := codePoints_stop
  exact verifies_of_known 3 (drivingSignature 3) rfl hsigned
    (signDriving_stop hsigned) (by decide +kernel)

/-- A vehicle that has loaded the session hears a command, a stop, and the command again. -/
theorem forward_stop_run : ∃ ls c s s', (channelSystem signDriving (text "s-1") 500).RunWhere
      (Connected signDriving drivingSession drivingKey) ls c ∧
    aliceConsole.sendCommand signDriving driveForward thousand = .ok s ∧
      s.sender.sendCommand signDriving driveStop thousand = .ok s' ∧
    c.sent = [⟨driveForward, thousand, s⟩, ⟨driveStop, thousand, s'⟩] ∧
      c.heard = [⟨driveForward, thousand, s⟩, ⟨driveStop, thousand, s'⟩,
        ⟨driveForward, thousand, s⟩] := by
  have hstart : (channelSystem signDriving (text "s-1") 500).RunWhere
      (Connected signDriving drivingSession drivingKey) [] startedChannel :=
    .init ⟨rfl, rfl, rfl, rfl, ⟨_, _, _, rfl⟩, rfl, rfl, rfl⟩
  have hidle : ∀ i refresh, ¬startedChannel.Refreshing i refresh := by
    intro i refresh hrefresh
    simp [Channel.Refreshing, startedChannel, startedVehicle] at hrefresh
  have hrefreshing : RuntimeState.Step 500 startedVehicle .beginRefresh refreshingVehicle :=
    .beginRefresh rfl
  have hbegun := hstart.step (l := ChannelLabel.vehicle .beginRefresh) hidle (.vehicle hrefreshing)
  have hfinish : RuntimeState.Step 500 refreshingVehicle
      (.finishRefresh 0 (.answered 200 (sessionPayload drivingSession)) (.ok ())) loadedVehicle :=
    .finishRefresh rfl
      (SessionCommandVerifier.finishRefresh_of_loaded loadSession_drivingPayloads.1 _)
  have hloaded := hbegun.step
    (l := ChannelLabel.vehicle (.finishRefresh 0 (.answered 200 (sessionPayload drivingSession)) _))
    ⟨_, drivingSession, rfl, loadSession_drivingPayloads.1, rfl, rfl⟩ (.vehicle hfinish)
  obtain ⟨s, hsend⟩ : ∃ s, aliceConsole.sendCommand signDriving driveForward thousand = .ok s :=
    ⟨_, rfl⟩
  obtain ⟨s', hnext⟩ : ∃ s', s.sender.sendCommand signDriving driveStop thousand = .ok s' := by
    obtain rfl := Except.ok.inj hsend
    exact ⟨_, rfl⟩
  have hforward : ∀ privateKey s₀, aliceConsole.privateKey = some privateKey →
      aliceConsole.sendCommand signDriving driveForward thousand = .ok s₀ →
        Verifies drivingKey s₀.signed (signDriving privateKey s₀.signed) :=
    fun _ _ _ hsent ↦ verifies_forward hsent
  have hstop : ∀ privateKey s₀, s.sender.privateKey = some privateKey →
      s.sender.sendCommand signDriving driveStop thousand = .ok s₀ →
        Verifies drivingKey s₀.signed (signDriving privateKey s₀.signed) :=
    fun _ _ _ hsent ↦ verifies_stop hsend hsent
  have hsecond : s.sender.sequence.val + 1 < 2 ^ 53 := by
    obtain rfl := Except.ok.inj hsend
    decide
  have hsent := hloaded.step (l := ChannelLabel.send driveForward thousand)
    ⟨rfl, ⟨rfl, rfl, rfl, rfl⟩, by decide, by decide, hforward⟩ (.send hsend)
  have hstopped := hsent.step (l := ChannelLabel.send driveStop thousand)
    ⟨rfl, ⟨rfl, rfl, rfl, rfl⟩, hsecond, by decide, hstop⟩ (.send hnext)
  let forward : Transmission Unit := ⟨driveForward, thousand, s⟩
  let stopping : Transmission Unit := ⟨driveStop, thousand, s'⟩
  let c : Channel Unit := ⟨s'.sender, [forward, stopping], loadedVehicle, []⟩
  have hexpiry : c.NotExpired := by
    rintro _ ⟨⟩
    exact (by decide : (1050 : ℤ) ≤ 5000)
  have hears : ∀ t : Transmission Unit, t.timestampMS = thousand → c.Hears t sampleSender := by
    intro t ht
    refine ⟨drivingSession, rfl, by decide +kernel, ?_, ?_⟩
    · rw [ht]
      exact (by decide : (1050 : ℤ) - 1000 ≤ 100)
    · rw [ht]
      exact (by decide : (1000 : ℤ) - 1050 ≤ 100)
  obtain ⟨_, c₁, hrun₁, hsent₁, hheard₁, hsame₁⟩ := exists_heard (by decide) drivingSession_named
    (encodes_name (by decide)) (i := 0) (c := c) hstopped rfl hexpiry (hears forward rfl)
  obtain ⟨_, c₂, hrun₂, hsent₂, hheard₂, hsame₂⟩ := exists_heard (by decide) drivingSession_named
    (encodes_name (by decide)) (i := 1) (t := stopping) hrun₁ (by rw [hsent₁]; rfl)
    (hsame₁.notExpired hexpiry) (hsame₁.hears (hears stopping rfl))
  obtain ⟨_, c₃, hrun₃, hsent₃, hheard₃, -⟩ := exists_heard (by decide) drivingSession_named
    (encodes_name (by decide)) (i := 0) (t := forward) hrun₂ (by rw [hsent₂, hsent₁]; rfl)
    (hsame₂.notExpired (hsame₁.notExpired hexpiry))
    (hsame₂.hears (hsame₁.hears (hears forward rfl)))
  refine ⟨_, c₃, s, s', hrun₃, hsend, hnext, ?_, ?_⟩
  · rw [hsent₃, hsent₂, hsent₁]
  · rw [hheard₃, hheard₂, hheard₁]
    rfl

/-- Each of the two is obeyed once. -/
theorem forward_stop_applied {ls : List ChannelLabel} {c : Channel Unit} {s s' : SentCommand Unit}
    (hrun : (channelSystem signDriving (text "s-1") 500).RunWhere
      (Connected signDriving drivingSession drivingKey) ls c)
    (hsend : aliceConsole.sendCommand signDriving driveForward thousand = .ok s)
    (hnext : s.sender.sendCommand signDriving driveStop thousand = .ok s')
    (hheard : c.heard = [⟨driveForward, thousand, s⟩, ⟨driveStop, thousand, s'⟩,
      ⟨driveForward, thousand, s⟩]) : c.applied.length = 2 := by
  have hkeeps := Keeps.of_run (by decide) drivingSession_named (encodes_name (by decide)) hrun
  have hrecords : (records Transmission.sequence 0 c.heard).length = 2 := by
    obtain rfl := Except.ok.inj hsend
    obtain rfl := Except.ok.inj hnext
    rw [hheard]
    rfl
  exact hkeeps.applied.length_eq.trans hrecords

/-- It obeys the command and the stop once each. -/
theorem forward_stop_obeyed : ∃ ls c forward stopping,
    (channelSystem signDriving (text "s-1") 500).RunWhere
        (Connected signDriving drivingSession drivingKey) ls c ∧
      c.heard = [forward, stopping, forward] ∧ c.applied.length = 2 ∧
      List.Forall₂ Obeyed c.applied (records Transmission.sequence 0 c.heard) ∧
        (records Transmission.sequence 0 c.heard).Sublist c.sent ∧
        (c.heard.Sublist c.sent → records Transmission.sequence 0 c.heard = c.heard) := by
  obtain ⟨ls, c, s, s', hrun, hsend, hnext, -, hheard⟩ := forward_stop_run
  exact ⟨ls, c, _, _, hrun, hheard, forward_stop_applied hrun hsend hnext hheard,
    obeyed_in_order (by decide) drivingSession_named (encodes_name (by decide)) hrun⟩

end

end Sample

end RemoteInfra.EndToEnd
