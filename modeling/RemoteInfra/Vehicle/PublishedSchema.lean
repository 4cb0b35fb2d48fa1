import RemoteInfra.Python.JsonSchema
import RemoteInfra.Vehicle.SignedMessage
import RemoteInfra.Vehicle.VerifierRuns

/-!
# The published schema of control packets

`datachannel-control.schema.json` beside what the receiver accepts.  The receiver converts
where the schema asks for a type, and asks for names where the schema also forbids others; the
values that it lets through are those of the schema otherwise.
-/

namespace RemoteInfra.Vehicle

open RemoteInfra.Library RemoteInfra.Python RemoteInfra.Python.Schema

/-! ## The schema -/

def highLevelProperties : List (String × Schema) :=
  [("mode", constString "high_level"),
    ("action", anyOf (["forward", "reverse", "left", "right", "stop", "emergency_stop"].map
      constString))]

def lowLevelProperties : List (String × Schema) :=
  [("mode", constString "low_level"),
    ("steering", keywords [typeNumber, minimum (-1), maximum 1]),
    ("throttle", keywords [typeNumber, minimum 0, maximum 1]),
    ("brake", keywords [typeNumber, minimum 0, maximum 1]),
    ("direction", anyOf [constNumber (-1), constNumber 0, constNumber 1])]

def highLevelSchema : Schema := object highLevelProperties

def lowLevelSchema : Schema := object lowLevelProperties

def packetProperties : List (String × Schema) :=
  [("version", constNumber 1),
    ("type", constString "control"),
    ("session_id", keywords [typeString, minLength 1]),
    ("sequence", keywords [typeInteger, minimum 1]),
    ("timestamp_ms", typeInteger),
    ("command", oneOf [highLevelSchema, lowLevelSchema]),
    ("signature", typeString)]

/-- `DataChannelControl`. -/
def dataChannelControl : Schema := object packetProperties

/-! ## Commands -/

theorem keysAre_of_object {ps : List (String × Schema)} {v : PyValue} (h : object ps v = true) :
    ∃ entries, v = .dict entries ∧ keysAre entries (ps.map Prod.fst) = true := by
  obtain ⟨hproperties, entries, rfl, hclosed⟩ := object_iff.mp h
  refine ⟨entries, rfl, ?_⟩
  simp only [keysAre, Bool.and_eq_true]
  refine ⟨hclosed, ?_⟩
  simp only [List.all_eq_true, List.mem_map, forall_exists_index, and_imp,
    forall_apply_eq_imp_iff₂]
  intro p hp
  obtain ⟨x, hx, -⟩ := hproperties p hp
  exact SessionCommandVerifier.exists_entry_of_getItem hx

theorem numberInRange_iff {low high : ℚ} {v : PyValue} :
    keywords [typeNumber, minimum low, maximum high] v = true ↔
      ∃ q, jsonNumber v = some q ∧ low ≤ q ∧ q ≤ high := by
  cases h : jsonNumber v <;> simp [keywords, typeNumber, minimum, maximum, h]

theorem between_iff {low high : ℚ} {x : PyFloat} :
    between low x high = true ↔ ∃ q, x.val = some q ∧ low ≤ q ∧ q ≤ high := by
  cases h : x.val <;> simp [between, h]

theorem direction_iff {v : PyValue} :
    anyOf [constNumber (-1), constNumber 0, constNumber 1] v = true ↔
      ∃ n : ℤ, jsonNumber v = some (n : ℚ) ∧ (n = -1 ∨ n = 0 ∨ n = 1) := by
  constructor
  · intro h
    simp only [anyOf, constNumber, List.any_cons, List.any_nil, Bool.or_false, Bool.or_eq_true,
      decide_eq_true_eq] at h
    rcases h with h | h | h
    · exact ⟨-1, by simpa using h, by simp⟩
    · exact ⟨0, by simpa using h, by simp⟩
    · exact ⟨1, by simpa using h, by simp⟩
  · rintro ⟨n, h, rfl | rfl | rfl⟩ <;> simp [anyOf, constNumber, h]

theorem highLevelSchema_of_valid {entries : List (PyStr × PyValue)} {action : PyStr}
    (hmode : (PyValue.dict entries).getItem "mode" = .ok (.str HIGH_LEVEL_MODE))
    (hkeys : keysAre entries ["mode", "action"] = true)
    (haction : (PyValue.dict entries).getItem "action" = .ok (.str action))
    (hmem : action ∈ HIGH_LEVEL_ACTIONS) : highLevelSchema (.dict entries) = true := by
  refine object_iff.mpr ⟨fun p hp ↦ ?_, entries, rfl, ?_⟩
  · simp only [highLevelProperties, List.mem_cons, List.not_mem_nil, or_false] at hp
    rcases hp with rfl | rfl
    · exact ⟨_, hmode, by decide⟩
    · refine ⟨_, haction, ?_⟩
      simp only [HIGH_LEVEL_ACTIONS, List.map_cons, List.map_nil, List.mem_cons,
        List.not_mem_nil, or_false] at hmem
      rcases hmem with rfl | rfl | rfl | rfl | rfl | rfl <;> decide
  · simp only [keysAre, Bool.and_eq_true] at hkeys
    exact hkeys.1

theorem mode_of_schema {ps : List (String × Schema)} {text : String} {command mode : PyValue}
    (hps : ("mode", constString text) ∈ ps) (hmode : command.getItem "mode" = .ok mode)
    (h : object ps command = true) : mode = .str (PyStr.ofString text) := by
  obtain ⟨x, hx, hconst⟩ := (object_iff.mp h).1 _ hps
  obtain rfl := Except.ok.inj (hmode.symm.trans hx)
  exact of_decide_eq_true hconst

/-- A number that equals an integer is that integer. -/
theorem jsonNumber_of_eq {x : PyValue} {n : ℤ} (h : x.eq (.int n) = true)
    (hx : typeNumber x = true) : jsonNumber x = some (n : ℚ) := by
  obtain ⟨q, hq⟩ := typeNumber_iff.mp hx
  have htokens := (PyValue.eq_iff.mp h).2
  cases x with
  | int k => simpa [PyValue.tokens, jsonNumber] using htokens
  | float y =>
      cases y with
      | finite negative d =>
          simpa [PyValue.tokens, PyFloat.token, jsonNumber, PyFloat.val] using htokens
      | _ => cases hq
  | _ => cases hq

section

variable [PythonPlatform]

/-- One conversion of `valid_command` and its range check. -/
theorem readNumber_of_schema {x : PyValue} {low high : ℚ}
    (h : keywords [typeNumber, minimum low, maximum high] x = true) (hlow : -1 ≤ low)
    (hhigh : high ≤ 1) :
    ∃ y, pyFloat x = .ok y ∧ between low y high = true := by
  obtain ⟨q, hq, hlq, hqh⟩ := numberInRange_iff.mp h
  obtain ⟨y, hy, hval⟩ := pyFloat_of_jsonNumber hq (hlow.trans hlq) (hqh.trans hhigh)
  exact ⟨y, hy, between_iff.mpr ⟨q, hval, hlq, hqh⟩⟩

theorem validCommand_of_highLevelSchema {command : PyValue}
    (h : highLevelSchema command = true) : validCommand command = .ok true := by
  obtain ⟨entries, rfl, hkeys⟩ := keysAre_of_object h
  have hproperties := (object_iff.mp h).1
  obtain ⟨mode, hmode, hmodeConst⟩ := hproperties ("mode", constString "high_level")
    (by simp [highLevelProperties])
  obtain rfl : mode = .str HIGH_LEVEL_MODE := of_decide_eq_true hmodeConst
  obtain ⟨action, haction, hactionConst⟩ := hproperties ("action", anyOf
    (["forward", "reverse", "left", "right", "stop", "emergency_stop"].map constString))
    (by simp [highLevelProperties])
  have hself : (PyValue.str HIGH_LEVEL_MODE).eq (.str HIGH_LEVEL_MODE) = true := by decide
  have hknown : inHighLevelActions action = .ok true := by
    simp only [anyOf, List.map_cons, List.map_nil, List.any_cons, List.any_nil, constString,
      Bool.or_false, Bool.or_eq_true, decide_eq_true_eq] at hactionConst
    rcases hactionConst with rfl | rfl | rfl | rfl | rfl | rfl <;> decide
  have hnames : keysAre entries ["mode", "action"] = true := hkeys
  simp only [validCommand, PyValue.get_of_getItem hmode, hself, ok_bind, if_true, haction, hnames,
    hknown]

theorem validCommand_of_lowLevelSchema {command : PyValue}
    (h : lowLevelSchema command = true) : validCommand command = .ok true := by
  obtain ⟨entries, rfl, hkeys⟩ := keysAre_of_object h
  have hproperties := (object_iff.mp h).1
  obtain ⟨mode, hmode, hmodeConst⟩ := hproperties ("mode", constString "low_level")
    (by simp [lowLevelProperties])
  obtain rfl : mode = .str LOW_LEVEL_MODE := of_decide_eq_true hmodeConst
  obtain ⟨steering, hsteering, hs⟩ := hproperties
    ("steering", keywords [typeNumber, minimum (-1), maximum 1]) (by simp [lowLevelProperties])
  obtain ⟨throttle, hthrottle, ht⟩ := hproperties
    ("throttle", keywords [typeNumber, minimum 0, maximum 1]) (by simp [lowLevelProperties])
  obtain ⟨brake, hbrake, hb⟩ := hproperties
    ("brake", keywords [typeNumber, minimum 0, maximum 1]) (by simp [lowLevelProperties])
  obtain ⟨direction, hdirection, hd⟩ := hproperties
    ("direction", anyOf [constNumber (-1), constNumber 0, constNumber 1])
    (by simp [lowLevelProperties])
  obtain ⟨x, hx, hxrange⟩ := readNumber_of_schema hs (by norm_num) (by norm_num)
  obtain ⟨y, hy, hyrange⟩ := readNumber_of_schema ht (by norm_num) (by norm_num)
  obtain ⟨z, hz, hzrange⟩ := readNumber_of_schema hb (by norm_num) (by norm_num)
  obtain ⟨n, hn, hsmall⟩ := direction_iff.mp hd
  have hnumbers : validNumbers (.dict entries) direction = .ok true := by
    simp only [validNumbers, hsteering, hthrottle, hbrake, hx, hy, hz, pyInt_of_jsonNumber hn,
      ok_bind, hxrange, hyrange, hzrange, Bool.true_and]
    rcases hsmall with rfl | rfl | rfl <;> rfl
  have hhigh : (PyValue.str LOW_LEVEL_MODE).eq (.str HIGH_LEVEL_MODE) = false := by decide
  have hself : (PyValue.str LOW_LEVEL_MODE).eq (.str LOW_LEVEL_MODE) = true := by decide
  have hnames : keysAre entries ["mode", "steering", "throttle", "brake", "direction"] = true :=
    hkeys
  simp only [validCommand, PyValue.get_of_getItem hmode, hhigh, hself, ok_bind, hdirection, hnames,
    hnumbers, Bool.false_eq_true, if_false, if_true]
  rfl

/-- The numbers of a low-level command have their JSON types. -/
def NumberTypes (command : PyValue) : Prop :=
  (∀ name ∈ ["steering", "throttle", "brake"],
    ∃ x, command.getItem name = .ok x ∧ typeNumber x = true) ∧
  ∃ x, command.getItem "direction" = .ok x ∧ typeInteger x = true

theorem numberInRange_of_checked {x : PyValue} {y : PyFloat} {low high : ℚ}
    (hy : pyFloat x = .ok y) (hrange : between low y high = true) (hlow : -1 ≤ low)
    (hhigh : high ≤ 1) (h : typeNumber x = true) :
    keywords [typeNumber, minimum low, maximum high] x = true := by
  obtain ⟨q, hq, hlq, hqh⟩ := between_iff.mp hrange
  rw [numberInRange_iff]
  exact ⟨q, jsonNumber_of_pyFloat hy hq (hlow.trans hlq) (hqh.trans hhigh) h, hlq, hqh⟩

/-- A low-level command that is valid lies within the schema's ranges if its numbers have their
types. -/
theorem lowLevelSchema_iff {entries : List (PyStr × PyValue)} {direction : PyValue}
    (hmode : (PyValue.dict entries).getItem "mode" = .ok (.str LOW_LEVEL_MODE))
    (hkeys : keysAre entries ["mode", "steering", "throttle", "brake", "direction"] = true)
    (hdirection : (PyValue.dict entries).getItem "direction" = .ok direction)
    (hnumbers : validNumbers (.dict entries) direction = .ok true) :
    lowLevelSchema (.dict entries) = true ↔ NumberTypes (.dict entries) := by
  obtain ⟨steering, throttle, brake, resolved, hactuation, hchecked⟩ :=
    validNumbers_checked hnumbers
  constructor
  · intro h
    have hproperties := (object_iff.mp h).1
    have htype : ∀ {name : String} {low high : ℚ},
        (name, keywords [typeNumber, minimum low, maximum high]) ∈ lowLevelProperties →
          ∃ x, (PyValue.dict entries).getItem name = .ok x ∧ typeNumber x = true := by
      intro name low high hmem
      obtain ⟨x, hx, hrange⟩ := hproperties _ hmem
      obtain ⟨q, hq, -⟩ := numberInRange_iff.mp hrange
      exact ⟨x, hx, typeNumber_iff.mpr ⟨q, hq⟩⟩
    refine ⟨fun name hname ↦ ?_, ?_⟩
    · simp only [List.mem_cons, List.not_mem_nil, or_false] at hname
      rcases hname with rfl | rfl | rfl
      · exact htype (.tail _ (.head _))
      · exact htype (.tail _ (.tail _ (.head _)))
      · exact htype (.tail _ (.tail _ (.tail _ (.head _))))
    · obtain ⟨x, hx, henum⟩ := hproperties
        ("direction", anyOf [constNumber (-1), constNumber 0, constNumber 1])
        (by simp [lowLevelProperties])
      obtain ⟨n, hn, -⟩ := direction_iff.mp henum
      exact ⟨x, hx, typeInteger_iff.mpr ⟨n, hn, by simp⟩⟩
  · rintro ⟨htypes, x, hx, hinteger⟩
    obtain rfl := Except.ok.inj (hdirection.symm.trans hx)
    have htype : ∀ {name : String} {value : PyValue},
        name ∈ ["steering", "throttle", "brake"] →
          (PyValue.dict entries).getItem name = .ok value → typeNumber value = true := by
      intro name value hname hvalue
      obtain ⟨other, hother, h⟩ := htypes name hname
      obtain rfl := Except.ok.inj (hvalue.symm.trans hother)
      exact h
    obtain ⟨n, hn, hsmall⟩ := hchecked.direction
    have hs := numberInRange_of_checked hactuation.pyFloat_steering hchecked.steering
      le_rfl le_rfl (htype (by simp) hactuation.steering_eq)
    have ht := numberInRange_of_checked hactuation.pyFloat_throttle hchecked.throttle
      (by norm_num) le_rfl (htype (by simp) hactuation.throttle_eq)
    have hb := numberInRange_of_checked hactuation.pyFloat_brake hchecked.brake
      (by norm_num) le_rfl (htype (by simp) hactuation.brake_eq)
    have hd := direction_iff.mpr ⟨n, jsonNumber_of_pyInt hn hinteger, hsmall⟩
    refine object_iff.mpr ⟨fun p hp ↦ ?_, entries, rfl, ?_⟩
    · simp only [lowLevelProperties, List.mem_cons, List.not_mem_nil, or_false] at hp
      rcases hp with rfl | rfl | rfl | rfl | rfl
      · exact ⟨_, hmode, by decide⟩
      · exact ⟨_, hactuation.steering_eq, hs⟩
      · exact ⟨_, hactuation.throttle_eq, ht⟩
      · exact ⟨_, hactuation.brake_eq, hb⟩
      · exact ⟨_, hdirection, hd⟩
    · simp only [keysAre, Bool.and_eq_true] at hkeys
      exact hkeys.1

/-- A valid command with a mode matches one branch of the schema, if its numbers have their
types in case it has any. -/
theorem commandSchema_iff {command mode : PyValue} (hvalid : validCommand command = .ok true)
    (hmode : command.getItem "mode" = .ok mode) :
    oneOf [highLevelSchema, lowLevelSchema] command = true ↔
      (mode = .str LOW_LEVEL_MODE → NumberTypes command) := by
  have hhighMode : highLevelSchema command = true → mode = .str HIGH_LEVEL_MODE :=
    mode_of_schema (by simp [highLevelProperties]) hmode
  have hlowMode : lowLevelSchema command = true → mode = .str LOW_LEVEL_MODE :=
    mode_of_schema (by simp [lowLevelProperties]) hmode
  have hmodes : PyValue.str HIGH_LEVEL_MODE ≠ .str LOW_LEVEL_MODE := by decide
  obtain ⟨entries, rfl, hshape⟩ := shape_of_validCommand hvalid
  cases hshape with
  | highLevel action hmode' hkeys haction hmem =>
      obtain rfl : mode = .str HIGH_LEVEL_MODE :=
        Except.ok.inj ((PyValue.get_of_getItem hmode).symm.trans hmode')
      have hhigh := highLevelSchema_of_valid hmode hkeys haction hmem
      have hlow : lowLevelSchema (.dict entries) = false := by
        by_contra hlow
        exact hmodes (hlowMode (by simpa using hlow))
      exact iff_of_true (by simp [oneOf, hhigh, hlow]) fun h ↦ absurd h hmodes
  | lowLevel direction hmode' hkeys hdirection hnumbers =>
      obtain rfl : mode = .str LOW_LEVEL_MODE :=
        Except.ok.inj ((PyValue.get_of_getItem hmode).symm.trans hmode')
      have hhigh : highLevelSchema (.dict entries) = false := by
        by_contra hhigh
        exact hmodes.symm (hhighMode (by simpa using hhigh))
      have hone : oneOf [highLevelSchema, lowLevelSchema] (.dict entries) = true ↔
          lowLevelSchema (.dict entries) = true := by
        cases hlow : lowLevelSchema (.dict entries) <;> simp [oneOf, hhigh, hlow]
      rw [hone, lowLevelSchema_iff hmode hkeys hdirection hnumbers]
      exact ⟨fun h _ ↦ h, fun h ↦ h rfl⟩
  | bare mode' hmode' hhigh hlow hkeys hnumbers =>
      have hdefault := (PyValue.get_of_getItem hmode).symm.trans
        (get_of_keysAre hkeys (by decide) (.bool true))
      have hother := (PyValue.get_of_getItem hmode).symm.trans
        (get_of_keysAre hkeys (by decide) (.bool false))
      cases (Except.ok.inj hdefault).symm.trans (Except.ok.inj hother)

/-! ## Packets -/

/-- The packet has no extra field, and every field that the receiver converts or compares has
the JSON type that the schema publishes. -/
structure PublishedTypes (packet : PyValue) : Prop where
  closed : ∃ entries, packet = .dict entries ∧
    noAdditional SessionCommandVerifier.REQUIRED (.dict entries) = true
  version : ∃ x, packet.getItem "version" = .ok x ∧ typeNumber x = true
  sessionID : ∃ x, packet.getItem "session_id" = .ok x ∧
    keywords [typeString, minLength 1] x = true
  sequence : ∃ x, packet.getItem "sequence" = .ok x ∧ typeInteger x = true
  timestamp : ∃ x, packet.getItem "timestamp_ms" = .ok x ∧ typeInteger x = true
  numbers : ∀ command, packet.getItem "command" = .ok command →
    command.getItem "mode" = .ok (.str LOW_LEVEL_MODE) → NumberTypes command

theorem dataChannelControl_iff {v : SessionCommandVerifier} {session : ActiveControlSession}
    {packet command mode signature : PyValue} {senderIdentity : PyStr} {nowMS n : ℤ}
    (h : v.Passes session packet senderIdentity nowMS n) (hlast : 0 ≤ v.lastSequence)
    (hsignature : packet.getItem "signature" = .ok signature)
    (hstring : typeString signature = true) (hcommand : packet.getItem "command" = .ok command)
    (hmode : command.getItem "mode" = .ok mode) :
    dataChannelControl packet = true ↔ PublishedTypes packet := by
  obtain ⟨version, hversion, hprotocol⟩ := h.version
  obtain ⟨type, htype, hcontrol⟩ := h.type
  obtain ⟨sequence, hsequence, hn, hfresh⟩ := h.sequence
  obtain ⟨command', hcommand', hvalid⟩ := h.command
  obtain rfl := Except.ok.inj (hcommand.symm.trans hcommand')
  have hbranch := commandSchema_iff hvalid hmode
  constructor
  · intro hschema
    obtain ⟨hproperties, hclosed⟩ := object_iff.mp hschema
    obtain ⟨x, hx, hone⟩ := hproperties ("version", constNumber 1) (by simp [packetProperties])
    obtain ⟨y, hy, hpositive⟩ := hproperties ("sequence", keywords [typeInteger, minimum 1])
      (by simp [packetProperties])
    obtain ⟨z, hz, honeOf⟩ := hproperties
      ("command", oneOf [highLevelSchema, lowLevelSchema]) (by simp [packetProperties])
    obtain rfl := Except.ok.inj (hcommand.symm.trans hz)
    have hnumber : jsonNumber x = some 1 := of_decide_eq_true hone
    exact
      { closed := hclosed
        version := ⟨x, hx, typeNumber_iff.mpr ⟨1, hnumber⟩⟩
        sessionID := hproperties ("session_id", keywords [typeString, minLength 1])
          (by simp [packetProperties])
        sequence := ⟨y, hy, keywords_iff.mp hpositive typeInteger (by simp)⟩
        timestamp := hproperties ("timestamp_ms", typeInteger) (by simp [packetProperties])
        numbers := by
          intro c hc hlow
          obtain rfl := Except.ok.inj (hcommand.symm.trans hc)
          exact hbranch.mp honeOf (Except.ok.inj (hmode.symm.trans hlow)) }
  · intro htypes
    obtain ⟨x, hx, hnumber⟩ := htypes.version
    obtain rfl := Except.ok.inj (hversion.symm.trans hx)
    obtain ⟨y, hy, hinteger⟩ := htypes.sequence
    obtain rfl := Except.ok.inj (hsequence.symm.trans hy)
    have hone : jsonNumber version = some ((1 : ℤ) : ℚ) := jsonNumber_of_eq hprotocol hnumber
    have hpositive : (1 : ℚ) ≤ n := by exact_mod_cast (hlast.trans_lt hfresh)
    obtain rfl := PyValue.eq_str_iff.mp hcontrol
    refine object_iff.mpr ⟨fun p hp ↦ ?_, htypes.closed⟩
    simp only [packetProperties, List.mem_cons, List.not_mem_nil, or_false] at hp
    rcases hp with rfl | rfl | rfl | rfl | rfl | rfl | rfl
    · exact ⟨version, hversion, by simp [constNumber, hone]⟩
    · exact ⟨_, htype, by decide⟩
    · exact htypes.sessionID
    · refine ⟨sequence, hsequence, ?_⟩
      simp [keywords, minimum, hinteger, jsonNumber_of_pyInt hn hinteger, hpositive]
    · exact htypes.timestamp
    · refine ⟨command, hcommand, hbranch.mpr fun hlow ↦ ?_⟩
      exact htypes.numbers command hcommand (hlow ▸ hmode)
    · exact ⟨signature, hsignature, hstring⟩

/-! ## Accepted packets -/

/-- Sequences never drop below zero. -/
structure Counting (st : VerifierState) : Prop where
  last : 0 ≤ st.verifier.lastSequence
  kept : ∀ flight, some flight ∈ st.flights → 0 ≤ flight.refresh.previousSequence

theorem Counting.step [Ed25519] {st st' : VerifierState} {l : VerifierLabel}
    (h : Counting st) (hstep : VerifierState.Step st l st') : Counting st' := by
  cases hstep with
  | tick => exact ⟨h.last, h.kept⟩
  | beginRefresh hbegin =>
      obtain ⟨rfl, rfl⟩ := Prod.mk.inj hbegin
      refine ⟨le_rfl, fun flight hflight ↦ ?_⟩
      rcases List.mem_append.mp hflight with hold | hnew
      · exact h.kept flight hold
      · obtain rfl := Option.some.inj (List.mem_singleton.mp hnew)
        exact h.last
  | @finishRefresh i flight outcome v result hflight hfinish =>
      refine ⟨?_, fun other hother ↦ ?_⟩
      · rcases SessionCommandVerifier.finishRefresh_cases hfinish with
          rfl | ⟨payload, session, key, -, -, -, rfl⟩
        · exact h.last
        · simp only [SessionCommandVerifier.install]
          split_ifs
          · exact h.kept flight (List.mem_of_getElem? hflight)
          · exact h.last
      · obtain ⟨j, hj⟩ := List.mem_iff_getElem?.mp hother
        exact h.kept other (List.mem_of_getElem? (flight_of_set_none hj))
  | packet hverify =>
      refine ⟨?_, h.kept⟩
      rcases SessionCommandVerifier.verifyPacket_cases hverify with
        ⟨packet, session, key, sequence, -, haccepts⟩ | ⟨-, rfl | rfl⟩
      · obtain ⟨y, -, -, hfresh⟩ := haccepts.passes.sequence
        rw [haccepts.state_eq]
        exact h.last.trans hfresh.le
      · exact h.last
      · exact le_rfl

theorem Counting.of_run [Ed25519] {ls : List VerifierLabel} {st : VerifierState}
    (hrun : verifierSystem.Run ls st) : Counting st := by
  refine hrun.invariant (P := fun _ st ↦ Counting st) ?_ ?_
  · rintro s ⟨⟨vehicleID, maxAgeMS, maxFutureSkewMS, hverifier⟩, hflights, -⟩
    refine ⟨?_, ?_⟩
    · rw [hverifier]
      exact le_rfl
    · simp [hflights]
  · intro ls s l s' _ h _ hstep
    exact h.step hstep

theorem signature_of_checkSignature [Ed25519] {key : VerifyKey} {packet : PyValue}
    (h : SessionCommandVerifier.checkSignature key packet = .ok ()) :
    ∃ signature, packet.getItem "signature" = .ok signature ∧ typeString signature = true := by
  unfold SessionCommandVerifier.checkSignature at h
  obtain ⟨message, -, h⟩ := bind_eq_ok.mp h
  obtain ⟨characters, -, h⟩ := bind_eq_ok.mp h
  obtain ⟨signature, hsignature, h⟩ := bind_eq_ok.mp h
  obtain ⟨bytes, hbytes, -⟩ := bind_eq_ok.mp h
  refine ⟨signature, hsignature, ?_⟩
  cases signature with
  | str s => rfl
  | _ => cases hbytes

/-- A packet that is accepted conforms to the published schema exactly if its fields have the
published JSON types and there are no others; and every command of the schema is valid. -/
theorem accepted_packet_conforms_iff [Ed25519] :
    (∀ {ls : List VerifierLabel} {st : VerifierState} {rawMessage senderIdentity : PyStr}
      {v : SessionCommandVerifier} {packet command mode : PyValue},
      verifierSystem.Run ls st →
        st.verifier.verifyPacket rawMessage senderIdentity st.nowMS st.monotonic =
          (v, .ok (some packet)) →
        packet.getItem "command" = .ok command → command.getItem "mode" = .ok mode →
          (dataChannelControl packet = true ↔ PublishedTypes packet)) ∧
    ∀ command, highLevelSchema command = true ∨ lowLevelSchema command = true →
      validCommand command = .ok true := by
  refine ⟨?_, ?_⟩
  · intro ls st rawMessage senderIdentity v packet command mode hrun hverify hcommand hmode
    rcases SessionCommandVerifier.verifyPacket_cases hverify with
      ⟨packet', session, key, n, hresult, haccepts⟩ | ⟨hrejected, -⟩
    · obtain rfl := Option.some.inj (Except.ok.inj hresult)
      obtain ⟨signature, hsignature, hstring⟩ := signature_of_checkSignature haccepts.signature
      exact dataChannelControl_iff haccepts.passes (Counting.of_run hrun).last hsignature hstring
        hcommand hmode
    · exact absurd rfl (hrejected packet)
  · rintro command (h | h)
    · exact validCommand_of_highLevelSchema h
    · exact validCommand_of_lowLevelSchema h

end

/-! ## A packet with a note -/

section

attribute [local instance] PythonPlatform.ascii Ed25519.sample

def notedMessage : PyStr :=
  PyStr.ofString "\x7b\"note\":null," ++ sampleMessage.tail

def notedPacket : PyValue :=
  .dict
    [(PyStr.ofString "note", .none),
      (PyStr.ofString "version", .int 1),
      (PyStr.ofString "type", .str (PyStr.ofString "control")),
      (PyStr.ofString "session_id", sampleSession.sessionID),
      (PyStr.ofString "sequence", .int 1),
      (PyStr.ofString "timestamp_ms", .int 1000),
      (PyStr.ofString "command", highLevelCommand (PyStr.ofString "forward")),
      (PyStr.ofString "signature", .str sampleSignatureB64)]

theorem verifyPacket_notedMessage :
    sampleVerifier.verifyPacket notedMessage sampleSender 1050 0 =
      ({ sampleVerifier with lastSequence := 1 }, .ok (some notedPacket)) := by
  have hexamine : sampleVerifier.examine sampleSession sampleKey notedMessage sampleSender 1050 =
      .ok (.passed 1, notedPacket) := by decide +kernel
  simp only [sampleVerifier] at hexamine
  simp only [SessionCommandVerifier.verifyPacket, sampleVerifier, hexamine]
  rfl

theorem getItem_notedPacket :
    notedPacket.getItem "command" = .ok (highLevelCommand (PyStr.ofString "forward")) ∧
      (highLevelCommand (PyStr.ofString "forward")).getItem "mode" = .ok (.str HIGH_LEVEL_MODE) :=
  ⟨rfl, rfl⟩

theorem noted_packet_unpublished : ¬PublishedTypes notedPacket := by
  intro htypes
  have hconforms := (accepted_packet_conforms_iff.1 loaded_run.toRun verifyPacket_notedMessage
    getItem_notedPacket.1 getItem_notedPacket.2).mpr htypes
  exact absurd hconforms (by decide)

theorem noted_packet_accepted :
    ¬ ∀ (ls : List VerifierLabel) (st : VerifierState) (rawMessage senderIdentity : PyStr)
      (v : SessionCommandVerifier) (packet command mode : PyValue),
      verifierSystem.Run ls st →
        st.verifier.verifyPacket rawMessage senderIdentity st.nowMS st.monotonic =
          (v, .ok (some packet)) →
        packet.getItem "command" = .ok command → command.getItem "mode" = .ok mode →
          dataChannelControl packet = true := by
  intro hall
  have hconforms := hall _ _ notedMessage sampleSender _ notedPacket _ _ loaded_run.toRun
    verifyPacket_notedMessage getItem_notedPacket.1 getItem_notedPacket.2
  exact absurd hconforms (by decide)

end

end RemoteInfra.Vehicle
