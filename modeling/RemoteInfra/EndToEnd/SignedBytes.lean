import RemoteInfra.Console.SecureControlSender
import RemoteInfra.Vehicle.Bars

/-!
# The bytes that console and vehicle sign

The console signs a text it builds from the command, the vehicle rebuilds that text from the
JSON it parsed.  The two texts differ where the languages lay a number out differently, and the
vehicle refuses a command with a property too many or too few.
-/

namespace RemoteInfra.EndToEnd

open RemoteInfra.Library RemoteInfra.Library.Decimal RemoteInfra.Python RemoteInfra.JavaScript
  RemoteInfra.Console RemoteInfra.Vehicle

/-- The vehicle parses what was published, finds the command valid and rebuilds the text that
was signed. -/
def Understood [PythonPlatform] {Key : Type} (sent : SentCommand Key) : Prop :=
  ∃ packet command, loads sent.published = .ok packet ∧ packet.getItem "command" = .ok command ∧
    validCommand command = .ok true ∧ buildSignMessage packet = .ok (codePoints sent.signed)

/-- A finite Number within bounds. -/
def Within (low : ℚ) (x : Number) (high : ℚ) : Prop := ∃ q, x.val = some q ∧ low ≤ q ∧ q ≤ high

/-- What the console may send: one of the six actions, or three numbers in their ranges. -/
def InRange (command : ControlCommand) : Prop :=
  match command.mode with
  | .highLevel => command.action.isSome
  | .lowLevel =>
      (∃ x, command.steering = some x ∧ Within (-1) x 1) ∧
        (∃ x, command.throttle = some x ∧ Within 0 x 1) ∧
          ∃ x, command.brake = some x ∧ Within 0 x 1

/-- No property is missing, none is too many, and the numbers are printed alike. -/
def ReadAlike (command : ControlCommand) : Prop :=
  match command.mode with
  | .highLevel => command.steering = none ∧ command.throttle = none ∧ command.brake = none ∧
      command.direction = none
  | .lowLevel => command.action = none ∧ command.direction.isSome ∧
      (∀ x ∈ command.steering, ¬LaidApart x) ∧ (∀ x ∈ command.throttle, ¬LaidApart x) ∧
        ∀ x ∈ command.brake, ¬LaidApart x

/-! ## The signed text -/

theorem codePoints_bar (s t : JSString) :
    codePoints (s ++ (text "|" ++ t)) = codePoints s ++ bar :: codePoints t := by
  have hunit : isLow (UInt16.ofNat '|'.toNat).toNat = false := by decide
  have hhigh : isHigh (UInt16.ofNat '|'.toNat).toNat = false := by decide
  have hcut := codePoints_append hunit s t
  rw [codePoints_cons hhigh] at hcut
  exact hcut

theorem codePoints_joinWith {fields : List JSString} (h : fields ≠ []) :
    codePoints (joinWith (text "|") fields) = joinWith [bar] (fields.map codePoints) := by
  induction fields with
  | nil => exact absurd rfl h
  | cons field fields ih =>
      cases fields with
      | nil => rfl
      | cons next fields =>
          have htail := ih (List.cons_ne_nil _ _)
          rw [joinWith_cons _ _ (List.cons_ne_nil _ _), codePoints_bar, htail]
          rfl

/-- The fields that every signed text starts with. -/
def headerFields (payload : ControlPayload) : List JSString :=
  [shownNumber payload.version, payload.type, payload.sessionID, shownNumber payload.sequence,
    shownNumber payload.timestampMS]

def commandFields (command : ControlCommand) : List JSString :=
  if command.mode = .highLevel then
    [text "high_level", shown (command.action.map fun a ↦ text a.name)]
  else
    [text "low_level", shown (command.steering.map shownNumber),
      shown (command.throttle.map shownNumber), shown (command.brake.map shownNumber),
      shownNumber (command.direction.getD .one).value.toNumber]

theorem signMessage_eq (payload : ControlPayload) : signMessage payload =
    joinWith (text "|") (headerFields payload ++ commandFields payload.command) := by
  have hhigh : text "high_level|" = text "high_level" ++ text "|" := by decide
  have hlow : text "low_level|" = text "low_level" ++ text "|" := by decide
  by_cases hmode : payload.command.mode = .highLevel
  · simp only [signMessage, commandFields, hmode, if_true, hhigh, headerFields, List.cons_append,
      List.nil_append, joinWith, List.append_assoc]
  · simp only [signMessage, commandFields, hmode, if_false, hlow, headerFields, List.cons_append,
      List.nil_append, joinWith, List.append_assoc]

theorem codePoints_signMessage (payload : ControlPayload) : codePoints (signMessage payload) =
    joinWith [bar] ((headerFields payload).map codePoints ++
      (commandFields payload.command).map codePoints) := by
  rw [signMessage_eq, codePoints_joinWith (by simp [headerFields]), List.map_append]

theorem isNumeralChar_numberToString (negative : Bool) (d : Double) :
    ∀ c ∈ numberToString (.finite negative d), IsNumeralChar c := by
  intro c hc
  rw [numberToString] at hc
  split_ifs at hc
  · obtain rfl := List.mem_singleton.mp hc
    exact .inl ⟨by decide, by decide⟩
  · exact isNumeralChar_signed (numberNumeral_wellFormed d).isNumeralChar c hc

theorem ascii_numberToString (x : Number) : ∀ c ∈ numberToString x, c.toNat < 0xD800 := by
  cases x with
  | nan => decide
  | infinity negative => cases negative <;> decide
  | finite negative d =>
      intro c hc
      have hplain := IsPlain.of_numeralChar (isNumeralChar_numberToString negative d c hc)
      have := hplain.1
      omega

theorem codePoints_shownNumber (x : Number) :
    codePoints (shownNumber x) = PyStr.ofList (numberToString x) := by
  have htext := codePoints_ofChars (ascii_numberToString x) []
  rwa [List.append_nil, codePoints, List.append_nil] at htext

/-- No bar is printed for a number. -/
theorem bar_not_mem_shownNumber (x : Number) : bar ∉ codePoints (shownNumber x) := by
  rw [codePoints_shownNumber]
  apply bar_not_mem_ofList
  cases x with
  | nan => decide
  | infinity negative => cases negative <;> decide
  | finite negative d =>
      intro hbar
      exact not_isNumeralChar_bar (isNumeralChar_numberToString negative d _ hbar)

/-! ## What the vehicle reads -/

/-- The parsed payload. -/
def packetOf (payload : ControlPayload) (signature : JSString) : PyValue :=
  .dict
    [(PyStr.ofString "version", readNumber payload.version),
      (PyStr.ofString "type", .str (codePoints payload.type)),
      (PyStr.ofString "session_id", .str (codePoints payload.sessionID)),
      (PyStr.ofString "sequence", readNumber payload.sequence),
      (PyStr.ofString "timestamp_ms", readNumber payload.timestampMS),
      (PyStr.ofString "command", .dict payload.command.entries),
      (PyStr.ofString "signature", .str (codePoints signature))]

theorem getItem_packetOf (payload : ControlPayload) (signature : JSString) :
    (packetOf payload signature).getItem "command" = .ok (.dict payload.command.entries) ∧
      (packetOf payload signature).getItem "version" = .ok (readNumber payload.version) ∧
      (packetOf payload signature).getItem "type" = .ok (.str (codePoints payload.type)) ∧
      (packetOf payload signature).getItem "session_id" =
        .ok (.str (codePoints payload.sessionID)) ∧
      (packetOf payload signature).getItem "sequence" = .ok (readNumber payload.sequence) ∧
      (packetOf payload signature).getItem "timestamp_ms" =
        .ok (readNumber payload.timestampMS) :=
  ⟨rfl, rfl, rfl, rfl, rfl, rfl⟩

theorem readBack_signedPayload (payload : ControlPayload) (signature : JSString) :
    readBack (signedPayload payload signature) = packetOf payload signature := by
  have hname : ∀ name ∈ ["version", "type", "session_id", "sequence", "timestamp_ms", "command",
      "signature"], codePoints (text name) = PyStr.ofString name := by
    intro name hname
    apply codePoints_name
    revert name
    decide
  simp only [List.forall_mem_cons] at hname
  obtain ⟨h1, h2, h3, h4, h5, h6, h7, -⟩ := hname
  simp only [signedPayload, readBack, readMembers, h1, h2, h3, h4, h5, h6, h7,
    ControlCommand.readMembers_members]
  rfl

theorem loads_signedPayload [PythonPlatform] (hlimit : 2 ≤ PythonPlatform.nestingLimit)
    (payload : ControlPayload) (signature : JSString) :
    loads (stringify (signedPayload payload signature)) = .ok (packetOf payload signature) := by
  obtain ⟨depth, hdepth⟩ := Nat.exists_eq_add_of_le' hlimit
  have hnests : Nests PythonPlatform.nestingLimit (signedPayload payload signature) := by
    rw [hdepth]
    refine .object _ _ ?_ ?_
    · have hkeys : (["version", "type", "session_id", "sequence", "timestamp_ms", "command",
          "signature"].map fun name ↦ codePoints (text name)).Nodup := by decide
      exact hkeys
    · simp only [List.forall_mem_cons]
      exact ⟨.number _ _, .string _ _, .string _ _, .number _ _, .number _ _,
        payload.command.nests_members depth, .string _ _, by simp⟩
  rw [loads_stringify hnests, readBack_signedPayload]

/-! ## The command as the vehicle checks it -/

section Command

variable {command : ControlCommand}

theorem mem_entries {e : PyStr × PyValue} : e ∈ command.entries ↔
    ∃ p v, command.value p = some v ∧ e = (PyStr.ofString p.name, readBack v) := by
  rw [ControlCommand.entries, List.mem_filterMap]
  constructor
  · rintro ⟨p, -, hp⟩
    obtain ⟨v, hv, rfl⟩ := Option.map_eq_some_iff.mp hp
    exact ⟨p, v, hv, rfl⟩
  · rintro ⟨p, v, hv, rfl⟩
    exact ⟨p, command.complete p, by rw [hv, Option.map_some]⟩

theorem lookup_entries (command : ControlCommand) (p : Property) :
    command.entries.lookup (PyStr.ofString p.name) = (command.value p).map readBack := by
  have hlookup : ∀ order : List Property,
      (order.filterMap fun q ↦ (command.value q).map fun v ↦
        (PyStr.ofString q.name, readBack v)).lookup (PyStr.ofString p.name) =
          if p ∈ order then (command.value p).map readBack else none := by
    intro order
    induction order with
    | nil => rfl
    | cons q order ih =>
        by_cases hq : p = q
        · subst hq
          cases hp : command.value p with
          | none => simp [hp, ih]
          | some v => simp [hp]
        · have hname : PyStr.ofString p.name ≠ PyStr.ofString q.name := fun h ↦
            hq (propertyName_injective h)
          cases hv : command.value q with
          | none => simp [hv, ih, hq]
          | some v => simp [hv, ih, hq, List.lookup_cons, beq_false_of_ne hname]
  rw [ControlCommand.entries, hlookup, if_pos (command.complete p)]

theorem getItem_entries {p : Property} {v : JsonValue} (h : command.value p = some v) :
    (PyValue.dict command.entries).getItem p.name = .ok (readBack v) := by
  simp only [PyValue.getItem, lookup_entries, h, Option.map_some]

theorem get_mode (command : ControlCommand) :
    (PyValue.dict command.entries).get "mode" .none =
      .ok (.str (PyStr.ofString command.mode.name)) := by
  have hname : codePoints (text command.mode.name) = PyStr.ofString command.mode.name := by
    apply codePoints_name
    cases command.mode <;> decide
  have hmode := @getItem_entries command .mode _ rfl
  rw [readBack, hname] at hmode
  exact PyValue.get_of_getItem hmode

theorem get_highLevel (hmode : command.mode = .highLevel) :
    (PyValue.dict command.entries).get "mode" .none = .ok (.str HIGH_LEVEL_MODE) := by
  rw [get_mode, hmode]
  rfl

theorem get_lowLevel (hmode : command.mode = .lowLevel) :
    (PyValue.dict command.entries).get "mode" .none = .ok (.str LOW_LEVEL_MODE) := by
  rw [get_mode, hmode]
  rfl

theorem getItem_action {a : Action} (h : command.action = some a) :
    (PyValue.dict command.entries).getItem "action" = .ok (.str (codePoints (text a.name))) := by
  have hvalue : command.value .action = some (.string (text a.name)) := by
    simp [ControlCommand.value, h]
  exact getItem_entries hvalue

theorem readNumber_direction (d : Direction) : readNumber d.value.toNumber = .int d.value.val := by
  apply SafeInteger.readNumber_toNumber
  cases d <;> decide

theorem getItem_direction {d : Direction} (h : command.direction = some d) :
    (PyValue.dict command.entries).getItem "direction" = .ok (.int d.value.val) := by
  have hvalue : command.value .direction = some (.number d.value.toNumber) := by
    simp [ControlCommand.value, h]
  rw [← readNumber_direction]
  exact getItem_entries hvalue

/-- The three numbers of a low-level command. -/
structure Steers (command : ControlCommand) (steering throttle brake : Number) : Prop where
  steering : command.steering = some steering
  throttle : command.throttle = some throttle
  brake : command.brake = some brake

theorem Steers.getItem {steering throttle brake : Number}
    (h : Steers command steering throttle brake) :
    (PyValue.dict command.entries).getItem "steering" = .ok (readNumber steering) ∧
      (PyValue.dict command.entries).getItem "throttle" = .ok (readNumber throttle) ∧
        (PyValue.dict command.entries).getItem "brake" = .ok (readNumber brake) := by
  have hsteering : command.value .steering = some (.number steering) := by
    simp [ControlCommand.value, h.steering]
  have hthrottle : command.value .throttle = some (.number throttle) := by
    simp [ControlCommand.value, h.throttle]
  have hbrake : command.value .brake = some (.number brake) := by
    simp [ControlCommand.value, h.brake]
  exact ⟨getItem_entries hsteering, getItem_entries hthrottle, getItem_entries hbrake⟩

/-- The keys are as named when exactly the properties of these names are there. -/
theorem keysAre_entries (ps : List Property) :
    keysAre command.entries (ps.map Property.name) = true ↔
      ∀ p, (command.value p).isSome ↔ p ∈ ps := by
  simp only [keysAre, Bool.and_eq_true, List.all_eq_true, List.any_eq_true, decide_eq_true_eq,
    List.mem_map]
  constructor
  · rintro ⟨hknown, hpresent⟩ p
    constructor
    · intro hsome
      obtain ⟨v, hv⟩ := Option.isSome_iff_exists.mp hsome
      obtain ⟨_, ⟨q, hq, rfl⟩, heq⟩ := hknown _ (mem_entries.mpr ⟨p, v, hv, rfl⟩)
      rwa [← propertyName_injective heq]
    · intro hp
      obtain ⟨e, he, heq⟩ := hpresent p.name ⟨p, hp, rfl⟩
      obtain ⟨q, v, hv, rfl⟩ := mem_entries.mp he
      rw [← propertyName_injective heq, hv]
      rfl
  · intro h
    constructor
    · intro e he
      obtain ⟨p, v, hv, rfl⟩ := mem_entries.mp he
      exact ⟨p.name, ⟨p, (h p).mp (by rw [hv]; rfl), rfl⟩, rfl⟩
    · rintro _ ⟨p, hp, rfl⟩
      obtain ⟨v, hv⟩ := Option.isSome_iff_exists.mp ((h p).mpr hp)
      exact ⟨_, mem_entries.mpr ⟨p, v, hv, rfl⟩, rfl⟩

/-- A high-level command is valid when its action is all it holds. -/
theorem validCommand_highLevel [PythonPlatform] (hmode : command.mode = .highLevel) {a : Action}
    (haction : command.action = some a) :
    validCommand (.dict command.entries) = .ok true ↔ ReadAlike command := by
  have hself : (PyValue.str HIGH_LEVEL_MODE).eq (.str HIGH_LEVEL_MODE) = true :=
    PyValue.eq_str_iff.mpr rfl
  have hget := get_highLevel hmode
  have hitem := getItem_action haction
  have hmem : inHighLevelActions (.str (codePoints (text a.name))) = .ok true := by
    cases a <;> decide +kernel
  have hkeys : keysAre command.entries ["mode", "action"] = true ↔ ReadAlike command := by
    have hnames : ["mode", "action"] = [Property.mode, .action].map Property.name := rfl
    rw [hnames, keysAre_entries, ReadAlike, hmode]
    constructor
    · intro h
      have hnone : ∀ p, p ∉ [Property.mode, .action] → command.value p = none := fun p hp ↦
        Option.not_isSome_iff_eq_none.mp fun hsome ↦ hp ((h p).mp hsome)
      exact ⟨Option.map_eq_none_iff.mp (hnone .steering (by decide)),
        Option.map_eq_none_iff.mp (hnone .throttle (by decide)),
        Option.map_eq_none_iff.mp (hnone .brake (by decide)),
        Option.map_eq_none_iff.mp (hnone .direction (by decide))⟩
    · rintro ⟨hsteering, hthrottle, hbrake, hdirection⟩ p
      cases p <;> simp [ControlCommand.value, haction, hsteering, hthrottle, hbrake, hdirection]
  unfold validCommand
  simp only [hget, ok_bind, hself, if_true, hitem]
  by_cases hall : ReadAlike command
  · rw [if_pos (hkeys.mpr hall), hmem]
    exact iff_of_true rfl hall
  · rw [if_neg fun h ↦ hall (hkeys.mp h)]
    refine iff_of_false ?_ hall
    intro h
    cases h

theorem pyFloat_within [PythonPlatform] {low high : ℚ} {x : Number} (h : Within low x high) :
    ∃ y, pyFloat (readNumber x) = .ok y ∧ between low y high = true := by
  obtain ⟨q, hval, hlow, hhigh⟩ := h
  cases x with
  | nan => cases hval
  | infinity negative => cases hval
  | finite negative d =>
      obtain ⟨y, hy, hyval⟩ := pyFloat_readNumber negative d
      refine ⟨y, hy, ?_⟩
      simp [between, hyval, hval, hlow, hhigh]

/-- The ranges of the three numbers. -/
def NumbersInRange (steering throttle brake : Number) : Prop :=
  Within (-1) steering 1 ∧ Within 0 throttle 1 ∧ Within 0 brake 1

theorem validNumbers_lowLevel [PythonPlatform] {steering throttle brake : Number}
    (hnumbers : Steers command steering throttle brake)
    (hrange : NumbersInRange steering throttle brake) (d : Direction) :
    validNumbers (.dict command.entries) (.int d.value.val) = .ok true := by
  obtain ⟨x, hx, hxrange⟩ := pyFloat_within hrange.1
  obtain ⟨y, hy, hyrange⟩ := pyFloat_within hrange.2.1
  obtain ⟨z, hz, hzrange⟩ := pyFloat_within hrange.2.2
  obtain ⟨hsteering, hthrottle, hbrake⟩ := hnumbers.getItem
  have hdirection : pyInt (.int d.value.val) = .ok d.value.val := rfl
  simp only [validNumbers, hsteering, hthrottle, hbrake, ok_bind, hx, hy, hz, hdirection, hxrange,
    hyrange, hzrange]
  cases d <;> rfl

/-- A low-level command is valid when it holds a direction and no action. -/
theorem validCommand_lowLevel [PythonPlatform] (hmode : command.mode = .lowLevel)
    {steering throttle brake : Number} (hnumbers : Steers command steering throttle brake)
    (hrange : NumbersInRange steering throttle brake) :
    validCommand (.dict command.entries) = .ok true ↔
      command.action = none ∧ command.direction.isSome := by
  have hhigh : (PyValue.str LOW_LEVEL_MODE).eq (.str HIGH_LEVEL_MODE) = false := by decide +kernel
  have hself : (PyValue.str LOW_LEVEL_MODE).eq (.str LOW_LEVEL_MODE) = true :=
    PyValue.eq_str_iff.mpr rfl
  have hget := get_lowLevel hmode
  have hkeys : keysAre command.entries ["mode", "steering", "throttle", "brake", "direction"] =
      true ↔ command.action = none ∧ command.direction.isSome := by
    have hnames : ["mode", "steering", "throttle", "brake", "direction"] =
      [Property.mode, .steering, .throttle, .brake, .direction].map Property.name := rfl
    rw [hnames, keysAre_entries]
    constructor
    · intro h
      have haction : command.value .action = none :=
        Option.not_isSome_iff_eq_none.mp fun hsome ↦ absurd ((h .action).mp hsome) (by decide)
      have hdirection := (h .direction).mpr (by decide)
      exact ⟨Option.map_eq_none_iff.mp haction, by simpa [ControlCommand.value] using hdirection⟩
    · rintro ⟨haction, hdirection⟩ p
      cases p <;>
        simp [ControlCommand.value, haction, hnumbers.steering, hnumbers.throttle, hnumbers.brake,
          hdirection]
  unfold validCommand
  simp only [hget, ok_bind, hhigh, hself, if_true, Bool.false_eq_true, if_false]
  by_cases hall : command.action = none ∧ command.direction.isSome
  · obtain ⟨d, hd⟩ := Option.isSome_iff_exists.mp hall.2
    rw [if_pos (hkeys.mpr hall), getItem_direction hd, ok_bind,
      validNumbers_lowLevel hnumbers hrange]
    exact iff_of_true rfl hall
  · rw [if_neg fun h ↦ hall (hkeys.mp h)]
    refine iff_of_false ?_ hall
    intro h
    cases h

end Command

/-! ## The rebuilt text -/

section Message

variable [PythonPlatform] {payload : ControlPayload} {signature : JSString}

/-- Version, sequence and timestamp count in whole numbers. -/
structure Counted (payload : ControlPayload) : Prop where
  version : ∃ n : SafeInteger, payload.version = n.toNumber
  sequence : ∃ n : SafeInteger, payload.sequence = n.toNumber
  timestamp : ∃ n : SafeInteger, payload.timestampMS = n.toNumber

theorem pyText_counted {x : Number} (h : ∃ n : SafeInteger, x = n.toNumber) :
    pyText (readNumber x) = codePoints (shownNumber x) := by
  obtain ⟨n, rfl⟩ := h
  rw [n.pyText_readNumber, codePoints_shownNumber]

/-- The fields in front of the command are rebuilt as they were signed. -/
theorem pyText_headerFields (h : Counted payload) :
    [pyText (readNumber payload.version), pyText (.str (codePoints payload.type)),
      pyText (.str (codePoints payload.sessionID)), pyText (readNumber payload.sequence),
      pyText (readNumber payload.timestampMS)] = (headerFields payload).map codePoints := by
  rw [pyText_counted h.version, pyText_counted h.sequence, pyText_counted h.timestamp]
  rfl

theorem buildSignMessage_highLevel (h : Counted payload)
    (hmode : payload.command.mode = .highLevel) {a : Action}
    (haction : payload.command.action = some a) :
    buildSignMessage (packetOf payload signature) = .ok (codePoints (signMessage payload)) := by
  obtain ⟨hcommand, hversion, htype, hsession, hsequence, htimestamp⟩ :=
    getItem_packetOf payload signature
  have hget := get_highLevel hmode
  have hself : (PyValue.str HIGH_LEVEL_MODE).eq (.str HIGH_LEVEL_MODE) = true :=
    PyValue.eq_str_iff.mpr rfl
  have hitem := getItem_action haction
  simp only [buildSignMessage, hcommand, hversion, htype, hsession, hsequence, htimestamp, ok_bind,
    hget, hself, if_true, hitem, pyText_headerFields h, codePoints_signMessage, commandFields,
    hmode, haction]
  rfl

theorem pyText_number_iff {low high : ℚ} {x : Number} (h : Within low x high) :
    pyText (readNumber x) = codePoints (shownNumber x) ↔ ¬LaidApart x := by
  obtain ⟨q, hval, -⟩ := h
  rw [codePoints_shownNumber]
  cases x with
  | nan => cases hval
  | infinity negative => cases hval
  | finite negative d => exact pyText_readNumber_iff negative d

theorem bar_not_mem_pyText {low high : ℚ} {x : Number} (h : Within low x high) :
    bar ∉ pyText (readNumber x) := by
  obtain ⟨y, hy, -⟩ := pyFloat_within h
  exact bar_not_mem_of_pyFloat hy

/-- The text of a low-level command is rebuilt when each number is printed alike. -/
theorem buildSignMessage_lowLevel_iff (h : Counted payload)
    (hmode : payload.command.mode = .lowLevel) {steering throttle brake : Number}
    (hnumbers : Steers payload.command steering throttle brake)
    (hrange : NumbersInRange steering throttle brake) {d : Direction}
    (hdirection : payload.command.direction = some d) :
    buildSignMessage (packetOf payload signature) = .ok (codePoints (signMessage payload)) ↔
      ¬LaidApart steering ∧ ¬LaidApart throttle ∧ ¬LaidApart brake := by
  obtain ⟨hcommand, hversion, htype, hsession, hsequence, htimestamp⟩ :=
    getItem_packetOf payload signature
  obtain ⟨hsteering, hthrottle, hbrake⟩ := hnumbers.getItem
  have hget := get_lowLevel hmode
  have hhigh : (PyValue.str LOW_LEVEL_MODE).eq (.str HIGH_LEVEL_MODE) = false := by decide +kernel
  have hself : (PyValue.str LOW_LEVEL_MODE).eq (.str LOW_LEVEL_MODE) = true :=
    PyValue.eq_str_iff.mpr rfl
  have hitem : (PyValue.dict payload.command.entries).get "direction" (.int 1) =
      .ok (.int d.value.val) := PyValue.get_of_getItem (getItem_direction hdirection)
  have htext : pyText (.int d.value.val) = codePoints (shownNumber d.value.toNumber) := by
    rw [← readNumber_direction, pyText_counted ⟨d.value, rfl⟩]
  have hbuild : buildSignMessage (packetOf payload signature) =
      .ok (joinWith [bar] ((headerFields payload).map codePoints ++
        [LOW_LEVEL_MODE, pyText (readNumber steering), pyText (readNumber throttle),
          pyText (readNumber brake), codePoints (shownNumber d.value.toNumber)])) := by
    simp only [buildSignMessage, hcommand, hversion, htype, hsession, hsequence, htimestamp,
      ok_bind, hget, hhigh, hself, if_true, Bool.false_eq_true, if_false, hsteering, hthrottle,
      hbrake, hitem, htext, pyText_headerFields h]
    rfl
  have hsigned : (commandFields payload.command).map codePoints =
      [LOW_LEVEL_MODE, codePoints (shownNumber steering), codePoints (shownNumber throttle),
        codePoints (shownNumber brake), codePoints (shownNumber d.value.toNumber)] := by
    have hlow : codePoints (text "low_level") = LOW_LEVEL_MODE := codePoints_name (by decide)
    simp only [commandFields, hmode, reduceCtorEq, if_false, hnumbers.steering, hnumbers.throttle,
      hnumbers.brake, hdirection, Option.map_some, Option.getD_some, shown, List.map_cons, hlow,
      List.map_nil]
  rw [hbuild, codePoints_signMessage, hsigned, Except.ok.injEq,
    ← pyText_number_iff hrange.1, ← pyText_number_iff hrange.2.1, ← pyText_number_iff hrange.2.2]
  constructor
  · intro htexts
    have hmodeText : bar ∉ LOW_LEVEL_MODE := by decide
    have hdirectionText := bar_not_mem_shownNumber d.value.toNumber
    have hread : ∀ field ∈ [LOW_LEVEL_MODE, pyText (readNumber steering),
        pyText (readNumber throttle), pyText (readNumber brake),
        codePoints (shownNumber d.value.toNumber)], bar ∉ field := by
      simp only [List.forall_mem_cons]
      exact ⟨hmodeText, bar_not_mem_pyText hrange.1, bar_not_mem_pyText hrange.2.1,
        bar_not_mem_pyText hrange.2.2, hdirectionText, by simp⟩
    have hshown : ∀ field ∈ [LOW_LEVEL_MODE, codePoints (shownNumber steering),
        codePoints (shownNumber throttle), codePoints (shownNumber brake),
        codePoints (shownNumber d.value.toNumber)], bar ∉ field := by
      simp only [List.forall_mem_cons]
      exact ⟨hmodeText, bar_not_mem_shownNumber _, bar_not_mem_shownNumber _,
        bar_not_mem_shownNumber _, hdirectionText, by simp⟩
    have hheader : (headerFields payload).map codePoints ≠ [] := by simp [headerFields]
    have hfields := (joinWith_append_inj rfl hread hshown hheader htexts).2
    simpa using hfields
  · rintro ⟨hfirst, hsecond, hthird⟩
    rw [hfirst, hsecond, hthird]

/-- A published payload is understood when its command reads alike in both languages. -/
theorem understood_payload_iff (hlimit : 2 ≤ PythonPlatform.nestingLimit) (h : Counted payload)
    (hrange : InRange payload.command) :
    (∃ packet command, loads (stringify (signedPayload payload signature)) = .ok packet ∧
      packet.getItem "command" = .ok command ∧ validCommand command = .ok true ∧
        buildSignMessage packet = .ok (codePoints (signMessage payload))) ↔
      ReadAlike payload.command := by
  have hloads := loads_signedPayload hlimit payload signature
  have hcommand := (getItem_packetOf payload signature).1
  have hshort : (∃ packet command, loads (stringify (signedPayload payload signature)) =
      .ok packet ∧ packet.getItem "command" = .ok command ∧ validCommand command = .ok true ∧
        buildSignMessage packet = .ok (codePoints (signMessage payload))) ↔
      validCommand (.dict payload.command.entries) = .ok true ∧
        buildSignMessage (packetOf payload signature) =
          .ok (codePoints (signMessage payload)) := by
    constructor
    · rintro ⟨packet, command, hpacket, hitem, hvalid, htext⟩
      obtain rfl := Except.ok.inj (hloads.symm.trans hpacket)
      obtain rfl := Except.ok.inj (hcommand.symm.trans hitem)
      exact ⟨hvalid, htext⟩
    · rintro ⟨hvalid, htext⟩
      exact ⟨_, _, hloads, hcommand, hvalid, htext⟩
  rw [hshort]
  cases hmode : payload.command.mode with
  | highLevel =>
      rw [InRange, hmode] at hrange
      obtain ⟨a, ha⟩ := Option.isSome_iff_exists.mp hrange
      rw [validCommand_highLevel hmode ha, buildSignMessage_highLevel h hmode ha]
      exact and_iff_left rfl
  | lowLevel =>
      rw [InRange, hmode] at hrange
      obtain ⟨⟨steering, hsteering, hsteeringRange⟩, ⟨throttle, hthrottle, hthrottleRange⟩,
        brake, hbrake, hbrakeRange⟩ := hrange
      have hnumbers : Steers payload.command steering throttle brake :=
        ⟨hsteering, hthrottle, hbrake⟩
      have hbounds : NumbersInRange steering throttle brake :=
        ⟨hsteeringRange, hthrottleRange, hbrakeRange⟩
      have halike : ReadAlike payload.command ↔
          (payload.command.action = none ∧ payload.command.direction.isSome) ∧
            ¬LaidApart steering ∧ ¬LaidApart throttle ∧ ¬LaidApart brake := by
        simp [ReadAlike, hmode, hsteering, hthrottle, hbrake, and_assoc]
      rw [validCommand_lowLevel hmode hnumbers hbounds, halike]
      apply and_congr_right
      rintro ⟨-, hdirection⟩
      obtain ⟨d, hd⟩ := Option.isSome_iff_exists.mp hdirection
      exact buildSignMessage_lowLevel_iff h hmode hnumbers hbounds hd

end Message

/-! ## Sent commands -/

/-- The vehicle understands what the console sends of a command in range if and only if no
property is missing or too many and both languages print the numbers alike. -/
theorem signed_bytes_agree_iff [PythonPlatform] (hlimit : 2 ≤ PythonPlatform.nestingLimit)
    {Key : Type} {sign : Key → JSString → JSString} {sender : SecureControlSender Key}
    {command : ControlCommand} {now : SafeInteger} {sent : SentCommand Key}
    (hrange : InRange command) (hsent : sender.sendCommand sign command now = .ok sent) :
    Understood sent ↔ ReadAlike command := by
  unfold SecureControlSender.sendCommand at hsent
  split at hsent
  · obtain rfl := Except.ok.inj hsent
    exact understood_payload_iff hlimit ⟨⟨_, rfl⟩, ⟨_, rfl⟩, ⟨_, rfl⟩⟩ hrange
  · cases hsent

/-! ### Two commands -/

section Sample

/-- A console in a session; its signatures are of no interest. -/
def consoleSender : SecureControlSender Unit where
  privateKey := some ()
  sessionID := some (ofChars ['s', '1'])
  publishData := true
  sequence := ⟨0, SafeInteger.natAbs_zero_le⟩

def driveForward : ControlCommand where
  mode := .highLevel
  action := some .forward
  steering := none
  throttle := none
  brake := none
  direction := none
  order := [.mode, .action, .steering, .throttle, .brake, .direction]
  nodup := by decide
  complete := by
    intro p
    cases p <;> decide

/-- The direction is left out, as the type allows. -/
def stayPut : ControlCommand where
  mode := .lowLevel
  action := none
  steering := some (SafeInteger.toNumber ⟨0, SafeInteger.natAbs_zero_le⟩)
  throttle := some (SafeInteger.toNumber ⟨0, SafeInteger.natAbs_zero_le⟩)
  brake := some (SafeInteger.toNumber ⟨1, SafeInteger.natAbs_one_le⟩)
  direction := none
  order := [.mode, .action, .steering, .throttle, .brake, .direction]
  nodup := by decide
  complete := by
    intro p
    cases p <;> decide

theorem signed_bytes_agree_forward :
    ∃ sent, consoleSender.sendCommand (fun _ _ ↦ text "sig") driveForward ⟨1000, by decide⟩ =
      .ok sent ∧ @Understood PythonPlatform.ascii Unit sent := by
  let := PythonPlatform.ascii
  have hlimit : 2 ≤ PythonPlatform.nestingLimit := by decide
  have hrange : InRange driveForward := rfl
  obtain ⟨sent, hsent⟩ : ∃ sent, consoleSender.sendCommand (fun _ _ ↦ text "sig") driveForward
      ⟨1000, by decide⟩ = .ok sent := ⟨_, rfl⟩
  exact ⟨sent, hsent, (signed_bytes_agree_iff hlimit hrange hsent).mpr ⟨rfl, rfl, rfl, rfl⟩⟩

/-- The console signs the direction 1 that it leaves out, and the vehicle misses it. -/
theorem omitted_direction_refused :
    InRange stayPut ∧
      ∃ sent, consoleSender.sendCommand (fun _ _ ↦ text "sig") stayPut ⟨1000, by decide⟩ =
        .ok sent ∧ ¬@Understood PythonPlatform.ascii Unit sent := by
  let := PythonPlatform.ascii
  have hlimit : 2 ≤ PythonPlatform.nestingLimit := by decide
  have hwithin : ∀ n : SafeInteger, 0 ≤ n.val → n.val ≤ 1 →
      Within (-1) n.toNumber 1 ∧ Within 0 n.toNumber 1 := by
    intro n hlow hhigh
    have hlow' : (0 : ℚ) ≤ n.val := by exact_mod_cast hlow
    have hhigh' : (n.val : ℚ) ≤ 1 := by exact_mod_cast hhigh
    exact ⟨⟨n.val, n.val_toNumber, by linarith, hhigh'⟩, ⟨n.val, n.val_toNumber, hlow', hhigh'⟩⟩
  have hrange : InRange stayPut :=
    ⟨⟨_, rfl, (hwithin ⟨0, by decide⟩ (by decide) (by decide)).1⟩,
      ⟨_, rfl, (hwithin ⟨0, by decide⟩ (by decide) (by decide)).2⟩,
      ⟨_, rfl, (hwithin ⟨1, by decide⟩ (by decide) (by decide)).2⟩⟩
  refine ⟨hrange, _, rfl, ?_⟩
  intro hunderstood
  have halike := (understood_payload_iff hlimit ⟨⟨_, rfl⟩, ⟨_, rfl⟩, ⟨_, rfl⟩⟩ hrange).mp
    hunderstood
  exact absurd halike.2.1 (by decide)

end Sample

end RemoteInfra.EndToEnd
