import RemoteInfra.JavaScript.Json

/-!
# The operator console's control sender

`secure-control-sender.ts`: the commands the console may send, the text that is signed for one
and the JSON text that is published.
-/

namespace RemoteInfra.Console

open RemoteInfra.JavaScript RemoteInfra.Python

inductive Mode
  | highLevel
  | lowLevel
  deriving DecidableEq

def Mode.name : Mode → String
  | highLevel => "high_level"
  | lowLevel => "low_level"

inductive Action
  | forward
  | reverse
  | left
  | right
  | stop
  | emergencyStop

def Action.name : Action → String
  | forward => "forward"
  | reverse => "reverse"
  | left => "left"
  | right => "right"
  | stop => "stop"
  | emergencyStop => "emergency_stop"

/-- The type `-1 | 0 | 1`. -/
inductive Direction
  | minusOne
  | zero
  | one

def Direction.value : Direction → SafeInteger
  | minusOne => ⟨-1, by decide⟩
  | zero => ⟨0, by decide⟩
  | one => ⟨1, by decide⟩

inductive Property
  | mode
  | action
  | steering
  | throttle
  | brake
  | direction
  deriving DecidableEq

def Property.name : Property → String
  | mode => "mode"
  | action => "action"
  | steering => "steering"
  | throttle => "throttle"
  | brake => "brake"
  | direction => "direction"

/-- `order` is the order in which the properties were created. -/
structure ControlCommand where
  mode : Mode
  action : Option Action
  steering : Option Number
  throttle : Option Number
  brake : Option Number
  direction : Option Direction
  order : List Property
  nodup : order.Nodup
  complete : ∀ p, p ∈ order

/-- A name in ASCII. -/
def text (name : String) : JSString := ofChars name.toList

def shownNumber (x : Number) : JSString := ofChars (numberToString x)

namespace ControlCommand

def value (command : ControlCommand) : Property → Option JsonValue
  | .mode => some (.string (text command.mode.name))
  | .action => command.action.map fun a ↦ .string (text a.name)
  | .steering => command.steering.map .number
  | .throttle => command.throttle.map .number
  | .brake => command.brake.map .number
  | .direction => command.direction.map fun d ↦ .number d.value.toNumber

/-- `JSON.stringify` leaves out what is undefined. -/
def members (command : ControlCommand) : List (JSString × JsonValue) :=
  command.order.filterMap fun p ↦ (command.value p).map fun v ↦ (text p.name, v)

end ControlCommand

structure ControlPayload where
  version : Number
  type : JSString
  sessionID : JSString
  sequence : Number
  timestampMS : Number
  command : ControlCommand

/-- What a template string shows of an optional value. -/
def shown (x : Option JSString) : JSString := x.getD (text "undefined")

def signMessage (payload : ControlPayload) : JSString :=
  let command := payload.command
  let bar := text "|"
  let header := shownNumber payload.version ++ bar ++ payload.type ++ bar ++ payload.sessionID ++
    bar ++ shownNumber payload.sequence ++ bar ++ shownNumber payload.timestampMS ++ bar
  if command.mode = .highLevel then
    header ++ text "high_level|" ++ shown (command.action.map fun a ↦ text a.name)
  else
    header ++ text "low_level|" ++ shown (command.steering.map shownNumber) ++ bar ++
      shown (command.throttle.map shownNumber) ++ bar ++
      shown (command.brake.map shownNumber) ++ bar ++
      shownNumber (command.direction.getD .one).value.toNumber

/-- `{...payload, signature}`. -/
def signedPayload (payload : ControlPayload) (signature : JSString) : JsonValue :=
  .object
    [(text "version", .number payload.version), (text "type", .string payload.type),
      (text "session_id", .string payload.sessionID),
      (text "sequence", .number payload.sequence),
      (text "timestamp_ms", .number payload.timestampMS),
      (text "command", .object payload.command.members), (text "signature", .string signature)]

/-- What `sendCommand` uses of the sender; `publishData` tells whether it was set. -/
structure SecureControlSender (Key : Type) where
  privateKey : Option Key
  sessionID : Option JSString
  publishData : Bool
  sequence : SafeInteger

/-- A command on its way: the text that was signed and the one that was published. -/
structure SentCommand (Key : Type) where
  sender : SecureControlSender Key
  signed : JSString
  published : PyStr

/-- `sign` is the signature of a text in base64. -/
def SecureControlSender.sendCommand {Key : Type} (sender : SecureControlSender Key)
    (sign : Key → JSString → JSString) (command : ControlCommand) (now : SafeInteger) :
    Except String (SentCommand Key) :=
  match sender.privateKey, sender.sessionID, sender.publishData with
  | some privateKey, some (unit :: units), true =>
      let sequence := sender.sequence.increment
      let payload : ControlPayload :=
        { version := SafeInteger.toNumber ⟨1, by decide⟩
          type := text "control"
          sessionID := unit :: units
          sequence := sequence.toNumber
          timestampMS := now.toNumber
          command := command }
      let signed := signMessage payload
      .ok
        { sender := { sender with sequence := sequence }
          signed := signed
          published := stringify (signedPayload payload (sign privateKey signed)) }
  | _, _, _ => .error "secure control sender is not initialized"

/-! ## The JSON text of a command -/

theorem codePoints_text {name : String} (h : ∀ c ∈ name.toList, c.toNat < 0xD800)
    (s : JSString) : codePoints (text name ++ s) = PyStr.ofString name ++ codePoints s :=
  codePoints_ofChars h s

theorem codePoints_name {name : String} (h : ∀ c ∈ name.toList, c.toNat < 0xD800) :
    codePoints (text name) = PyStr.ofString name := by
  have hname := codePoints_text h []
  rwa [List.append_nil, codePoints, List.append_nil] at hname

theorem codePoints_propertyName (p : Property) :
    codePoints (text p.name) = PyStr.ofString p.name := by
  apply codePoints_name
  cases p <;> decide

theorem propertyName_injective : Function.Injective fun p : Property ↦ PyStr.ofString p.name := by
  intro p q h
  cases p <;> cases q <;> first | rfl | exact absurd h (by decide)

namespace ControlCommand

variable (command : ControlCommand)

/-- What Python reads of the command. -/
def entries : List (PyStr × PyValue) :=
  command.order.filterMap fun p ↦
    (command.value p).map fun v ↦ (PyStr.ofString p.name, readBack v)

theorem readMembers_eq_map (members : List (JSString × JsonValue)) :
    readMembers members = members.map fun m ↦ (codePoints m.1, readBack m.2) := by
  induction members with
  | nil => rfl
  | cons m members ih => rw [readMembers, ih, List.map_cons]

theorem readMembers_members : readMembers command.members = command.entries := by
  rw [readMembers_eq_map, members, entries, List.map_filterMap]
  congr 1
  funext p
  cases command.value p with
  | none => rfl
  | some v => simp [codePoints_propertyName]

theorem keys_members :
    (command.members.map fun m ↦ codePoints m.1) =
      (command.order.filter fun p ↦ (command.value p).isSome).map fun p ↦
        PyStr.ofString p.name := by
  rw [members]
  induction command.order with
  | nil => rfl
  | cons p order ih =>
      cases hp : command.value p with
      | none => simp [hp, ih]
      | some v => simp [hp, ih, codePoints_propertyName]

theorem nests_value (depth : ℕ) {p : Property} {v : JsonValue} (h : command.value p = some v) :
    Nests depth v := by
  cases p
  all_goals
    simp only [value, Option.some.injEq, Option.map_eq_some_iff] at h
  · subst h
    exact .string _ _
  · obtain ⟨a, -, rfl⟩ := h
    exact .string _ _
  all_goals
    obtain ⟨x, -, rfl⟩ := h
    exact .number _ _

theorem nests_members (depth : ℕ) : Nests (depth + 1) (.object command.members) := by
  refine .object depth _ ?_ ?_
  · rw [keys_members]
    exact (command.nodup.filter _).map propertyName_injective
  · intro m hm
    obtain ⟨p, -, hp⟩ := List.mem_filterMap.mp hm
    obtain ⟨v, hv, rfl⟩ := Option.map_eq_some_iff.mp hp
    exact command.nests_value depth hv

end ControlCommand

end RemoteInfra.Console
