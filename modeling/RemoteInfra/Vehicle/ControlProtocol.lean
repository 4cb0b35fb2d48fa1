import RemoteInfra.Python.Texts

/-!
# The signed remote-control packet protocol

`control_protocol.py`: the text that is signed, the commands that are valid, and what a
command asks of the actuators.
-/

namespace RemoteInfra.Vehicle

open RemoteInfra.Library RemoteInfra.Python

def PROTOCOL_VERSION : PyValue := .int 1
def CONTROL_TYPE : PyValue := .str (PyStr.ofString "control")
def HIGH_LEVEL_MODE : PyStr := PyStr.ofString "high_level"
def LOW_LEVEL_MODE : PyStr := PyStr.ofString "low_level"

def HIGH_LEVEL_ACTIONS : List PyStr :=
  ["forward", "reverse", "left", "right", "stop", "emergency_stop"].map PyStr.ofString

def bar : PyChar := .scalar '|'

def buildSignMessage [PythonPlatform] (packet : PyValue) : Except PyExc PyStr := do
  let command ← packet.getItem "command"
  let version ← packet.getItem "version"
  let type ← packet.getItem "type"
  let sessionID ← packet.getItem "session_id"
  let sequence ← packet.getItem "sequence"
  let timestamp ← packet.getItem "timestamp_ms"
  let fields := [pyText version, pyText type, pyText sessionID, pyText sequence, pyText timestamp]
  let mode ← command.get "mode" .none
  if mode.eq (.str HIGH_LEVEL_MODE) then
    let action ← command.getItem "action"
    return joinWith [bar] (fields ++ [HIGH_LEVEL_MODE, pyText action])
  else if mode.eq (.str LOW_LEVEL_MODE) then
    let steering ← command.getItem "steering"
    let throttle ← command.getItem "throttle"
    let brake ← command.getItem "brake"
    let direction ← command.get "direction" (.int 1)
    return joinWith [bar] (fields ++
      [LOW_LEVEL_MODE, pyText steering, pyText throttle, pyText brake, pyText direction])
  else
    let steering ← command.getItem "steering"
    let throttle ← command.getItem "throttle"
    let brake ← command.getItem "brake"
    return joinWith [bar] (fields ++ [pyText steering, pyText throttle, pyText brake])

/-- `set(command) == names`. -/
def keysAre (entries : List (PyStr × PyValue)) (names : List String) : Bool :=
  entries.all (fun e ↦ names.any fun name ↦ PyStr.ofString name = e.1) &&
    names.all fun name ↦ entries.any fun e ↦ e.1 = PyStr.ofString name

/-- `value in HIGH_LEVEL_ACTIONS`, which hashes the value first. -/
def inHighLevelActions : PyValue → Except PyExc Bool
  | .list _ | .dict _ => .error .typeError
  | value => .ok (HIGH_LEVEL_ACTIONS.any fun action ↦ value.eq (.str action))

/-- `low <= x <= high`, which no NaN satisfies. -/
def between (low : ℚ) (x : PyFloat) (high : ℚ) : Bool :=
  match x.val with
  | some q => low ≤ q && q ≤ high
  | none => false

/-- The conversions and the range check at the end of `valid_command`. -/
def validNumbers [PythonPlatform] (command direction : PyValue) : Except PyExc Bool := do
  let steering ← pyFloat (← command.getItem "steering")
  let throttle ← pyFloat (← command.getItem "throttle")
  let brake ← pyFloat (← command.getItem "brake")
  let direction ← pyInt direction
  return between (-1) steering 1 && between 0 throttle 1 && between 0 brake 1 &&
    (direction = -1 || direction = 0 || direction = 1)

/-- Only a `TypeError` or a `ValueError` of a conversion makes the command invalid; any
other exception escapes. -/
def catchInvalid : Except PyExc Bool → Except PyExc Bool
  | .error .typeError | .error .valueError => .ok false
  | result => result

def validCommand [PythonPlatform] (command : PyValue) : Except PyExc Bool := do
  match command with
  | .dict entries =>
      let mode ← command.get "mode" .none
      if mode.eq (.str HIGH_LEVEL_MODE) then
        if keysAre entries ["mode", "action"] then
          inHighLevelActions (← command.getItem "action")
        else return false
      else if mode.eq (.str LOW_LEVEL_MODE) then
        if keysAre entries ["mode", "steering", "throttle", "brake", "direction"] then
          catchInvalid (validNumbers command (← command.getItem "direction"))
        else return false
      else if keysAre entries ["steering", "throttle", "brake"] then
        catchInvalid (validNumbers command (.int 1))
      else return false
  | _ => return false

/-- What an actuator is told. -/
structure ActuatorCommand where
  steering : PyFloat
  throttle : PyFloat
  brake : PyFloat
  direction : PyFloat
  deriving DecidableEq

def zero : PyFloat := floatOfDecimal false 0 0
def one : PyFloat := floatOfDecimal false 1 0
def minusOne : PyFloat := floatOfDecimal true 1 0

def resolveCommand [PythonPlatform] (command : PyValue) : Except PyExc ActuatorCommand := do
  let mode ← command.get "mode" .none
  if mode.eq (.str HIGH_LEVEL_MODE) then
    let action ← command.getItem "action"
    if action.eq (.str (PyStr.ofString "forward")) then return ⟨zero, one, zero, one⟩
    else if action.eq (.str (PyStr.ofString "reverse")) then return ⟨zero, one, zero, minusOne⟩
    else if action.eq (.str (PyStr.ofString "left")) then return ⟨minusOne, zero, zero, one⟩
    else if action.eq (.str (PyStr.ofString "right")) then return ⟨one, zero, zero, one⟩
    else return ⟨zero, zero, one, zero⟩
  else
    let steering ← pyFloat (← command.getItem "steering")
    let throttle ← pyFloat (← command.getItem "throttle")
    let brake ← pyFloat (← command.getItem "brake")
    let direction ← pyFloat (← command.get "direction" (.int 1))
    return ⟨steering, throttle, brake, direction⟩

/-! ## What a valid command looks like -/

/-- A command of three numbers and a direction that passed its check. -/
structure Actuation [PythonPlatform] (command direction steering throttle brake : PyValue)
    (resolved : ActuatorCommand) : Prop where
  steering_eq : command.getItem "steering" = .ok steering
  throttle_eq : command.getItem "throttle" = .ok throttle
  brake_eq : command.getItem "brake" = .ok brake
  pyFloat_steering : pyFloat steering = .ok resolved.steering
  pyFloat_throttle : pyFloat throttle = .ok resolved.throttle
  pyFloat_brake : pyFloat brake = .ok resolved.brake
  pyFloat_direction : pyFloat direction = .ok resolved.direction
  pyInt_direction : ∃ n, pyInt direction = .ok n

/-- The three numbers lie in their ranges, and `int` reads the direction as -1, 0 or 1. -/
structure Checked [PythonPlatform] (direction : PyValue) (resolved : ActuatorCommand) : Prop where
  steering : between (-1) resolved.steering 1 = true
  throttle : between 0 resolved.throttle 1 = true
  brake : between 0 resolved.brake 1 = true
  direction : ∃ n, pyInt direction = .ok n ∧ (n = -1 ∨ n = 0 ∨ n = 1)

theorem validNumbers_checked [PythonPlatform] {command direction : PyValue}
    (h : validNumbers command direction = .ok true) :
    ∃ steering throttle brake resolved,
      Actuation command direction steering throttle brake resolved ∧
        Checked direction resolved := by
  obtain ⟨steering, hsteering, h⟩ := bind_eq_ok.mp h
  obtain ⟨x, hx, h⟩ := bind_eq_ok.mp h
  obtain ⟨throttle, hthrottle, h⟩ := bind_eq_ok.mp h
  obtain ⟨y, hy, h⟩ := bind_eq_ok.mp h
  obtain ⟨brake, hbrake, h⟩ := bind_eq_ok.mp h
  obtain ⟨z, hz, h⟩ := bind_eq_ok.mp h
  obtain ⟨n, hn, h⟩ := bind_eq_ok.mp h
  have hrange := Except.ok.inj h
  simp only [Bool.and_eq_true, Bool.or_eq_true, decide_eq_true_eq] at hrange
  obtain ⟨⟨⟨hxrange, hyrange⟩, hzrange⟩, hnrange⟩ := hrange
  obtain ⟨w, hw⟩ := pyFloat_of_pyInt hn (or_assoc.mp hnrange)
  refine ⟨steering, throttle, brake, ⟨x, y, z, w⟩, ?_, ?_⟩
  · exact
      { steering_eq := hsteering
        throttle_eq := hthrottle
        brake_eq := hbrake
        pyFloat_steering := hx
        pyFloat_throttle := hy
        pyFloat_brake := hz
        pyFloat_direction := hw
        pyInt_direction := ⟨n, hn⟩ }
  · exact
      { steering := hxrange
        throttle := hyrange
        brake := hzrange
        direction := ⟨n, hn, or_assoc.mp hnrange⟩ }

theorem validNumbers_true [PythonPlatform] {command direction : PyValue}
    (h : validNumbers command direction = .ok true) :
    ∃ steering throttle brake resolved,
      Actuation command direction steering throttle brake resolved := by
  obtain ⟨steering, throttle, brake, resolved, hactuation, -⟩ := validNumbers_checked h
  exact ⟨steering, throttle, brake, resolved, hactuation⟩

theorem catchInvalid_true {result : Except PyExc Bool} (h : catchInvalid result = .ok true) :
    result = .ok true := by
  unfold catchInvalid at h
  split at h
  · cases h
  · cases h
  · exact h

/-- The three layouts of a valid command. -/
inductive Layout [PythonPlatform] (command : PyValue) : Prop
  | highLevel (action : PyStr) (hmode : command.get "mode" .none = .ok (.str HIGH_LEVEL_MODE))
      (haction : command.getItem "action" = .ok (.str action))
      (hmem : action ∈ HIGH_LEVEL_ACTIONS)
  | lowLevel (direction steering throttle brake : PyValue) (resolved : ActuatorCommand)
      (hmode : command.get "mode" .none = .ok (.str LOW_LEVEL_MODE))
      (hdirection : command.get "direction" (.int 1) = .ok direction)
      (hactuation : Actuation command direction steering throttle brake resolved)
  | bare (mode steering throttle brake : PyValue) (resolved : ActuatorCommand)
      (hmode : command.get "mode" .none = .ok mode)
      (hhigh : mode.eq (.str HIGH_LEVEL_MODE) = false)
      (hlow : mode.eq (.str LOW_LEVEL_MODE) = false)
      (hdirection : command.get "direction" (.int 1) = .ok (.int 1))
      (hactuation : Actuation command (.int 1) steering throttle brake resolved)

/-- A name that is none of a dict's keys falls back to the default. -/
theorem get_of_keysAre {entries : List (PyStr × PyValue)} {names : List String}
    (h : keysAre entries names = true) {key : String}
    (hkey : names.all fun name ↦ PyStr.ofString name ≠ PyStr.ofString key) (default : PyValue) :
    (PyValue.dict entries).get key default = .ok default := by
  have hnone : entries.lookup (PyStr.ofString key) = none := by
    rw [List.lookup_eq_none_iff]
    intro e he
    simp only [keysAre, Bool.and_eq_true, List.all_eq_true, List.any_eq_true,
      decide_eq_true_eq] at h hkey
    obtain ⟨name, hname, heq⟩ := h.1 e he
    simpa [← heq] using Ne.symm (hkey name hname)
  simp [PyValue.get, hnone]

/-- The three branches that answer `True`, by their keys and their checks. -/
inductive Shape [PythonPlatform] (entries : List (PyStr × PyValue)) : Prop
  | highLevel (action : PyStr)
      (hmode : (PyValue.dict entries).get "mode" .none = .ok (.str HIGH_LEVEL_MODE))
      (hkeys : keysAre entries ["mode", "action"] = true)
      (haction : (PyValue.dict entries).getItem "action" = .ok (.str action))
      (hmem : action ∈ HIGH_LEVEL_ACTIONS)
  | lowLevel (direction : PyValue)
      (hmode : (PyValue.dict entries).get "mode" .none = .ok (.str LOW_LEVEL_MODE))
      (hkeys : keysAre entries ["mode", "steering", "throttle", "brake", "direction"] = true)
      (hdirection : (PyValue.dict entries).getItem "direction" = .ok direction)
      (hnumbers : validNumbers (.dict entries) direction = .ok true)
  | bare (mode : PyValue) (hmode : (PyValue.dict entries).get "mode" .none = .ok mode)
      (hhigh : mode.eq (.str HIGH_LEVEL_MODE) = false)
      (hlow : mode.eq (.str LOW_LEVEL_MODE) = false)
      (hkeys : keysAre entries ["steering", "throttle", "brake"] = true)
      (hnumbers : validNumbers (.dict entries) (.int 1) = .ok true)

theorem shape_of_validCommand [PythonPlatform] {command : PyValue}
    (h : validCommand command = .ok true) :
    ∃ entries, command = .dict entries ∧ Shape entries := by
  unfold validCommand at h
  cases command with
  | dict entries =>
      refine ⟨entries, rfl, ?_⟩
      obtain ⟨mode, hmode, h⟩ := bind_eq_ok.mp h
      split at h
      · rename_i hhigh
        obtain rfl := PyValue.eq_str_iff.mp hhigh
        split at h
        · rename_i hkeys
          obtain ⟨action, haction, h⟩ := bind_eq_ok.mp h
          have hmem : ∃ a ∈ HIGH_LEVEL_ACTIONS, action = .str a := by
            unfold inHighLevelActions at h
            split at h
            · cases h
            · cases h
            · obtain ⟨a, ha, heq⟩ := List.any_eq_true.mp (Except.ok.inj h)
              exact ⟨a, ha, PyValue.eq_str_iff.mp heq⟩
          obtain ⟨a, ha, rfl⟩ := hmem
          exact .highLevel a hmode hkeys haction ha
        · cases h
      · rename_i hhigh
        split at h
        · rename_i hlow
          obtain rfl := PyValue.eq_str_iff.mp hlow
          split at h
          · rename_i hkeys
            obtain ⟨direction, hdirection, h⟩ := bind_eq_ok.mp h
            exact .lowLevel direction hmode hkeys hdirection (catchInvalid_true h)
          · cases h
        · rename_i hlow
          split at h
          · rename_i hkeys
            exact .bare mode hmode (by simpa using hhigh) (by simpa using hlow) hkeys
              (catchInvalid_true h)
          · cases h
  | _ => cases h

/-- A valid command has one of the three layouts. -/
theorem layout_of_validCommand [PythonPlatform] {command : PyValue}
    (h : validCommand command = .ok true) : Layout command := by
  obtain ⟨entries, rfl, hshape⟩ := shape_of_validCommand h
  cases hshape with
  | highLevel action hmode hkeys haction hmem => exact .highLevel action hmode haction hmem
  | lowLevel direction hmode hkeys hdirection hnumbers =>
      obtain ⟨steering, throttle, brake, resolved, hactuation⟩ := validNumbers_true hnumbers
      exact .lowLevel direction steering throttle brake resolved hmode
        (PyValue.get_of_getItem hdirection) hactuation
  | bare mode hmode hhigh hlow hkeys hnumbers =>
      obtain ⟨steering, throttle, brake, resolved, hactuation⟩ := validNumbers_true hnumbers
      exact .bare mode steering throttle brake resolved hmode hhigh hlow
        (get_of_keysAre hkeys (by decide) _) hactuation

theorem resolveCommand_actuation [PythonPlatform] {command mode direction steering throttle brake : PyValue}
    {resolved : ActuatorCommand} (hmode : command.get "mode" .none = .ok mode)
    (hhigh : mode.eq (.str HIGH_LEVEL_MODE) = false)
    (hdirection : command.get "direction" (.int 1) = .ok direction)
    (h : Actuation command direction steering throttle brake resolved) :
    resolveCommand command = .ok resolved := by
  simp only [resolveCommand, hmode, hhigh, hdirection, h.steering_eq, h.throttle_eq, h.brake_eq,
    h.pyFloat_steering, h.pyFloat_throttle, h.pyFloat_brake, h.pyFloat_direction, ok_bind,
    Bool.false_eq_true, if_false]
  rfl

/-- A valid command resolves. -/
theorem resolveCommand_of_validCommand [PythonPlatform] {command : PyValue}
    (h : validCommand command = .ok true) : ∃ resolved, resolveCommand command = .ok resolved := by
  cases layout_of_validCommand h with
  | highLevel action hmode haction _ =>
      have hself : (PyValue.str HIGH_LEVEL_MODE).eq (.str HIGH_LEVEL_MODE) = true :=
        PyValue.eq_str_iff.mpr rfl
      simp only [resolveCommand, hmode, haction, hself, ok_bind, if_true]
      split_ifs <;> exact ⟨_, rfl⟩
  | lowLevel direction steering throttle brake resolved hmode hdirection hactuation =>
      exact ⟨resolved, resolveCommand_actuation hmode (by decide) hdirection hactuation⟩
  | bare mode steering throttle brake resolved hmode hhigh _ hdirection hactuation =>
      exact ⟨resolved, resolveCommand_actuation hmode hhigh hdirection hactuation⟩

end RemoteInfra.Vehicle
