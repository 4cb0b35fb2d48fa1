import RemoteInfra.Vehicle.ControlProtocol

/-!
# The range of actuated commands

`valid_command` checks `int(direction)`, `resolve_command` hands on `float(direction)`.  The
two read every value alike but a float with a fractional part, whose `int` is in range where
the float itself is not.
-/

namespace RemoteInfra.Vehicle

open RemoteInfra.Library RemoteInfra.Python

/-- Within what the actuators are built for. -/
structure ActuatorCommand.InRange (c : ActuatorCommand) : Prop where
  steering : between (-1) c.steering 1 = true
  throttle : between 0 c.throttle 1 = true
  brake : between 0 c.brake 1 = true
  direction : c.direction.val = some (-1) ∨ c.direction.val = some 0 ∨ c.direction.val = some 1

instance (c : ActuatorCommand) : Decidable c.InRange :=
  decidable_of_iff
    (between (-1) c.steering 1 = true ∧ between 0 c.throttle 1 = true ∧
      between 0 c.brake 1 = true ∧
        (c.direction.val = some (-1) ∨ c.direction.val = some 0 ∨ c.direction.val = some 1))
    ⟨fun ⟨h₁, h₂, h₃, h₄⟩ ↦ ⟨h₁, h₂, h₃, h₄⟩, fun ⟨h₁, h₂, h₃, h₄⟩ ↦ ⟨h₁, h₂, h₃, h₄⟩⟩

/-- A low-level command whose direction is a float with a fractional part. -/
def FractionalDirection (command : PyValue) : Prop :=
  command.get "mode" .none = .ok (.str LOW_LEVEL_MODE) ∧
    ∃ y, command.getItem "direction" = .ok (.float y) ∧ y.isInteger = false

/-- Every high-level action is within range. -/
theorem inRange_highLevel [PythonPlatform] {command : PyValue} {action : PyStr}
    (hmode : command.get "mode" .none = .ok (.str HIGH_LEVEL_MODE))
    (haction : command.getItem "action" = .ok (.str action)) :
    ∃ resolved, resolveCommand command = .ok resolved ∧ resolved.InRange := by
  have hself : (PyValue.str HIGH_LEVEL_MODE).eq (.str HIGH_LEVEL_MODE) = true :=
    PyValue.eq_str_iff.mpr rfl
  have hconstants : (⟨zero, one, zero, one⟩ : ActuatorCommand).InRange ∧
      (⟨zero, one, zero, minusOne⟩ : ActuatorCommand).InRange ∧
        (⟨minusOne, zero, zero, one⟩ : ActuatorCommand).InRange ∧
          (⟨one, zero, zero, one⟩ : ActuatorCommand).InRange ∧
            (⟨zero, zero, one, zero⟩ : ActuatorCommand).InRange := by decide +kernel
  obtain ⟨hforward, hreverse, hleft, hright, hstop⟩ := hconstants
  simp only [resolveCommand, hmode, haction, hself, ok_bind, if_true]
  split_ifs
  · exact ⟨_, rfl, hforward⟩
  · exact ⟨_, rfl, hreverse⟩
  · exact ⟨_, rfl, hleft⟩
  · exact ⟨_, rfl, hright⟩
  · exact ⟨_, rfl, hstop⟩

/-- A direction is -1, 0 or 1 as a float where it is as an `int`, unless a fraction was cut
off. -/
theorem Checked.direction_iff [PythonPlatform] {direction : PyValue}
    {resolved : ActuatorCommand} (h : Checked direction resolved)
    (hfloat : pyFloat direction = .ok resolved.direction) :
    (resolved.direction.val = some (-1) ∨ resolved.direction.val = some 0 ∨
      resolved.direction.val = some 1) ↔
        ∀ y, direction = .float y → y.isInteger = true := by
  obtain ⟨n, hn, hsmall⟩ := h.direction
  have hval : resolved.direction.val = some (n : ℚ) →
      resolved.direction.val = some (-1) ∨ resolved.direction.val = some 0 ∨
        resolved.direction.val = some 1 := by
    intro hval
    rcases hsmall with rfl | rfl | rfl
    · exact .inl (by simpa using hval)
    · exact .inr (.inl (by simpa using hval))
    · exact .inr (.inr (by simpa using hval))
  constructor
  · rintro hdirection y rfl
    obtain rfl : y = resolved.direction := Except.ok.inj hfloat
    rcases hdirection with h | h | h <;> simp [PyFloat.isInteger, h]
  · intro hinteger
    apply hval
    cases direction with
    | float y =>
        obtain rfl : y = resolved.direction := Except.ok.inj hfloat
        exact val_of_isInteger hn (hinteger _ rfl)
    | _ => exact val_of_pyInt hn hsmall hfloat (by simp)

theorem inRange_iff [PythonPlatform] {command mode direction : PyValue}
    (hmode : command.get "mode" .none = .ok mode)
    (hhigh : mode.eq (.str HIGH_LEVEL_MODE) = false)
    (hdirection : command.get "direction" (.int 1) = .ok direction)
    (hnumbers : validNumbers command direction = .ok true) :
    (∃ resolved, resolveCommand command = .ok resolved ∧ resolved.InRange) ↔
      ∀ y, direction = .float y → y.isInteger = true := by
  obtain ⟨steering, throttle, brake, resolved, hactuation, hchecked⟩ :=
    validNumbers_checked hnumbers
  have hresolves := resolveCommand_actuation hmode hhigh hdirection hactuation
  rw [← hchecked.direction_iff hactuation.pyFloat_direction]
  constructor
  · rintro ⟨other, hother, hrange⟩
    obtain rfl := Except.ok.inj (hresolves.symm.trans hother)
    exact hrange.direction
  · intro hrange
    exact ⟨resolved, hresolves,
      { steering := hchecked.steering
        throttle := hchecked.throttle
        brake := hchecked.brake
        direction := hrange }⟩

/-- A valid command resolves, and within range unless its direction has a fractional part. -/
theorem valid_command_in_range_iff [PythonPlatform] {command : PyValue}
    (h : validCommand command = .ok true) :
    (∃ resolved, resolveCommand command = .ok resolved ∧ resolved.InRange) ↔
      ¬ FractionalDirection command := by
  obtain ⟨entries, rfl, hshape⟩ := shape_of_validCommand h
  cases hshape with
  | highLevel action hmode hkeys haction hmem =>
      refine iff_of_true (inRange_highLevel hmode haction) ?_
      rintro ⟨hlow, -⟩
      exact absurd (hmode.symm.trans hlow) (by decide)
  | lowLevel direction hmode hkeys hdirection hnumbers =>
      rw [inRange_iff hmode (by decide) (PyValue.get_of_getItem hdirection) hnumbers]
      constructor
      · rintro hinteger ⟨-, y, hy, hfraction⟩
        have hdir : direction = .float y := Except.ok.inj (hdirection.symm.trans hy)
        exact absurd (hinteger y hdir) (by simp [hfraction])
      · rintro hfraction y rfl
        by_contra hinteger
        exact hfraction ⟨hmode, y, hdirection, by simpa using hinteger⟩
  | bare mode hmode hhigh hlow hkeys hnumbers =>
      rw [inRange_iff hmode hhigh (get_of_keysAre hkeys (by decide) _) hnumbers]
      refine iff_of_true (by simp) ?_
      rintro ⟨hmode', -⟩
      obtain rfl := Except.ok.inj (hmode.symm.trans hmode')
      exact absurd hlow (by decide)

/-- Half throttle in direction `0.5`. -/
def halfwayCommand : PyValue :=
  .dict
    [(PyStr.ofString "mode", .str LOW_LEVEL_MODE),
      (PyStr.ofString "steering", .int 0),
      (PyStr.ofString "throttle", .float (floatOfDecimal false 5 (-1))),
      (PyStr.ofString "brake", .int 0),
      (PyStr.ofString "direction", .float (floatOfDecimal false 5 (-1)))]

theorem validCommand_halfway : @validCommand PythonPlatform.ascii halfwayCommand = .ok true := by
  decide +kernel

theorem fractionalDirection_halfway : FractionalDirection halfwayCommand :=
  ⟨by decide, floatOfDecimal false 5 (-1), by decide +kernel, by decide +kernel⟩

theorem halfway_out_of_range :
    @validCommand PythonPlatform.ascii halfwayCommand = .ok true ∧
      ¬∃ resolved, @resolveCommand PythonPlatform.ascii halfwayCommand = .ok resolved ∧
        resolved.InRange :=
  ⟨validCommand_halfway, fun h ↦
    (@valid_command_in_range_iff PythonPlatform.ascii _ validCommand_halfway).mp h
      fractionalDirection_halfway⟩

theorem halfway_actuated : ¬ ∀ command : PyValue,
    @validCommand PythonPlatform.ascii command = .ok true →
      ∃ resolved, @resolveCommand PythonPlatform.ascii command = .ok resolved ∧
        resolved.InRange := by
  intro hall
  obtain ⟨resolved, hresolved, hrange⟩ := hall halfwayCommand validCommand_halfway
  have hhalf : (@resolveCommand PythonPlatform.ascii halfwayCommand).toOption.map
      (fun c ↦ c.direction.val) = some (some (1 / 2)) := by decide +kernel
  rw [hresolved] at hhalf
  have hval : resolved.direction.val = some (1 / 2) := Option.some.inj hhalf
  have hdirection := hrange.direction
  rw [hval] at hdirection
  norm_num at hdirection

end RemoteInfra.Vehicle
