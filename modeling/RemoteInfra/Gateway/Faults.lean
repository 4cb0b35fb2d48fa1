import RemoteInfra.Gateway.Serving

/-!
# Calls that meet failures

One call at a time, as in `Serving`, but Redis may refuse a command, or run it and lose the
reply.  Once the context of a request is cancelled, all its later commands are refused.
-/

namespace RemoteInfra.Gateway

open RemoteInfra.Library RemoteInfra.Library.Program

inductive Fate
  | done
  | refused
  | lost
  deriving DecidableEq

inductive Faces [Cjson] (T : Timing) (w : GatewayState) :
    Fate → (e : Effect) → e.Reply → GatewayState → Prop
  | done {e : Effect} {r : e.Reply} {w' : GatewayState} : Serves T w e r w' →
      Faces T w .done e r w'
  | refused {t : ℤ} {cmd : RedisCommand} {error : RedisError} : T.passes w.clock t →
      Faces T w .refused (.redis cmd) (.error error) { w with clock := t }
  | lost {t : ℤ} {cmd : RedisCommand} {result : cmd.Result} {redis : Redis}
      {error : RedisError} : T.passes w.clock t → cmd.exec t w.redis = .ok (result, redis) →
        Faces T w .lost (.redis cmd) (.error error) { w with clock := t, redis := redis }

/-- An effect that may fail. -/
def MayFail [Cjson] (T : Timing) (w : GatewayState) (e : Effect) (r : e.Reply)
    (w' : GatewayState) : Prop :=
  ∃ fate, Faces T w fate e r w'

section Instant

variable [Cjson] {w : GatewayState} {α : Type} {Q : α → GatewayState → Prop}

/-! ## At a single instant -/

theorem ensures_timeNow {f : ℤ → GatewayProgram α}
    (h : Ensures (MayFail Timing.instant) w (f w.clock) Q) :
    Ensures (MayFail Timing.instant) w (timeNow >>= f) Q := by
  refine Ensures.call ?_
  rintro now w' ⟨fate, hfaces⟩
  cases hfaces with
  | done hserves =>
      obtain ⟨t, hpasses, hreads, rfl⟩ := serves_timeNow_iff.mp hserves
      obtain rfl : t = w.clock := hpasses
      obtain rfl : now = w.clock := hreads
      exact h

theorem ensures_newUUID {f : GoString → GatewayProgram α}
    (h : ∀ id : GoString, id ∉ w.drawn → id.ValidUTF8 → id ≠ [] →
      Ensures (MayFail Timing.instant) { w with drawn := id :: w.drawn } (f id) Q) :
    Ensures (MayFail Timing.instant) w (newUUID >>= f) Q := by
  refine Ensures.call ?_
  rintro id w' ⟨fate, hfaces⟩
  cases hfaces with
  | done hserves =>
      cases hserves with
      | newUUID hpasses hnew hvalid hne =>
          obtain rfl : _ = w.clock := hpasses
          exact h id hnew hvalid hne

theorem ensures_redis {cmd : RedisCommand} {f : Except RedisError cmd.Result → GatewayProgram α}
    (hrefused : ∀ error, Ensures (MayFail Timing.instant) w (f (.error error)) Q)
    (hran : ∀ result redis, cmd.exec w.clock w.redis = .ok (result, redis) →
      Ensures (MayFail Timing.instant) { w with redis := redis } (f (.ok result)) Q ∧
        ∀ error, Ensures (MayFail Timing.instant) { w with redis := redis } (f (.error error)) Q) :
    Ensures (MayFail Timing.instant) w (runRedis cmd >>= f) Q := by
  refine Ensures.call ?_
  rintro reply w' ⟨fate, hfaces⟩
  cases hfaces with
  | done hserves =>
      cases hserves with
      | redis hpasses hexec =>
          obtain rfl : _ = w.clock := hpasses
          exact (hran _ _ hexec).1
  | refused hpasses =>
      obtain rfl : _ = w.clock := hpasses
      exact hrefused _
  | lost hpasses hexec =>
      obtain rfl : _ = w.clock := hpasses
      exact (hran _ _ hexec).2 _

theorem ensures_get {k : RedisKey} {f : Except RedisError (Option k.Value) → GatewayProgram α}
    (hfailed : ∀ error, Ensures (MayFail Timing.instant) w (f (.error error)) Q)
    (hfound : Ensures (MayFail Timing.instant) w (f (.ok (w.redis.get w.clock k))) Q) :
    Ensures (MayFail Timing.instant) w (runRedis (.get k) >>= f) Q := by
  refine ensures_redis hfailed ?_
  intro result redis hexec
  obtain ⟨rfl, rfl⟩ := Prod.mk.inj (Except.ok.inj hexec)
  exact ⟨hfound, hfailed⟩

theorem ensures_issueOperatorToken {vehicleID operatorID : GoString} {access : OperatorAccess}
    {f : Option GoString → GatewayProgram α}
    (h : ∀ token, Ensures (MayFail Timing.instant) w (f token) Q) :
    Ensures (MayFail Timing.instant) w
      (Program.call (.issueOperatorToken vehicleID operatorID access) f) Q := by
  refine Ensures.call ?_
  rintro token w' ⟨fate, hfaces⟩
  cases hfaces with
  | done hserves =>
      cases hserves with
      | issueOperatorToken _ hpasses =>
          obtain rfl : _ = w.clock := hpasses
          exact h token

theorem ensures_recordAudit {event : AuditEvent} {f : Unit → GatewayProgram α}
    (h : Ensures (MayFail Timing.instant) w (f ()) Q) :
    Ensures (MayFail Timing.instant) w (Program.call (.recordAudit event) f) Q := by
  refine Ensures.call ?_
  rintro reply w' ⟨fate, hfaces⟩
  cases hfaces with
  | done hserves =>
      cases hserves with
      | recordAudit hpasses =>
          obtain rfl : _ = w.clock := hpasses
          exact h

end Instant

end RemoteInfra.Gateway
