/-!
# Triggers

A trigger is a combat event that an effect waits for.
-/

namespace EffectFlow

/-- The combat events. -/
inductive Trigger where
  /-- The ability is cast. -/
  | onCast
  /-- An attack hits. -/
  | onHit
  /-- An attack misses. -/
  | onMiss
  /-- An attack is a critical hit. -/
  | onCrit
  /-- A target dies. -/
  | onKill
  /-- Damage is taken. -/
  | onTakeDamage
  /-- Time passes. -/
  | onTick
deriving DecidableEq, Repr

namespace Trigger

/-- All events, in order. -/
def all : List Trigger := [onCast, onHit, onMiss, onCrit, onKill, onTakeDamage, onTick]

/-- The name in documents. -/
def name : Trigger → String
  | onCast => "on_cast"
  | onHit => "on_hit"
  | onMiss => "on_miss"
  | onCrit => "on_crit"
  | onKill => "on_kill"
  | onTakeDamage => "on_take_damage"
  | onTick => "on_tick"

/-- The event of a name. -/
def ofName? (name : String) : Option Trigger := all.find? (·.name == name)

theorem ofName?_name (trigger : Trigger) : ofName? trigger.name = some trigger := by
  cases trigger <;> decide

end Trigger

end EffectFlow
