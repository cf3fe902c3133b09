import MakeLint.Event

/-!
# Producers

A producer hands out its values one at a time, and does its work only when it is asked for the next
one. So the events of two stages of a pipeline do not come stage by stage: a value goes through all
stages before the next value is looked at.
-/

namespace MakeLint

/-- What a producer does when it is asked for its next value: it tells the events of finding one,
and hands out the value with what is left, unless there is no further value. -/
inductive Producer (α : Type) where
  /-- There is no further value. -/
  | exhausted (events : List Event)
  /-- There is a next value. -/
  | yields (events : List Event) (value : α) (rest : Producer α)

namespace Producer

variable {α β : Type}

/-- The producer of the values of a list, which has nothing to tell. -/
def ofList : List α → Producer α
  | [] => exhausted []
  | value :: values => yields [] value (ofList values)

/-- The producer that tells some events when it is first asked, and then does as another one. -/
def telling (told : List Event) : Producer α → Producer α
  | exhausted events => exhausted (told ++ events)
  | yields events value rest => yields (told ++ events) value rest

/-- The producer that hands out the values of a list, and then does as another one. -/
def yieldingAll : List α → Producer α → Producer α
  | [], rest => rest
  | value :: values, rest => yields [] value (yieldingAll values rest)

/-- The producer of the values that pass a test. Asked for a value it tests one after the other
until a value passes. -/
def filter (test : α → Traced Bool) : Producer α → Producer α
  | exhausted events => exhausted events
  | yields events value rest =>
    let tested := test value
    if tested.value then yields (events ++ tested.events) value (rest.filter test)
    else (rest.filter test).telling (events ++ tested.events)

/-- The producer of the values that others stand for. Asked for a value when all those of the last
list are handed out it works out lists until one has a value. -/
def flatMap (f : α → Traced (List β)) : Producer α → Producer β
  | exhausted events => exhausted events
  | yields events value rest =>
    let made := f value
    (yieldingAll made.value (rest.flatMap f)).telling (events ++ made.events)

/-- Asks a producer for its values until there is none left. -/
def collect : Producer α → Traced (List α)
  | exhausted events => ⟨[], events⟩
  | yields events value rest =>
    let others := rest.collect
    ⟨value :: others.value, events ++ others.events⟩

end Producer

end MakeLint
