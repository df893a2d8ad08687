import RemoteCall.Engine.Futures

/-!
Events: what scripted plug-ins report while a scenario runs.

The plug-ins of a scenario share `Notes`: the events reported so far, and how often each limited
rule has been used. A `Listener` is a scripted callback or job; it reports what it hears under its
label and then carries out its follow-ups.
-/

namespace RemoteCall.Scenario

/-- A report of a plug-in. -/
inductive Event where
  /-- A factory was asked. -/
  | asked (factory : String) (query : Query) (position : Nat)
  /-- A factory has looked something up; for an adapter the payload type is reported. -/
  | checked (factory : String) (result : Except Error (Option Shape))
  /-- A factory has looked at its client. -/
  | client (baseUrl : String)
  /-- An adapter was given a call. -/
  | adapted (factory : String) (url : String)
  /-- A callback was called. -/
  | heard (label : String) (outcome : Outcome) (call : CallView)
  /-- A callback has run a copy of its call; no outcome if that would never end. -/
  | ranCopy (label : String) (outcome : Option Outcome)
  /-- A callback or job was dropped. -/
  | lost (label : String)
  /-- A job was run. -/
  | ran (label : String)

/-- The label under which a callback or a job reports. -/
def Event.label? : Event → Option String
  | heard label .. | ranCopy label _ | lost label | ran label => some label
  | _ => none

/-- What a callback does after its report. -/
inductive FollowUp where
  | cancel
  /-- Runs a copy of the call on the spot. -/
  | executeClone
  /-- Starts a copy of the call with a callback of its own. -/
  | enqueueClone (label : String) (steps : List FollowUp)

/-- A scripted callback or job. -/
structure Listener where
  label : String
  steps : List FollowUp

/-- What the plug-ins of a scenario share. -/
structure Notes where
  /-- The reports, the latest first. -/
  events : List Event := []
  /-- How often the rule with the given factory and index has fitted. -/
  uses : List ((Nat × Nat) × Nat) := []

namespace Notes

/-- Adds a report. -/
def report (n : Notes) (e : Event) : Notes := { n with events := e :: n.events }

/-- How often a rule has fitted. -/
def usesOf (n : Notes) (rule : Nat × Nat) : Nat := (n.uses.lookup rule).getD 0

/-- Counts one more fit of a rule. -/
def count (n : Notes) (rule : Nat × Nat) : Notes :=
  { n with uses := (rule, n.usesOf rule + 1) :: n.uses }

end Notes

/-- Actions of a scenario's plug-ins. -/
abbrev Act := Action Notes Listener

/-- Reports an event. -/
def report (e : Event) : Act Unit := Action.modify (·.report e)

/-- What a callback does after its report, one step after the other. -/
def followUps (label : String) (call : CallRef) : List FollowUp → Act Unit
  | [] => .done ()
  | .cancel :: rest => .cancel call (followUps label call rest)
  | .executeClone :: rest =>
    .clone call fun copy => (Action.tryExecute copy).bind fun outcome =>
      (report (.ranCopy label outcome)).bind fun _ => followUps label call rest
  | .enqueueClone name steps :: rest =>
    .clone call fun copy => .enqueue copy ⟨name, steps⟩ <| .release copy <|
      followUps label call rest

/-- How scripted callbacks and jobs behave. -/
def hooks : Hooks Notes Listener where
  deliver l call outcome := do
    report (.heard l.label outcome (← Action.view call))
    followUps l.label call l.steps
  lose l := report (.lost l.label)
  run l := report (.ran l.label)

end RemoteCall.Scenario
