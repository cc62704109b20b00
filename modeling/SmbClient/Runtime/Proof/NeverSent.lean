import SmbClient.Runtime.Proof.Steps

/-!
# Who is told that it was never sent

The owner keeps the promise if no request is cancelled or timed out while a frame with it is still
to be sent: a cancel withdraws a frame only when it names its leader, and the timer withdraws
nothing.
-/

namespace Runtime

open OwnerTask

/-- In a clean run, nothing of a request whose caller was told that it was never sent is handed to
the transport, before or after. -/
theorem denied_never_sent (config : RuntimeConfig) (before after : List OwnerInput)
    (h : Meets step Clean (start config) (before ++ after)) (key : RequestKey)
    (outcome : TerminalOutcome)
    (told : (run config before).authority.state.terminalOutcome key = some outcome)
    (never : outcome.neverSent = true) : key ∉ (run config (before ++ after)).handed := by
  have hkept := run_kept config before
  have hlog := foldl_log hkept after
  rw [← run_append] at hlog
  have hstill := hlog.outcome hkept.filed.sound told
  intro hmem
  have hdenied := ((run_unsent h).sent key hmem).2
  exact absurd (GenerationState.isDenied_iff.mpr ⟨outcome, hstill, never⟩)
    (Bool.eq_false_iff.mp hdenied)

def cancelledInQueue : List Turn :=
  [{ operations := [(submitEcho true none 0, .inline (some echoFrame))]
     final := .awaited (.operation (submitEcho true none 1) (.inline (some echoFrame))) },
   { controls := [.cancel (smallKey 1) 0], final := .polledWrite 1 (some .sent) false false }]

theorem denied_never_sent_cancelled :
    (run (smallConfig 2) (cancelledInQueue.flatMap Turn.inputs)).authority.state.terminalOutcome
      (smallKey 1) = some .cancelled ∧
    smallKey 1 ∉ (run (smallConfig 2) (cancelledInQueue.flatMap Turn.inputs ++
      [.dispatchNext])).handed :=
  ⟨by decide, denied_never_sent (smallConfig 2) _ [.dispatchNext] (by decide)
    (smallKey 1) .cancelled (by decide) rfl⟩

def timedOutInQueue : List Turn :=
  [{ operations := [(submitEcho true none 0, .inline (some echoFrame))]
     final := .awaited (.operation (submitEcho true (some 5) 1) (.inline (some echoFrame))) },
   { final := .deadline 5 }]

def queueMovesOn : List Turn :=
  [{ final := .polledWrite 1 (some .sent) false false },
   { final := .polledWrite 1 none false false }]

/-- The request times out in the queue, and its frame is written when the queue moves on. -/
theorem timedOut_then_sent :
    (run (smallConfig 2) (timedOutInQueue.flatMap Turn.inputs)).authority.state.terminalOutcome
      (smallKey 1) = some .timedOut ∧ TerminalOutcome.timedOut.neverSent = true ∧
    smallKey 1 ∈ (run (smallConfig 2) (timedOutInQueue.flatMap Turn.inputs ++
      queueMovesOn.flatMap Turn.inputs)).handed := by
  decide

end Runtime
