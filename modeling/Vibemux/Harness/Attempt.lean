import Vibemux.Harness.Entities

/-!
# Dispatch attempts

The phases of a dispatch attempt and the one table of its transitions, which fixes what each does to
the task, the run, the claim fence and the reservation of the working directory.
-/

namespace Vibemux

/-- The harnesses. -/
inductive AgentKind where
  | claude
  | codex
  | openCode
  | copilot
  | grok
  | qwen
  | iflow
  | trae
  | codebuddy
  | kimi
  | dsh
deriving DecidableEq

def AgentKind.commandName : AgentKind → List Char
  | .claude => "claude".toList
  | .codex => "codex".toList
  | .openCode => "opencode".toList
  | .copilot => "copilot".toList
  | .grok => "grok".toList
  | .qwen => "qwen".toList
  | .iflow => "iflow".toList
  | .trae => "trae".toList
  | .codebuddy => "codebuddy".toList
  | .kimi => "kimi".toList
  | .dsh => "dsh".toList

/-- The protocols of the harnesses. -/
inductive NativeProtocol where
  | codexExec
  | codexAppServer
  | claudeStreamJson
  | acp
  | dshSdkJsonRpc
deriving DecidableEq

namespace NativeProtocol

def asStr : NativeProtocol → List Char
  | codexExec => "codex_exec".toList
  | codexAppServer => "codex_app_server".toList
  | claudeStreamJson => "claude_stream_json".toList
  | acp => "acp".toList
  | dshSdkJsonRpc => "dsh_sdk_json_rpc".toList

/-- Whether the protocol is a verified adapter for the harness. -/
def accepts : NativeProtocol → AgentKind → Bool
  | codexExec, .codex | codexAppServer, .codex => true
  | claudeStreamJson, .claude => true
  | acp, .openCode | acp, .copilot | acp, .grok => true
  | dshSdkJsonRpc, .dsh => true
  | _, _ => false

/-- Routes over ACP are probe-only. -/
def supportsExecution : NativeProtocol → Bool
  | acp => false
  | _ => true

end NativeProtocol

/-- What a dispatch fails with. -/
inductive DispatchError where
  | unconfigured
  | configInvalid
  | configTooLarge
  | configRouteInvalid
  | configExecutableInvalid
  | configEnvironmentInvalid
  | routeUnavailable
  | executionDisabled
  | notDetected
  | probeUnsupported
  | invalidRequest
  | invalidPrompt
  | busy
  | conflict
  | notFound
  | outputUnavailable
  | terminal
  | invalidTransition
  | staleFence
  | interrupted
  | cancelled
  | deadlineExceeded
  | internal
  | frameTooLarge
  | emptyRecord
  | invalidUtf8
  | invalidJson
  | invalidRecord
  | invalidJsonRpc
  | invalidRpcId
  | invalidRpcResult
  | rpcError
  | invalidIdentifier
  | invalidInitialize
  | unsupportedProtocolVersion
  | uncorrelatedResponse
  | unexpectedResponse
  | uncorrelatedSession
  | uncorrelatedTurn
  | unexpectedTerminal
  | invalidTerminal
  | turnFailed
  | eofWithoutTerminal
  | captureTooLarge
  | executableUnavailable
  | workingDirectoryInvalid
  | environmentUnavailable
  | spawnFailed
  | containmentFailed
  | pipeFailed
  | processFailed
deriving DecidableEq

/-- How an attempt ended. -/
inductive AttemptOutcome where
  | completed
  | failed
  | unverified
  | cancelled
  | probed
deriving DecidableEq

/-- The phases of a dispatch. -/
inductive DispatchPhase where
  /-- Durably admitted; no process launched yet. -/
  | admitted
  /-- Claimed with a fence; a process may be running. -/
  | running
  /-- Cancellation committed while running; awaiting the fenced finish. -/
  | cancelRequested
  /-- The daemon restarted while a process may have run; needs an operator. -/
  | recoveryPending
  | completed
  | failed
  | unverified
  | cancelled
deriving DecidableEq

namespace DispatchPhase

def isTerminal : DispatchPhase → Bool
  | completed | failed | unverified | cancelled => true
  | _ => false

/-- Whether the phase holds the reservation of the working directory. -/
def holdsReservation (phase : DispatchPhase) : Bool := !phase.isTerminal

/-- Every pair of task and run statuses an attempt in this phase can have. -/
def allowedStatuses : DispatchPhase → List (TaskStatus × RunStatus)
  | admitted => [(.inProgress, .preparing)]
  | running | cancelRequested => [(.inProgress, .running)]
  | recoveryPending => [(.blocked, .stale)]
  | completed => [(.done, .succeeded)]
  | failed | unverified => [(.blocked, .failed)]
  | cancelled => [(.cancelled, .failed), (.cancelled, .stopped)]

end DispatchPhase

/-- What moves a dispatch. -/
inductive DispatchTrigger where
  | claim
  | finish (outcome : AttemptOutcome)
  | cancel
  | recover
deriving DecidableEq

/-- What the store does with the claim fence. -/
inductive FenceEffect where
  | keep
  | mint
  | require
  | clear
deriving DecidableEq

/-- A move between two phases. -/
structure PhaseTransition where
  source : DispatchPhase
  target : DispatchPhase
  taskStatus : Option TaskStatus
  runStatus : Option RunStatus
  /-- Required exactly when the run becomes `succeeded`. -/
  completionAuthority : Option RunCompletionAuthority
  fence : FenceEffect
  releasesReservation : Bool
  errorCode : Option DispatchError
deriving DecidableEq

/-- A move, or a repeat that changes nothing. -/
inductive TransitionResult where
  | changed (transition : PhaseTransition)
  /-- Idempotent repeat; nothing to write. -/
  | unchanged
deriving DecidableEq

def finishedStatuses : AttemptOutcome → DispatchPhase × TaskStatus × RunStatus
  | .completed => (.completed, .done, .succeeded)
  | .failed | .probed => (.failed, .blocked, .failed)
  | .unverified => (.unverified, .blocked, .failed)
  | .cancelled => (.cancelled, .cancelled, .stopped)

/-- The closure `changed` of `attempt::apply`. -/
def changedPhase (source target : DispatchPhase) (taskStatus : Option TaskStatus)
    (runStatus : Option RunStatus) (fence : FenceEffect) (errorCode : Option DispatchError) :
    TransitionResult :=
  .changed {
    source, target, taskStatus, runStatus
    completionAuthority := if runStatus = some .succeeded then some .structuredAdapter else none
    fence
    releasesReservation := source.holdsReservation && !target.holdsReservation
    errorCode }

/-- `attempt::apply`: the effect of a trigger on an attempt in phase `source`. -/
def applyTrigger : DispatchPhase → DispatchTrigger → Except DispatchError TransitionResult
  | _, .finish .probed => .error .invalidTransition
  | .admitted, .claim => .ok (changedPhase .admitted .running none (some .running) .mint none)
  -- There is no edge from `preparing` to `stopped`; nothing ran, so the run failed.
  | .admitted, .cancel =>
    .ok (changedPhase .admitted .cancelled (some .cancelled) (some .failed) .keep none)
  | .admitted, .recover =>
    .ok (changedPhase .admitted .failed (some .blocked) (some .failed) .keep (some .interrupted))
  | .admitted, .finish _ => .error .invalidTransition
  | .running, .finish outcome =>
    let (target, task, run) := finishedStatuses outcome
    .ok (changedPhase .running target (some task) (some run) .require none)
  | .running, .cancel => .ok (changedPhase .running .cancelRequested none none .keep none)
  -- Cancellation overrides whatever the late finish reports.
  | .cancelRequested, .finish _ =>
    .ok (changedPhase .cancelRequested .cancelled (some .cancelled) (some .stopped) .require none)
  | .cancelRequested, .cancel => .ok .unchanged
  | .running, .recover =>
    .ok (changedPhase .running .recoveryPending (some .blocked) (some .stale) .clear
      (some .interrupted))
  | .cancelRequested, .recover =>
    .ok (changedPhase .cancelRequested .recoveryPending (some .blocked) (some .stale) .clear
      (some .interrupted))
  | .running, .claim | .cancelRequested, .claim | .recoveryPending, .claim =>
    .error .invalidTransition
  | .recoveryPending, .cancel =>
    .ok (changedPhase .recoveryPending .cancelled (some .cancelled) (some .stopped) .keep none)
  | .recoveryPending, .recover => .ok .unchanged
  | .recoveryPending, .finish _ => .error .staleFence
  | .cancelled, .cancel => .ok .unchanged
  | .completed, .cancel | .failed, .cancel | .unverified, .cancel => .error .terminal
  | .completed, .recover | .failed, .recover | .unverified, .recover | .cancelled, .recover =>
    .ok .unchanged
  | .completed, .finish _ | .failed, .finish _ | .unverified, .finish _ | .cancelled, .finish _ =>
    .error .staleFence
  | .completed, .claim | .failed, .claim | .unverified, .claim | .cancelled, .claim =>
    .error .terminal

end Vibemux
