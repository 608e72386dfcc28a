import Vibemux.Collector.Proofs.CaseAliasProofs
import Vibemux.Harness.Proofs.DigestProofs
import Vibemux.Harness.Proofs.FinalTextProofs
import Vibemux.Harness.Proofs.LineFramerProofs
import Vibemux.Store.Proofs.DecisionProofs
import Vibemux.Store.Proofs.A2aSafetyProofs
import Vibemux.Store.Proofs.ReviewIndependenceProofs
import Vibemux.Store.Proofs.CallSafetyProofs
import Vibemux.Store.Proofs.MessageSafetyProofs
import Vibemux.Workflow.Proofs.PolicyHistoryProofs
import Vibemux.Workflow.Proofs.SelectionProofs
import Vibemux.Workflow.Proofs.SlotProofs
import Vibemux.Workflow.Proofs.SuiteProofs
import Vibemux.Compiler.Proofs.NumberProofs
import Vibemux.Workflow.Proofs.CanonicalJsonProofs
import Vibemux.A2a.Proofs.TaskWireProofs
import Vibemux.Workflow.Proofs.CheckpointProofs
import Vibemux.A2a.Proofs.TaskRuntimeSafetyProofs
import Vibemux.Compiler.Proofs.PolicyProofs
import Vibemux.Compiler.Proofs.ClauseProofs
import Vibemux.Compiler.Proofs.ProhibitedDirectoryProofs
import Vibemux.Compiler.Proofs.MarkerProofs
import Vibemux.Collector.Proofs.IntegrationProofs
import Vibemux.Workflow.Proofs.BundleProofs
import Vibemux.Controller.Proofs.ApprovalProofs
import Vibemux.Store.Proofs.EventKeyProofs
import Vibemux.Store.Proofs.SupervisorProofs
import Vibemux.Harness.Proofs.PromptProofs
import Vibemux.Harness.Proofs.ProtocolSessionProofs
