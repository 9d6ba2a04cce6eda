import ReSymbol.Analysis.SessionModularity
import ReSymbol.Analysis.TargetPolicy
import ReSymbol.App.ReviewIdentity
import ReSymbol.DebugHost.WorkerRuns
import ReSymbol.Debugger.BreakpointMemory
import ReSymbol.Debugger.LivePatchUndo
import ReSymbol.Debugger.PatchedSession
import ReSymbol.Debugger.PolicyDigest
import ReSymbol.Debugger.SessionClosing
import ReSymbol.Export.Overlaps
import ReSymbol.GdbRemote.CoreMemory
import ReSymbol.GdbRemote.ExactlyOnce
import ReSymbol.GdbRemote.PtraceStub
import ReSymbol.GdbRemote.TargetXml
import ReSymbol.LinuxDebugHost.Stops
import ReSymbol.LinuxDebugHost.Transparency
import ReSymbol.LinuxDebugHost.WordTransfer
import ReSymbol.LiveAccess.FaultyTarget
import ReSymbol.PluginRuntime.Conversation
import ReSymbol.PluginRuntime.PeImageAgreement
import ReSymbol.PluginState.FingerprintBinding
import ReSymbol.Workbench.ConsoleLines
import ReSymbol.Workbench.GraphWalk
