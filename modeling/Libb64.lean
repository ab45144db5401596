import Libb64.Lib.Lines
import Libb64.Lib.Regroup
import Libb64.Verify.Balloc
import Libb64.Verify.RoundTrip
import Libb64.Verify.EncodeInvariant
import Libb64.Verify.Scratch
import Libb64.Verify.ScratchBalance
import Libb64.Verify.Reuse
import Libb64.Verify.SimdKernels
import Libb64.Verify.Dispatch
import Libb64.Verify.Transport
import Libb64.Verify.Examples
import Libb64.Verify.AllocSessions
import Libb64.Verify.Damage
import Libb64.Verify.LineWidths
import Libb64.Verify.SharedAllocator
