import JsonRpc.Main
import JsonRpc.Decode.Variant
import JsonRpc.Encode
import JsonRpc.Proofs.Quiet
import JsonRpc.Proofs.Validation
import JsonRpc.Proofs.Batch
import JsonRpc.Proofs.Addressing
import JsonRpc.Proofs.Passage
import JsonRpc.Proofs.Bodies
import JsonRpc.Proofs.History
import JsonRpc.Proofs.Lifecycle
import JsonRpc.Proofs.MessageForm
import JsonRpc.Proofs.Reports
import JsonRpc.Proofs.Independence
import JsonRpc.Proofs.Visibility
import JsonRpc.Proofs.RoundTrip
import JsonRpc.Proofs.ParamsForm
import JsonRpc.Proofs.Interference
import JsonRpc.Proofs.Counting
import JsonRpc.Proofs.RequestForm
import JsonRpc.Proofs.Building
import JsonRpc.Proofs.ResponseForm
import JsonRpc.Proofs.Journal
import JsonRpc.Proofs.Precedence
import JsonRpc.Proofs.Rebuilding
import JsonRpc.Proofs.Calling
import JsonRpc.Proofs.Classification
import JsonRpc.Proofs.Supply
import JsonRpc.Proofs.IdConversion
import JsonRpc.Proofs.Calculation
